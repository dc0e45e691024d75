import RtspProxy.Probes.Submissions

/-!
# What a claim takes

`claim_available` leases one request per turn until the active set is full or no
admitted request is eligible. `Picked` is what holds of each turn in the
scheduler it starts from. A queue is searched as a whole, so a request that is
blocked hides no other.
-/

namespace RtspProxy.Probes

open Nodes Lib List Sql

namespace ProbeScheduler

variable {cfg : ProbeSchedulerConfig} {made : UUID → Int} {board : Board} {now : Datetime}
  {admitted : List UUID} {sched post : ProbeScheduler} {req : ProbeRequest}
  {targets : Dict UUID ProbeTarget}

variable {reqs : List ProbeRequest}

theorem first_by_deadline (found : firstBy moreUrgent reqs = some req) :
    ∀ other ∈ reqs, req.deadlineAt ≤ other.deadlineAt := by
  induction reqs generalizing req with
  | nil => cases found
  | cons head rest ih =>
    unfold firstBy at found
    cases best : firstBy moreUrgent rest with
    | none =>
      rw [best] at found
      cases found
      simp [first_by_nil_iff.mp best]
    | some least =>
      rw [best] at found
      dsimp only at found
      have leastRest := ih best
      split_ifs at found with earlier
      · cases found
        intro other mem
        rcases mem_cons.mp mem with isHead | inRest
        · rw [isHead]
          simp only [moreUrgent, decide_eq_true_eq] at earlier
          rcases earlier with sooner | ⟨same, _⟩
          · exact sooner.le
          · exact same.le
        · exact leastRest other inRest
      · cases found
        intro other mem
        rcases mem_cons.mp mem with isHead | inRest
        · rw [isHead]
        · simp only [moreUrgent, decide_eq_true_eq, not_or, not_lt] at earlier
          exact earlier.1.trans (leastRest other inRest)

variable {accepted : ProbePriority → Bool} {following index : Nat}

theorem fair_scan_some {tries : Nat} {priority : ProbePriority}
    (found : fairScan accepted tries index = (some priority, following)) :
    accepted priority = true := by
  induction tries generalizing index with
  | zero => cases found
  | succ tries ih =>
    unfold fairScan at found
    dsimp only at found
    split_ifs at found with isAccepted
    · cases found
      exact isAccepted
    · exact ih found

theorem fair_scan_none {tries : Nat} (bound : index < fairPriorities.length)
    (found : fairScan accepted tries index = (none, following)) :
    ∀ offset < tries, accepted
      (fairPriorities.getD ((index + offset) % fairPriorities.length) .manual) = false := by
  induction tries generalizing index with
  | zero => exact fun _ none => absurd none (Nat.not_lt_zero _)
  | succ tries ih =>
    unfold fairScan at found
    by_cases isAccepted : accepted (fairPriorities.getD index .manual) = true
    · rw [if_pos isAccepted] at found
      cases found
    rw [if_neg isAccepted] at found
    intro offset inRange
    cases offset with
    | zero =>
      rw [Nat.add_zero, Nat.mod_eq_of_lt bound]
      exact Bool.eq_false_iff.mpr isAccepted
    | succ offset =>
      have others := ih (Nat.mod_lt _ (by decide)) found offset (by omega)
      rwa [Nat.mod_add_mod, Nat.add_right_comm, Nat.add_assoc] at others

theorem fair_scan_all (found : fairScan accepted fairPriorities.length index = (none, following))
    (priority : ProbePriority) : accepted priority = false := by
  have visits : ∀ start < 10, ∃ offset < 9,
      fairPriorities.getD ((start + offset) % 10) .manual = priority := by
    cases priority <;> decide
  change fairScan accepted (9 + 1) index = _ at found
  unfold fairScan at found
  by_cases isAccepted : accepted (fairPriorities.getD index .manual) = true
  · rw [if_pos isAccepted] at found
    cases found
  rw [if_neg isAccepted] at found
  have bound : (index + 1) % fairPriorities.length < fairPriorities.length :=
    Nat.mod_lt _ (by decide)
  obtain ⟨offset, inRange, isPriority⟩ := visits _ bound
  have refused := fair_scan_none bound found offset inRange
  rw [← isPriority]
  exact refused

/-- What holds of the request a turn leases, in the scheduler before the turn. -/
structure Picked (cfg : ProbeSchedulerConfig) (now : Datetime) (admitted : List UUID)
    (scheduler : ProbeScheduler) (req : ProbeRequest) : Prop where
  waits : req ∈ scheduler.pending req.priority
  startable : eligible cfg now admitted scheduler req = true
  reserved : priorityReservations cfg.globalLimit req.priority ≤
      scheduler.activePriority req.priority →
    ∀ other, scheduler.activePriority other < priorityReservations cfg.globalLimit other →
      ∀ cand ∈ scheduler.pending other, eligible cfg now admitted scheduler cand = false
  earliest : ∀ cand ∈ scheduler.pending req.priority,
    eligible cfg now admitted scheduler cand = true → req.deadlineAt ≤ cand.deadlineAt

def Sorted (sched : ProbeScheduler) : Prop :=
  ∀ priority, ∀ req ∈ sched.pending priority, req.priority = priority

theorem no_candidates {queue : List ProbeRequest}
    (none : (!(queue.filter (eligible cfg now admitted sched)).isEmpty) = false) :
    ∀ cand ∈ queue, eligible cfg now admitted sched cand = false := by
  simpa [filter_eq_nil_iff] using none

theorem next_eligible_picked (sorted : Sorted sched) {fairIndex : Nat}
    (found : nextEligibleRequest cfg now admitted sched = (some req, fairIndex)) :
    Picked cfg now admitted sched req := by
  have first {priority : ProbePriority}
      (least : firstBy moreUrgent ((sched.pending priority).filter
        (eligible cfg now admitted sched)) = some req) :
      req.priority = priority ∧ req ∈ sched.pending req.priority ∧
        eligible cfg now admitted sched req = true ∧
        ∀ cand ∈ sched.pending req.priority,
          eligible cfg now admitted sched cand = true → req.deadlineAt ≤ cand.deadlineAt := by
    obtain ⟨mem, startable⟩ := mem_filter.mp (first_by_mem least)
    have isPriority := sorted priority req mem
    subst isPriority
    exact ⟨rfl, mem, startable, fun cand waits isEligible =>
      first_by_deadline least cand (mem_filter.mpr ⟨waits, isEligible⟩)⟩
  unfold nextEligibleRequest at found
  dsimp only at found
  split at found
  next priority index scanned =>
    obtain ⟨isPriority, waits, startable, earliest⟩ := first (Prod.mk.inj found).1
    refine ⟨waits, startable, ?_, earliest⟩
    have below := fair_scan_some scanned
    rw [isPriority]
    simp only [Bool.and_eq_true, decide_eq_true_eq] at below
    exact fun reached => absurd below.1 (not_lt.mpr reached)
  next index scanned =>
    have reserved : ∀ other,
        sched.activePriority other < priorityReservations cfg.globalLimit other →
        ∀ cand ∈ sched.pending other, eligible cfg now admitted sched cand = false := by
      intro other below
      have refused := fair_scan_all scanned other
      rw [decide_eq_true below, Bool.true_and] at refused
      exact no_candidates refused
    split at found
    next urgent least =>
      have isUrgent : urgent = req := Option.some.inj (Prod.mk.inj found).1
      subst isUrgent
      obtain ⟨mem, close⟩ := mem_filter.mp (first_by_mem least)
      obtain ⟨priority, _, cand⟩ := mem_flatMap.mp mem
      obtain ⟨waits, startable⟩ := mem_filter.mp cand
      have isPriority := sorted priority urgent waits
      subst isPriority
      refine ⟨waits, startable, fun _ => reserved, ?_⟩
      intro other otherWaits isEligible
      rw [decide_eq_true_eq] at close
      by_cases otherClose : other.deadlineAt - now ≤ cfg.lease
      · refine first_by_deadline least other (mem_filter.mpr ⟨?_, by simpa using otherClose⟩)
        refine mem_flatMap.mpr ⟨urgent.priority, ?_, mem_filter.mpr ⟨otherWaits, isEligible⟩⟩
        cases urgent.priority <;> decide
      · exact (sub_le_sub_iff_right now).mp (close.trans (not_le.mp otherClose).le)
    next =>
      split at found
      next priority index scannedAll =>
        obtain ⟨_, waits, startable, earliest⟩ := first (Prod.mk.inj found).1
        exact ⟨waits, startable, fun _ => reserved, earliest⟩
      next => cases (Prod.mk.inj found).1

theorem next_eligible_none (found : (nextEligibleRequest cfg now admitted sched).1 = none) :
    ∀ priority, ∀ cand ∈ sched.pending priority, eligible cfg now admitted sched cand = false := by
  have nonempty {priority : ProbePriority}
      (least : firstBy moreUrgent ((sched.pending priority).filter
        (eligible cfg now admitted sched)) = none) :
      (!((sched.pending priority).filter
        (eligible cfg now admitted sched)).isEmpty) = false := by
    rw [first_by_nil_iff.mp least]
    rfl
  unfold nextEligibleRequest at found
  dsimp only at found
  split at found
  next priority index scanned =>
    have accepted := fair_scan_some scanned
    rw [nonempty found, Bool.and_false] at accepted
    cases accepted
  next index scanned =>
    split at found
    next => cases found
    next =>
      split at found
      next priority index scannedAll =>
        have accepted := fair_scan_some scannedAll
        rw [nonempty found] at accepted
        cases accepted
      next index scannedAll => exact fun priority => no_candidates (fair_scan_all scannedAll priority)

/-- The turns of a claim: the leases they hand out, and the scheduler they leave. -/
inductive Turns (cfg : ProbeSchedulerConfig) (now : Datetime) (admitted : List UUID) :
    ProbeScheduler → List ProbeLease → ProbeScheduler → Prop
  | stop (scheduler : ProbeScheduler) (fairIndex : Nat) :
      Turns cfg now admitted scheduler [] { scheduler with fairIndex }
  | lease {scheduler next post : ProbeScheduler} {req : ProbeRequest} {lease : ProbeLease}
      {leases : List ProbeLease} (fairIndex : Nat) (leaseToken : UUID4)
      (room : scheduler.active.length < cfg.globalLimit)
      (picked : Picked cfg now admitted scheduler req)
      (leased : leaseRequest cfg now req leaseToken { scheduler with fairIndex } =
        (.ok lease, next))
      (rest : Turns cfg now admitted next leases post) :
      Turns cfg now admitted scheduler (lease :: leases) post

theorem lease_request_pending {leaseToken : UUID4} {lease : ProbeLease}
    (leased : leaseRequest cfg now req leaseToken sched = (.ok lease, post)) :
    ∀ priority, post.pending priority ⊆ sched.pending priority := by
  unfold leaseRequest at leased
  cases removed : removeRequest req (sched.pending req.priority) with
  | error err =>
    rw [removed] at leased
    cases leased
  | ok queue =>
    rw [removed] at leased
    have isQueue : queue = (sched.pending req.priority).erase req := by
      unfold removeRequest at removed
      split_ifs at removed
      exact (Except.ok.inj removed).symm
    dsimp only at leased
    split at leased
    · cases leased
    · split at leased
      · cases leased
      · cases leased
        intro priority
        by_cases here : priority = req.priority
        · subst here
          simp only [setPending, Function.update_self, isQueue]
          exact erase_subset
        · simp only [setPending, Function.update_of_ne here]
          exact Subset.refl _

theorem Turns.pending {leases : List ProbeLease}
    (turns : Turns cfg now admitted sched leases post) (priority : ProbePriority) :
    post.pending priority ⊆ sched.pending priority := by
  induction turns with
  | stop => exact Subset.refl _
  | lease _ _ _ _ leased _ ih =>
    exact Subset.trans ih (lease_request_pending leased priority)

theorem claim_loop_turns {leaseTokens : Nat → UUID4} {turns : Nat} {res : List ProbeLease} :
    ∀ {sched : ProbeScheduler} {leases : List ProbeLease}, Sorted sched →
      claimLoop cfg now admitted leaseTokens turns leases sched = (.ok res, post) →
      ∃ claimed, res = leases ++ claimed ∧ Turns cfg now admitted sched claimed post := by
  induction turns with
  | zero =>
    intro sched leases _ ran
    cases ran
    exact ⟨[], (append_nil _).symm, .stop _ _⟩
  | succ turns ih =>
    intro sched leases sorted ran
    unfold claimLoop at ran
    by_cases room : sched.active.length < cfg.globalLimit
    · rw [if_pos room] at ran
      cases search : nextEligibleRequest cfg now admitted sched with
      | mk offered fairIndex =>
        rw [search] at ran
        cases offered with
        | none =>
          cases ran
          exact ⟨[], (append_nil _).symm, .stop sched fairIndex⟩
        | some req =>
          dsimp only at ran
          cases leased : leaseRequest cfg now req (leaseTokens leases.length)
              { sched with fairIndex } with
          | mk out next =>
            rw [leased] at ran
            cases out with
            | error err => cases ran
            | ok lease =>
              have sortedNext : Sorted next := fun priority other mem =>
                sorted priority other (lease_request_pending leased priority mem)
              obtain ⟨claimed, isResult, rest⟩ := ih sortedNext ran
              refine ⟨lease :: claimed, by simp [isResult], ?_⟩
              exact .lease fairIndex _ room (next_eligible_picked sorted search) leased rest
    · rw [if_neg room] at ran
      cases ran
      exact ⟨[], (append_nil _).symm, .stop _ _⟩

/-- The queued requests whose camera is in the batch are admitted. -/
def Admits (targets : Dict UUID ProbeTarget) (admitted : List UUID)
    (reqs : List ProbeRequest) : Prop :=
  ∀ req ∈ reqs, targets.get req.target.cameraId ≠ none → req.target.cameraId ∈ admitted

theorem Admits.more {more : List UUID}
    (admits : Admits targets admitted reqs) (grown : admitted ⊆ more) :
    Admits targets more reqs :=
  fun req mem inBatch => grown (admits req mem inBatch)

theorem Admits.append (admits : Admits targets admitted reqs)
    (last : targets.get req.target.cameraId ≠ none → req.target.cameraId ∈ admitted) :
    Admits targets admitted (reqs ++ [req]) := by
  intro other mem inBatch
  rcases mem_append.mp mem with pre | isRequest
  · exact admits other pre inBatch
  · rw [mem_singleton.mp isRequest] at inBatch ⊢
    exact last inBatch

theorem refresh_queue_admits :
    ∀ loop : Refreshing, Admits targets loop.admitted loop.retained →
      loop.admitted ⊆ (refreshQueue targets reqs loop).admitted ∧
      Admits targets (refreshQueue targets reqs loop).admitted
        (refreshQueue targets reqs loop).retained ∧
      (refreshQueue targets reqs loop).scheduler.pending = loop.scheduler.pending := by
  induction reqs with
  | nil => exact fun loop admits => ⟨Subset.refl _, admits, rfl⟩
  | cons req rest ih =>
    intro loop admits
    cases target : targets.get req.target.cameraId with
    | none =>
      rw [refresh_queue_absent target]
      exact ih { loop with retained := loop.retained ++ [req] }
        (admits.append fun inBatch => absurd target inBatch)
    | some cur =>
      by_cases changed : sameProbeGeneration req.target cur = false
      · rw [refresh_queue_reject target (.inl changed)]
        exact ih { loop with scheduler := loop.scheduler.rejectPending req } admits
      · cases eligibility : requireProbeEligible cur req.method with
        | error err =>
          rw [refresh_queue_reject target (.inr ⟨err, eligibility⟩)]
          exact ih { loop with scheduler := loop.scheduler.rejectPending req } admits
        | ok value =>
          rw [refresh_queue_keep target changed eligibility]
          have grown := subset_append_left loop.admitted [cur.cameraId]
          have kept : Admits targets (loop.admitted ++ [cur.cameraId])
              (loop.retained ++ [{ req with target := cur }]) :=
            (admits.more grown).append fun _ => by simp
          obtain ⟨subset, rest⟩ := ih
            { retained := loop.retained ++ [{ req with target := cur }]
              admitted := loop.admitted ++ [cur.cameraId]
              scheduler := loop.scheduler.reindex cur.cameraId
                { req with target := cur } } kept
          exact ⟨Subset.trans grown subset, rest⟩

theorem refreshed_admits (cur : ProbeScheduler) (pre : List UUID) (priority : ProbePriority) :
    let loop := refreshQueue targets (cur.pending priority)
      { retained := [], admitted := pre, scheduler := cur }
    let next := loop.scheduler.setPending priority loop.retained
    Admits targets loop.admitted (next.pending priority) ∧
      ∀ other, Admits targets pre (cur.pending other) →
        Admits targets loop.admitted (next.pending other) := by
  intro loop next
  obtain ⟨grown, admits, pending⟩ := @refresh_queue_admits targets
    (cur.pending priority) { retained := [], admitted := pre, scheduler := cur }
    (fun _ none => absurd none not_mem_nil)
  have own : Admits targets loop.admitted (next.pending priority) := by
    simpa only [next, setPending, Function.update_self] using admits
  refine ⟨own, fun other earlier => ?_⟩
  by_cases here : other = priority
  · rw [here]
    exact own
  · have same : next.pending other = cur.pending other := by
      simp only [next, setPending, Function.update_of_ne here]
      exact congrFun pending other
    rw [same]
    exact earlier.more grown

theorem refresh_pending_targets_admits
    (ran : refreshPendingTargets targets sched = (admitted, post))
    (priority : ProbePriority) : Admits targets admitted (post.pending priority) := by
  simp only [refreshPendingTargets, probePriorities, foldl_cons, foldl_nil, Prod.mk.injEq] at ran
  obtain ⟨rfl, rfl⟩ := ran
  obtain ⟨manual, _⟩ := @refreshed_admits targets sched [] .manual
  obtain ⟨confirmation, keptOnce⟩ := @refreshed_admits targets _ _ .confirmation
  obtain ⟨routine, keptTwice⟩ := @refreshed_admits targets _ _ .routine
  cases priority with
  | manual => exact keptTwice _ (keptOnce _ manual)
  | confirmation => exact keptTwice _ confirmation
  | routine => exact routine

/-- No queued request of the batch that is available fits into the budgets. -/
def Exhausted (cfg : ProbeSchedulerConfig) (now : Datetime)
    (targets : Dict UUID ProbeTarget) (sched : ProbeScheduler) : Prop :=
  cfg.globalLimit ≤ sched.active.length ∨ ∀ priority, ∀ req ∈ sched.pending priority,
      targets.get req.target.cameraId ≠ none → req.availableAt ≤ now →
      ¬(sched.activeNode req.target.nodeId < cfg.perNodeLimit ∧
        sched.activeSite req.target.siteKey < cfg.perSiteLimit ∧
        sched.activeMethod req.method < cfg.methodLimit req.method)

theorem Sound.claim_turns (sound : Sound cfg made sched) (now : Datetime)
    (leaseTokens : Nat → UUID4) (few : targets.length ≤ cfg.queueLimit)
    (own : ∀ item ∈ targets.items, item.1 = item.2.cameraId) :
    let start := refreshPendingTargets targets (settled cfg now sched)
    let out := claimAvailable cfg now targets leaseTokens sched
    ∃ leases, out.1 = .ok leases ∧ Turns cfg now start.1 start.2 leases out.2 ∧
      Exhausted cfg now targets out.2 := by
  intro start out
  have batch : ¬(targets.length > cfg.queueLimit ∨
      targets.items.any (fun item => decide (item.1 ≠ item.2.cameraId)) = true) := by
    rintro (many | foreign)
    · exact absurd few (not_le.mpr many)
    · obtain ⟨item, mem, differs⟩ := any_eq_true.mp foreign
      exact of_decide_eq_true differs (own item mem)
  obtain ⟨board, represents⟩ := sound.represented
  obtain ⟨expired, ranExpire, ⟨_, afterExpire⟩, firstShrink⟩ := expire_active_ok represents now
  obtain ⟨⟨_, afterDrop⟩, secondShrink, fresh⟩ := drop_expired_pending_ok afterExpire now
  obtain ⟨admitted, refreshed, ranRefresh, ⟨_, afterRefresh⟩, thirdShrink, stillFresh⟩ :=
    refresh_pending_targets_ok (own_targets_of_batch (not_or.mp batch).2) afterDrop fresh
  have isStart : start = (admitted, refreshed) := by
    simp only [start, settled, ranExpire, ranRefresh]
  have sorted : Sorted refreshed := fun priority req mem =>
    (afterRefresh.queues.waits mem).1
  obtain ⟨claimed, post, ranLoop, _, _, _, _, ended⟩ := @claim_loop_ok cfg now admitted
    leaseTokens (cfg.globalLimit - refreshed.active.length) _ _ _ [] afterRefresh
    (sound.limits.shrink ((firstShrink.trans secondShrink).trans thirdShrink)) stillFresh (by omega)
  have isOutcome : out = (.ok claimed, post) := by
    simp only [out, claimAvailable, if_neg batch, ranExpire, ranRefresh, ranLoop, nil_append]
  rw [nil_append] at ranLoop
  obtain ⟨leases, isClaimed, turns⟩ := claim_loop_turns sorted ranLoop
  rw [nil_append] at isClaimed
  rw [isStart, isOutcome]
  refine ⟨claimed, rfl, isClaimed ▸ turns, ?_⟩
  rcases ended with full | ⟨fairIndex, none⟩
  · exact .inl full
  · right
    intro priority req mem inBatch available budgets
    have startable : eligible cfg now admitted { post with fairIndex } req = true := by
      simp only [eligible, decide_eq_true_eq]
      exact ⟨refresh_pending_targets_admits ranRefresh priority req
        (turns.pending priority mem) inBatch, available, budgets⟩
    rw [next_eligible_none none priority req mem] at startable
    cases startable

end ProbeScheduler

namespace ProbeSystem

open ProbeScheduler

/-- Whatever was called before: a claim with a valid batch takes requests turn by turn, each one
the earliest of its class and no class beyond its reservation before one below it, and it stops
only when no queued request of the batch could be started. -/
theorem claims_conserve_work {cfg : ProbeSchedulerConfig} {sys : ProbeSystem}
    (reached : Reachable cfg sys) (now : Datetime) (targets : Dict UUID ProbeTarget)
    (leaseTokens : Nat → UUID4) (few : targets.length ≤ cfg.queueLimit)
    (own : ∀ item ∈ targets.items, item.1 = item.2.cameraId) :
    let start := refreshPendingTargets targets (settled cfg now sys.scheduler)
    let out := sys.scheduler.claimAvailable cfg now targets leaseTokens
    ∃ leases, out.1 = .ok leases ∧ Turns cfg now start.1 start.2 leases out.2 ∧
      Exhausted cfg now targets out.2 :=
  (consistent_of_reachable reached).sound.claim_turns now leaseTokens few own

/-- The sample request is retried at 25 seconds. -/
theorem claims_conserve_work_retried :
    ∃ leases, (retriedRun.scheduler.claimAvailable sampleConfig (timedeltaSeconds 25)
        (Dict.empty.set sampleTarget.cameraId sampleTarget) fun _ => sampleToken).1 = .ok leases ∧
      leases.length = 1 := by
  obtain ⟨leases, claimed, _⟩ := claims_conserve_work retried_run_reachable (timedeltaSeconds 25)
    (Dict.empty.set sampleTarget.cameraId sampleTarget) (fun _ => sampleToken) (by decide +kernel)
    (by decide +kernel)
  refine ⟨leases, claimed, ?_⟩
  have counted : ((retriedRun.scheduler.claimAvailable sampleConfig (timedeltaSeconds 25)
      (Dict.empty.set sampleTarget.cameraId sampleTarget) fun _ => sampleToken).1.toOption.map
        length) = some 1 := by
    decide +kernel
  rw [claimed] at counted
  exact Option.some.inj counted

end ProbeSystem

end RtspProxy.Probes
