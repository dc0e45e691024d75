import RtspProxy.Probes.SchedulerSteps

/-!
# Every run of the scheduler

The claiming loop hands out a lease per turn and never breaks a budget, because
`_next_eligible_request` counts the active leases before it offers a request.
With the steps of the other operations this gives the invariant of every run:
one outstanding request per camera, waiting once or leased, within the limits
and within the allowed attempts.
-/

namespace RtspProxy.Probes

open Nodes Lib Function List ProbeScheduler Represents

variable {req : ProbeRequest}

namespace ProbeScheduler

variable {cfg : ProbeSchedulerConfig} {made : UUID → Int} {board : Board}
  {sched : ProbeScheduler}

/-- The leases handed out for a request once more leases are. -/
def madeAfter (made : UUID → Int) (leases : List ProbeLease) (requestId : UUID) : Int :=
  made requestId + leases.countP fun lease => decide (lease.requestId = requestId)

theorem made_after_nil (made : UUID → Int) : madeAfter made [] = made := by
  funext requestId
  simp [madeAfter]

theorem made_after_append (made : UUID → Int) (first second : List ProbeLease) :
    madeAfter made (first ++ second) = madeAfter (madeAfter made first) second := by
  funext requestId
  simp only [madeAfter, countP_append]
  omega

theorem made_after_single (made : UUID → Int) (lease : ProbeLease) :
    madeAfter made [lease] = update made lease.requestId (made lease.requestId + 1) := by
  funext requestId
  by_cases same : requestId = lease.requestId
  · rw [same, update_self]
    simp [madeAfter]
  · rw [update_of_ne same]
    simp [madeAfter, Ne.symm same]

variable {requestId : UUID}

theorem build_lease_ok {leaseToken : UUID} {target : ProbeTarget} {method : ProbeMethod}
    {priority : ProbePriority} {startedAt leaseExpiresAt : Datetime} {attempt : Int}
    (identity : requestId.isVersion4 = true) (token : leaseToken.isVersion4 = true)
    (lasts : startedAt < leaseExpiresAt) (counted : 1 ≤ attempt ∧ attempt ≤ 10) :
    ∃ lease, ProbeLease.build requestId leaseToken target method priority startedAt leaseExpiresAt
        attempt = .ok lease ∧
      lease.requestId = requestId ∧ lease.target = target ∧ lease.method = method ∧
      lease.startedAt = startedAt ∧ lease.leaseExpiresAt = leaseExpiresAt ∧
      lease.attempt = attempt := by
  unfold ProbeLease.build
  rw [dif_pos ⟨identity, token, lasts, counted⟩]
  exact ⟨_, rfl, rfl, rfl, rfl, rfl, rfl, rfl⟩

theorem remove_request_ok {queue : List ProbeRequest} (mem : req ∈ queue) :
    ∃ pre post, queue = pre ++ req :: post ∧
      removeRequest req queue = .ok (pre ++ post) := by
  rcases exists_erase_eq mem with ⟨pre, post, _, shape, erased⟩
  refine ⟨pre, post, shape, ?_⟩
  rw [removeRequest, if_pos mem, erased]

theorem Represents.lease_request (represents : Represents cfg made board sched)
    {priority : ProbePriority} {pre post : List ProbeRequest}
    (shape : sched.pending priority = pre ++ req :: post) {lease : ProbeLease}
    (isRequest : lease.requestId = req.requestId) (isTarget : lease.target = req.target)
    (attempt : lease.attempt = made req.requestId + 1)
    (started : req.requestedAt ≤ lease.startedAt)
    (lasts : lease.leaseExpiresAt - lease.startedAt ≤ cfg.lease) :
    Represents cfg (madeAfter made [lease])
      (update board req.target.cameraId (some ⟨req, some lease⟩))
      { sched.setPending priority (pre ++ post) with
        attempts := sched.attempts.set req.requestId (made req.requestId + 1)
        active := sched.active.set req.requestId lease } := by
  have mem : req ∈ sched.pending priority := by
    rw [shape]
    simp
  have found := (represents.queues.waits mem).2
  rw [made_after_single, isRequest]
  constructor
  · exact represents.wellFormed.lease found isRequest isTarget attempt started lasts
  · exact represents.indexes.lease found rfl
  · exact represents.queues.remove shape (by simp)
  · exact represents.leases.set represents.wellFormed found lease
  · exact (represents.counts.advance found).keep found rfl

variable {now : Datetime}

theorem lease_request_ok (represents : Represents cfg made board sched)
    {priority : ProbePriority} {req : ProbeRequest}
    (mem : req ∈ sched.pending priority) (available : req.availableAt ≤ now)
    (inTime : now < req.deadlineAt) (leaseToken : UUID4) :
    ∃ lease post, leaseRequest cfg now req leaseToken sched = (.ok lease, post) ∧
      (∃ left, Represents cfg (madeAfter made [lease]) left post) ∧
      post.active.values = sched.active.values ++ [lease] ∧
      post.requestsByCamera = sched.requestsByCamera ∧
      (∀ other, post.pending other ⊆ sched.pending other) ∧
      lease.requestId = req.requestId ∧ lease.target = req.target ∧
      lease.method = req.method := by
  have waits := represents.queues.waits mem
  rw [← waits.1] at mem
  rcases remove_request_ok mem with ⟨pre, rest, shape, removed⟩
  have counted : sched.attempts.get req.requestId = some (made req.requestId) :=
    (represents.counts _ _).mpr ⟨rfl, _, _, waits.2, rfl⟩
  have absent : sched.active.get req.requestId = none := by
    apply Option.eq_none_iff_forall_ne_some.mpr
    intro lease held
    rcases (represents.leases _ _).mp held with ⟨cameraId, owner, atCamera, isOwner⟩
    have here := represents.wellFormed.identified atCamera waits.2 isOwner
    rw [here, waits.2] at atCamera
    cases atCamera
  have left := represents.wellFormed.waiting waits.2
  have nonneg := (represents.wellFormed.capped req.requestId).1
  have cap := cfg.attemptsValid.2
  have pos : 0 < cfg.lease := lt_of_lt_of_le (by decide) cfg.leaseValid.1
  rcases @build_lease_ok req.requestId leaseToken.val req.target req.method
      req.priority now (min req.deadlineAt (now + cfg.lease))
      (made req.requestId + 1) req.identityValid leaseToken.property
      (lt_min inTime (lt_add_of_pos_right now pos)) ⟨by omega, by omega⟩ with
    ⟨lease, built, isRequest, isTarget, isMethod, started, expires, attempt⟩
  refine ⟨lease, { sched.setPending req.priority (pre ++ rest) with
    attempts := sched.attempts.set req.requestId (made req.requestId + 1)
    active := sched.active.set req.requestId lease }, ?_, ?_, ?_, rfl, ?_, isRequest,
    isTarget, isMethod⟩
  · have stillCounted : (sched.setPending req.priority (pre ++ rest)).attempts.get
        req.requestId = some (made req.requestId) := counted
    simp only [leaseRequest, removed, stillCounted, built]
    rfl
  · refine ⟨_, represents.lease_request shape isRequest isTarget attempt ?_ ?_⟩
    · rw [started]
      exact req.windowValid.1.trans available
    · rw [started, expires]
      exact sub_le_iff_le_add'.mpr (min_le_right _ _)
  · exact Dict.values_set_of_absent absent
  · intro other queued isQueued
    by_cases here : other = req.priority
    · rw [here] at isQueued ⊢
      rw [shape]
      have inRest : queued ∈ pre ++ rest := by
        simpa only [setPending, update_self] using isQueued
      rcases mem_append.mp inRest with inBefore | inAfter
      · exact mem_append_left _ inBefore
      · exact mem_append_right _ (mem_cons_of_mem _ inAfter)
    · simpa only [setPending, update_of_ne here] using isQueued

variable {admitted : List UUID}

theorem next_eligible_request_mem {fairIndex : Nat}
    (found : nextEligibleRequest cfg now admitted sched = (some req, fairIndex)) :
    ∃ priority, req ∈ sched.pending priority ∧
      eligible cfg now admitted sched req = true := by
  have cand : ∀ {priority}, Sql.firstBy moreUrgent ((sched.pending priority).filter
        (eligible cfg now admitted sched)) = some req →
      ∃ priority, req ∈ sched.pending priority ∧
        eligible cfg now admitted sched req = true := by
    intro priority first
    exact ⟨priority, mem_filter.mp (Sql.first_by_mem first)⟩
  unfold nextEligibleRequest at found
  dsimp only at found
  split at found
  · exact cand (Prod.mk.inj found).1
  · split at found
    · rename_i urgent first
      have mem := (mem_filter.mp (Sql.first_by_mem first)).1
      rcases mem_flatMap.mp mem with ⟨priority, _, isCandidate⟩
      rw [Option.some.inj (Prod.mk.inj found).1] at isCandidate
      exact ⟨priority, mem_filter.mp isCandidate⟩
    · split at found
      · exact cand (Prod.mk.inj found).1
      · cases (Prod.mk.inj found).1

theorem count_with_lease {Key : Type} [DecidableEq Key] {keyOf : ProbeLease → Key}
    {bounds : Key → Nat} {leases : List ProbeLease} {lease : ProbeLease} {own : Key}
    (within : ∀ key, leases.countP (fun other => decide (keyOf other = key)) ≤ bounds key)
    (isOwn : keyOf lease = own)
    (room : leases.countP (fun other => decide (keyOf other = own)) < bounds own) (key : Key) :
    (leases ++ [lease]).countP (fun other => decide (keyOf other = key)) ≤ bounds key := by
  have bound := within key
  rw [countP_append, countP_singleton, isOwn]
  by_cases here : own = key
  · rw [here] at room
    simp only [here, decide_true, if_true]
    omega
  · simp only [here, decide_false, Bool.false_eq_true, if_false]
    omega

variable {post : ProbeScheduler}

theorem WithinLimits.lease (limits : WithinLimits cfg sched) {lease : ProbeLease}
    (room : sched.active.length < cfg.globalLimit)
    (isEligible : eligible cfg now admitted sched req = true)
    (isTarget : lease.target = req.target) (isMethod : lease.method = req.method)
    (active : post.active.values = sched.active.values ++ [lease])
    (outstanding : post.requestsByCamera = sched.requestsByCamera) :
    WithinLimits cfg post := by
  simp only [eligible, decide_eq_true_eq] at isEligible
  rcases isEligible with ⟨_, _, node, site, method⟩
  constructor
  · rw [← Dict.length_values, active, length_append, Dict.length_values]
    exact room
  · intro nodeId
    rw [activeNode, active]
    exact count_with_lease limits.node (congrArg _ isTarget) node nodeId
  · intro siteKey
    rw [activeSite, active]
    exact count_with_lease limits.site (congrArg _ isTarget) site siteKey
  · intro kind
    rw [activeMethod, active]
    exact count_with_lease limits.method isMethod method kind
  · rw [outstanding]
    exact limits.queue

def LeasesOutstanding (requests : Dict UUID ProbeRequest) (leases : List ProbeLease) : Prop :=
  ∀ lease ∈ leases, ∃ cameraId req, requests.get cameraId = some req ∧
    req.requestId = lease.requestId

/-- The claiming loop never raises; it counts every lease it hands out, and it stops only when the
active set is full or no request is eligible. -/
theorem claim_loop_ok {leaseTokens : Nat → UUID4} {turns : Nat} :
    ∀ {made : UUID → Int} {board : Board} {sched : ProbeScheduler} {leases : List ProbeLease},
      Represents cfg made board sched → WithinLimits cfg sched →
      (∀ priority, ∀ req ∈ sched.pending priority, now < req.deadlineAt) →
      cfg.globalLimit ≤ sched.active.length + turns →
      ∃ claimed post, claimLoop cfg now admitted leaseTokens turns leases sched =
          (.ok (leases ++ claimed), post) ∧
        (∃ left, Represents cfg (madeAfter made claimed) left post) ∧
        WithinLimits cfg post ∧ post.requestsByCamera = sched.requestsByCamera ∧
        LeasesOutstanding sched.requestsByCamera claimed ∧
        (cfg.globalLimit ≤ post.active.length ∨
          ∃ fairIndex, (nextEligibleRequest cfg now admitted { post with fairIndex }).1 = none)
          := by
  induction turns with
  | zero =>
    intro made board sched leases represents limits _ enough
    refine ⟨[], sched, ?_, ⟨board, ?_⟩, limits, rfl, by simp [LeasesOutstanding], .inl enough⟩
    · rw [append_nil]
      rfl
    · rw [made_after_nil]
      exact represents
  | succ turns ih =>
    intro made board sched leases represents limits fresh enough
    by_cases room : sched.active.length < cfg.globalLimit
    · cases search : nextEligibleRequest cfg now admitted sched with
      | mk offered fairIndex =>
        cases offered with
        | none =>
          refine ⟨[], { sched with fairIndex }, ?_, ⟨board, ?_⟩,
            ⟨limits.active, limits.node, limits.site, limits.method, limits.queue⟩,
            rfl, by simp [LeasesOutstanding], .inr ⟨sched.fairIndex, ?_⟩⟩
          · simp only [claimLoop, if_pos room, search, append_nil]
          · rw [made_after_nil]
            exact represents.containers rfl rfl rfl rfl
          · exact congrArg Prod.fst search
        | some req =>
          rcases next_eligible_request_mem search with ⟨priority, mem, isEligible⟩
          have available : req.availableAt ≤ now := by
            simp only [eligible, decide_eq_true_eq] at isEligible
            exact isEligible.2.1
          have searched : Represents cfg made board { sched with fairIndex } :=
            represents.containers rfl rfl rfl rfl
          have searchedMember :
              req ∈ ({ sched with fairIndex } : ProbeScheduler).pending priority :=
            mem
          rcases lease_request_ok searched searchedMember available
              (fresh priority req mem) (leaseTokens leases.length) with
            ⟨lease, next, claimed, ⟨_, represented⟩, active, outstanding, subset, isRequest,
              isTarget, isMethod⟩
          have nextLimits : WithinLimits cfg next :=
            limits.lease room isEligible isTarget isMethod active outstanding
          have grown : next.active.length = sched.active.length + 1 := by
            have lengths := congrArg length active
            rw [Dict.length_values, length_append, Dict.length_values] at lengths
            exact lengths
          have freshNext : ∀ other, ∀ queued ∈ next.pending other, now < queued.deadlineAt := by
            intro other queued isQueued
            exact fresh other queued (subset other isQueued)
          rcases @ih _ _ _ (leases ++ [lease]) represented nextLimits freshNext
              (by omega) with ⟨more, post, ran, left, within, kept, known, done⟩
          rw [outstanding] at kept known
          have indexed := represents.waiting_indexed mem
          refine ⟨lease :: more, post, ?_, ?_, within, kept, ?_, done⟩
          · simp only [claimLoop, if_pos room, search, claimed]
            rw [ran]
            simp
          · rw [← made_after_append] at left
            exact left
          · intro other isOther
            rcases mem_cons.mp isOther with isLease | inMore
            · rw [isLease, isRequest]
              exact ⟨_, req, indexed, rfl⟩
            · exact known other inMore
    · refine ⟨[], sched, ?_, ⟨board, ?_⟩, limits, rfl, by simp [LeasesOutstanding],
        .inl (not_lt.mp room)⟩
      · simp only [claimLoop, if_neg room, append_nil]
      · rw [made_after_nil]
        exact represents

structure Sound (cfg : ProbeSchedulerConfig) (made : UUID → Int)
    (sched : ProbeScheduler) : Prop where
  represented : ∃ board, Represents cfg made board sched
  limits : WithinLimits cfg sched

def leasesOf : Except ProbeError (List ProbeLease) → List ProbeLease
  | .ok leases => leases
  | .error _ => []

theorem own_targets_of_batch {targets : Dict UUID ProbeTarget}
    (valid : ¬(targets.items.any (fun item => decide (item.1 ≠ item.2.cameraId)) = true)) :
    OwnTargets targets := by
  intro cameraId target found
  by_contra differ
  apply valid
  rw [any_eq_true]
  exact ⟨(cameraId, target), Dict.get_eq_some.mp found, by simpa using Ne.symm differ⟩

theorem Sound.claim_available (sound : Sound cfg made sched) (now : Datetime)
    (targets : Dict UUID ProbeTarget) (leaseTokens : Nat → UUID4) :
    let out := claimAvailable cfg now targets leaseTokens sched
    Sound cfg (madeAfter made (leasesOf out.1)) out.2 ∧
      SameRequests sched.requestsByCamera out.2.requestsByCamera ∧
      LeasesOutstanding sched.requestsByCamera (leasesOf out.1) := by
  by_cases batch : targets.length > cfg.queueLimit ∨
      targets.items.any (fun item => decide (item.1 ≠ item.2.cameraId)) = true
  · have ran : claimAvailable cfg now targets leaseTokens sched =
        (.error (.valueError "probe_current_target_batch_invalid"), sched) := by
      simp only [claimAvailable, if_pos batch]
    rw [ran]
    simp only [leasesOf, made_after_nil]
    exact ⟨sound, (Shrinks.refl sched).requests, by simp [LeasesOutstanding]⟩
  · rcases sound.represented with ⟨board, represents⟩
    rcases expire_active_ok represents now with ⟨expired, ranExpire, ⟨_, afterExpire⟩, firstShrink⟩
    rcases drop_expired_pending_ok afterExpire now with ⟨⟨_, afterDrop⟩, secondShrink, fresh⟩
    have own : OwnTargets targets := own_targets_of_batch (not_or.mp batch).2
    rcases refresh_pending_targets_ok own afterDrop fresh with
      ⟨admitted, refreshed, ranRefresh, ⟨_, afterRefresh⟩, thirdShrink, stillFresh⟩
    have shrinks := (firstShrink.trans secondShrink).trans thirdShrink
    have enough : cfg.globalLimit ≤
        refreshed.active.length + (cfg.globalLimit - refreshed.active.length) := by
      omega
    rcases @claim_loop_ok cfg now admitted leaseTokens _ _ _ _ [] afterRefresh
        (sound.limits.shrink shrinks) stillFresh enough with
      ⟨claimed, post, ranLoop, represented, limits, outstanding, known, _⟩
    have ran : claimAvailable cfg now targets leaseTokens sched = (.ok claimed, post) := by
      simp only [claimAvailable, if_neg batch, ranExpire, ranRefresh, ranLoop, nil_append]
    rw [ran]
    refine ⟨⟨represented, limits⟩, ?_, ?_⟩
    · dsimp only
      rw [outstanding]
      exact shrinks.requests
    · intro lease isClaimed
      rcases known lease isClaimed with ⟨cameraId, req, found, sameId⟩
      rcases shrinks.requests cameraId req found with ⟨other, held, atOther, sameAgain⟩
      exact ⟨other, held, atOther, sameAgain.trans sameId⟩

theorem Represents.move_request (represents : Represents cfg made board sched)
    {promoted : ProbeRequest} {pre post : List ProbeRequest}
    (shape : sched.pending req.priority = pre ++ req :: post)
    (sameId : promoted.requestId = req.requestId)
    (sameCamera : promoted.target.cameraId = req.target.cameraId) :
    Represents cfg made
      (update board req.target.cameraId (some ⟨promoted, none⟩))
      (((sched.setPending req.priority (pre ++ post)).setPending promoted.priority
        ((sched.setPending req.priority (pre ++ post)).pending promoted.priority ++
          [promoted])).reindex promoted.target.cameraId promoted) := by
  have mem : req ∈ sched.pending req.priority := by
    rw [shape]
    simp
  have found := (represents.queues.waits mem).2
  constructor
  · apply represents.wellFormed.fill
    · exact sameCamera
    · intro place held atPlace isHeld
      exact represents.wellFormed.identified atPlace found (isHeld.trans sameId)
    · intro _
      rw [sameId]
      exact represents.wellFormed.waiting found
    · intro _ isLease
      cases isLease
  · rw [← sameCamera]
    exact represents.indexes.set _ ⟨promoted, none⟩
  · apply represents.queues.rewrite shape sameCamera
    intro queue
    exact Perm.refl _
  · exact represents.leases.unleased (by simp [found]) (by simp)
  · exact represents.counts.keep found sameId

theorem set_index_of_member {rewritten : ProbeRequest} {queue : List ProbeRequest}
    (mem : req ∈ queue) :
    ∃ pre post, queue = pre ++ req :: post ∧
      queue.set (queue.idxOf req) rewritten = pre ++ rewritten :: post := by
  rcases exists_erase_eq mem with ⟨pre, post, absent, shape, _⟩
  refine ⟨pre, post, shape, ?_⟩
  have index : queue.idxOf req = pre.length := by
    rw [shape, idxOf_append_of_notMem absent, idxOf_cons_self]
    rfl
  rw [index, shape, set_append_right _ _ (le_refl _), Nat.sub_self]
  rfl

theorem Represents.indexed_waits (represents : Represents cfg made board sched)
    {cameraId : UUID} {cur : ProbeRequest}
    (indexed : sched.requestsByCamera.get cameraId = some cur)
    (waiting : sched.active.get cur.requestId = none) :
    cur.target.cameraId = cameraId ∧ cur ∈ sched.pending cur.priority := by
  have isMapped := represents.indexes cameraId
  rw [indexed] at isMapped
  rcases Option.map_eq_some_iff.mp isMapped.symm with ⟨⟨req, lease⟩, found, isCurrent⟩
  subst isCurrent
  have cam : req.target.cameraId = cameraId := represents.wellFormed.camera found
  have unleased : lease = none := by
    cases lease with
    | none => rfl
    | some held =>
      have isHeld := (represents.leases req.requestId held).mpr ⟨_, _, found, rfl⟩
      rw [waiting] at isHeld
      cases isHeld
  subst unleased
  refine ⟨cam, ((represents.queues req.priority).2 req).mpr ?_⟩
  rw [cam]
  exact ⟨rfl, found⟩

theorem Sound.promote_waiting (sound : Sound cfg made sched) {cur : ProbeRequest}
    {target : ProbeTarget} (indexed : sched.requestsByCamera.get target.cameraId = some cur)
    (waiting : sched.active.get cur.requestId = none)
    (priority : ProbePriority) (deadlineAt : Datetime) :
    Sound cfg made (promote cur target priority deadlineAt sched).2 ∧
      SameRequests sched.requestsByCamera
        (promote cur target priority deadlineAt sched).2.requestsByCamera := by
  rcases sound.represented with ⟨board, represents⟩
  have same : Sound cfg made sched ∧
      SameRequests sched.requestsByCamera sched.requestsByCamera :=
    ⟨sound, (Shrinks.refl sched).requests⟩
  obtain ⟨cam, mem⟩ := represents.indexed_waits indexed waiting
  have present : sched.requestsByCamera.get target.cameraId ≠ none := by
    simp [indexed]
  unfold promote
  generalize (if cur.priority.rank < priority.rank then priority else cur.priority) =
    promotedPriority
  by_cases unchanged : promotedPriority = cur.priority ∧
      min cur.deadlineAt deadlineAt = cur.deadlineAt
  · rw [if_pos unchanged]
    exact same
  · rw [if_neg unchanged]
    cases built : ProbeRequest.build cur.requestId target cur.method promotedPriority
        cur.requestedAt (min cur.deadlineAt deadlineAt) cur.availableAt with
    | error err => exact same
    | ok promoted =>
      have fields := build_request_ok built
      have sameCamera : promoted.target.cameraId = cur.target.cameraId := by
        rw [fields.2.1, cam]
      have limits : ∀ {post : ProbeScheduler}, post.active = sched.active →
          post.requestsByCamera = sched.requestsByCamera.set target.cameraId promoted →
          WithinLimits cfg post := by
        intro post sameActive requests
        apply sound.limits.shrink
        refine ⟨by rw [sameActive], ?_, ?_⟩
        · rw [requests]
          exact (Dict.length_set_of_present present).le
        · rw [requests]
          exact same_requests_set indexed fields.1
      by_cases moves : promotedPriority ≠ cur.priority
      · rcases remove_request_ok mem with ⟨pre, post, shape, removed⟩
        simp only [if_pos moves, removed]
        have moved := represents.move_request shape fields.1 sameCamera
        rw [fields.2.2.2.1, fields.2.1] at moved
        exact ⟨⟨⟨_, moved⟩, limits rfl rfl⟩, same_requests_set indexed fields.1⟩
      · simp only [if_neg moves, if_pos mem]
        rcases set_index_of_member mem with ⟨pre, post, shape, replaced⟩
        have start : Represents cfg made board
            (sched.setPending cur.priority (pre ++ cur :: post)) := by
          rw [← shape, set_pending_self]
          exact represents
        have samePriority : promoted.priority = cur.priority := by
          rw [fields.2.2.2.1]
          exact not_not.mp moves
        have rewritten := start.rewrite_request fields.1 sameCamera samePriority
        rw [replaced, ← cam]
        refine ⟨⟨⟨_, rewritten.containers rfl rfl rfl rfl⟩, limits rfl ?_⟩, ?_⟩
        · rw [← cam]
          rfl
        · rw [← cam] at indexed
          exact same_requests_set indexed fields.1

/-- Besides the requests of `before` at most one with the drawn identifier. -/
def AddsOnly (requestId : UUID) (pre post : Dict UUID ProbeRequest) : Prop :=
  ∀ cameraId req, post.get cameraId = some req → req.requestId = requestId ∨
      ∃ other held, pre.get other = some held ∧ held.requestId = req.requestId

/-- A drawn identifier that no outstanding request has and for which no lease was made. -/
def Unused (made : UUID → Int) (sched : ProbeScheduler) (requestId : UUID) : Prop :=
  made requestId = 0 ∧ ∀ cameraId req,
    sched.requestsByCamera.get cameraId = some req → req.requestId ≠ requestId

theorem Unused.shrink (unused : Unused made sched requestId)
    (shrinks : Shrinks sched post) : Unused made post requestId := by
  refine ⟨unused.1, ?_⟩
  intro cameraId req found
  rcases shrinks.requests cameraId req found with ⟨other, held, atOther, sameId⟩
  rw [← sameId]
  exact unused.2 other held atOther

theorem Represents.accept_request (represents : Represents cfg made board sched)
    (unused : Unused made sched req.requestId)
    (empty : sched.requestsByCamera.get req.target.cameraId = none) (total : Nat) :
    Represents cfg made
      (update board req.target.cameraId (some ⟨req, none⟩))
      { sched.requeue req.target.cameraId req with
        attempts := sched.attempts.set req.requestId 0
        submittedTotal := total } := by
  have emptyPlace : board req.target.cameraId = none := by
    have isMapped := represents.indexes req.target.cameraId
    rw [empty] at isMapped
    exact Option.map_eq_none_iff.mp isMapped.symm
  have notOnBoard : ∀ {cameraId held}, board cameraId = some held →
      held.request.requestId ≠ req.requestId := by
    intro cameraId held found
    apply unused.2 cameraId
    rw [represents.indexes, found]
    rfl
  constructor
  · apply represents.wellFormed.fill
    · rfl
    · intro cameraId held found sameId
      exact absurd sameId (notOnBoard found)
    · intro _
      have pos := cfg.attemptsValid.1
      rw [unused.1]
      omega
    · intro _ isLease
      cases isLease
  · exact represents.indexes.set _ ⟨req, none⟩
  · exact represents.queues.append (by simp [emptyPlace])
  · exact represents.leases.unleased (by simp [emptyPlace]) (by simp)
  · exact represents.counts.start emptyPlace unused.1

theorem Sound.accept_camera (sound : Sound cfg made sched) {requestId : UUID4}
    (unused : Unused made sched requestId.val) {target : ProbeTarget}
    (empty : sched.requestsByCamera.get target.cameraId = none) (method : ProbeMethod)
    (priority : ProbePriority) (since deadlineAt : Datetime) :
    let post := (acceptNew cfg target method priority since deadlineAt requestId sched).2
    Sound cfg made post ∧
      AddsOnly requestId.val sched.requestsByCamera post.requestsByCamera := by
  unfold acceptNew
  by_cases full : sched.requestsByCamera.length ≥ cfg.queueLimit
  · rw [if_pos full]
    rcases sound.represented with ⟨board, represents⟩
    refine ⟨⟨⟨board, represents.containers rfl rfl rfl rfl⟩, sound.limits.shrink
      ⟨Sublist.refl _, le_rfl, (Shrinks.refl sched).requests⟩⟩, ?_⟩
    intro cameraId req found
    exact .inr ⟨cameraId, req, found, rfl⟩
  · rw [if_neg full]
    cases built : ProbeRequest.build requestId.val target method priority since deadlineAt
        since with
    | error err =>
      refine ⟨sound, ?_⟩
      intro cameraId req found
      exact .inr ⟨cameraId, req, found, rfl⟩
    | ok req =>
      rcases build_request_ok built with ⟨isId, isTarget, _⟩
      rcases sound.represented with ⟨board, represents⟩
      rw [← isId] at unused
      rw [← isTarget] at empty ⊢
      refine ⟨⟨⟨_, represents.accept_request unused empty _⟩, ?_⟩, ?_⟩
      · refine ⟨sound.limits.active, sound.limits.node, sound.limits.site, sound.limits.method, ?_⟩
        have grown : (sched.requestsByCamera.set req.target.cameraId req).length =
            sched.requestsByCamera.length + 1 := Dict.length_set_of_absent empty
        have bound : (sched.requestsByCamera.set req.target.cameraId req).length ≤
            cfg.queueLimit := by
          omega
        exact bound
      · intro cameraId held found
        have isHeld : (sched.requestsByCamera.set req.target.cameraId req).get
            cameraId = some held := found
        rw [Dict.get_set] at isHeld
        split_ifs at isHeld
        · rw [← Option.some.inj isHeld]
          exact .inl isId
        · exact .inr ⟨cameraId, held, isHeld, rfl⟩

theorem adds_only_of_same {pre post : Dict UUID ProbeRequest} (same : SameRequests pre post)
    : AddsOnly requestId pre post := by
  intro cameraId req found
  exact .inr (same cameraId req found)

theorem AddsOnly.after_shrink {pre middle : ProbeScheduler} {post : Dict UUID ProbeRequest}
    (shrinks : Shrinks pre middle) (adds : AddsOnly requestId middle.requestsByCamera post) :
    AddsOnly requestId pre.requestsByCamera post := by
  intro cameraId req found
  rcases adds cameraId req found with isNew | ⟨other, held, atOther, sameId⟩
  · exact .inl isNew
  · rcases shrinks.requests other held atOther with ⟨place, owner, atPlace, sameOwner⟩
    exact .inr ⟨place, owner, atPlace, sameOwner.trans sameId⟩

variable (sound : Sound cfg made sched)

include sound

theorem Sound.submit_request {requestId : UUID4}
    (unused : Unused made sched requestId.val) (target : ProbeTarget) (method : ProbeMethod)
    (priority : ProbePriority) (since deadlineAt : Datetime) :
    let post := (submit cfg target method priority since deadlineAt requestId sched).2
    Sound cfg made post ∧
      AddsOnly requestId.val sched.requestsByCamera post.requestsByCamera := by
  have unchanged : Sound cfg made sched ∧
      AddsOnly requestId.val sched.requestsByCamera sched.requestsByCamera :=
    ⟨sound, adds_only_of_same (Shrinks.refl sched).requests⟩
  unfold submit
  cases requireProbeEligible target method with
  | error err => exact unchanged
  | ok value =>
    by_cases window : deadlineAt ≤ since ∨ deadlineAt - since > timedeltaSeconds 86400
    · rw [if_pos window]
      exact unchanged
    · rw [if_neg window]
      rcases sound.represented with ⟨board, represents⟩
      rcases expire_active_ok represents since with
        ⟨expired, ranExpire, ⟨_, afterExpire⟩, firstShrink⟩
      rcases drop_expired_pending_ok afterExpire since with ⟨afterDrop, secondShrink, _⟩
      have shrinks := firstShrink.trans secondShrink
      have dropped : Sound cfg made (dropExpiredPending since expired) :=
        ⟨afterDrop, sound.limits.shrink shrinks⟩
      rw [ranExpire]
      dsimp only
      cases indexed : (dropExpiredPending since expired).requestsByCamera.get target.cameraId with
      | none =>
        have admitted := dropped.accept_camera (unused.shrink shrinks) indexed method priority
          since deadlineAt
        exact ⟨admitted.1, admitted.2.after_shrink shrinks⟩
      | some cur =>
        dsimp only
        by_cases same : sameProbeGeneration cur.target target = true ∧ cur.method = method
        · rw [if_pos same]
          by_cases leased : (dropExpiredPending since expired).active.contains cur.requestId = true
          · rw [if_pos leased]
            exact ⟨dropped, adds_only_of_same shrinks.requests⟩
          · rw [if_neg leased]
            have waiting : (dropExpiredPending since expired).active.get
                cur.requestId = none := by
              simpa [Dict.contains] using leased
            have promoted := dropped.promote_waiting indexed waiting priority deadlineAt
            exact ⟨promoted.1, (adds_only_of_same promoted.2).after_shrink shrinks⟩
        · rw [if_neg same]
          rcases dropped.represented with ⟨left, stillRepresents⟩
          exact ⟨⟨⟨left, stillRepresents.containers rfl rfl rfl rfl⟩,
            dropped.limits.shrink ⟨Sublist.refl _, le_rfl,
              (Shrinks.refl (dropExpiredPending since expired)).requests⟩⟩,
            adds_only_of_same shrinks.requests⟩

theorem Sound.release_active {lease : ProbeLease}
    (held : sched.active.get lease.requestId = some lease)
    (requests : post.requestsByCamera = (sched.release lease).requestsByCamera)
    (pending : post.pending = (sched.release lease).pending)
    (active : post.active = (sched.release lease).active)
    (attempts : post.attempts = (sched.release lease).attempts) :
    Sound cfg made post ∧ SameRequests sched.requestsByCamera post.requestsByCamera := by
  rcases sound.represented with ⟨board, represents⟩
  rcases represents.lease_on_board held with ⟨req, found, isOwner, _⟩
  have released := represents.release_lease found
  rw [isOwner] at released
  have shrinks : Shrinks sched post := by
    constructor
    · rw [active]
      exact Dict.values_pop_sublist _ _
    · rw [requests]
      exact Dict.length_pop_le _ _
    · rw [requests]
      exact same_requests_pop _ _
  exact ⟨⟨⟨_, released.containers requests pending active attempts⟩, sound.limits.shrink shrinks⟩,
    shrinks.requests⟩

theorem Sound.complete_lease (lease : ProbeLease)
    (res : ProbeExecutionResult) (observationId : UUID4) :
    Sound cfg made (complete lease res observationId sched).2 ∧
      SameRequests sched.requestsByCamera
        (complete lease res observationId sched).2.requestsByCamera := by
  have same := (Shrinks.refl sched).requests
  unfold complete
  split_ifs with refused missing
  · exact ⟨sound, same⟩
  · exact ⟨sound, same⟩
  · have held := not_not.mp (not_or.mp refused).1
    exact sound.release_active held rfl rfl rfl rfl

theorem Sound.cancel_lease (lease : ProbeLease) :
    Sound cfg made (cancel lease sched).2 ∧
      SameRequests sched.requestsByCamera (cancel lease sched).2.requestsByCamera := by
  unfold cancel
  split_ifs with refused
  · exact ⟨sound, (Shrinks.refl sched).requests⟩
  · have held := not_not.mp (not_or.mp refused).1
    exact sound.release_active held rfl rfl rfl rfl

omit sound

theorem sound_initial (cfg : ProbeSchedulerConfig) : Sound cfg (fun _ => 0) .initial where
  represented := by
    have pos := cfg.attemptsValid.1
    refine ⟨fun _ => none, ?_, ?_, ?_, ?_, ?_⟩
    · constructor
      · intro _ _ found
        cases found
      · intro _ _ _ _ found
        cases found
      · intro _ _ found
        cases found
      · intro _ _ _ found
        cases found
      · intro _
        omega
    · intro _
      rfl
    · intro _
      simp [initial]
    · intro _ _
      simp [initial]
    · intro _ _
      simp [initial]
  limits := by
    constructor <;> simp [initial, activeNode, activeSite, activeMethod]

end ProbeScheduler

/-- A call on the scheduler, with the identifiers it would draw. Expiry and the removal of targets
happen inside `submit` and `claimAvailable`. -/
inductive ProbeOperation
  | submit (target : ProbeTarget) (method : ProbeMethod) (priority : ProbePriority)
      (requestedAt deadlineAt : Datetime) (requestId : UUID4)
  | claimAvailable (now : Datetime) (targets : Dict UUID ProbeTarget)
      (leaseTokens : Nat → UUID4)
  | complete (lease : ProbeLease) (res : ProbeExecutionResult) (observationId : UUID4)
  | cancel (lease : ProbeLease)

/-- The scheduler with the history of the identifiers drawn and the leases returned. -/
structure ProbeSystem where
  scheduler : ProbeScheduler
  drawn : List UUID
  issued : List ProbeLease

namespace ProbeSystem

def initial : ProbeSystem := { scheduler := .initial, drawn := [], issued := [] }

def apply (cfg : ProbeSchedulerConfig) (sys : ProbeSystem) : ProbeOperation → ProbeSystem
  | .submit target method priority requestedAt deadlineAt requestId =>
    { sys with
      scheduler := (sys.scheduler.submit cfg target method priority requestedAt deadlineAt
        requestId).2
      drawn := requestId.val :: sys.drawn }
  | .claimAvailable now targets leaseTokens =>
    let out := sys.scheduler.claimAvailable cfg now targets leaseTokens
    { sys with
      scheduler := out.2
      issued := sys.issued ++ leasesOf out.1 }
  | .complete lease res observationId =>
    { sys with scheduler := (sys.scheduler.complete lease res observationId).2 }
  | .cancel lease => { sys with scheduler := (sys.scheduler.cancel lease).2 }

/-- `uuid4()` does not repeat a request identifier. -/
def DrawsFresh (sys : ProbeSystem) : ProbeOperation → Prop
  | .submit _ _ _ _ _ requestId => requestId.val ∉ sys.drawn
  | .claimAvailable .. | .complete .. | .cancel .. => True

inductive Reachable (cfg : ProbeSchedulerConfig) : ProbeSystem → Prop
  | start : Reachable cfg initial
  | call {sys : ProbeSystem} (op : ProbeOperation) (reached : Reachable cfg sys)
      (fresh : sys.DrawsFresh op) : Reachable cfg (sys.apply cfg op)

def made (sys : ProbeSystem) : UUID → Int :=
  madeAfter (fun _ => 0) sys.issued

/-- The invariant of a run: a sound scheduler, and no identifier is known before it is drawn. -/
structure Consistent (cfg : ProbeSchedulerConfig) (sys : ProbeSystem) : Prop where
  sound : sys.scheduler.Sound cfg sys.made
  outstanding : ∀ cameraId req,
    sys.scheduler.requestsByCamera.get cameraId = some req → req.requestId ∈ sys.drawn
  leased : ∀ requestId, requestId ∉ sys.drawn → sys.made requestId = 0

variable {cfg : ProbeSchedulerConfig}

variable {sys : ProbeSystem}

theorem Consistent.with_scheduler (consistent : Consistent cfg sys)
    {sched : ProbeScheduler} (step : sched.Sound cfg sys.made ∧
      ProbeScheduler.SameRequests sys.scheduler.requestsByCamera sched.requestsByCamera) :
    Consistent cfg { sys with scheduler := sched } := by
  refine ⟨step.1, ?_, consistent.leased⟩
  intro cameraId req found
  rcases step.2 cameraId req found with ⟨other, held, atOther, sameId⟩
  rw [← sameId]
  exact consistent.outstanding other held atOther

theorem Consistent.apply_operation (consistent : Consistent cfg sys)
    (op : ProbeOperation) (fresh : sys.DrawsFresh op) :
    Consistent cfg (sys.apply cfg op) := by
  cases op with
  | submit target method priority since deadlineAt requestId =>
    have unused : ProbeScheduler.Unused sys.made sys.scheduler requestId.val := by
      refine ⟨consistent.leased _ fresh, ?_⟩
      intro cameraId req found same
      apply fresh
      rw [← same]
      exact consistent.outstanding cameraId req found
    have submitted := consistent.sound.submit_request unused target method priority since deadlineAt
    refine ⟨submitted.1, ?_, ?_⟩
    · intro cameraId req found
      rcases submitted.2 cameraId req found with isNew | ⟨other, held, atOther, sameId⟩
      · rw [isNew]
        exact mem_cons_self
      · rw [← sameId]
        exact mem_cons_of_mem _ (consistent.outstanding other held atOther)
    · intro other notDrawn
      exact consistent.leased other fun drawn => notDrawn (mem_cons_of_mem _ drawn)
  | claimAvailable now targets leaseTokens =>
    have claimed := consistent.sound.claim_available now targets leaseTokens
    have isMade : (sys.apply cfg (.claimAvailable now targets leaseTokens)).made =
        madeAfter sys.made (leasesOf
          (sys.scheduler.claimAvailable cfg now targets leaseTokens).1) :=
      made_after_append _ _ _
    refine ⟨?_, ?_, ?_⟩
    · rw [isMade]
      exact claimed.1
    · intro cameraId req found
      rcases claimed.2.1 cameraId req found with ⟨other, held, atOther, sameId⟩
      rw [← sameId]
      exact consistent.outstanding other held atOther
    · intro requestId notDrawn
      rw [isMade, madeAfter, consistent.leased requestId notDrawn, zero_add,
        Nat.cast_eq_zero, countP_eq_zero]
      intro lease isClaimed same
      rcases claimed.2.2 lease isClaimed with ⟨cameraId, req, found, sameId⟩
      apply notDrawn
      have isRequest : lease.requestId = requestId := by simpa using same
      rw [← isRequest, ← sameId]
      exact consistent.outstanding cameraId req found
  | complete lease res observationId =>
    exact consistent.with_scheduler
      (consistent.sound.complete_lease lease res observationId)
  | cancel lease =>
    exact consistent.with_scheduler (consistent.sound.cancel_lease lease)

theorem consistent_of_reachable (reached : Reachable cfg sys) :
    Consistent cfg sys := by
  induction reached with
  | start =>
    have nothing : initial.made = fun _ => 0 := made_after_nil _
    refine ⟨?_, ?_, ?_⟩
    · rw [nothing]
      exact sound_initial cfg
    · intro _ _ found
      cases found
    · intro _ _
      rw [nothing]
  | call op _ fresh ih => exact ih.apply_operation op fresh

end ProbeSystem

namespace ProbeScheduler

variable {cfg : ProbeSchedulerConfig} {made : UUID → Int} {board : Board}
  {sched : ProbeScheduler}

def outstanding (sched : ProbeScheduler) : List ProbeRequest :=
  sched.requestsByCamera.values

def queueEntries (sched : ProbeScheduler) (priority : ProbePriority) (requestId : UUID) : Nat :=
  (sched.pending priority).countP fun req => decide (req.requestId = requestId)

variable (represents : Represents cfg made board sched)

include represents

theorem Represents.outstanding_on_board (mem : req ∈ sched.outstanding) :
    ∃ lease, board req.target.cameraId = some ⟨req, lease⟩ := by
  rcases Dict.mem_values.mp mem with ⟨cameraId, found⟩
  rw [represents.indexes] at found
  rcases Option.map_eq_some_iff.mp found with ⟨entry, atCamera, isRequest⟩
  have cam := represents.wellFormed.camera atCamera
  rw [← isRequest]
  exact ⟨entry.lease, by rw [cam]; exact atCamera⟩

theorem Represents.cameras_distinct :
    (sched.outstanding.map fun req => req.target.cameraId).Nodup := by
  have keys : sched.outstanding.map (fun req => req.target.cameraId) =
      sched.requestsByCamera.items.map Prod.fst := by
    unfold outstanding Dict.values
    rw [map_map]
    apply map_congr_left
    intro item mem
    have found : sched.requestsByCamera.get item.1 = some item.2 := Dict.get_eq_some.mpr mem
    rw [represents.indexes] at found
    rcases Option.map_eq_some_iff.mp found with ⟨entry, atCamera, isRequest⟩
    have cam := represents.wellFormed.camera atCamera
    rw [isRequest] at cam
    exact cam
  rw [keys]
  exact sched.requestsByCamera.distinct

theorem Represents.queue_entries
    {lease : Option ProbeLease} (found : board req.target.cameraId = some ⟨req, lease⟩)
    (priority : ProbePriority) :
    sched.queueEntries priority req.requestId =
      (sched.pending priority).count req := by
  unfold queueEntries
  rw [count_eq_countP]
  apply countP_congr
  intro queued mem
  have waits := represents.queues.waits mem
  simp only [decide_eq_true_eq, beq_iff_eq]
  constructor
  · intro sameId
    have here := represents.wellFormed.identified waits.2 found sameId
    rw [here, found] at waits
    have entries := waits.2
    simp at entries
    exact entries.1.symm
  · intro same
    rw [same]

theorem Represents.placed (mem : req ∈ sched.outstanding) :
    ((∀ priority, sched.queueEntries priority req.requestId =
        if priority = req.priority then 1 else 0) ∧
      sched.active.get req.requestId = none) ∨
    ((∀ priority, sched.queueEntries priority req.requestId = 0) ∧
      ∃ lease, sched.active.get req.requestId = some lease) := by
  rcases represents.outstanding_on_board mem with ⟨lease, found⟩
  cases lease with
  | none =>
    left
    constructor
    · intro priority
      rw [represents.queue_entries found]
      split_ifs with isPriority
      · apply count_eq_one_of_mem (represents.queues priority).1
        exact ((represents.queues priority).2 req).mpr ⟨isPriority.symm, found⟩
      · apply count_eq_zero_of_not_mem
        intro queued
        exact isPriority (represents.queues.waits queued).1.symm
    · apply Option.eq_none_iff_forall_ne_some.mpr
      intro held isHeld
      rcases (represents.leases _ _).mp isHeld with ⟨cameraId, owner, atCamera, isOwner⟩
      have here := represents.wellFormed.identified atCamera found isOwner
      rw [here, found] at atCamera
      cases atCamera
  | some held =>
    right
    constructor
    · intro priority
      rw [represents.queue_entries found]
      apply count_eq_zero_of_not_mem
      intro queued
      have waits := (represents.queues.waits queued).2
      rw [found] at waits
      cases waits
    · exact ⟨held, (represents.leases _ _).mpr ⟨_, _, found, rfl⟩⟩

omit represents

end ProbeScheduler

namespace ProbeSystem

open ProbeScheduler

/-- Whatever is called, and in whatever order: one outstanding request per camera, which stands
once in the queue of its priority or is leased, the active leases within every budget, the
outstanding requests within the queue limit and no request leased more than allowed. -/
theorem scheduler_invariant {cfg : ProbeSchedulerConfig} {sys : ProbeSystem}
    (reached : Reachable cfg sys) :
    (sys.scheduler.outstanding.map fun req => req.target.cameraId).Nodup ∧
    (∀ priority, ∀ req ∈ sys.scheduler.pending priority, req ∈ sys.scheduler.outstanding) ∧
    (∀ lease ∈ sys.scheduler.active.values, ∃ req ∈ sys.scheduler.outstanding,
      req.requestId = lease.requestId ∧
        sys.scheduler.active.get req.requestId = some lease) ∧
    (∀ req ∈ sys.scheduler.outstanding,
      ((∀ priority, sys.scheduler.queueEntries priority req.requestId =
          if priority = req.priority then 1 else 0) ∧
        sys.scheduler.active.get req.requestId = none) ∨
      ((∀ priority, sys.scheduler.queueEntries priority req.requestId = 0) ∧
        ∃ lease, sys.scheduler.active.get req.requestId = some lease)) ∧
    sys.scheduler.active.length ≤ cfg.globalLimit ∧
    (∀ nodeId, sys.scheduler.activeNode nodeId ≤ cfg.perNodeLimit) ∧
    (∀ siteKey, sys.scheduler.activeSite siteKey ≤ cfg.perSiteLimit) ∧
    (∀ method, sys.scheduler.activeMethod method ≤ cfg.methodLimit method) ∧
    sys.scheduler.outstanding.length ≤ cfg.queueLimit ∧
    (∀ requestId count, sys.scheduler.attempts.get requestId = some count →
      count ≤ cfg.maxAttempts) ∧
    ∀ requestId, ((sys.issued.countP fun lease => decide (lease.requestId = requestId) : Nat) :
      Int) ≤ cfg.maxAttempts := by
  have consistent := consistent_of_reachable reached
  have limits := consistent.sound.limits
  rcases consistent.sound.represented with ⟨board, represents⟩
  refine ⟨represents.cameras_distinct, ?_, ?_, fun req mem => represents.placed mem,
    limits.active, limits.node, limits.site, limits.method, ?_, ?_, ?_⟩
  · intro priority req mem
    exact Dict.mem_values.mpr ⟨_, represents.waiting_indexed mem⟩
  · intro lease mem
    rcases Dict.mem_values.mp mem with ⟨requestId, held⟩
    rcases represents.lease_on_board held with ⟨req, found, isOwner, indexed⟩
    refine ⟨req, Dict.mem_values.mpr ⟨_, indexed⟩, ?_, ?_⟩
    · exact (represents.wellFormed.leased found).1.symm
    · rw [isOwner]
      exact held
  · unfold outstanding
    rw [Dict.length_values]
    exact limits.queue
  · intro requestId count counted
    rw [((represents.counts requestId count).mp counted).1]
    exact (represents.wellFormed.capped requestId).2
  · intro requestId
    have capped := (represents.wellFormed.capped requestId).2
    simpa only [made, madeAfter, zero_add] using capped

theorem two_attempts : (1 : Int) ≤ 2 ∧ (2 : Int) ≤ 10 := by decide

def sampleConfig : ProbeSchedulerConfig where
  globalLimit := 2
  perNodeLimit := 1
  perSiteLimit := 1
  sourceLimit := 1
  pathLimit := 1
  queueLimit := 4
  lease := timedeltaSeconds 20
  retryDelay := timedeltaSeconds 5
  maxAttempts := 2
  globalValid := by decide
  nodeValid := by decide
  siteValid := by decide
  methodValid := by decide
  queueValid := by decide
  leaseValid := by decide
  retryValid := by decide
  attemptsValid := two_attempts

def sampleToken : UUID4 := ⟨0x00000000000040008000000000000021, by decide⟩

/-- A probe is requested and leased, its lease expires, and it is leased again. -/
def sampleOperations : List ProbeOperation :=
  [.submit sampleTarget .source .routine 0 (timedeltaSeconds 100) sampleToken,
    .claimAvailable 0 (Dict.empty.set sampleTarget.cameraId sampleTarget) fun _ => sampleToken,
    .claimAvailable (timedeltaSeconds 20) (Dict.empty.set sampleTarget.cameraId sampleTarget)
      fun _ => sampleToken,
    .claimAvailable (timedeltaSeconds 25) (Dict.empty.set sampleTarget.cameraId sampleTarget)
      fun _ => sampleToken]

def sampleRun : ProbeSystem := sampleOperations.foldl (apply sampleConfig) initial

theorem scheduler_invariant_retried :
    sampleRun.scheduler.active.length = 1 ∧ sampleRun.issued.length = 2 ∧
      ∀ requestId, ((sampleRun.issued.countP fun lease => decide (lease.requestId = requestId) :
        Nat) : Int) ≤ 2 := by
  have reached : Reachable sampleConfig sampleRun := by
    unfold sampleRun sampleOperations
    simp only [foldl_cons, foldl_nil]
    refine .call _ (.call _ (.call _ (.call _ .start ?_) ?_) ?_) ?_
    · exact not_mem_nil
    · trivial
    · trivial
    · trivial
  have invariant := scheduler_invariant reached
  refine ⟨by decide +kernel, by decide +kernel, ?_⟩
  exact invariant.2.2.2.2.2.2.2.2.2.2

end ProbeSystem

end RtspProxy.Probes
