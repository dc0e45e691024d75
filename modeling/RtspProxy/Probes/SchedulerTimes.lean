import RtspProxy.Probes.SchedulerRuns

/-!
# How early a request can be answered

A request keeps the time at which it was submitted, through every wait, retry,
promotion and refresh of its target, and a lease starts no earlier than its
request was submitted. So whatever bounds the submission times of a camera from
below also bounds the start of its leases, and the completion of its probes.
-/

namespace RtspProxy.Probes

open Nodes Lib List

namespace ProbeScheduler

def Lasting (floor : UUID → Datetime → Prop) : Prop :=
  ∀ cameraId earlier later, floor cameraId earlier → earlier ≤ later → floor cameraId later

/-- No outstanding request and no lease of a camera is too early for it. -/
structure NotBefore (floor : UUID → Datetime → Prop) (sched : ProbeScheduler) : Prop where
  indexed : ∀ cameraId req, sched.requestsByCamera.get cameraId = some req →
    req.target.cameraId = cameraId ∧ floor cameraId req.requestedAt
  waiting : ∀ priority, ∀ req ∈ sched.pending priority,
    floor req.target.cameraId req.requestedAt
  leased : ∀ requestId lease, sched.active.get requestId = some lease →
    floor lease.target.cameraId lease.startedAt

variable {cfg : ProbeSchedulerConfig} {floor : UUID → Datetime → Prop}
  {sched : ProbeScheduler} {made : UUID → Int}

theorem not_before_initial (floor : UUID → Datetime → Prop) : NotBefore floor .initial := by
  constructor
  · intro _ _ found
    cases found
  · intro _ _ mem
    cases mem
  · intro _ _ found
    cases found

theorem NotBefore.weaken {lower : UUID → Datetime → Prop} (kept : NotBefore floor sched)
    (weaker : ∀ cameraId time, floor cameraId time → lower cameraId time) :
    NotBefore lower sched := by
  constructor
  · intro cameraId req found
    have old := kept.indexed cameraId req found
    exact ⟨old.1, weaker _ _ old.2⟩
  · intro priority req mem
    exact weaker _ _ (kept.waiting priority req mem)
  · intro requestId lease found
    exact weaker _ _ (kept.leased requestId lease found)

variable {post : ProbeScheduler}

theorem NotBefore.containers (kept : NotBefore floor sched)
    (reqs : post.requestsByCamera = sched.requestsByCamera)
    (pending : post.pending = sched.pending) (active : post.active = sched.active) :
    NotBefore floor post := by
  constructor
  · rw [reqs]
    exact kept.indexed
  · rw [pending]
    exact kept.waiting
  · rw [active]
    exact kept.leased

theorem NotBefore.forget (kept : NotBefore floor sched) (cameraId requestId : UUID) :
    NotBefore floor (sched.forget cameraId requestId) := by
  constructor
  · intro other req found
    simp only [ProbeScheduler.forget, Dict.get_pop] at found
    split_ifs at found
    exact kept.indexed other req found
  · exact kept.waiting
  · exact kept.leased

theorem NotBefore.end_lease (kept : NotBefore floor sched) (requestId : UUID) :
    NotBefore floor (sched.endLease requestId) := by
  constructor
  · exact kept.indexed
  · exact kept.waiting
  · intro other lease found
    simp only [endLease, Dict.get_pop] at found
    split_ifs at found
    exact kept.leased other lease found

variable {req : ProbeRequest} {cameraId : UUID}

variable (kept : NotBefore floor sched)

include kept

theorem NotBefore.reindex (cam : req.target.cameraId = cameraId)
    (late : floor cameraId req.requestedAt) :
    NotBefore floor (sched.reindex cameraId req) := by
  constructor
  · intro other held found
    simp only [ProbeScheduler.reindex, Dict.get_set] at found
    split_ifs at found with here
    · cases found
      rw [here]
      exact ⟨cam, late⟩
    · exact kept.indexed other held found
  · exact kept.waiting
  · exact kept.leased

theorem NotBefore.set_pending (priority : ProbePriority)
    {queue : List ProbeRequest} (late : ∀ req ∈ queue, floor req.target.cameraId req.requestedAt) :
    NotBefore floor (sched.setPending priority queue) := by
  constructor
  · exact kept.indexed
  · intro other req mem
    by_cases here : other = priority
    · simp only [here, setPending, Function.update_self] at mem
      exact late req mem
    · simp only [setPending, Function.update_of_ne here] at mem
      exact kept.waiting other req mem
  · exact kept.leased

theorem NotBefore.append_pending (priority : ProbePriority)
    (late : floor req.target.cameraId req.requestedAt) :
    NotBefore floor (sched.setPending priority (sched.pending priority ++ [req])) := by
  apply kept.set_pending
  intro queued mem
  rcases mem_append.mp mem with old | new
  · exact kept.waiting priority queued old
  · rw [mem_singleton.mp new]
    exact late

theorem NotBefore.erase_pending (priority : ProbePriority) (req : ProbeRequest) :
    NotBefore floor
      (sched.setPending priority ((sched.pending priority).erase req)) := by
  apply kept.set_pending
  intro queued mem
  exact kept.waiting priority queued (mem_of_mem_erase mem)

theorem NotBefore.requeue (cam : req.target.cameraId = cameraId)
    (late : floor cameraId req.requestedAt) :
    NotBefore floor (sched.requeue cameraId req) := by
  have indexed := kept.reindex cam late
  rw [← cam] at late
  exact indexed.append_pending req.priority late

theorem NotBefore.expire_lease (now : Datetime)
    (item : UUID × ProbeLease) : NotBefore floor (expireLease cfg now item sched).2 := by
  rcases item with ⟨requestId, lease⟩
  have ended := kept.end_lease requestId
  unfold expireLease
  dsimp only
  by_cases live : lease.leaseExpiresAt > now
  · rw [if_pos live]
    exact kept
  rw [if_neg live]
  cases indexed : (sched.endLease requestId).requestsByCamera.get lease.target.cameraId with
  | none => exact ended
  | some req =>
    dsimp only
    by_cases other : req.requestId ≠ requestId
    · rw [if_pos other]
      exact ended
    rw [if_neg other]
    by_cases final : lease.attempt ≥ cfg.maxAttempts ∨ now + cfg.retryDelay ≥ req.deadlineAt
    · rw [if_pos final]
      exact ended.forget _ _
    rw [if_neg final]
    cases built : ProbeRequest.build req.requestId req.target req.method
        req.priority req.requestedAt req.deadlineAt (now + cfg.retryDelay) with
    | error err => exact ended
    | ok retried =>
      have fields := build_request_ok built
      have late := ended.indexed _ _ indexed
      apply ended.requeue
      · rw [fields.2.1]
        exact late.1
      · rw [fields.2.2.2.2.1]
        exact late.2

theorem NotBefore.expire_active (cfg : ProbeSchedulerConfig) (now : Datetime) :
    NotBefore floor (expireActive cfg now sched).2 := by
  apply Raising.for_each_keeps _ kept
  intro item st stateKept
  exact stateKept.expire_lease now item

theorem NotBefore.drop_expired (now : Datetime) (queue retained : List ProbeRequest)
    (late : ∀ req ∈ retained ++ queue, floor req.target.cameraId req.requestedAt) :
    NotBefore floor (dropExpired now queue (retained, sched)).2 ∧
      ∀ req ∈ (dropExpired now queue (retained, sched)).1,
        floor req.target.cameraId req.requestedAt := by
  induction queue generalizing retained sched with
  | nil =>
    rw [append_nil] at late
    exact ⟨kept, late⟩
  | cons req rest ih =>
    unfold dropExpired
    split_ifs
    · apply ih
      · exact (kept.forget _ req.requestId).containers rfl rfl rfl
      · intro queued mem
        apply late
        rcases mem_append.mp mem with inRetained | inRest
        · exact mem_append_left _ inRetained
        · exact mem_append_right _ (mem_cons_of_mem _ inRest)
    · apply ih kept
      rw [append_assoc]
      exact late

omit kept

theorem fold_priorities_keeps {State : Type} {inv : State → Prop}
    {body : State → ProbePriority → State}
    (step : ∀ st priority, inv st → inv (body st priority)) {st : State}
    (start : inv st) : inv (probePriorities.foldl body st) :=
  step _ _ (step _ _ (step _ _ start))

theorem NotBefore.drop_expired_pending (kept : NotBefore floor sched) (now : Datetime) :
    NotBefore floor (dropExpiredPending now sched) := by
  apply fold_priorities_keeps _ kept
  intro st priority stateKept
  have dropped := stateKept.drop_expired now _ [] (stateKept.waiting priority)
  exact dropped.1.set_pending priority dropped.2

variable {targets : Dict UUID ProbeTarget}

theorem NotBefore.refresh_queue
    (own : OwnTargets targets) (queue : List ProbeRequest) (loop : Refreshing)
    (kept : NotBefore floor loop.scheduler)
    (late : ∀ req ∈ loop.retained ++ queue, floor req.target.cameraId req.requestedAt) :
    NotBefore floor (refreshQueue targets queue loop).scheduler ∧
      ∀ req ∈ (refreshQueue targets queue loop).retained,
        floor req.target.cameraId req.requestedAt := by
  induction queue generalizing loop with
  | nil =>
    rw [append_nil] at late
    exact ⟨kept, late⟩
  | cons req rest ih =>
    have isLate : floor req.target.cameraId req.requestedAt :=
      late req (mem_append_right _ mem_cons_self)
    have others : ∀ queued ∈ loop.retained ++ rest,
        floor queued.target.cameraId queued.requestedAt := by
      intro queued mem
      apply late
      rcases mem_append.mp mem with inRetained | inRest
      · exact mem_append_left _ inRetained
      · exact mem_append_right _ (mem_cons_of_mem _ inRest)
    have rejected : NotBefore floor (loop.scheduler.rejectPending req) :=
      (kept.forget _ req.requestId).containers rfl rfl rfl
    unfold refreshQueue
    cases found : targets.get req.target.cameraId with
    | none =>
      apply ih { loop with retained := loop.retained ++ [req] } kept
      rw [append_assoc]
      exact late
    | some cur =>
      have cam : cur.cameraId = req.target.cameraId := own found
      dsimp only
      split_ifs
      · exact ih { loop with scheduler := _ } rejected others
      · cases requireProbeEligible cur req.method with
        | error err => exact ih { loop with scheduler := _ } rejected others
        | ok value =>
          apply ih
          · have sameLate : floor cur.cameraId req.requestedAt := by
              rw [cam]
              exact isLate
            exact NotBefore.reindex kept rfl sameLate
          · intro queued mem
            rw [append_assoc] at mem
            rcases mem_append.mp mem with inRetained | inRest
            · exact others queued (mem_append_left _ inRetained)
            · rcases mem_cons.mp inRest with isRefreshed | inRest
              · rw [isRefreshed]
                show floor cur.cameraId req.requestedAt
                rw [cam]
                exact isLate
              · exact others queued (mem_append_right _ inRest)

theorem NotBefore.refresh_pending_targets (kept : NotBefore floor sched)
    (own : OwnTargets targets) :
    NotBefore floor (refreshPendingTargets targets sched).2 := by
  let inv (st : List UUID × ProbeScheduler) : Prop := NotBefore floor st.2
  have start : inv ([], sched) := kept
  apply fold_priorities_keeps _ start
  intro st priority stateKept
  have refreshed := NotBefore.refresh_queue own (st.2.pending priority)
    { retained := [], admitted := st.1, scheduler := st.2 } stateKept
    (stateKept.waiting priority)
  exact refreshed.1.set_pending priority refreshed.2

variable {target : ProbeTarget}

theorem NotBefore.promote_request (kept : NotBefore floor sched) {cur : ProbeRequest}
    (indexed : sched.requestsByCamera.get target.cameraId = some cur)
    (priority : ProbePriority) (deadlineAt : Datetime) :
    NotBefore floor (promote cur target priority deadlineAt sched).2 := by
  have late := kept.indexed _ _ indexed
  unfold promote
  generalize (if cur.priority.rank < priority.rank then priority else cur.priority) =
    promotedPriority
  by_cases same : promotedPriority = cur.priority ∧ min cur.deadlineAt deadlineAt = cur.deadlineAt
  · rw [if_pos same]
    exact kept
  rw [if_neg same]
  cases built : ProbeRequest.build cur.requestId target cur.method promotedPriority
      cur.requestedAt (min cur.deadlineAt deadlineAt) cur.availableAt with
  | error err => exact kept
  | ok promoted =>
    have fields := build_request_ok built
    have cam : promoted.target.cameraId = target.cameraId := by
      rw [fields.2.1]
    have isLate : floor target.cameraId promoted.requestedAt := by
      rw [fields.2.2.2.2.1]
      exact late.2
    have queued : floor promoted.target.cameraId promoted.requestedAt := by
      rw [cam]
      exact isLate
    dsimp only
    by_cases moves : promotedPriority ≠ cur.priority
    · rw [if_pos moves]
      unfold removeRequest
      by_cases mem : cur ∈ sched.pending cur.priority
      · rw [if_pos mem]
        have removed := kept.erase_pending cur.priority cur
        exact (removed.append_pending _ queued).reindex cam isLate
      · rw [if_neg mem]
        exact kept
    · rw [if_neg moves]
      by_cases mem : cur ∈ sched.pending cur.priority
      · rw [if_pos mem]
        have replaced := kept.set_pending cur.priority
          (fun req (isSet : req ∈ (sched.pending cur.priority).set
              ((sched.pending cur.priority).idxOf cur) promoted) => by
            rcases mem_or_eq_of_mem_set isSet with old | new
            · exact kept.waiting cur.priority req old
            · rw [new]
              exact queued)
        exact replaced.reindex cam isLate
      · rw [if_neg mem]
        exact kept

theorem NotBefore.accept_new (kept : NotBefore floor sched)
    {since : Datetime} (late : floor target.cameraId since) (method : ProbeMethod)
    (priority : ProbePriority) (deadlineAt : Datetime) (requestId : UUID4) :
    NotBefore floor
      (acceptNew cfg target method priority since deadlineAt requestId sched).2 := by
  unfold acceptNew
  split_ifs
  · exact kept.containers rfl rfl rfl
  · cases built : ProbeRequest.build requestId.val target method priority since deadlineAt
        since with
    | error err => exact kept
    | ok req =>
      have fields := build_request_ok built
      have requeued : NotBefore floor (sched.requeue target.cameraId req) := by
        apply kept.requeue
        · rw [fields.2.1]
        · rw [fields.2.2.2.2.1]
          exact late
      exact requeued.containers rfl rfl rfl

theorem NotBefore.submit_request (kept : NotBefore floor sched)
    {since : Datetime} (late : floor target.cameraId since) (method : ProbeMethod)
    (priority : ProbePriority) (deadlineAt : Datetime) (requestId : UUID4) :
    NotBefore floor
      (submit cfg target method priority since deadlineAt requestId sched).2 := by
  unfold submit
  cases requireProbeEligible target method with
  | error err => exact kept
  | ok value =>
    by_cases window : deadlineAt ≤ since ∨ deadlineAt - since > timedeltaSeconds 86400
    · rw [if_pos window]
      exact kept
    rw [if_neg window]
    have expired := kept.expire_active cfg since
    cases ran : expireActive cfg since sched with
    | mk out post =>
      rw [ran] at expired
      cases out with
      | error err => exact expired
      | ok value =>
        have dropped := expired.drop_expired_pending since
        dsimp only
        cases indexed : (dropExpiredPending since post).requestsByCamera.get target.cameraId with
        | none => exact dropped.accept_new late method priority deadlineAt requestId
        | some cur =>
          dsimp only
          split_ifs
          · exact dropped
          · exact dropped.promote_request indexed priority deadlineAt
          · exact dropped.containers rfl rfl rfl

theorem NotBefore.lease_request (lasting : Lasting floor) (kept : NotBefore floor sched)
    (cfg : ProbeSchedulerConfig) {now : Datetime} {priority : ProbePriority}
    (mem : req ∈ sched.pending priority) (available : req.availableAt ≤ now)
    (leaseToken : UUID4) :
    NotBefore floor (leaseRequest cfg now req leaseToken sched).2 := by
  have requested : req.requestedAt ≤ now := req.windowValid.1.trans available
  have late : floor req.target.cameraId now :=
    lasting _ _ _ (kept.waiting priority req mem) requested
  unfold leaseRequest
  unfold removeRequest
  split_ifs
  · have removed := kept.erase_pending req.priority req
    dsimp only
    split
    · exact removed
    · split
      · exact removed.containers rfl rfl rfl
      · rename_i lease built
        unfold ProbeLease.build at built
        split_ifs at built
        cases built
        constructor
        · exact removed.indexed
        · exact removed.waiting
        · intro other held found
          rw [Dict.get_set] at found
          split_ifs at found
          · cases found
            exact late
          · exact removed.leased other held found
  · exact kept

theorem NotBefore.claim_loop (lasting : Lasting floor) {now : Datetime} {admitted : List UUID}
    {leaseTokens : Nat → UUID4} {turns : Nat} {leases : List ProbeLease}
    (kept : NotBefore floor sched) :
    NotBefore floor (claimLoop cfg now admitted leaseTokens turns leases sched).2 := by
  induction turns generalizing leases sched with
  | zero => exact kept
  | succ turns ih =>
    unfold claimLoop
    split_ifs
    · cases search : nextEligibleRequest cfg now admitted sched with
      | mk found fairIndex =>
        cases found with
        | none => exact kept.containers rfl rfl rfl
        | some req =>
          rcases next_eligible_request_mem search with ⟨priority, mem, isEligible⟩
          simp only [eligible, decide_eq_true_eq] at isEligible
          have indexed : NotBefore floor { sched with fairIndex } :=
            kept.containers rfl rfl rfl
          have leased := NotBefore.lease_request lasting indexed cfg mem isEligible.2.1
            (leaseTokens leases.length)
          dsimp only
          cases turn : leaseRequest cfg now req (leaseTokens leases.length)
              { sched with fairIndex } with
          | mk out post =>
            rw [turn] at leased
            cases out with
            | error err => exact leased
            | ok lease => exact ih leased
    · exact kept

theorem NotBefore.claim_available (lasting : Lasting floor) (kept : NotBefore floor sched)
    (now : Datetime) (targets : Dict UUID ProbeTarget) (leaseTokens : Nat → UUID4) :
    NotBefore floor (claimAvailable cfg now targets leaseTokens sched).2 := by
  unfold claimAvailable
  by_cases batch : targets.length > cfg.queueLimit ∨
      targets.items.any (fun item => decide (item.1 ≠ item.2.cameraId)) = true
  · rw [if_pos batch]
    exact kept
  rw [if_neg batch]
  have own : OwnTargets targets := own_targets_of_batch (not_or.mp batch).2
  have expired := kept.expire_active cfg now
  cases ran : expireActive cfg now sched with
  | mk out post =>
    rw [ran] at expired
    cases out with
    | error err => exact expired
    | ok value =>
      have refreshed := (expired.drop_expired_pending now).refresh_pending_targets own
      exact refreshed.claim_loop lasting

theorem NotBefore.release_lease (kept : NotBefore floor sched) (lease : ProbeLease) :
    NotBefore floor (sched.release lease) := by
  have ended := kept.end_lease lease.requestId
  exact (ended.forget lease.target.cameraId lease.requestId).containers rfl rfl rfl

theorem NotBefore.cancel_lease (kept : NotBefore floor sched) (lease : ProbeLease) :
    NotBefore floor (cancel lease sched).2 := by
  unfold cancel
  split_ifs
  · exact kept
  · exact (kept.release_lease lease).containers rfl rfl rfl

/-- Nothing of the camera is outstanding. -/
structure Clear (cameraId : UUID) (sched : ProbeScheduler) : Prop where
  indexed : sched.requestsByCamera.get cameraId = none
  waiting : ∀ priority, ∀ req ∈ sched.pending priority, req.target.cameraId ≠ cameraId
  leased : ∀ requestId lease, sched.active.get requestId = some lease →
    lease.target.cameraId ≠ cameraId

theorem NotBefore.raise_floor {raised : UUID → Datetime → Prop}
    (kept : NotBefore floor sched) (clear : Clear cameraId sched)
    (others : ∀ other time, other ≠ cameraId → floor other time → raised other time) :
    NotBefore raised sched := by
  constructor
  · intro other req found
    have differ : other ≠ cameraId := by
      intro same
      rw [same, clear.indexed] at found
      cases found
    have old := kept.indexed other req found
    exact ⟨old.1, others other _ differ old.2⟩
  · intro priority req mem
    exact others _ _ (clear.waiting priority req mem) (kept.waiting priority req mem)
  · intro requestId lease found
    exact others _ _ (clear.leased requestId lease found) (kept.leased requestId lease found)

theorem Represents.clear_of_empty {board : Board}
    (represents : Represents cfg made board sched) (empty : board cameraId = none) :
    Clear cameraId sched := by
  constructor
  · rw [represents.indexes, empty]
    rfl
  · intro priority req mem same
    have waits := (represents.queues.waits mem).2
    rw [same, empty] at waits
    cases waits
  · intro requestId lease found same
    rcases represents.lease_on_board found with ⟨req, onBoard, _⟩
    rw [same, empty] at onBoard
    cases onBoard

theorem Sound.complete_ok (sound : Sound cfg made sched) (kept : NotBefore floor sched)
    (lasting : Lasting floor) {lease : ProbeLease} {res : ProbeExecutionResult}
    {observationId : UUID4} {obs : ProbeObservation}
    (completed : complete lease res observationId sched = (.ok obs, post)) :
    obs.target = lease.target ∧ obs.completedAt = res.completedAt ∧
      floor lease.target.cameraId obs.completedAt ∧ NotBefore floor post ∧
      Clear lease.target.cameraId post := by
  unfold complete at completed
  by_cases refused : sched.active.get lease.requestId ≠ some lease ∨
      res.completedAt < lease.startedAt ∨ res.completedAt > lease.leaseExpiresAt
  · rw [if_pos refused] at completed
    cases completed
  rw [if_neg refused] at completed
  by_cases missing : sched.leaseIsOutstanding lease = false
  · rw [if_pos missing] at completed
    cases completed
  rw [if_neg missing] at completed
  have held := not_not.mp (not_or.mp refused).1
  have inTime := not_lt.mp (not_or.mp (not_or.mp refused).2).1
  rcases sound.represented with ⟨board, represents⟩
  rcases represents.lease_on_board held with ⟨req, found, isOwner, _⟩
  have released := represents.release_lease found
  rw [isOwner] at released
  have built := (Prod.mk.inj completed).1
  have isAfter := (Prod.mk.inj completed).2
  unfold ProbeObservation.build at built
  split_ifs at built
  cases built
  refine ⟨rfl, rfl, lasting _ _ _ (kept.leased _ _ held) inTime, ?_, ?_⟩
  · rw [← isAfter]
    exact (kept.release_lease lease).containers rfl rfl rfl
  · rw [← isAfter]
    have stillReleased : Represents cfg made _ { sched.release lease with
        completedTotal := (sched.release lease).completedTotal + 1 } :=
      released.containers rfl rfl rfl rfl
    exact stillReleased.clear_of_empty (Function.update_self _ _ _)

theorem complete_observation_id {lease : ProbeLease} {res : ProbeExecutionResult}
    {observationId : UUID4} {obs : ProbeObservation}
    (completed : complete lease res observationId sched = (.ok obs, post)) :
    obs.observationId = observationId.val := by
  unfold complete at completed
  split at completed
  · cases completed
  split at completed
  · cases completed
  · have built := (Prod.mk.inj completed).1
    unfold ProbeObservation.build at built
    split_ifs at built
    cases built
    rfl

theorem NotBefore.complete_lease (kept : NotBefore floor sched) (lease : ProbeLease)
    (res : ProbeExecutionResult) (observationId : UUID4) :
    NotBefore floor (complete lease res observationId sched).2 := by
  unfold complete
  split_ifs
  · exact kept
  · exact kept
  · exact (kept.release_lease lease).containers rfl rfl rfl

end ProbeScheduler

end RtspProxy.Probes
