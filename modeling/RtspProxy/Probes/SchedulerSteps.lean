import RtspProxy.Probes.Board

/-!
# What each scheduler operation does to the board

`Represents` ties the four containers to one board, `WithinLimits` states the
budgets. Each lemma takes one operation of the scheduler, shows that none of its
constructor calls and removals raises where it starts from a represented board,
and gives the board it leaves.
-/

namespace RtspProxy.Probes

open Nodes Lib Function List Dict
open ProbeRequest (build)

namespace ProbeScheduler

structure Represents (cfg : ProbeSchedulerConfig) (made : UUID → Int) (board : Board)
    (sched : ProbeScheduler) : Prop where
  wellFormed : board.WellFormed cfg made
  indexes : board.Indexes sched.requestsByCamera
  queues : board.Queues sched.pending
  leases : board.Leases sched.active
  counts : board.Counts made sched.attempts

structure WithinLimits (cfg : ProbeSchedulerConfig) (sched : ProbeScheduler) : Prop where
  active : sched.active.length ≤ cfg.globalLimit
  node : ∀ nodeId, sched.activeNode nodeId ≤ cfg.perNodeLimit
  site : ∀ siteKey, sched.activeSite siteKey ≤ cfg.perSiteLimit
  method : ∀ method, sched.activeMethod method ≤ cfg.methodLimit method
  queue : sched.requestsByCamera.length ≤ cfg.queueLimit

/-- Every request of `after` was a request of `before`, perhaps with other data. -/
def SameRequests (pre post : Dict UUID ProbeRequest) : Prop :=
  ∀ cameraId req, post.get cameraId = some req →
    ∃ other held, pre.get other = some held ∧ held.requestId = req.requestId

theorem same_requests_pop (requests : Dict UUID ProbeRequest) (cameraId : UUID) :
    SameRequests requests (requests.pop cameraId) := by
  intro other req found
  rw [get_pop] at found
  split_ifs at found
  exact ⟨other, req, found, rfl⟩

variable {cameraId : UUID}

theorem same_requests_set {requests : Dict UUID ProbeRequest}
    {held rewritten : ProbeRequest} (found : requests.get cameraId = some held)
    (sameId : rewritten.requestId = held.requestId) :
    SameRequests requests (requests.set cameraId rewritten) := by
  intro other req atOther
  rw [get_set] at atOther
  split_ifs at atOther with here
  · rw [← Option.some.inj atOther]
    exact ⟨cameraId, held, found, sameId.symm⟩
  · exact ⟨other, req, atOther, rfl⟩

/-- No lease and no outstanding request was added. -/
structure Shrinks (pre post : ProbeScheduler) : Prop where
  active : post.active.values.Sublist pre.active.values
  outstanding : post.requestsByCamera.length ≤ pre.requestsByCamera.length
  requests : SameRequests pre.requestsByCamera post.requestsByCamera

variable {cfg : ProbeSchedulerConfig} {made : UUID → Int} {board : Board}
  {sched : ProbeScheduler}

theorem Shrinks.refl (sched : ProbeScheduler) : Shrinks sched sched :=
  ⟨Sublist.refl _, le_rfl, fun _ _ found => ⟨_, _, found, rfl⟩⟩

theorem Shrinks.trans {first second third : ProbeScheduler} (left : Shrinks first second)
    (right : Shrinks second third) : Shrinks first third := by
  refine ⟨right.active.trans left.active, right.outstanding.trans left.outstanding, ?_⟩
  intro cameraId req found
  rcases right.requests _ _ found with ⟨_, middle, atMiddle, sameId⟩
  rcases left.requests _ _ atMiddle with ⟨other, held, atOther, sameAgain⟩
  exact ⟨other, held, atOther, sameAgain.trans sameId⟩

variable {post : ProbeScheduler}

theorem WithinLimits.shrink (limits : WithinLimits cfg sched)
    (shrinks : Shrinks sched post) : WithinLimits cfg post := by
  constructor
  · rw [← length_values]
    apply shrinks.active.length_le.trans
    rw [length_values]
    exact limits.active
  · intro nodeId
    exact (shrinks.active.countP_le).trans (limits.node nodeId)
  · intro siteKey
    exact (shrinks.active.countP_le).trans (limits.site siteKey)
  · intro method
    exact (shrinks.active.countP_le).trans (limits.method method)
  · exact shrinks.outstanding.trans limits.queue

variable {priority : ProbePriority} {req : ProbeRequest} {requestId : UUID}

variable {since deadlineAt availableAt : Datetime}

theorem build_request_ok {target : ProbeTarget} {method : ProbeMethod}
    (built : build requestId target method priority since deadlineAt
      availableAt = .ok req) :
    req.requestId = requestId ∧ req.target = target ∧ req.method = method ∧
      req.priority = priority ∧ req.requestedAt = since ∧
      req.deadlineAt = deadlineAt ∧ req.availableAt = availableAt := by
  unfold build at built
  split_ifs at built
  cases built
  simp

theorem build_request_accepts {target : ProbeTarget} {method : ProbeMethod}
    {since deadlineAt availableAt : Datetime} (identity : requestId.isVersion4 = true)
    (waits : since ≤ availableAt) (inTime : availableAt < deadlineAt)
    (window : deadlineAt - since ≤ timedeltaSeconds 86400) :
    ∃ req, build requestId target method priority since deadlineAt
      availableAt = .ok req := by
  unfold build
  rw [dif_pos identity, dif_pos ⟨waits, inTime, window⟩]
  exact ⟨_, rfl⟩

theorem Represents.containers (represents : Represents cfg made board sched)
    (requests : post.requestsByCamera = sched.requestsByCamera)
    (pending : post.pending = sched.pending) (active : post.active = sched.active)
    (attempts : post.attempts = sched.attempts) : Represents cfg made board post := by
  constructor
  · exact represents.wellFormed
  · rw [requests]
    exact represents.indexes
  · rw [pending]
    exact represents.queues
  · rw [active]
    exact represents.leases
  · rw [attempts]
    exact represents.counts

variable {lease : ProbeLease}

variable (represents : Represents cfg made board sched)

include represents

theorem Represents.lease_on_board (held : sched.active.get requestId = some lease) :
    ∃ req, board lease.target.cameraId = some ⟨req, some lease⟩ ∧ req.requestId = requestId ∧
      sched.requestsByCamera.get lease.target.cameraId = some req := by
  rcases (represents.leases requestId lease).mp held with ⟨cameraId, req, found, isOwner⟩
  have cam := (represents.wellFormed.leased found).2.1
  rw [← cam] at found
  refine ⟨req, found, isOwner, ?_⟩
  rw [represents.indexes, found]
  rfl

theorem Represents.release_lease (found : board cameraId = some ⟨req, some lease⟩) :
    Represents cfg made (update board cameraId none)
      ((sched.endLease req.requestId).forget cameraId req.requestId) := by
  constructor
  · exact represents.wellFormed.clear cameraId
  · exact represents.indexes.pop cameraId
  · exact represents.queues.unwaiting (by simp [found]) (by simp)
  · exact represents.leases.pop represents.wellFormed found (by simp)
  · exact represents.counts.pop represents.wellFormed found

theorem Represents.retry_request {retried : ProbeRequest}
    (found : board cameraId = some ⟨req, some lease⟩) (sameId : retried.requestId = req.requestId)
    (sameTarget : retried.target = req.target) (left : made req.requestId < cfg.maxAttempts) :
    Represents cfg made (update board cameraId (some ⟨retried, none⟩))
      ((sched.endLease req.requestId).requeue cameraId retried) := by
  have cam : retried.target.cameraId = cameraId := by
    rw [sameTarget]
    exact represents.wellFormed.camera found
  constructor
  · apply represents.wellFormed.fill
    · exact cam
    · intro other held atOther isHeld
      exact represents.wellFormed.identified atOther found (isHeld.trans sameId)
    · intro _
      rw [sameId]
      exact left
    · intro _ isLease
      cases isLease
  · exact represents.indexes.set cameraId ⟨retried, none⟩
  · have free : ∀ other, board retried.target.cameraId ≠ some ⟨other, none⟩ := by
      simp [cam, found]
    have appended := represents.queues.append free
    rw [cam] at appended
    exact appended
  · exact represents.leases.pop represents.wellFormed found (by simp)
  · exact represents.counts.keep found sameId

omit represents

/-- What the loop of `_expire_active` keeps, with the leases it still has to look at. -/
def Expiring (cfg : ProbeSchedulerConfig) (made : UUID → Int) (start : ProbeScheduler)
    (remaining : List (UUID × ProbeLease)) (sched : ProbeScheduler) : Prop :=
  (∃ board, Represents cfg made board sched) ∧ Shrinks start sched ∧
    (remaining.map Prod.fst).Nodup ∧
    ∀ item ∈ remaining, sched.active.get item.1 = some item.2

variable {start : ProbeScheduler}

variable {rest : List (UUID × ProbeLease)}

theorem expiring_rest {item : UUID × ProbeLease}
    (expiring : Expiring cfg made start (item :: rest) sched)
    (represents : ∃ board, Represents cfg made board post) (shrinks : Shrinks sched post)
    (active : post.active = sched.active.pop item.1) :
    Expiring cfg made start rest post := by
  rcases expiring with ⟨_, shrunk, nodup, held⟩
  rw [map_cons, nodup_cons] at nodup
  refine ⟨represents, shrunk.trans shrinks, nodup.2, ?_⟩
  intro other mem
  have differ : other.1 ≠ item.1 := by
    intro same
    apply nodup.1
    rw [← same]
    exact mem_map_of_mem mem
  rw [active, get_pop, if_neg differ]
  exact held other (mem_cons_of_mem _ mem)

section ExpireLease

variable {now : Datetime} {lease : ProbeLease} {req : ProbeRequest}

theorem expire_lease_live (live : lease.leaseExpiresAt > now) (requestId : UUID) :
    expireLease cfg now (requestId, lease) sched = (.ok (), sched) := by
  simp only [expireLease, if_pos live]

theorem expire_lease_final (ended : ¬lease.leaseExpiresAt > now)
    (indexed : sched.requestsByCamera.get lease.target.cameraId = some req)
    (final : lease.attempt ≥ cfg.maxAttempts ∨ now + cfg.retryDelay ≥ req.deadlineAt) :
    expireLease cfg now (req.requestId, lease) sched =
      (.ok (), (sched.endLease req.requestId).forget lease.target.cameraId
        req.requestId) := by
  have stillIndexed : (sched.endLease req.requestId).requestsByCamera.get
      lease.target.cameraId = some req := indexed
  simp only [expireLease, if_neg ended, stillIndexed, ne_eq, not_true_eq_false, if_false,
    if_pos final]

theorem expire_lease_retry {retried : ProbeRequest} (ended : ¬lease.leaseExpiresAt > now)
    (indexed : sched.requestsByCamera.get lease.target.cameraId = some req)
    (again : ¬(lease.attempt ≥ cfg.maxAttempts ∨ now + cfg.retryDelay ≥ req.deadlineAt))
    (built : build req.requestId req.target req.method req.priority
      req.requestedAt req.deadlineAt (now + cfg.retryDelay) = .ok retried) :
    expireLease cfg now (req.requestId, lease) sched =
      (.ok (), (sched.endLease req.requestId).requeue lease.target.cameraId retried) := by
  have stillIndexed : (sched.endLease req.requestId).requestsByCamera.get
      lease.target.cameraId = some req := indexed
  simp only [expireLease, if_neg ended, stillIndexed, ne_eq, not_true_eq_false, if_false,
    if_neg again, built]

end ExpireLease

variable {now : Datetime}

theorem expire_lease_step {item : UUID × ProbeLease}
    (expiring : Expiring cfg made start (item :: rest) sched) :
    ∃ post, expireLease cfg now item sched = (.ok (), post) ∧
      Expiring cfg made start rest post := by
  rcases item with ⟨requestId, lease⟩
  have held : sched.active.get requestId = some lease :=
    expiring.2.2.2 (requestId, lease) mem_cons_self
  rcases expiring.1 with ⟨board, represents⟩
  by_cases live : lease.leaseExpiresAt > now
  · refine ⟨sched, expire_lease_live live requestId, ⟨board, represents⟩, expiring.2.1, ?_, ?_⟩
    · exact (nodup_cons.mp expiring.2.2.1).2
    · intro other mem
      exact expiring.2.2.2 other (mem_cons_of_mem _ mem)
  · rcases represents.lease_on_board held with ⟨req, found, isOwner, indexed⟩
    subst isOwner
    have ended : lease.leaseExpiresAt ≤ now := not_lt.mp live
    have isLeased := represents.wellFormed.leased found
    by_cases final : lease.attempt ≥ cfg.maxAttempts ∨ now + cfg.retryDelay ≥ req.deadlineAt
    · refine ⟨_, expire_lease_final live indexed final, ?_⟩
      apply expiring_rest expiring
      · exact ⟨_, represents.release_lease found⟩
      · exact ⟨values_pop_sublist _ _, length_pop_le _ _, same_requests_pop _ _⟩
      · rfl
    · have retriable := not_or.mp final
      have accepted : ∃ retried, build req.requestId req.target req.method
          req.priority req.requestedAt req.deadlineAt (now + cfg.retryDelay) = .ok retried := by
        apply build_request_accepts req.identityValid
        · have started := isLeased.2.2.2.1
          have later := lease.valid.2.2.1
          have delay : 0 ≤ cfg.retryDelay := le_trans (by decide) cfg.retryValid.1
          have bound : req.requestedAt ≤ now := started.trans (later.le.trans ended)
          exact bound.trans (le_add_of_nonneg_right delay)
        · exact not_le.mp retriable.2
        · exact req.windowValid.2.2
      rcases accepted with ⟨retried, built⟩
      have fields := build_request_ok built
      have present : sched.requestsByCamera.get lease.target.cameraId ≠ none := by
        rw [indexed]
        simp
      refine ⟨_, expire_lease_retry live indexed final built, ?_⟩
      apply expiring_rest expiring
      · have left : made req.requestId < cfg.maxAttempts := by
          rw [← isLeased.2.2.1]
          exact not_le.mp retriable.1
        exact ⟨_, represents.retry_request found fields.1 fields.2.1 left⟩
      · exact ⟨values_pop_sublist _ _, (length_set_of_present present).le,
          same_requests_set indexed fields.1⟩
      · rfl

theorem expire_active_ok (represents : Represents cfg made board sched) (now : Datetime) :
    ∃ post, expireActive cfg now sched = (.ok (), post) ∧
      (∃ left, Represents cfg made left post) ∧ Shrinks sched post := by
  have start : Expiring cfg made sched sched.active.items sched := by
    refine ⟨⟨board, represents⟩, Shrinks.refl sched, sched.active.distinct, ?_⟩
    intro item mem
    exact get_eq_some.mpr mem
  have step : ∀ item rest st, Expiring cfg made sched (item :: rest) st →
      ∃ post, expireLease cfg now item st = (.ok (), post) ∧
        Expiring cfg made sched rest post := by
    intro item rest st expiring
    exact expire_lease_step expiring
  rcases Raising.for_each_ok step start with ⟨post, ran, kept, shrinks, _⟩
  exact ⟨post, ran, kept, shrinks⟩

variable {pre post : List ProbeRequest}

/-- What the loops over one queue keep: the queue is what was retained and what is left. -/
theorem Represents.drop_request (represents : Represents cfg made board
      (sched.setPending priority (pre ++ req :: post))) :
    Represents cfg made (update board req.target.cameraId none)
      ((sched.forget req.target.cameraId req.requestId).setPending priority
        (pre ++ post)) := by
  have shape : (sched.setPending priority (pre ++ req :: post)).pending priority =
      pre ++ req :: post := by
    simp [setPending]
  have found : board req.target.cameraId = some ⟨req, none⟩ :=
    (represents.queues.waits (by rw [shape]; simp)).2
  constructor
  · exact represents.wellFormed.clear _
  · exact represents.indexes.pop _
  · have pending : ((sched.forget req.target.cameraId req.requestId).setPending priority
        (pre ++ post)).pending =
        update (sched.setPending priority (pre ++ req :: post)).pending priority
          (pre ++ post) := by
      simp only [setPending, forget, update_idem]
    rw [pending]
    exact represents.queues.remove shape (by simp)
  · exact represents.leases.unleased (by simp [found]) (by simp)
  · exact represents.counts.pop represents.wellFormed found

theorem Represents.rewrite_request {rewritten : ProbeRequest}
    (represents : Represents cfg made board
      (sched.setPending priority (pre ++ req :: post)))
    (sameId : rewritten.requestId = req.requestId)
    (sameCamera : rewritten.target.cameraId = req.target.cameraId)
    (samePriority : rewritten.priority = req.priority) :
    Represents cfg made
      (update board req.target.cameraId (some ⟨rewritten, none⟩))
      ((sched.reindex req.target.cameraId rewritten).setPending priority
        (pre ++ rewritten :: post)) := by
  have shape : (sched.setPending priority (pre ++ req :: post)).pending priority =
      pre ++ req :: post := by
    simp [setPending]
  have waits := represents.queues.waits (show req ∈ _ by rw [shape]; simp)
  have found := waits.2
  constructor
  · apply represents.wellFormed.fill
    · exact sameCamera
    · intro other held atOther isHeld
      exact represents.wellFormed.identified atOther found (isHeld.trans sameId)
    · intro _
      rw [sameId]
      exact represents.wellFormed.waiting found
    · intro _ isLease
      cases isLease
  · exact represents.indexes.set _ ⟨rewritten, none⟩
  · apply represents.queues.rewrite shape sameCamera
    intro queue
    have isPriority : rewritten.priority = priority := samePriority.trans waits.1
    by_cases here : queue = priority
    · rw [here]
      simp only [isPriority, setPending, update_self]
      rw [append_assoc]
      exact Perm.append_left pre (perm_append_singleton _ _)
    · simp [isPriority, setPending, reindex, update_of_ne here]
  · exact represents.leases.unleased (by simp [found]) (by simp)
  · exact represents.counts.keep found sameId

theorem set_pending_self (sched : ProbeScheduler) (priority : ProbePriority) :
    sched.setPending priority (sched.pending priority) = sched := by
  simp [setPending]

theorem drop_expired_spec {rest : List ProbeRequest} :
    ∀ {retained : List ProbeRequest} {board : Board} {sched : ProbeScheduler},
      Represents cfg made board (sched.setPending priority (retained ++ rest)) →
      ∃ kept post, dropExpired now rest (retained, sched) = (kept, post) ∧
        (∃ left, Represents cfg made left (post.setPending priority kept)) ∧
        Shrinks sched post ∧ post.pending = sched.pending ∧
        ∀ req ∈ kept, req ∈ retained ∨ now < req.deadlineAt := by
  induction rest with
  | nil =>
    intro retained board sched represents
    rw [append_nil] at represents
    exact ⟨retained, sched, rfl, ⟨board, represents⟩, Shrinks.refl _, rfl, fun _ => .inl⟩
  | cons req rest ih =>
    intro retained board sched represents
    by_cases expired : req.deadlineAt ≤ now
    · have dropped : Represents cfg made _
          ((sched.expirePending req).setPending priority (retained ++ rest)) :=
        represents.drop_request.containers rfl rfl rfl rfl
      have fewer : Shrinks sched (sched.expirePending req) :=
        ⟨Sublist.refl _, length_pop_le _ _, same_requests_pop _ _⟩
      rcases ih dropped with ⟨kept, post, ran, left, shrinks, pending, fresh⟩
      refine ⟨kept, post, ?_, left, ?_, pending, fresh⟩
      · simp only [dropExpired, if_pos expired]
        exact ran
      · exact fewer.trans shrinks
    · have assoc : retained ++ req :: rest = (retained ++ [req]) ++ rest := by simp
      rw [assoc] at represents
      rcases ih represents with ⟨kept, post, ran, left, shrinks, pending, fresh⟩
      refine ⟨kept, post, ?_, left, shrinks, pending, ?_⟩
      · simp only [dropExpired, if_neg expired]
        exact ran
      · intro other mem
        rcases fresh other mem with inRetained | inTime
        · rcases mem_append.mp inRetained with early | isRequest
          · exact .inl early
          · rw [mem_singleton.mp isRequest]
            exact .inr (not_le.mp expired)
        · exact .inr inTime

theorem drop_queue (represents : Represents cfg made board sched) (now : Datetime)
    (priority : ProbePriority) :
    ∃ kept post, dropExpired now (sched.pending priority) ([], sched) = (kept, post) ∧
      (∃ left, Represents cfg made left (post.setPending priority kept)) ∧
      Shrinks sched (post.setPending priority kept) ∧
      (∀ other ≠ priority, (post.setPending priority kept).pending other =
        sched.pending other) ∧
      ∀ req ∈ (post.setPending priority kept).pending priority, now < req.deadlineAt := by
  have start : Represents cfg made board
      (sched.setPending priority ([] ++ sched.pending priority)) := by
    rw [nil_append, set_pending_self]
    exact represents
  rcases drop_expired_spec start with ⟨kept, post, ran, left, shrinks, pending, fresh⟩
  refine ⟨kept, post, ran, left, ⟨shrinks.active, shrinks.outstanding, shrinks.requests⟩, ?_, ?_⟩
  · intro other differ
    simp [setPending, update_of_ne differ, pending]
  · intro req mem
    simp only [setPending, update_self] at mem
    rcases fresh req mem with none | inTime
    · cases none
    · exact inTime

theorem drop_expired_pending_ok (represents : Represents cfg made board sched)
    (now : Datetime) :
    (∃ left, Represents cfg made left (dropExpiredPending now sched)) ∧
      Shrinks sched (dropExpiredPending now sched) ∧
      ∀ priority, ∀ req ∈ (dropExpiredPending now sched).pending priority,
        now < req.deadlineAt := by
  rcases drop_queue represents now .manual with
    ⟨manual, first, ranManual, ⟨_, afterManual⟩, shrinksManual, othersManual, freshManual⟩
  rcases drop_queue afterManual now .confirmation with
    ⟨confirmation, second, ranConfirmation, ⟨_, afterConfirmation⟩, shrinksConfirmation,
      othersConfirmation, freshConfirmation⟩
  rcases drop_queue afterConfirmation now .routine with
    ⟨routine, third, ranRoutine, afterRoutine, shrinksRoutine, othersRoutine, freshRoutine⟩
  have ran : dropExpiredPending now sched = third.setPending .routine routine := by
    simp only [dropExpiredPending, probePriorities, foldl_cons, foldl_nil, ranManual,
      ranConfirmation, ranRoutine]
  rw [ran]
  refine ⟨afterRoutine, (shrinksManual.trans shrinksConfirmation).trans shrinksRoutine, ?_⟩
  intro priority req mem
  cases priority with
  | manual =>
    rw [othersRoutine .manual (by decide), othersConfirmation .manual (by decide)] at mem
    exact freshManual req mem
  | confirmation =>
    rw [othersRoutine .confirmation (by decide)] at mem
    exact freshConfirmation req mem
  | routine => exact freshRoutine req mem

def OwnTargets (targets : Dict UUID ProbeTarget) : Prop :=
  ∀ {cameraId target}, targets.get cameraId = some target → target.cameraId = cameraId

/-- What the loop over one queue of `_refresh_pending_targets` arrives at. -/
structure Refreshed (cfg : ProbeSchedulerConfig) (made : UUID → Int) (now : Datetime)
    (priority : ProbePriority) (start : ProbeScheduler) (post : Refreshing) : Prop where
  represents : ∃ board, Represents cfg made board
    (post.scheduler.setPending priority post.retained)
  shrinks : Shrinks start post.scheduler
  pending : post.scheduler.pending = start.pending
  fresh : ∀ req ∈ post.retained, now < req.deadlineAt

theorem Refreshed.from {next : ProbeScheduler}
    {post : Refreshing} (refreshed : Refreshed cfg made now priority next post)
    (shrinks : Shrinks start next) (pending : next.pending = start.pending) :
    Refreshed cfg made now priority start post :=
  ⟨refreshed.represents, shrinks.trans refreshed.shrinks, refreshed.pending.trans pending,
    refreshed.fresh⟩

theorem Represents.waiting_indexed (represents : Represents cfg made board sched)
    (mem : req ∈ sched.pending priority) :
    sched.requestsByCamera.get req.target.cameraId = some req := by
  rw [represents.indexes, (represents.queues.waits mem).2]
  rfl

section RefreshQueue

variable {targets : Dict UUID ProbeTarget} {req : ProbeRequest}
  {rest : List ProbeRequest} {loop : Refreshing}

theorem refresh_queue_absent (target : targets.get req.target.cameraId = none) :
    refreshQueue targets (req :: rest) loop =
      refreshQueue targets rest { loop with retained := loop.retained ++ [req] } := by
  simp only [refreshQueue, target]

theorem refresh_queue_reject {cur : ProbeTarget}
    (target : targets.get req.target.cameraId = some cur)
    (refused : sameProbeGeneration req.target cur = false ∨
      ∃ err, requireProbeEligible cur req.method = .error err) :
    refreshQueue targets (req :: rest) loop =
      refreshQueue targets rest { loop with scheduler := loop.scheduler.rejectPending req } := by
  by_cases changed : sameProbeGeneration req.target cur = false
  · simp only [refreshQueue, target, if_pos changed]
  · rcases refused with isChanged | ⟨err, ineligible⟩
    · exact absurd isChanged changed
    · simp only [refreshQueue, target, if_neg changed, ineligible]

theorem refresh_queue_keep {cur : ProbeTarget} (target : targets.get req.target.cameraId = some cur)
    (same : ¬sameProbeGeneration req.target cur = false)
    (eligibility : requireProbeEligible cur req.method = .ok ()) :
    refreshQueue targets (req :: rest) loop = refreshQueue targets rest
        { retained := loop.retained ++ [{ req with target := cur }]
          admitted := loop.admitted ++ [cur.cameraId]
          scheduler := loop.scheduler.reindex cur.cameraId
            { req with target := cur } } := by
  simp only [refreshQueue, target, if_neg same, eligibility]

end RefreshQueue

theorem append_cons_assoc (pre post : List ProbeRequest) (req : ProbeRequest) :
    pre ++ req :: post = (pre ++ [req]) ++ post := by
  simp

variable {targets : Dict UUID ProbeTarget}

theorem refresh_queue_spec (own : OwnTargets targets) {rest : List ProbeRequest} :
    ∀ {loop : Refreshing} {board : Board},
      Represents cfg made board (loop.scheduler.setPending priority (loop.retained ++ rest)) →
      (∀ req ∈ loop.retained ++ rest, now < req.deadlineAt) →
      Refreshed cfg made now priority loop.scheduler (refreshQueue targets rest loop) := by
  induction rest with
  | nil =>
    intro loop board represents fresh
    rw [append_nil] at represents fresh
    exact ⟨⟨board, represents⟩, Shrinks.refl _, rfl, fresh⟩
  | cons req rest ih =>
    intro loop board represents fresh
    have rejection : Refreshed cfg made now priority loop.scheduler
        (refreshQueue targets rest
          { loop with scheduler := loop.scheduler.rejectPending req }) := by
      have dropped : Represents cfg made _
          ((loop.scheduler.rejectPending req).setPending priority (loop.retained ++ rest)) :=
        represents.drop_request.containers rfl rfl rfl rfl
      have fewer : Shrinks loop.scheduler (loop.scheduler.rejectPending req) :=
        ⟨Sublist.refl _, length_pop_le _ _, same_requests_pop _ _⟩
      have freshRest : ∀ other ∈ loop.retained ++ rest, now < other.deadlineAt := by
        intro other mem
        apply fresh other
        simp only [mem_append, mem_cons] at mem ⊢
        rcases mem with inRetained | inRest
        · exact .inl inRetained
        · exact .inr (.inr inRest)
      exact Refreshed.from (@ih { loop with scheduler := loop.scheduler.rejectPending req } _
        dropped freshRest) fewer rfl
    cases target : targets.get req.target.cameraId with
    | none =>
      -- the camera is not in this batch: the request keeps its turn
      rw [append_cons_assoc] at represents fresh
      rw [refresh_queue_absent target]
      exact @ih { loop with retained := loop.retained ++ [req] } _ represents fresh
    | some cur =>
      by_cases changed : sameProbeGeneration req.target cur = false
      · rw [refresh_queue_reject target (.inl changed)]
        exact rejection
      · cases eligibility : requireProbeEligible cur req.method with
        | error err =>
          rw [refresh_queue_reject target (.inr ⟨err, eligibility⟩)]
          exact rejection
        | ok value =>
          rw [refresh_queue_keep target changed eligibility]
          have cam : cur.cameraId = req.target.cameraId := own target
          have mem : req ∈ (loop.scheduler.setPending priority
              (loop.retained ++ req :: rest)).pending priority := by
            simp [setPending]
          have indexed : loop.scheduler.requestsByCamera.get req.target.cameraId =
              some req := represents.waiting_indexed mem
          have rewritten : Represents cfg made _
              ((loop.scheduler.reindex req.target.cameraId
                { req with target := cur }).setPending priority
                (loop.retained ++ { req with target := cur } :: rest)) :=
            represents.rewrite_request rfl cam rfl
          rw [append_cons_assoc, ← cam] at rewritten
          have freshAfter : ∀ other ∈
              (loop.retained ++ [{ req with target := cur }]) ++ rest,
              now < other.deadlineAt := by
            intro other isMember
            simp only [mem_append, mem_singleton] at isMember
            rcases isMember with (inRetained | isRefreshed) | inRest
            · exact fresh other (mem_append_left _ inRetained)
            · rw [isRefreshed]
              exact fresh req (by simp)
            · exact fresh other (mem_append_right _ (mem_cons_of_mem _ inRest))
          have same : Shrinks loop.scheduler (loop.scheduler.reindex cur.cameraId
              { req with target := cur }) := by
            have present : loop.scheduler.requestsByCamera.get req.target.cameraId ≠
                none := by
              simp [indexed]
            rw [cam]
            exact ⟨Sublist.refl _, (length_set_of_present present).le,
              same_requests_set indexed rfl⟩
          exact Refreshed.from (@ih
            { retained := loop.retained ++ [{ req with target := cur }]
              admitted := loop.admitted ++ [cur.cameraId]
              scheduler := loop.scheduler.reindex cur.cameraId
                { req with target := cur } } _ rewritten freshAfter) same rfl

theorem refresh_queue_ok (own : OwnTargets targets) (represents : Represents cfg made board sched)
    (fresh : ∀ priority, ∀ req ∈ sched.pending priority, now < req.deadlineAt)
    (priority : ProbePriority) (admitted : List UUID) :
    ∃ post, refreshQueue targets (sched.pending priority)
        { retained := [], admitted, scheduler := sched } = post ∧
      (∃ left, Represents cfg made left (post.scheduler.setPending priority post.retained)) ∧
      Shrinks sched (post.scheduler.setPending priority post.retained) ∧
      ∀ other, ∀ req ∈ (post.scheduler.setPending priority post.retained).pending other,
        now < req.deadlineAt := by
  have start : Represents cfg made board
      (sched.setPending priority ([] ++ sched.pending priority)) := by
    rw [nil_append, set_pending_self]
    exact represents
  have refreshed : Refreshed cfg made now priority sched
      (refreshQueue targets (sched.pending priority)
        { retained := [], admitted, scheduler := sched }) :=
    @refresh_queue_spec _ _ _ _ _ own _ { retained := [], admitted, scheduler := sched } _ start
      (fresh priority)
  refine ⟨_, rfl, refreshed.represents, ⟨refreshed.shrinks.active, refreshed.shrinks.outstanding,
    refreshed.shrinks.requests⟩, ?_⟩
  intro other req mem
  by_cases here : other = priority
  · rw [here] at mem
    simp only [setPending, update_self] at mem
    exact refreshed.fresh req mem
  · simp only [setPending, update_of_ne here, refreshed.pending] at mem
    exact fresh other req mem

theorem refresh_pending_targets_ok (own : OwnTargets targets)
    (represents : Represents cfg made board sched)
    (fresh : ∀ priority, ∀ req ∈ sched.pending priority, now < req.deadlineAt) :
    ∃ admitted post, refreshPendingTargets targets sched = (admitted, post) ∧
      (∃ left, Represents cfg made left post) ∧ Shrinks sched post ∧
      ∀ priority, ∀ req ∈ post.pending priority, now < req.deadlineAt := by
  rcases refresh_queue_ok own represents fresh .manual [] with
    ⟨manual, ranManual, ⟨_, afterManual⟩, shrinksManual, freshManual⟩
  rcases refresh_queue_ok own afterManual freshManual .confirmation manual.admitted with
    ⟨confirmation, ranConfirmation, ⟨_, afterConfirmation⟩, shrinksConfirmation, freshConfirmation⟩
  rcases refresh_queue_ok own afterConfirmation freshConfirmation .routine confirmation.admitted with
    ⟨routine, ranRoutine, afterRoutine, shrinksRoutine, freshRoutine⟩
  refine ⟨routine.admitted, _, ?_, afterRoutine,
    (shrinksManual.trans shrinksConfirmation).trans shrinksRoutine, freshRoutine⟩
  simp only [refreshPendingTargets, probePriorities, foldl_cons, foldl_nil, ranManual,
    ranConfirmation, ranRoutine]

end ProbeScheduler

end RtspProxy.Probes
