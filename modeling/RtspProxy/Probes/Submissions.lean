import RtspProxy.Probes.SchedulerRuns

/-!
# Submitting a probe

What `submit` does in any reachable scheduler. It first expires leases and
requests, `settled` below. Then it succeeds, or it refuses the request and only
counts the refusal. A waiting request of the same camera is merged with the new
one by `promote`, which rebuilds the record: this raises exactly when the request
waits for a retry that comes no earlier than the new deadline.
-/

namespace RtspProxy.Probes

open Nodes Lib

namespace ProbeScheduler

variable {cfg : ProbeSchedulerConfig} {made : UUID → Int} {sched : ProbeScheduler}
  {target : ProbeTarget} {method : ProbeMethod} {requestedAt deadlineAt : Datetime}

/-- The scheduler as expiring the leases and the waiting requests leaves it. -/
def settled (cfg : ProbeSchedulerConfig) (now : Datetime) (sched : ProbeScheduler) :
    ProbeScheduler :=
  dropExpiredPending now (expireActive cfg now sched).2

/-- The submission succeeded, or was refused and only counted. -/
def Orderly (settled : ProbeScheduler)
    (out : Except ProbeError ProbeRequest × ProbeScheduler) : Prop :=
  match out.1 with
  | .ok _ => True
  | .error error =>
    (error = .probeQueueFull ∨ error = .probeSingleFlightConflict) ∧
      out.2 = { settled with rejectedTotal := settled.rejectedTotal + 1 }

/-- The request the submission would be merged with waits for a retry at its deadline or later. -/
def RetriesTooLate (settled : ProbeScheduler) (target : ProbeTarget) (method : ProbeMethod)
    (deadlineAt : Datetime) : Prop :=
  ∃ cur, settled.requestsByCamera.get target.cameraId = some cur ∧
    sameProbeGeneration cur.target target = true ∧ cur.method = method ∧
    settled.active.get cur.requestId = none ∧ deadlineAt ≤ cur.availableAt

theorem promote_orderly_iff (sound : Sound cfg made sched) {cur : ProbeRequest}
    (indexed : sched.requestsByCamera.get target.cameraId = some cur)
    (waiting : sched.active.get cur.requestId = none) (priority : ProbePriority)
    (deadlineAt : Datetime) :
    Orderly sched (promote cur target priority deadlineAt sched) ↔
      cur.availableAt < deadlineAt := by
  obtain ⟨board, represents⟩ := sound.represented
  have mem := (represents.indexed_waits indexed waiting).2
  obtain ⟨starts, ends, lasts⟩ := cur.windowValid
  unfold promote
  generalize (if cur.priority.rank < priority.rank then priority else cur.priority) =
    promotedPriority
  by_cases unchanged : promotedPriority = cur.priority ∧
      min cur.deadlineAt deadlineAt = cur.deadlineAt
  · rw [if_pos unchanged]
    exact ⟨fun _ => lt_of_lt_of_le ends (min_eq_left_iff.mp unchanged.2), fun _ => trivial⟩
  · rw [if_neg unchanged]
    by_cases inTime : cur.availableAt < deadlineAt
    · obtain ⟨promoted, built⟩ := @build_request_accepts promotedPriority cur.requestId target
        cur.method _ (min cur.deadlineAt deadlineAt) _ cur.identityValid starts
        (lt_min ends inTime) ((Int.sub_le_sub_right (min_le_left _ _) _).trans lasts)
      rw [built]
      refine ⟨fun _ => inTime, fun _ => ?_⟩
      by_cases moves : promotedPriority ≠ cur.priority
      · obtain ⟨pre, post, _, removed⟩ := remove_request_ok mem
        simp only [if_pos moves, removed]
        trivial
      · simp only [if_neg moves, if_pos mem]
        trivial
    · have refused : ProbeRequest.build cur.requestId target cur.method promotedPriority
          cur.requestedAt (min cur.deadlineAt deadlineAt) cur.availableAt =
            .error (.valueError "probe_request_window_invalid") := by
        unfold ProbeRequest.build
        rw [dif_pos cur.identityValid, dif_neg]
        intro window
        exact inTime (lt_of_lt_of_le window.2.1 (min_le_right _ _))
      rw [refused]
      refine ⟨?_, fun early => absurd early inTime⟩
      rintro ⟨isQueueFull | isConflict, _⟩
      · cases isQueueFull
      · cases isConflict

theorem accept_new_orderly (priority : ProbePriority) (requestId : UUID4)
    (inTime : requestedAt < deadlineAt)
    (window : deadlineAt - requestedAt ≤ timedeltaSeconds 86400) :
    Orderly sched
      (acceptNew cfg target method priority requestedAt deadlineAt requestId sched) := by
  unfold acceptNew
  by_cases full : sched.requestsByCamera.length ≥ cfg.queueLimit
  · rw [if_pos full]
    exact ⟨.inl rfl, rfl⟩
  · obtain ⟨req, built⟩ := @build_request_accepts priority requestId.val target method
      _ _ _ requestId.property le_rfl inTime window
    rw [if_neg full, built]
    trivial

theorem Sound.submit_orderly_iff (sound : Sound cfg made sched) (priority : ProbePriority)
    (requestId : UUID4) (isEligible : requireProbeEligible target method = .ok ())
    (inTime : requestedAt < deadlineAt)
    (window : deadlineAt - requestedAt ≤ timedeltaSeconds 86400) :
    Orderly (settled cfg requestedAt sched)
        (submit cfg target method priority requestedAt deadlineAt requestId sched) ↔
      ¬RetriesTooLate (settled cfg requestedAt sched) target method deadlineAt := by
  obtain ⟨board, represents⟩ := sound.represented
  obtain ⟨expired, ranExpire, ⟨_, afterExpire⟩, firstShrink⟩ :=
    expire_active_ok represents requestedAt
  obtain ⟨afterDrop, secondShrink, _⟩ := drop_expired_pending_ok afterExpire requestedAt
  have isSettled : settled cfg requestedAt sched = dropExpiredPending requestedAt expired := by
    rw [settled, ranExpire]
  have settledSound : Sound cfg made (settled cfg requestedAt sched) := by
    rw [isSettled]
    exact ⟨afterDrop, sound.limits.shrink (firstShrink.trans secondShrink)⟩
  have valid : ¬(deadlineAt ≤ requestedAt ∨ deadlineAt - requestedAt > timedeltaSeconds 86400) :=
    not_or.mpr ⟨not_le.mpr inTime, not_lt.mpr window⟩
  unfold submit
  simp only [isEligible, if_neg valid, ranExpire, ← isSettled]
  cases indexed : (settled cfg requestedAt sched).requestsByCamera.get target.cameraId with
  | none =>
    refine ⟨?_, fun _ => accept_new_orderly priority requestId inTime window⟩
    rintro _ ⟨cur, found, _⟩
    rw [indexed] at found
    cases found
  | some cur =>
    have only {req : ProbeRequest}
        (found : (settled cfg requestedAt sched).requestsByCamera.get target.cameraId =
          some req) : req = cur :=
      Option.some.inj (found.symm.trans indexed)
    dsimp only
    by_cases same : sameProbeGeneration cur.target target = true ∧ cur.method = method
    · rw [if_pos same]
      by_cases leased : (settled cfg requestedAt sched).active.contains cur.requestId = true
      · rw [if_pos leased]
        refine ⟨?_, fun _ => trivial⟩
        rintro _ ⟨req, found, _, _, unleased, _⟩
        rw [only found] at unleased
        simp [Dict.contains, unleased] at leased
      · rw [if_neg leased]
        have waiting : (settled cfg requestedAt sched).active.get
            cur.requestId = none := by
          simpa [Dict.contains] using leased
        rw [promote_orderly_iff settledSound indexed waiting priority deadlineAt]
        constructor
        · rintro early ⟨req, found, _, _, _, late⟩
          rw [only found] at late
          exact absurd early (not_lt.mpr late)
        · intro none
          by_contra late
          exact none ⟨cur, indexed, same.1, same.2, waiting, not_lt.mp late⟩
    · rw [if_neg same]
      refine ⟨?_, fun _ => ⟨.inr rfl, rfl⟩⟩
      rintro _ ⟨req, found, generation, isMethod, _⟩
      rw [only found] at generation isMethod
      exact same ⟨generation, isMethod⟩

end ProbeScheduler

namespace ProbeSystem

open ProbeScheduler

/-- Whatever was called before: an eligible submission with a valid window succeeds or is refused
and counted, exactly when it does not meet a retry at its deadline or later. -/
theorem submit_succeeds_or_refuses {cfg : ProbeSchedulerConfig} {sys : ProbeSystem}
    (reached : Reachable cfg sys) (target : ProbeTarget) (method : ProbeMethod)
    (priority : ProbePriority) (requestedAt deadlineAt : Datetime) (requestId : UUID4)
    (isEligible : requireProbeEligible target method = .ok ()) (inTime : requestedAt < deadlineAt)
    (window : deadlineAt - requestedAt ≤ timedeltaSeconds 86400) :
    Orderly (settled cfg requestedAt sys.scheduler)
        (sys.scheduler.submit cfg target method priority requestedAt deadlineAt requestId) ↔
      ¬RetriesTooLate (settled cfg requestedAt sys.scheduler) target method deadlineAt :=
  (consistent_of_reachable reached).sound.submit_orderly_iff priority requestId isEligible inTime
    window

/-- A probe is requested and leased, and after its lease it waits for the retry at 25 seconds. -/
def retriedRun : ProbeSystem := (sampleOperations.take 3).foldl (apply sampleConfig) initial

theorem retried_run_reachable : Reachable sampleConfig retriedRun := by
  unfold retriedRun sampleOperations
  simp only [List.take_succ_cons, List.take_zero, List.foldl_cons, List.foldl_nil]
  refine .call _ (.call _ (.call _ .start ?_) ?_) ?_
  · exact List.not_mem_nil
  · trivial
  · trivial

/-- A submission at 21 seconds that is to end at 24 seconds is not refused: it fails. -/
theorem late_retry_breaks_submit :
    Reachable sampleConfig retriedRun ∧ requireProbeEligible sampleTarget .source = .ok () ∧
      (retriedRun.scheduler.submit sampleConfig sampleTarget .source .routine
        (timedeltaSeconds 21) (timedeltaSeconds 24) sampleToken).1 =
        .error (.valueError "probe_request_window_invalid") ∧
      ¬Orderly (settled sampleConfig (timedeltaSeconds 21) retriedRun.scheduler)
        (retriedRun.scheduler.submit sampleConfig sampleTarget .source .routine
          (timedeltaSeconds 21) (timedeltaSeconds 24) sampleToken) := by
  have failed : (retriedRun.scheduler.submit sampleConfig sampleTarget .source .routine
      (timedeltaSeconds 21) (timedeltaSeconds 24) sampleToken).1 =
        .error (.valueError "probe_request_window_invalid") := by
    decide +kernel
  refine ⟨retried_run_reachable, by decide +kernel, failed, ?_⟩
  unfold Orderly
  rw [failed]
  rintro ⟨isQueueFull | isConflict, _⟩
  · cases isQueueFull
  · cases isConflict

/-- With a deadline after the retry the requests are merged. -/
theorem submit_succeeds_or_refuses_merged :
    Orderly (settled sampleConfig (timedeltaSeconds 21) retriedRun.scheduler)
      (retriedRun.scheduler.submit sampleConfig sampleTarget .source .manual
        (timedeltaSeconds 21) (timedeltaSeconds 26) sampleToken) := by
  refine (submit_succeeds_or_refuses retried_run_reachable sampleTarget .source .manual
    (timedeltaSeconds 21) (timedeltaSeconds 26) sampleToken (by decide +kernel) (by decide)
    (by decide)).mpr ?_
  rintro ⟨cur, found, _, _, _, late⟩
  have isCurrent : cur.availableAt = timedeltaSeconds 25 := by
    have available : ((settled sampleConfig (timedeltaSeconds 21)
        retriedRun.scheduler).requestsByCamera.get sampleTarget.cameraId).map
          (fun req => req.availableAt) = some (timedeltaSeconds 25) := by
      decide +kernel
    rw [found] at available
    exact Option.some.inj available
  rw [isCurrent] at late
  revert late
  decide

end ProbeSystem

end RtspProxy.Probes
