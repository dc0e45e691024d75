import RtspProxy.Lib.Keyset
import RtspProxy.Probes.Health
import RtspProxy.Probes.Scheduler
import Mathlib.Data.Prod.Lex

/-!
# Routine probes

`probe_routine.py`: the profile an operator sets for a camera, the candidate
that joins it with the current target and its health, and the producer that
submits the due candidates to the scheduler. The checks of each `__post_init__`
are fields of the record.
-/

namespace RtspProxy.Probes

open Nodes Lib

@[ext]
structure CameraProbeProfile where
  enabled : Bool := false
  maxSourceSessions : Int := 1
  requireVideo : Bool := true
  requireAudio : Bool := false
  routineInterval : Int := timedeltaSeconds 300
  confirmationInterval : Int := timedeltaSeconds 30
  executionTimeout : Int := timedeltaSeconds 15
  sessionsValid : 1 ≤ maxSourceSessions ∧ maxSourceSessions ≤ 16
  mediaValid : requireVideo = true ∨ requireAudio = true
  routineValid : timedeltaSeconds 30 ≤ routineInterval ∧ routineInterval ≤ timedeltaSeconds 86400
  confirmationValid : timedeltaSeconds 1 ≤ confirmationInterval ∧
    confirmationInterval ≤ min routineInterval (timedeltaSeconds 3600)
  timeoutValid : timedeltaSeconds 1 ≤ executionTimeout ∧ executionTimeout ≤ timedeltaSeconds 30

instance : DecidableEq CameraProbeProfile :=
  fun _ _ => decidable_of_iff' _ CameraProbeProfile.ext_iff

namespace CameraProbeProfile

def classify (profile : CameraProbeProfile) (res : ProbeExecutionResult) :
    ProbeExecutionResult :=
  if res.outcome ≠ .healthy then res
  else if profile.requireVideo ∧ res.videoCodec = none ∨
      profile.requireAudio ∧ res.audioCodec = none then
    { outcome := .unhealthy
      completedAt := res.completedAt
      failureClass := some .codec
      valid := by simp [resultContract, cameraFailureClasses] }
  else res

end CameraProbeProfile

/-- Division to the nearest integer, a tie going to the even one, as `timedelta` and floats round. -/
def divideNearest (numerator denominator : Nat) : Nat :=
  let quotient := numerator / denominator
  let twice := 2 * (numerator % denominator)
  if denominator < twice ∨ (twice = denominator ∧ quotient % 2 = 1) then quotient + 1 else quotient

/-- `interval * (head / (2**32) * 0.2)` in microseconds. The float `0.2` is
`3602879701896397 / 2**54`; the product of the two floats is rounded to 53 bits. -/
def jitterOf (interval : Int) (digestHead : Nat) : Int :=
  let product := digestHead * 3602879701896397
  let excess := (Nat.log2 product + 1) - 53
  let factor := divideNearest product (2 ^ excess) * 2 ^ excess
  (divideNearest (interval.toNat * factor) (2 ^ 86) : Nat)

structure RoutineProbeCandidate where
  target : ProbeTarget
  profile : CameraProbeProfile
  health : ProbeHealthRecord
  lastAttemptAt : Option Datetime
  registeredAt : Datetime
  healthValid : health.target = target ∧ health.method = .source
  attemptValid : ∀ attempt ∈ lastAttemptAt, registeredAt ≤ attempt

namespace RoutineProbeCandidate

def build (target : ProbeTarget) (profile : CameraProbeProfile) (health : ProbeHealthRecord)
    (lastAttemptAt : Option Datetime) (registeredAt : Datetime) :
    Except ProbeError RoutineProbeCandidate :=
  if healthValid : health.target = target ∧ health.method = .source then
    if attemptValid : ∀ attempt ∈ lastAttemptAt, registeredAt ≤ attempt then
      .ok { target, profile, health, lastAttemptAt, registeredAt, healthValid, attemptValid }
    else .error (.valueError "routine_probe_candidate_invalid")
  else .error (.valueError "routine_probe_candidate_invalid")

variable (cand : RoutineProbeCandidate)

def priority : ProbePriority :=
  if cand.health.healthState = .suspect ∨ cand.health.healthState = .recovering then
    .confirmation
  else .routine

def interval : Int :=
  if cand.priority = .confirmation then cand.profile.confirmationInterval
  else cand.profile.routineInterval

/-- `digestHead` is the number in the first four bytes of the SHA-256 of a camera identifier. -/
def dueAt (digestHead : UUID → Nat) : Datetime :=
  let jitter := jitterOf cand.interval (digestHead cand.target.cameraId)
  match cand.lastAttemptAt with
  | none => cand.registeredAt + jitter
  | some lastAttemptAt => lastAttemptAt + cand.interval + jitter

def dueKey (digestHead : UUID → Nat) : Datetime ×ₗ Nat :=
  toLex (cand.dueAt digestHead, cand.target.cameraId.int)

def submittedTarget : ProbeTarget :=
  { cand.target with
    maxSourceSessions := cand.profile.maxSourceSessions
    sessionLimitValid := cand.profile.sessionsValid }

def Skipped (digestHead : UUID → Nat) (now : Datetime) : Prop :=
  cand.profile.enabled = false ∨ cand.target.nodeState ≠ .running ∨ now < cand.dueAt digestHead

instance (digestHead : UUID → Nat) (now : Datetime) :
    Decidable (cand.Skipped digestHead now) :=
  inferInstanceAs (Decidable (_ ∨ _ ∨ _))

theorem jitter_nonneg (interval : Int) (digestHead : Nat) :
    0 ≤ jitterOf interval digestHead := by
  unfold jitterOf
  exact Int.natCast_nonneg _

theorem confirmation_le_interval : cand.profile.confirmationInterval ≤ cand.interval := by
  unfold interval
  split_ifs
  · exact le_rfl
  · exact cand.profile.confirmationValid.2.trans (min_le_left _ _)

theorem due_at_spaced (digestHead : UUID → Nat) {attempt : Datetime}
    (attempted : cand.lastAttemptAt = some attempt) :
    attempt + cand.profile.confirmationInterval ≤ cand.dueAt digestHead := by
  have wait := cand.confirmation_le_interval
  have jitter := jitter_nonneg cand.interval (digestHead cand.target.cameraId)
  simp only [dueAt, attempted]
  calc attempt + cand.profile.confirmationInterval
      ≤ attempt + cand.interval := by gcongr
    _ ≤ attempt + cand.interval + jitterOf cand.interval
          (digestHead cand.target.cameraId) := le_add_of_nonneg_right jitter

end RoutineProbeCandidate

namespace RoutineProbeProducer

/-- The loop of `enqueue` over the sorted candidates. The request identifiers are drawn in order;
`drawn` counts those that were offered to the scheduler. -/
def feed (cfg : ProbeSchedulerConfig) (digestHead : UUID → Nat) (now : Datetime)
    (requestIds : Nat → UUID4) :
    Nat → List RoutineProbeCandidate → List ProbeRequest → ProbeScheduler →
      Except ProbeError (List ProbeRequest) × ProbeScheduler
  | _, [], accepted, sched => (.ok accepted, sched)
  | drawn, cand :: rest, accepted, sched =>
    if cand.Skipped digestHead now then
      feed cfg digestHead now requestIds drawn rest accepted sched
    else
      match sched.submit cfg cand.submittedTarget .source cand.priority now
          (now + cand.profile.executionTimeout) (requestIds drawn) with
      | (.ok req, post) =>
        feed cfg digestHead now requestIds (drawn + 1) rest (accepted ++ [req]) post
      | (.error .probeQueueFull, post) => (.ok accepted, post)
      | (.error (.probeIneligible _), post) | (.error .probeSingleFlightConflict, post) =>
        feed cfg digestHead now requestIds (drawn + 1) rest accepted post
      | (.error error, post) => (.error error, post)

def enqueue (cfg : ProbeSchedulerConfig) (digestHead : UUID → Nat) (batchLimit : Nat)
    (cands : Dict UUID RoutineProbeCandidate) (now : Datetime) (requestIds : Nat → UUID4)
    (sched : ProbeScheduler) : Except ProbeError (List ProbeRequest) × ProbeScheduler :=
  if cands.length > batchLimit ∨
      cands.items.any (fun item => decide (item.1 ≠ item.2.target.cameraId)) then
    (.error (.valueError "routine_probe_batch_invalid"), sched)
  else
    feed cfg digestHead now requestIds 0
      (Keyset.inOrder (RoutineProbeCandidate.dueKey · digestHead) cands.values) [] sched

end RoutineProbeProducer

end RtspProxy.Probes
