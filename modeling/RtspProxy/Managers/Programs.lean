import RtspProxy.Managers.World

/-!
# `SystemdProbeManager` and `ProbeConnectGuardManager`

The programs of the two managers, call by call. A `finally` block that needs to
know how its body went gets that with the outcome: `Attempt` is the body of
`_start` or `_install` together with `published_owned` and
`publication_uncertain`. What systemd and the kernel are asked to do, and the
logging, are left out.
-/

namespace RtspProxy.Managers

open Lib.Program Lib.Program.Prog

def send (req : Call) : Program (Answer req) := ask req

def query (question : Query) : Program question.Answer := send (.query question)

def ensuring {Result : Type} (body : Program Result) (last : Program Unit) : Program Result :=
  body.andThen fun out => last.bind fun _ => .done out

def clock : Program Rat := do
  match ← query .monotonic with
  | none => raise .exception
  | some now => pure now

structure Attempt where
  outcome : Except Failure (Option Lease)
  publishedOwned : Bool
  publicationUncertain : Bool

structure OutputDescriptors where
  outputReadFd : Int
  outputWriteFd : Int

structure RecoveryOutcome where
  collected : Bool
  interruption : Option Failure := none

namespace SystemdProbeManager

mutual

def sanitizeInterruption : Failure → Failure
  | .group msg exceptions => .group msg (sanitizeInterruptions exceptions)
  | failure =>
    if failure.isException then .error "probe_transient_operation_failed" else failure

def sanitizeInterruptions : List Failure → List Failure
  | [] => []
  | first :: rest => sanitizeInterruption first :: sanitizeInterruptions rest

end

def raiseAfterRecovery (failure : Option String) (interruption : Option Failure)
    (recovery : RecoveryOutcome) : Program Unit :=
  match recovery.interruption with
  | some recoveryInterruption =>
    let errors := match interruption, failure with
      | some err, _ => [err]
      | none, some code => [.error code]
      | none, none => []
    raise (.group "probe operation and recovery were interrupted"
      (errors ++ [recoveryInterruption]))
  | none =>
    if recovery.collected = false then
      match interruption with
      | some err =>
        raise (.group "probe operation was interrupted and cleanup remains pending"
          [err, .error "probe_transient_cleanup_pending"])
      | none => raise (.error "probe_transient_cleanup_pending")
    else
      match interruption, failure with
      | some err, _ => raise err
      | none, some code => raise (.error code)
      | none, none => pure ()

def removeRecord (rec : Nat) : Program Unit := do
  if ← send (.removeRecord rec) then pure () else raise (.error "probe_transient_state_invalid")

def markCleaning (rec : Nat) : Program Unit := do
  if ← send (.markCleaning rec) then pure () else raise (.error "probe_transient_state_invalid")

def attemptRecovery (rec : Nat) (timeoutSeconds : Rat) : Program RecoveryOutcome :=
  (send (.remove rec timeoutSeconds)).andThen fun out =>
    match out with
    | .ok _ => pure { collected := true }
    | .error err =>
      if err.isException then pure { collected := false }
      else pure { collected := false, interruption := some (sanitizeInterruption err) }

def finishRecovery (rec : Nat) (recovery : RecoveryOutcome) (retainCollected : Bool) :
    Program Unit := do
  if ← send (.finishRecovery rec recovery.collected retainCollected) then pure ()
  else raise (.error "probe_transient_state_invalid")

def recoverCleaningRecord (rec : Nat) (timeoutSeconds : Rat) (retainCollected : Bool) :
    Program RecoveryOutcome := do
  let recovery ← attemptRecovery rec timeoutSeconds
  finishRecovery rec recovery retainCollected
  return recovery

def recoverReservedStart {Result : Type} (rec : Nat) (failure : Option String)
    (interruption : Option Failure) : Program Result := do
  markCleaning rec
  let recovery ← recoverCleaningRecord rec 7 false
  raiseAfterRecovery failure interruption recovery
  raise (.error "probe_transient_start_failed")

/-- `except Exception: failure = code`, `except BaseException as error: interruption = ...`, and
the recovery that follows. -/
def recoverFrom {Result : Type} (rec : Nat) (err : Failure) (code : String) : Program Result :=
  if err.isException then recoverReservedStart rec (some code) none
  else recoverReservedStart rec none (some (sanitizeInterruption err))

def startReserved (unitName : String) (rec : Nat) (timeoutSeconds : Rat) : Program Lease :=
  (send (.transportCall rec timeoutSeconds)).andThen fun out =>
    match out with
    | .error (.rejected _) => do
        removeRecord rec
        raise (.rejected "probe_transient_start_rejected")
    | .error (.rejectedInterruption cause) => do
        removeRecord rec
        raise (sanitizeInterruption cause)
    | .error err => recoverFrom rec err "probe_transient_start_failed"
    | .ok _ =>
      (query .responseIsValid).andThen fun out =>
        match out with
        | .error err => recoverFrom rec err "probe_transient_response_invalid"
        | .ok false => recoverReservedStart rec (some "probe_transient_response_invalid") none
        | .ok true => do
            if ← send (.activate rec) then return { unitName, record := rec }
            else recoverReservedStart rec (some "probe_transient_start_failed") none

/-- The part of `_start` that hands the lease to the caller. -/
def publishLease (rec ledger : Nat) : Program Attempt := do
  send (.setOwnership rec ledger)
  (send (.publish rec ledger)).andThen fun out =>
    match out with
    | .ok _ => pure { outcome := .ok none, publishedOwned := true, publicationUncertain := false }
    | .error err =>
      (send (.owns rec ledger)).andThen fun ans =>
        match ans with
        | .error ownershipError =>
          pure {
            outcome := .error (.group "probe lease publication ownership is uncertain"
              [sanitizeInterruption err, sanitizeInterruption ownershipError])
            publishedOwned := false
            publicationUncertain := true }
        | .ok true =>
          pure {
            outcome := .error (sanitizeInterruption err)
            publishedOwned := true
            publicationUncertain := false }
        | .ok false =>
          (recoverFrom rec err "probe_transient_start_failed").andThen fun failed =>
            pure { outcome := failed, publishedOwned := false, publicationUncertain := false }

/-- The body of `_start` once the record is locked, and whether an active record is preserved. -/
def startRecorded (unitName : String) (rec : Nat) (timeoutSeconds : Rat)
    (own : Option Nat) : Program (Except Failure (Option Lease) × Bool) :=
  (do
    if ← send (.insertUnit rec) then startReserved unitName rec timeoutSeconds
    else raise (.error "probe_transient_already_active") : Program Lease).andThen fun out =>
      match out, own with
      | .error err, _ => pure (.error err, false)
      | .ok lease, none =>
        (query .handlesException).andThen fun ans =>
          match ans with
          | .error err => pure (.error err, false)
          | .ok handling => pure (.ok (some lease), !handling)
      | .ok _, some ledger => do
          let attempt ← publishLease rec ledger
          return (attempt.outcome, attempt.publishedOwned)

/-- `_start`: `start` without a ledger, and `start_owned` with one. -/
def start (descriptors : OutputDescriptors) (timeoutSeconds : Rat) (own : Option Nat) :
    Program (Option Lease) := do
  if ¬(0 < timeoutSeconds ∧ timeoutSeconds ≤ 60) then
    raise (.error "probe_transient_timeout_invalid")
  else
    let unitName ← query .buildProbeTransientUnit
    let outputPipeIdentity ← query (.pipeIdentity descriptors.outputReadFd false)
    let outputWriteIdentity ← query (.pipeIdentity descriptors.outputWriteFd true)
    let linux ← query .onLinux
    if linux = true ∧ outputPipeIdentity ≠ outputWriteIdentity then
      raise (.error "probe_transient_output_mismatch")
    else
      let rec ← send (.newRecord unitName descriptors.outputReadFd outputPipeIdentity)
      let (out, preserveActive) ← startRecorded unitName rec timeoutSeconds own
      send (.releaseUnitOperation rec preserveActive)
      .done out

def cleanupDeadline (timeoutSeconds : Option Rat) : Program (Option Rat) :=
  match timeoutSeconds with
  | none => pure none
  | some seconds =>
    if ¬(0 < seconds ∧ seconds ≤ 60) then raise (.error "probe_transient_timeout_invalid")
    else do
      match ← query .monotonic with
      | none => raise (.error "probe_transient_timeout_invalid")
      | some now => return some (now + seconds)

def remainingCleanup (deadline : Option Rat) : Program Rat :=
  match deadline with
  | none => pure 7
  | some limit => do
      match ← query .monotonic with
      | none => raise (.error "probe_transient_timeout_invalid")
      | some now =>
        if limit - now ≤ 0 then raise (.error "probe_transient_timeout") else return limit - now

def releaseCollectedOwnership (rec ledger : Nat) : Program Unit :=
  (send (.release rec ledger)).andThen fun out =>
    match out with
    | .ok _ => removeRecord rec
    | .error err => do
        if ← send (.owns rec ledger) then raise err
        else
          removeRecord rec
          raise err

/-- What `_cleanup_lease` reads from the pipe, its `failure` and its `interruption`. -/
def readOutputOf (rec : Nat) (outputFd : Option Int) (timeoutSeconds deadline : Option Rat) :
    Program (Option (List UInt8) × Option String × Option Failure) :=
  match outputFd with
  | none => pure (none, none, none)
  | some descriptor =>
    (do
      let (outputReadFd, outputPipeIdentity) ← send (.output rec)
      if descriptor ≠ outputReadFd then raise (.error "probe_transient_output_mismatch") else
      let identity ← query (.pipeIdentity descriptor false)
      if identity ≠ outputPipeIdentity then raise (.error "probe_transient_output_mismatch") else
      if timeoutSeconds = none then raise (.error "probe_transient_timeout_invalid") else
      let remaining ← remainingCleanup deadline
      query (.readBoundedOutput descriptor remaining) : Program (List UInt8)).andThen fun out =>
        match out with
        | .ok output => pure (some output, none, none)
        | .error (.error code) => pure (none, some code, none)
        | .error err =>
          if err.isException then pure (none, some "probe_transient_output_failed", none)
          else pure (none, none, some (sanitizeInterruption err))

/-- The recovery of a record being cleaned up, as far as its deadline allows. -/
def recoverLease (rec : Nat) (deadline : Option Rat) (retainCollected : Bool) :
    Program RecoveryOutcome :=
  (remainingCleanup deadline).andThen fun out =>
    match out with
    | .ok recoveryTimeout => recoverCleaningRecord rec recoveryTimeout retainCollected
    | .error (.error _) => do
        finishRecovery rec { collected := false } retainCollected
        return { collected := false }
    | .error err => raise err

/-- `_cleanup_lease` under the operation lock. -/
def cleanupLocked (lease : Lease) (rec : Nat) (outputFd : Option Int)
    (timeoutSeconds deadline : Option Rat) (own : Option Nat) :
    Program (Option (List UInt8)) := do
  match ← send (.beginCleanup lease rec own) with
  | .error code => raise (.error code)
  | .ok true =>
    match own with
    | none => raise .exception
    | some ledger => do
        releaseCollectedOwnership rec ledger
        return none
  | .ok false => do
      let (output, failure, interruption) ← readOutputOf rec outputFd timeoutSeconds deadline
      let recovery ← recoverLease rec deadline own.isSome
      raiseAfterRecovery failure interruption recovery
      match own with
      | none => return output
      | some ledger => do
          releaseCollectedOwnership rec ledger
          return output

def cleanupLease (lease : Lease) (outputFd : Option Int) (timeoutSeconds : Option Rat)
    (own : Option Nat) : Program (Option (List UInt8)) := do
  let deadline ← cleanupDeadline timeoutSeconds
  match ← send (.findUnit lease own) with
  | none => raise (.error "probe_transient_lease_invalid")
  | some rec => do
      if ← send (.acquireOperation rec) then
        ensuring (cleanupLocked lease rec outputFd timeoutSeconds deadline own)
          (send (.releaseUnitOperation rec false))
      else raise (.error "probe_transient_cleanup_in_progress")

def readOutput (lease : Lease) (outputFd : Int) (timeoutSeconds : Rat) (own : Option Nat) :
    Program (List UInt8) := do
  match ← cleanupLease lease (some outputFd) (some timeoutSeconds) own with
  | none => raise (.error "probe_transient_output_failed")
  | some output => return output

def ensureCollected (lease : Lease) (timeoutSeconds : Rat) (ledger : Nat) : Program Unit := do
  let _ ← cleanupLease lease none (some timeoutSeconds) (some ledger)

def cancel (lease : Lease) : Program Unit := do
  let _ ← cleanupLease lease none none none

/-- `_retry_pending_record` under the operation lock. -/
def retryLocked (rec : Nat) (timeoutSeconds : Rat) : Program (Option RecoveryOutcome) :=
  (send (.claimRetry rec)).andThen fun out =>
    match out with
    | .error err =>
      pure (some { collected := false, interruption := some (sanitizeInterruption err) })
    | .ok .skipped => pure none
    | .ok .dropped => pure (some { collected := true })
    | .ok .claimed => do
        let recovery ← recoverCleaningRecord rec timeoutSeconds false
        return some recovery

def retryPendingRecord (rec : Nat) (timeoutSeconds : Rat) :
    Program (Option RecoveryOutcome) := do
  if ← send (.acquireOperation rec) then
    ensuring (retryLocked rec timeoutSeconds) (send (.releaseUnitOperation rec false))
  else return none

/-- The loop of `retry_pending_cleanup`, with the interruptions it collects. -/
def retryRecords (deadline : Rat) : List Nat → Program (List Failure)
  | [] => pure []
  | rec :: rest => do
      let now ← clock
      if deadline - now ≤ 0 then return []
      else
        let recovery ← retryPendingRecord rec (min 7 (deadline - now))
        let interruptions ← retryRecords deadline rest
        return (recovery.bind RecoveryOutcome.interruption).toList ++ interruptions

def retrySweep : Program Nat := do
  let deadline ← clock
  let pending ← send .pendingBatch
  let interruptions ← retryRecords (deadline + 7) pending
  if interruptions ≠ [] then raise (.group "probe cleanup retry was interrupted" interruptions)
  else send .unresolvedCleanupCount

def retryPendingCleanup : Program Nat := do
  if ← send .acquireRetry then ensuring retrySweep (send .releaseRetry)
  else send .unresolvedCleanupCount

end SystemdProbeManager

namespace ProbeConnectGuardManager

def sanitizeCleanupError (err : Failure) : Failure :=
  if err.isException then .error "probe_guard_cleanup_failed" else err

def remaining (deadline : Rat) : Program Rat := do
  let now ← clock
  if deadline - now ≤ 0 then raise (.error "probe_guard_timeout") else return deadline - now

def validateTimeout (timeoutSeconds : Rat) : Program Unit :=
  if 0 < timeoutSeconds ∧ timeoutSeconds ≤ 60 then pure ()
  else raise (.error "probe_guard_timeout_invalid")

def validateScope (unitName : String) (timeoutSeconds : Rat) : Program Unit := do
  validateTimeout timeoutSeconds
  if ← query (.scopeIsValid unitName) then pure () else raise (.error "probe_guard_scope_invalid")

def reconcileStartup (timeoutSeconds : Rat) : Program Int := do
  validateTimeout timeoutSeconds
  if ← send .beginReconcile then
    (send (.reconcileOwned timeoutSeconds)).andThen fun out =>
      match out with
      | .error err => do
          send (.endReconcile none)
          raise err
      | .ok left => do
          send (.endReconcile (some (decide (left = 0))))
          return left
  else raise (.error "probe_guard_reconcile_busy")

/-- `_cleanup_failed_install`, for an install that the backend rejected with residue. -/
def cleanupReconcileRequired {Result : Type} (rec : Nat) (deadline : Rat)
    (interruption : Option Failure) : Program Result := do
  send (.forget rec true)
  match interruption with
  | some err => raise err
  | none =>
    (do reconcileStartup (← remaining deadline) : Program Int).andThen fun out =>
      match out with
      | .error err =>
        raise (if err.isException then .error "probe_guard_reconcile_required" else err)
      | .ok left =>
        raise (.error (if left ≠ 0 then "probe_guard_reconcile_required"
          else "probe_guard_already_active"))

def cleanupFailedInstall {Result : Type} (rec : Nat) (deadline cleanupTimeoutSeconds : Rat) :
    Failure → Program Result
  | .reconcileRequired interruption => cleanupReconcileRequired rec deadline interruption
  | .rejectedInterruption cause => do
      send (.forget rec false)
      raise cause
  | .rejected code => do
      send (.forget rec false)
      raise (.error code)
  | primaryError => do
      send (.startCleaning rec)
      (send (.remove rec cleanupTimeoutSeconds)).andThen fun out =>
        match out with
        | .error cleanupError => do
            send (.markCleanupPending rec)
            if primaryError.isException = true ∧ cleanupError.isException = true then
              raise (.error "probe_guard_cleanup_pending")
            else
              raise (.group "probe guard install was interrupted and cleanup remains pending"
                [if primaryError.isException then .error "probe_guard_install_failed"
                  else primaryError, sanitizeCleanupError cleanupError,
                  .error "probe_guard_cleanup_pending"])
        | .ok _ => do
            send (.forget rec false)
            raise (if primaryError.isException then .error "probe_guard_install_failed"
              else primaryError)

def installVerified (rec : Nat) (deadline : Rat) : Program Unit := do
  send (.backendInstall rec (← remaining deadline))
  query (.verify rec (← remaining deadline))
  if ← send (.activate rec) then pure () else raise (.error "probe_guard_state_invalid")

def attemptInstall (unitName : String) (rec : Nat) (deadline : Rat) (own : Option Nat) :
    Program Attempt :=
  (installVerified rec deadline).andThen fun out =>
    match out, own with
    | .error err, _ =>
      pure { outcome := .error err, publishedOwned := false, publicationUncertain := false }
    | .ok _, none =>
      pure {
        outcome := .ok (some { unitName, record := rec })
        publishedOwned := false
        publicationUncertain := false }
    | .ok _, some ledger => do
        send (.setOwnership rec ledger)
        (send (.publish rec ledger)).andThen fun published =>
          match published with
          | .ok _ =>
            pure { outcome := .ok none, publishedOwned := true, publicationUncertain := false }
          | .error err =>
            (send (.owns rec ledger)).andThen fun ans =>
              match ans with
              | .error ownershipError =>
                pure {
                  outcome := .error
                    (.group "probe guard lease publication ownership is uncertain"
                      [sanitizeCleanupError err, sanitizeCleanupError ownershipError])
                  publishedOwned := false
                  publicationUncertain := true }
              | .ok owned =>
                pure {
                  outcome := .error err
                  publishedOwned := owned
                  publicationUncertain := owned }

/-- The body of `_install` under the operation lock, and whether an active record is preserved. -/
def installLocked (unitName : String) (rec : Nat) (deadline timeoutSeconds : Rat)
    (own : Option Nat) : Program (Except Failure (Option Lease) × Bool) := do
  match ← send (.insertGuard rec) with
  | some code => return (.error (.error code), own.isNone)
  | none => do
      let attempt ← attemptInstall unitName rec deadline own
      match attempt.outcome with
      | .ok res => return (.ok res, own.isNone || attempt.publishedOwned)
      | .error err =>
        if attempt.publishedOwned = true ∨ attempt.publicationUncertain = true then
          return (.error err, own.isNone || attempt.publishedOwned)
        else
          (cleanupFailedInstall rec deadline timeoutSeconds err).andThen fun out =>
            pure (out, own.isNone)

/-- `_install` reconciles first, unless that has been done. -/
def reconcileFirst (deadline : Rat) (reconcileReady : Bool) : Program Int :=
  if reconcileReady then pure 0 else do reconcileStartup (← remaining deadline)

/-- `_install`: `install` without a ledger, and `install_owned` with one. -/
def install (unitName : String) (timeoutSeconds : Rat) (own : Option Nat) :
    Program (Option Lease) := do
  validateScope unitName timeoutSeconds
  let deadline := (← clock) + timeoutSeconds
  let (reconcileBusy, reconcileReady) ← send .reconcileState
  if reconcileBusy then raise (.error "probe_guard_reconcile_busy") else
  let left ← reconcileFirst deadline reconcileReady
  if left ≠ 0 then raise (.error "probe_guard_reconcile_required") else
  let rec ← send (.newRecord unitName 0 (0, 0))
  let (out, preserveActive) ← installLocked unitName rec deadline timeoutSeconds own
  send (.releaseGuardOperation rec preserveActive)
  .done out

def removeActiveRecord (rec : Nat) : Program Unit := do
  if ← send (.removeRecord rec) then pure () else raise (.error "probe_guard_state_invalid")

def releaseOwnedRecord (rec ledger : Nat) : Program Unit :=
  (send (.release rec ledger)).andThen fun out =>
    match out with
    | .ok _ => removeActiveRecord rec
    | .error err => do
        if ← send (.owns rec ledger) then raise err
        else
          removeActiveRecord rec
          raise err

def releaseLocked (lease : Lease) (rec : Nat) (timeoutSeconds : Rat) (own : Option Nat) :
    Program Unit := do
  match ← send (.beginRelease lease rec own) with
  | .error code => raise (.error code)
  | .ok true =>
    match own with
    | none => raise .exception
    | some ledger => releaseOwnedRecord rec ledger
  | .ok false =>
    (send (.remove rec timeoutSeconds)).andThen fun out =>
      match out with
      | .error err =>
        if err.isException then raise (.error "probe_guard_cleanup_pending")
        else
          raise (.group "probe guard release was interrupted and cleanup remains pending"
            [err, .error "probe_guard_cleanup_pending"])
      | .ok _ => do
          if ← send (.finishRelease rec own) then
            match own with
            | none => pure ()
            | some ledger => releaseOwnedRecord rec ledger
          else raise (.error "probe_guard_state_invalid")

/-- `_release`: `release` without a ledger, and `ensure_released` with one. -/
def release (lease : Lease) (timeoutSeconds : Rat) (own : Option Nat) : Program Unit := do
  validateTimeout timeoutSeconds
  match ← send (.findGuard lease own) with
  | none => raise (.error "probe_guard_lease_invalid")
  | some rec => do
      if ← send (.acquireOperation rec) then
        ensuring (releaseLocked lease rec timeoutSeconds own)
          (send (.releaseGuardOperation rec false))
      else raise (.error "probe_guard_cleanup_in_progress")

/-- `interruptions.append(error)` unless it is an `Exception`. -/
def interruptionsOf (err : Failure) : List Failure := if err.isException then [] else [err]

/-- One record of `retry_pending_cleanup` under its operation lock. -/
def retryLocked (rec : Nat) (timeoutSeconds : Rat) : Program (List Failure) :=
  (send (.claimRetry rec)).andThen fun out =>
    match out with
    | .error err => pure (interruptionsOf err)
    | .ok .skipped => pure []
    | .ok .dropped => pure []
    | .ok .claimed =>
      (send (.remove rec timeoutSeconds)).andThen fun removed =>
        match removed with
        | .error err => pure (interruptionsOf err)
        | .ok _ => do
            send (.forget rec false)
            return []

def retryRecord (rec : Nat) (timeoutSeconds : Rat) : Program (List Failure) := do
  if ← send (.acquireOperation rec) then
    ensuring (retryLocked rec timeoutSeconds) (send (.releaseGuardOperation rec false))
  else return []

def retryRecords (deadline : Rat) : List Nat → Program (List Failure)
  | [] => pure []
  | rec :: rest =>
    (remaining deadline).andThen fun out =>
      match out with
      | .error (.error _) => pure []
      | .error err => raise err
      | .ok left => do
          let first ← retryRecord rec left
          let interruptions ← retryRecords deadline rest
          return first ++ interruptions

def retrySweep (timeoutSeconds : Rat) : Program Nat := do
  let now ← clock
  let pending ← send .pendingBatch
  let interruptions ← retryRecords (now + timeoutSeconds) pending
  if interruptions ≠ [] then
    raise (.group "probe guard cleanup retry was interrupted" interruptions)
  else send .pendingCount

def retryPendingCleanup (timeoutSeconds : Rat) : Program Nat := do
  validateTimeout timeoutSeconds
  if ← send .acquireRetry then ensuring (retrySweep timeoutSeconds) (send .releaseRetry)
  else send .pendingCount

end ProbeConnectGuardManager

def task {Result : Type} (prog : Program Result) : Program Unit := do
  let _ ← prog

inductive UnitOperation : Program Unit → Prop
  | start (descriptors : OutputDescriptors) (timeout : Rat) (ownership : Option Nat) :
      UnitOperation (task (SystemdProbeManager.start descriptors timeout ownership))
  | readOutput (lease : Lease) (outputFd : Int) (timeout : Rat) (ownership : Option Nat) :
      UnitOperation (task (SystemdProbeManager.readOutput lease outputFd timeout ownership))
  | ensureCollected (lease : Lease) (timeout : Rat) (ledger : Nat) :
      UnitOperation (task (SystemdProbeManager.ensureCollected lease timeout ledger))
  | cancel (lease : Lease) : UnitOperation (task (SystemdProbeManager.cancel lease))
  | retryPendingCleanup : UnitOperation (task SystemdProbeManager.retryPendingCleanup)

inductive GuardOperation : Program Unit → Prop
  | install (unitName : String) (timeout : Rat) (ownership : Option Nat) :
      GuardOperation (task (ProbeConnectGuardManager.install unitName timeout ownership))
  | release (lease : Lease) (timeout : Rat) (ownership : Option Nat) :
      GuardOperation (task (ProbeConnectGuardManager.release lease timeout ownership))
  | retryPendingCleanup (timeout : Rat) :
      GuardOperation (task (ProbeConnectGuardManager.retryPendingCleanup timeout))
  | reconcileStartup (timeout : Rat) :
      GuardOperation (task (ProbeConnectGuardManager.reconcileStartup timeout))

end RtspProxy.Managers
