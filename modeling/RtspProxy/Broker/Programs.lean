import RtspProxy.Broker.World

/-!
# `ProbeExecutionBroker` and `ProbeBrokerService`

The programs of `probe_execution.py` and `probe_broker_service.py`, call by
call. A record is the number under which the world keeps it. The variable
`stage` of `_execute_claimed` is `atStage`, which names what an exception was
raised in; loops over tuples are recursive functions over lists, and the lists
of exceptions they collect are results.
-/

namespace RtspProxy.Broker

open Nodes Probes Lib.Program Lib.Program.Prog

def send (req : Call) : Program (Answer req) := ask req

def query (question : Query) : Program question.Answer := send (.query question)

/-- `try: body finally: last`. -/
def ensuring {Result : Type} (body : Program Result) (last : Program Unit) : Program Result :=
  body.andThen fun out => last.bind fun _ => .done out

/-- `try: body except BaseException as error: errors.append(error)`. -/
def collect (body : Program Unit) : Program (List Failure) :=
  body.andThen fun out =>
    match out with
    | .ok _ => pure []
    | .error err => pure [err]

def monotonicDeadline (timeoutSeconds : Rat) : Program Rat := do
  match ← query .monotonic with
  | none => raise (.execution "probe_execution_timeout_invalid")
  | some now => pure (now + timeoutSeconds)

def remainingOrNone (deadline : Rat) : Program (Option Rat) := do
  match ← query .monotonic with
  | none => pure none
  | some now => pure (if deadline - now ≤ 0 then none else some (deadline - now))

def remaining (deadline : Rat) : Program Rat := do
  match ← remainingOrNone deadline with
  | none => raise (.execution "probe_execution_timeout")
  | some seconds => pure seconds

def cleanupDeadline : Program Rat :=
  (monotonicDeadline 5).handle fun err => if err.isExecution then pure 0 else raise err

def requestRemainingSeconds (req : ProbeBrokerRequest) : Program Rat := do
  match ← query .wallClockMs with
  | none => raise (.execution "probe_execution_timeout")
  | some observedAt =>
    if req.deadlineUnixMs - observedAt ≤ 0 then
      raise (.execution "probe_execution_timeout")
    else if 60000 < req.deadlineUnixMs - observedAt then
      raise (.execution "probe_execution_request_invalid")
    else pure ((req.deadlineUnixMs - observedAt : Int) / 1000)

def executionDeadline (req : ProbeBrokerRequest) (timeoutSeconds : Rat) : Program Rat := do
  monotonicDeadline (min timeoutSeconds (← requestRemainingSeconds req))

def validateTimeout (timeoutSeconds : Rat) : Program Rat :=
  if 0 < timeoutSeconds ∧ timeoutSeconds ≤ 60 then pure timeoutSeconds
  else raise (.execution "probe_execution_timeout_invalid")

mutual

def sanitizeInterruption : Failure → Failure
  | .group _ exceptions =>
    .group "probe execution was interrupted" (sanitizeInterruptions exceptions)
  | .keyboardInterrupt => .keyboardInterrupt
  | .systemExit => .systemExit
  | _ => .interruption

def sanitizeInterruptions : List Failure → List Failure
  | [] => []
  | err :: rest => sanitizeInterruption err :: sanitizeInterruptions rest

end

def sanitizeCleanup (err : Failure) : Failure :=
  if err.isException then .execution "probe_execution_cleanup_failed"
  else sanitizeInterruption err

def failureOf (primary : Option Failure) (cleanup : List Failure) : Option Failure :=
  match primary with
  | none =>
    if cleanup.isEmpty then none
    else if cleanup.any fun err => !err.isException then
      some (.group "probe execution cleanup was interrupted" (cleanup.map sanitizeCleanup))
    else some (.execution "probe_execution_cleanup_failed")
  | some err =>
    if !err.isException then
      if cleanup.isEmpty then some (sanitizeInterruption err)
      else some (.group "probe execution and cleanup were interrupted"
        (sanitizeInterruption err :: cleanup.map sanitizeCleanup))
    else if cleanup.any fun err => !err.isException then
      some (.group "probe execution cleanup was interrupted"
        (.execution "probe_execution_failed" :: cleanup.map sanitizeCleanup))
    else if !cleanup.isEmpty then some (.execution "probe_execution_and_cleanup_failed")
    else if err.isExecution then some err
    else some (.execution "probe_execution_failed")

def raiseFailures (primary : Option Failure) (cleanup : List Failure) : Program Unit :=
  match failureOf primary cleanup with
  | none => pure ()
  | some err => raise err

namespace ProbeExecutionBroker

def validateRecoveryCount (unresolved : Int) : Program Unit :=
  if unresolved < 0 then raise (.execution "probe_execution_recovery_failed") else pure ()

/-- `except Exception: raise ProbeExecutionError("probe_execution_recovery_failed")`. -/
def orRecoveryFailed (body : Program Int) : Program Int :=
  body.handle fun err =>
    raise (if err.isException then .execution "probe_execution_recovery_failed" else err)

/-- The body of `reconcile_startup` under the recovery lock. -/
def recover (timeout : Rat) : Program Int := do
  send .beginRecovery
  let deadline ← monotonicDeadline timeout
  let unresolvedUnits ← orRecoveryFailed do
    let _ ← remaining deadline
    send .reconcileUnits
  validateRecoveryCount unresolvedUnits
  if unresolvedUnits ≠ 0 then return unresolvedUnits
  else
    let unresolvedGuards ← orRecoveryFailed do
      let _ ← remaining deadline
      send .reconcileGuards
    validateRecoveryCount unresolvedGuards
    send (.setRecoveryReady (decide (unresolvedGuards = 0)))
    return unresolvedGuards

def reconcileStartup (timeoutSeconds : Rat) : Program Int := do
  let timeout ← validateTimeout timeoutSeconds
  send .acquireRecovery
  ensuring (recover timeout) (send .releaseRecovery)

/-- `require_active`, a local function of `_execute_claimed`. -/
def requireActive (cancelled : Option (Program Bool)) : Program Unit :=
  match cancelled with
  | none => pure ()
  | some check => do
      if ← check then raise (.execution "probe_execution_cancelled")

def stageFailure (stage : String) (err : Failure) : Failure :=
  if err.isException && !err.isExecution then .execution ("probe_execution_failed_" ++ stage)
  else err

/-- A part of the `try` block of `_execute_claimed` during which `stage` has this value. -/
def atStage {Result : Type} (stage : String) (body : Program Result) : Program Result :=
  body.handle fun err => raise (stageFailure stage err)

def requireChannels (rec : Nat) : Program Nat := do
  match (← send (.ownership rec)).channels with
  | none => raise (.execution "probe_execution_ownership_invalid")
  | some channels => pure channels

def requireSystemdLease (rec : Nat) : Program ProbeTransientLease := do
  match (← send (.ownership rec)).systemd with
  | none => raise (.execution "probe_execution_ownership_invalid")
  | some lease => pure lease

def decodeResult (payload : List UInt8) : Program ProbeExecutionResult :=
  if payload.length < 1 ∨ 65536 < payload.length then
    raise (.execution "probe_execution_result_invalid")
  else do
    let res ← (query (.decode payload)).handle fun err =>
      raise (if err.isException then .execution "probe_execution_result_invalid" else err)
    match res with
    | none => raise (.execution "probe_execution_result_invalid")
    | some res => pure res

def attempt (req : ProbeBrokerRequest) (rec : Nat) (timeoutSeconds : Rat)
    (cancelled : Option (Program Bool)) : Program ProbeExecutionResult := do
  let (deadline, channels) ← atStage "channels" do
    send (.register rec)
    let deadline ← executionDeadline req timeoutSeconds
    requireActive cancelled
    send (.createOwned rec)
    let channels ← requireChannels rec
    return (deadline, channels)
  atStage "systemd" do
    requireActive cancelled
    let _ ← remaining deadline
    send (.startOwned rec channels)
    query (.closeChildEnds channels)
  let cgroupPath ← atStage "cgroup" do
    requireActive cancelled
    let _ ← remaining deadline
    query (.resolveCgroup (unitNameOf req.requestId))
  atStage "guard" do
    requireActive cancelled
    let _ ← remaining deadline
    send (.installOwned rec req.requestId (unitNameOf req.requestId) cgroupPath req.target)
    let _ ← requestRemainingSeconds req
    let _ ← remaining deadline
  let systemdLease ← atStage "release" do
    requireActive cancelled
    send (.releaseGate rec)
    requireSystemdLease rec
  let rawResult ← atStage "output" do
    let _ ← remaining deadline
    send (.readOutput rec systemdLease)
  atStage "result" do
    requireActive cancelled
    decodeResult rawResult

/-- The unit of `_cleanup_ownership`: nothing else is given up while its lease is held. -/
def cleanupUnit (rec : Nat) (deadline : Rat) : Program (List Failure) := do
  match (← send (.ownership rec)).systemd with
  | none => pure []
  | some lease =>
    match ← remainingOrNone deadline with
    | none => pure []
    | some _ => collect (send (.ensureCollected rec lease))

def cleanupGuard (rec : Nat) (deadline : Rat) : Program (List Failure) := do
  match (← send (.ownership rec)).guard with
  | none => pure []
  | some lease =>
    match ← remainingOrNone deadline with
    | none => pure []
    | some _ => collect (send (.ensureReleased rec lease))

def cleanupChannels (rec : Nat) : Program (List Failure) := do
  match (← send (.ownership rec)).channels with
  | none => pure []
  | some channels => collect do
      send (.closeChannels rec channels)
      send (.releaseChannels rec channels)

def cleanupReceived (rec : Nat) : Program (List Failure) := do
  if (← send (.ownership rec)).receivedClosed then pure []
  else collect do
    send (.closeReceived rec)
    send (.markReceivedClosed rec)

def cleanupOwnership (rec : Nat) (deadline : Rat) : Program (List Failure) := do
  let unitErrors ← cleanupUnit rec deadline
  if (← send (.ownership rec)).systemd ≠ none then return unitErrors
  else
    let guardErrors ← cleanupGuard rec deadline
    if (← send (.ownership rec)).guard ≠ none then return unitErrors ++ guardErrors
    else
      let channelErrors ← cleanupChannels rec
      if (← send (.ownership rec)).channels ≠ none then
        return unitErrors ++ guardErrors ++ channelErrors
      else
        let inputErrors ← cleanupReceived rec
        return unitErrors ++ guardErrors ++ channelErrors ++ inputErrors

/-- The rest of `_execute_claimed` where the record never got into the table. -/
def rejectExecution (rec : Nat) (primary : Option Failure) : Program ProbeExecutionResult := do
  let errors ← cleanupReceived rec
  raiseFailures primary errors
  raise (.execution "probe_execution_failed")

/-- The rest of `_execute_claimed` where the record is in the table. -/
def concludeExecution (rec : Nat) (out : Except Failure ProbeExecutionResult)
    (primary : Option Failure) : Program ProbeExecutionResult := do
  send (.beginCleaning rec)
  let errors ← cleanupOwnership rec (← cleanupDeadline)
  raiseFailures primary errors
  if (← send (.ownership rec)).collected = false then
    raise (.execution "probe_execution_cleanup_pending")
  else
    match out with
    | .ok res => pure res
    | .error _ => raise (.execution "probe_execution_result_invalid")

def errorOf {Result : Type} : Except Failure Result → Option Failure
  | .ok _ => none
  | .error err => some err

def executeClaimed (req : ProbeBrokerRequest) (rec : Nat) (timeoutSeconds : Rat)
    (cancelled : Option (Program Bool)) : Program ProbeExecutionResult :=
  (attempt req rec timeoutSeconds cancelled).andThen fun out => do
    if ← send (.ownsRecord rec) then concludeExecution rec out (errorOf out)
    else rejectExecution rec (errorOf out)

/-- `_finalize_ownership` and the release of the operation lock, in a `try ... finally`. -/
def endOperation (requestId : UUID) (rec : Nat) : Program Unit :=
  ensuring (send (.finalizeOwnership requestId rec)) (send (.releaseOperation rec))

def execute (received : ReceivedProbeInput) (timeoutSeconds : Rat)
    (cancelled : Option (Program Bool)) : Program ProbeExecutionResult := do
  let timeout ← validateTimeout timeoutSeconds
  let rec ← send (.newOwnership received)
  ensuring (executeClaimed received.request rec timeout cancelled)
    (endOperation received.request.requestId rec)

/-- One round of the loop of `retry_pending_cleanup`, the operation lock taken. -/
def retryRecord (requestId : UUID) (rec : Nat) (deadline : Rat) : Program (List Failure) := do
  if ← send (.claimPending requestId rec) then
    ensuring
      ((cleanupOwnership rec deadline).andThen fun out =>
        match out with
        | .ok errors => pure (errors.filter fun err => !err.isException)
        | .error err => pure [err])
      (endOperation requestId rec)
  else
    send (.releaseOperation rec)
    pure []

def retryRecords (deadline : Rat) : List (UUID × Nat) → Program (List Failure)
  | [] => pure []
  | (requestId, rec) :: rest => do
      match ← remainingOrNone deadline with
      | none => pure []
      | some _ =>
        if ← send (.acquireOperation rec) then
          let interruptions ← retryRecord requestId rec deadline
          return interruptions ++ (← retryRecords deadline rest)
        else retryRecords deadline rest

/-- The body of `retry_pending_cleanup` under the retry lock. -/
def retryPending (timeout : Rat) : Program Nat := do
  let deadline ← monotonicDeadline timeout
  let pending ← send .pendingRecords
  let interruptions ← retryRecords deadline pending
  if interruptions.isEmpty then send .unresolvedCleanupCount
  else raise (.group "probe execution cleanup retry was interrupted"
    (interruptions.map sanitizeInterruption))

def retryPendingCleanup (timeoutSeconds : Rat) : Program Nat := do
  let timeout ← validateTimeout timeoutSeconds
  if ← send .acquireRetry then ensuring (retryPending timeout) (send .releaseRetry)
  else send .unresolvedCleanupCount

end ProbeExecutionBroker

namespace ProbeBrokerService

/-- The configuration a service is made with; `permitsTarget` stands for the allowed networks and
the denial of special-use destinations. -/
structure Settings where
  permitsTarget : ProbeConnectGuardTarget → Bool
  startupTimeoutSeconds : Rat
  cleanupRetryTimeoutSeconds : Rat

def readWallClockMs : Program Int := do
  match ← query .wallClockMs with
  | none => raise (.service "probe_broker_clock_invalid")
  | some observed =>
    if observed < 1 then raise (.service "probe_broker_clock_invalid") else pure observed

def remainingRequestSeconds (deadlineUnixMs : Int) : Program Rat := do
  let observedAt ← readWallClockMs
  if 10 ≤ deadlineUnixMs - observedAt ∧ deadlineUnixMs - observedAt ≤ 60000 then
    pure ((deadlineUnixMs - observedAt : Int) / 1000)
  else raise (.service "probe_broker_request_expired")

/-- `_completed_at`, in microseconds. -/
def completedAt : Program Datetime := do
  return (← readWallClockMs) * 1000

def requestCancelled : Program Bool := do
  if ← send .admissionIsOpen then query .readable else pure true

/-- The block of `serve_connection` under the admission lock. -/
def admitTarget (target : ProbeConnectGuardTarget) : Program Unit := do
  send .acquireAdmission
  ensuring
    (do
      if ← send .cleanupFailedIsSet then raise (.service "probe_broker_cleanup_failed")
      else if ← send .stoppingIsSet then raise (.service "probe_broker_stopping")
      else send (.addTarget target))
    (send .releaseAdmission)

/-- The inner `try` block of `serve_connection`: whether the execution started, and its outcome. -/
def runRequest (received : ReceivedProbeInput) :
    Program (Bool × Except Failure ProbeExecutionResult) :=
  (do
    let seconds ← remainingRequestSeconds received.request.deadlineUnixMs
    admitTarget received.request.target
    return seconds).andThen fun admitted =>
      match admitted with
      | .error err => pure (false, .error err)
      | .ok seconds =>
        (ProbeExecutionBroker.execute received seconds (some requestCancelled)).andThen
          fun out => pure (true, out)

/-- `ProbeExecutionResult(outcome=INCONCLUSIVE, completed_at=…, failure_class=EXECUTOR)`. -/
def executorFailure (completedAt : Datetime) : ProbeExecutionResult where
  outcome := .inconclusive
  completedAt := completedAt
  failureClass := some .executor
  valid := executor_contract

def respond (req : ProbeBrokerRequest) (out : Except Failure ProbeExecutionResult) :
    Program Unit := do
  let res ← (match out with
    | .ok res => pure res
    | .error err =>
      if err.isException then return executorFailure (← completedAt) else raise err)
  let _ ← remainingRequestSeconds req.deadlineUnixMs
  query (.sendResponse req res)

/-- `except (ProbeBrokerError, ProbeBrokerServiceError, ValueError): return`. -/
def orReturn (body : Program Unit) : Program Unit :=
  body.handle fun err =>
    match err with
    | .broker _ | .service _ | .valueError => pure ()
    | _ => raise err

variable (settings : Settings)

def cleanupIsResolved : Program Bool :=
  (ProbeExecutionBroker.retryPendingCleanup settings.cleanupRetryTimeoutSeconds).andThen
    fun out =>
      match out with
      | .ok unresolved => pure (decide (unresolved = 0))
      | .error _ => pure false

/-- The `finally` block of `serve_connection`, once the request was received. -/
def concludeConnection (received : ReceivedProbeInput) (executionStarted : Bool) :
    Program Unit := do
  (send (.closeInput received)).handle fun _ => send .publishCleanupFailure
  if executionStarted then
    if ← cleanupIsResolved settings then pure () else send .publishCleanupFailure
    send (.discardTarget received.request.target)

def serveReceived (received : ReceivedProbeInput) : Program Unit :=
  if settings.permitsTarget received.request.target then do
    let (executionStarted, out) ← runRequest received
    ensuring (orReturn (respond received.request out))
      (concludeConnection settings received executionStarted)
  else
    ensuring (orReturn (raise (.service "probe_broker_target_denied")))
      (concludeConnection settings received false)

def serveConnection : Program Unit :=
  (query .receiveRequest).andThen fun received =>
    match received with
    | .ok received => serveReceived settings received
    | .error err => orReturn (raise err)

/-- `_serve_owned_connection`, but for the connection it closes and the capacity it gives back. -/
def serveOwnedConnection : Program Unit :=
  (serveConnection settings).handle fun _ => send .publishCleanupFailure

def reconcileStartup : Program Unit := do
  let unresolved ← (ProbeExecutionBroker.reconcileStartup settings.startupTimeoutSeconds).handle
    fun err =>
      raise (if err.isException then .service "probe_broker_recovery_failed" else err)
  if unresolved < 0 then raise (.service "probe_broker_recovery_failed")
  else if unresolved ≠ 0 then raise (.service "probe_broker_recovery_required")
  else pure ()

def finishServing : Program Unit := do
  if ← cleanupIsResolved settings then
    if ← send .cleanupFailedIsSet then raise (.service "probe_broker_cleanup_failed") else pure ()
  else
    send .publishCleanupFailure
    raise (.service "probe_broker_cleanup_failed")

end ProbeBrokerService

end RtspProxy.Broker
