import RtspProxy.Probes.Records
import RtspProxy.Lib.Dict
import RtspProxy.Lib.Program

/-!
# The world of the probe broker

What the threads of `probe_execution.py` and `probe_broker_service.py` share:
the ownership records, the table of active ones, the locks, the admission state
of the service, and the sealed inputs. A lock carries the thread that holds it.
The collaborators are calls that may raise, before or after they took effect;
what the code cannot predict about a call is its `Chance`.

A record also carries history: which thread made it, whether its unit is still
there, whether its guard is installed and whether its run gate was released. No
program reads it.
-/

namespace RtspProxy.Broker

open Nodes Probes Lib Lib.Program

inductive IpAddress
  | v4 (packed : BitVec 32)
  | v6 (packed : BitVec 128)
  deriving DecidableEq

structure ProbeConnectGuardTarget where
  address : IpAddress
  port : Nat
  valid : 1 ≤ port ∧ port ≤ 65535
  deriving DecidableEq

structure ProbeBrokerRequest where
  requestId : UUID
  endpointGeneration : UUID
  target : ProbeConnectGuardTarget
  deadlineUnixMs : Int
  valid : requestId.isVersion4 = true ∧ endpointGeneration.isVersion4 = true ∧ 1 ≤ deadlineUnixMs
  deriving DecidableEq

structure ReceivedProbeInput where
  request : ProbeBrokerRequest
  handle : Nat
  deriving DecidableEq

structure ProbeTransientLease where
  unitName : String
  jobPath : String
  requestId : UUID
  endpointGeneration : UUID
  guardTarget : ProbeConnectGuardTarget
  deadlineUnixMs : Int
  deriving DecidableEq

structure ProbeConnectGuardLease where
  requestId : UUID
  unitName : String
  target : ProbeConnectGuardTarget
  deriving DecidableEq

def hex (id : UUID) : String :=
  let digits := Nat.toDigits 16 id.toNat
  String.ofList (List.replicate (32 - digits.length) '0' ++ digits)

/-- `f"rtsp-probe-{request_id.hex}.service"`. -/
def unitNameOf (requestId : UUID) : String := "rtsp-probe-" ++ hex requestId ++ ".service"

/-- What a call raises. The last four constructors are not `Exception`s, except for a group of
`Exception`s only. -/
inductive Failure
  | execution (code : String)
  | service (code : String)
  | broker (code : String)
  | valueError
  | exception
  | keyboardInterrupt
  | systemExit
  | interruption
  | group (msg : String) (exceptions : List Failure)

namespace Failure

mutual

def isException : Failure → Bool
  | execution _ | service _ | broker _ | valueError | exception => true
  | keyboardInterrupt | systemExit | interruption => false
  | group _ exceptions => areExceptions exceptions

def areExceptions : List Failure → Bool
  | [] => true
  | error :: rest => error.isException && areExceptions rest

end

def isExecution : Failure → Bool
  | execution _ => true
  | _ => false

end Failure

inductive ExecutionState
  | executing
  | cleaning
  | cleanupPending
  deriving DecidableEq

/-- `_ExecutionOwnership`, and its history from `owner` on. -/
structure ExecutionOwnership where
  received : ReceivedProbeInput
  channels : Option Nat := none
  systemd : Option ProbeTransientLease := none
  guard : Option ProbeConnectGuardLease := none
  receivedClosed : Bool := false
  state : ExecutionState := .executing
  operationLock : Option Nat
  owner : Nat
  unitLive : Bool := false
  guardLive : Bool := false
  gateReleased : Bool := false
  deriving DecidableEq

namespace ExecutionOwnership

def requestId (ownership : ExecutionOwnership) : UUID := ownership.received.request.requestId

def target (ownership : ExecutionOwnership) : ProbeConnectGuardTarget :=
  ownership.received.request.target

def slotsEmpty (ownership : ExecutionOwnership) : Bool :=
  ownership.channels.isNone && ownership.systemd.isNone && ownership.guard.isNone

def collected (ownership : ExecutionOwnership) : Bool :=
  ownership.slotsEmpty && ownership.receivedClosed

def unitLease (ownership : ExecutionOwnership) (jobPath : String) : ProbeTransientLease where
  unitName := unitNameOf ownership.requestId
  jobPath := jobPath
  requestId := ownership.requestId
  endpointGeneration := ownership.received.request.endpointGeneration
  guardTarget := ownership.target
  deadlineUnixMs := ownership.received.request.deadlineUnixMs

def guardLease (ownership : ExecutionOwnership) : ProbeConnectGuardLease where
  requestId := ownership.requestId
  unitName := unitNameOf ownership.requestId
  target := ownership.target

end ExecutionOwnership

/-- Who holds a target, and for which record once it has made one. -/
structure TargetHolder where
  thread : Nat
  record : Option Nat := none
  deriving DecidableEq

structure World where
  records : Nat → ExecutionOwnership
  allocated : Nat
  active : Dict UUID Nat
  recoveryReady : Bool
  recoveryLock : Option Nat
  retryLock : Option Nat
  unitsReport : Option Int
  guardsReport : Option Int
  closed : Nat → Bool
  activeTargets : ProbeConnectGuardTarget → Option TargetHolder
  admissionLock : Option Nat
  /-- Whether admission was open when the admission lock was last taken. -/
  checkBegan : Bool
  cleanupFailed : Bool
  stopping : Bool

/-- `self._active.get(request_id) is ownership`. -/
def World.Owns (w : World) (requestId : UUID) (rec : Nat) : Prop :=
  w.active.get requestId = some rec

instance (w : World) (requestId : UUID) (rec : Nat) :
    Decidable (w.Owns requestId rec) :=
  inferInstanceAs (Decidable (w.active.get requestId = some rec))

def World.Active (w : World) (rec : Nat) : Prop :=
  w.Owns (w.records rec).requestId rec

instance (w : World) (rec : Nat) : Decidable (w.Active rec) :=
  inferInstanceAs (Decidable (w.Owns _ _))

/-- Calls whose answer nobody can predict and that leave the shared state alone. -/
inductive Query
  /-- `None` where the clock raised one of the errors the caller catches. -/
  | monotonic
  | wallClockMs
  /-- `select.select`, read as `_request_cancelled` does. -/
  | readable
  | receiveRequest
  | closeChildEnds (channels : Nat)
  | resolveCgroup (unitName : String)
  | decode (payload : List UInt8)
  | sendResponse (request : ProbeBrokerRequest) (res : ProbeExecutionResult)

abbrev Query.Answer : Query → Type
  | .monotonic => Option Rat
  | .wallClockMs => Option Int
  | .readable => Bool
  | .receiveRequest => ReceivedProbeInput
  | .closeChildEnds _ => Unit
  | .resolveCgroup _ => String
  | .decode _ => Option ProbeExecutionResult
  | .sendResponse _ _ => Unit

inductive Call
  | query (query : Query)
  -- the records and the active table
  | newOwnership (received : ReceivedProbeInput)
  | register (rec : Nat)
  | ownsRecord (rec : Nat)
  | beginCleaning (rec : Nat)
  | finalizeOwnership (requestId : UUID) (rec : Nat)
  | releaseOperation (rec : Nat)
  | ownership (rec : Nat)
  | releaseChannels (rec : Nat) (channels : Nat)
  | markReceivedClosed (rec : Nat)
  | acquireRetry
  | releaseRetry
  | pendingRecords
  | acquireOperation (rec : Nat)
  | claimPending (requestId : UUID) (rec : Nat)
  | unresolvedCleanupCount
  | acquireRecovery
  | releaseRecovery
  | beginRecovery
  | setRecoveryReady (ready : Bool)
  -- the collaborators of the broker
  | createOwned (rec : Nat)
  | startOwned (rec : Nat) (channels : Nat)
  | installOwned (rec : Nat) (requestId : UUID) (unitName cgroupPath : String)
      (target : ProbeConnectGuardTarget)
  | releaseGate (rec : Nat)
  | readOutput (rec : Nat) (lease : ProbeTransientLease)
  | ensureCollected (rec : Nat) (lease : ProbeTransientLease)
  | ensureReleased (rec : Nat) (lease : ProbeConnectGuardLease)
  | closeChannels (rec : Nat) (channels : Nat)
  | closeReceived (rec : Nat)
  | reconcileUnits
  | reconcileGuards
  -- the service
  | acquireAdmission
  | releaseAdmission
  | cleanupFailedIsSet
  | stoppingIsSet
  | addTarget (target : ProbeConnectGuardTarget)
  | discardTarget (target : ProbeConnectGuardTarget)
  | admissionIsOpen
  | publishCleanupFailure
  | requestShutdown
  | closeInput (received : ReceivedProbeInput)

abbrev Answer : Call → Type
  | .query query => query.Answer
  | .newOwnership _ => Nat
  | .ownsRecord _ | .acquireRetry | .acquireOperation _ | .claimPending .. | .cleanupFailedIsSet
  | .stoppingIsSet | .admissionIsOpen => Bool
  | .ownership _ => ExecutionOwnership
  | .pendingRecords => List (UUID × Nat)
  | .unresolvedCleanupCount => Nat
  | .readOutput .. => List UInt8
  | .reconcileUnits | .reconcileGuards => Int
  | _ => Unit

abbrev Program := Prog Call Answer Failure

/-- What the code cannot predict about a call that takes effect. -/
structure Chance where
  took : Bool := false
  jobPath : String := ""
  channels : Nat := 0

namespace World

def put (w : World) (rec : Nat) (ownership : ExecutionOwnership) : World :=
  { w with
    records := fun other => if other = rec then ownership else w.records other }

def update (w : World) (rec : Nat) (change : ExecutionOwnership → ExecutionOwnership) :
    World :=
  w.put rec (change (w.records rec))

def setTarget (w : World) (target : ProbeConnectGuardTarget) (holder : Option TargetHolder) :
    World :=
  { w with
    activeTargets := fun other => if other = target then holder else w.activeTargets other }

def close (w : World) (handle : Nat) : World :=
  { w with closed := fun other => if other = handle then true else w.closed other }

/-- A new record, its operation lock taken; it belongs to the hold on its target, if there is one
that has no record yet. -/
def allocate (w : World) (tid : Nat) (received : ReceivedProbeInput) : World :=
  { w.put w.allocated { received, operationLock := some tid, owner := tid } with
    allocated := w.allocated + 1
    activeTargets := fun target =>
      if target = received.request.target ∧ w.activeTargets target = some { thread := tid } then
        some { thread := tid, record := some w.allocated }
      else w.activeTargets target }

def countPending (w : World) : Nat :=
  (w.active.values.filter fun rec =>
    decide ((w.records rec).state = .cleanupPending)).length

def pending (w : World) : List (UUID × Nat) :=
  w.active.items.filter fun item => decide ((w.records item.2).state ≠ .executing)

def admissionOpen (w : World) : Bool := !w.cleanupFailed && !w.stopping

end World

/-- A collaborator answers as it likes. Where its contract says so, it returns only after it took
effect. -/
def collaborate {Value : Type} (took sure : Bool) (wish : Except Failure Value)
    (post w : World) : Option (Except Failure Value × World) :=
  if took then some (wish, post)
  else
    match wish with
    | .ok _ => if sure then none else some (wish, w)
    | .error _ => some (wish, w)

/-- `ReceivedProbeInput.close`: the descriptor is given up before `os.close`, so a close that raised
may have been the only one. -/
def closeDescriptor (took : Bool) (handle : Nat) (wish : Except Failure Unit) (w : World) :
    Option (Except Failure Unit × World) :=
  if w.closed handle = true then some (.ok (), w)
  else collaborate took true wish (w.close handle) w

/-- The block of `_execute_claimed` under the active lock. -/
def enter (w : World) (rec : Nat) : Except Failure Unit × World :=
  let requestId := (w.records rec).requestId
  if w.recoveryReady = false then
    (.error (.execution "probe_execution_recovery_required"), w)
  else if w.active.contains requestId then
    (.error (.execution "probe_execution_already_active"), w)
  else if 128 ≤ w.active.length then
    (.error (.execution "probe_execution_capacity_exhausted"), w)
  else (.ok (), { w with active := w.active.set requestId rec })

def finalize (w : World) (requestId : UUID) (rec : Nat) : World :=
  if w.Owns requestId rec then
    if (w.records rec).collected then { w with active := w.active.pop requestId }
    else w.update rec fun ownership => { ownership with state := .cleanupPending }
  else w

/-- The block of `retry_pending_cleanup` that claims a record under the active lock. -/
def claim (w : World) (requestId : UUID) (rec : Nat) : Bool × World :=
  if w.Owns requestId rec ∧ (w.records rec).state ≠ .executing then
    (true, w.update rec fun ownership => { ownership with state := .cleaning })
  else (false, w)

/-- The answer to a call and the world after it; `none` while the caller waits for a lock, or where
the collaborator may not answer so. -/
def perform (tid : Nat) (w : World) (chance : Chance) :
    (request : Call) → Except Failure (Answer request) →
      Option (Except Failure (Answer request) × World)
  | .query _, wish => some (wish, w)
  | .newOwnership received, _ => some (.ok w.allocated, w.allocate tid received)
  | .register rec, _ => some (enter w rec)
  | .ownsRecord rec, _ => some (.ok (decide (w.Active rec)), w)
  | .beginCleaning rec, _ =>
    some (.ok (), if w.Active rec then
      w.update rec fun ownership => { ownership with state := .cleaning } else w)
  | .finalizeOwnership requestId rec, _ => some (.ok (), finalize w requestId rec)
  | .releaseOperation rec, _ =>
    some (.ok (), w.update rec fun ownership => { ownership with operationLock := none })
  | .ownership rec, _ => some (.ok (w.records rec), w)
  | .releaseChannels rec channels, _ =>
    if (w.records rec).channels = some channels then
      some (.ok (), w.update rec fun ownership => { ownership with channels := none })
    else some (.error (.execution "probe_execution_ownership_invalid"), w)
  | .markReceivedClosed rec, _ =>
    some (.ok (), w.update rec fun ownership => { ownership with receivedClosed := true })
  | .acquireRetry, _ =>
    if w.retryLock = none then some (.ok true, { w with retryLock := some tid })
    else some (.ok false, w)
  | .releaseRetry, _ => some (.ok (), { w with retryLock := none })
  | .pendingRecords, _ => some (.ok w.pending, w)
  | .acquireOperation rec, _ =>
    if (w.records rec).operationLock = none then
      some (.ok true, w.update rec fun ownership =>
        { ownership with operationLock := some tid })
    else some (.ok false, w)
  | .claimPending requestId rec, _ =>
    some (.ok (claim w requestId rec).1, (claim w requestId rec).2)
  | .unresolvedCleanupCount, _ => some (.ok w.countPending, w)
  | .acquireRecovery, _ =>
    if w.recoveryLock = none then some (.ok (), { w with recoveryLock := some tid })
    else none
  | .releaseRecovery, _ => some (.ok (), { w with recoveryLock := none })
  | .beginRecovery, _ =>
    if w.active.length = 0 then
      some (.ok (), { w with
        recoveryReady := false, unitsReport := none, guardsReport := none })
    else some (.error (.execution "probe_execution_recovery_busy"), w)
  | .setRecoveryReady ready, _ => some (.ok (), { w with recoveryReady := ready })
  | .createOwned rec, wish =>
    collaborate (chance.took && (w.records rec).channels.isNone) false wish
      (w.update rec fun ownership =>
        { ownership with channels := some chance.channels }) w
  | .startOwned rec _, wish =>
    collaborate (chance.took && (w.records rec).systemd.isNone) true wish
      (w.update rec fun ownership =>
        { ownership with systemd := some (ownership.unitLease chance.jobPath), unitLive := true })
      w
  | .installOwned rec requestId unitName _ target, wish =>
    collaborate (chance.took && (w.records rec).guard.isNone) true wish
      (w.update rec fun ownership =>
        { ownership with guard := some { requestId, unitName, target }, guardLive := true }) w
  | .releaseGate rec, wish =>
    collaborate chance.took true wish
      (w.update rec fun ownership => { ownership with gateReleased := true }) w
  | .readOutput rec lease, wish =>
    collaborate (chance.took && decide ((w.records rec).systemd = some lease)) false wish
      (w.update rec fun ownership =>
        { ownership with systemd := none, unitLive := false }) w
  | .ensureCollected rec lease, wish =>
    collaborate (chance.took && decide ((w.records rec).systemd = some lease)) false wish
      (w.update rec fun ownership =>
        { ownership with systemd := none, unitLive := false }) w
  | .ensureReleased rec lease, wish =>
    collaborate (chance.took && decide ((w.records rec).guard = some lease)) false wish
      (w.update rec fun ownership =>
        { ownership with guard := none, guardLive := false }) w
  | .closeChannels _ _, wish => some (wish, w)
  | .closeReceived rec, wish =>
    closeDescriptor chance.took (w.records rec).received.handle wish w
  | .reconcileUnits, wish =>
    some (wish, { w with unitsReport := wish.toOption })
  | .reconcileGuards, wish =>
    some (wish, { w with guardsReport := wish.toOption })
  | .acquireAdmission, _ =>
    if w.admissionLock = none then
      some (.ok (), { w with
        admissionLock := some tid, checkBegan := w.admissionOpen })
    else none
  | .releaseAdmission, _ => some (.ok (), { w with admissionLock := none })
  | .cleanupFailedIsSet, _ => some (.ok w.cleanupFailed, w)
  | .stoppingIsSet, _ => some (.ok w.stopping, w)
  | .addTarget target, _ =>
    if w.activeTargets target = none then
      some (.ok (), w.setTarget target (some { thread := tid }))
    else some (.error (.service "probe_broker_target_busy"), w)
  | .discardTarget target, _ =>
    if w.admissionLock = none then some (.ok (), w.setTarget target none) else none
  | .admissionIsOpen, _ =>
    if w.admissionLock = none then some (.ok w.admissionOpen, w) else none
  | .publishCleanupFailure, _ =>
    if w.admissionLock = none then some (.ok (), { w with cleanupFailed := true })
    else none
  | .requestShutdown, _ => some (.ok (), { w with stopping := true })
  | .closeInput received, wish =>
    closeDescriptor chance.took received.handle wish w

/-- No record that a connection of the thread made is being cleaned up. -/
def CalmCount (tid : Nat) (w : World) : Prop :=
  ∀ target rec, w.activeTargets target = some { thread := tid, record := some rec } →
    w.Active rec → (w.records rec).state ≠ .cleaning

/-- The machine of the broker. When `calm` holds, a thread counts unresolved records only while
none of its own is being cleaned up. -/
def machine (calm : Prop) : Machine Call Answer Failure World where
  exec tid w request ans post :=
    (calm → request = .unresolvedCleanupCount → CalmCount tid w) ∧
      ∃ chance wish, perform tid w chance request wish = some (ans, post)
  leave _ w := w

def Fresh (w : World) : Prop :=
  w.allocated = 0 ∧ w.active = Dict.empty ∧ w.recoveryReady = false ∧
    w.recoveryLock = none ∧ w.retryLock = none ∧ w.admissionLock = none ∧
    (∀ target, w.activeTargets target = none) ∧ w.cleanupFailed = false ∧
    w.stopping = false

end RtspProxy.Broker
