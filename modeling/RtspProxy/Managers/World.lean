import RtspProxy.Lib.Dict
import RtspProxy.Lib.Program
import Mathlib.Data.Rat.Defs
import Mathlib.Data.List.Sort

/-!
# The world of the probe managers

`SystemdProbeManager` and `ProbeConnectGuardManager` are one kind of machine: a
table of records by unit name, an operation lock per record, and a resource that
a record stands for (a transient unit, a connect guard). What they share is
modelled once; a state keeps the name the systemd manager has for it, so
`starting` is also a guard's `"installing"` and `collected` its `"released"`.

A lease is the record it was made for, as leases are compared by identity, and a
ledger is a number. The history of a record says whether its resource was asked
for (`issued`), whether it may still be there (`live`), and whether the ledger it
was published to owns its lease (`owned`). No program reads it, except through
the ledger itself. A transport or a backend is only ever given the record's own
resource.
-/

namespace RtspProxy.Managers

open Lib Lib.Program

/-- What a call raises. An `error` has the code of the manager's own class, an `interruption` is no
`Exception`. -/
inductive Failure
  | error (code : String)
  | rejected (code : String)
  | rejectedInterruption (interruption : Failure)
  | reconcileRequired (interruption : Option Failure)
  | exception
  | interruption
  | group (msg : String) (exceptions : List Failure)

namespace Failure

mutual

def isException : Failure → Bool
  | error _ | rejected _ | reconcileRequired _ | exception => true
  | rejectedInterruption _ | interruption => false
  | group _ exceptions => areExceptions exceptions

def areExceptions : List Failure → Bool
  | [] => true
  | first :: rest => first.isException && areExceptions rest

end

/-- `StartTransientUnit` was definitively rejected. -/
def isStartRejection : Failure → Bool
  | rejected _ | rejectedInterruption _ => true
  | _ => false

/-- The install was rejected; with `reconcileRequired` it left a receipt behind. -/
def isRejection : Failure → Bool
  | reconcileRequired _ => true
  | failure => failure.isStartRejection

end Failure

inductive RecordState
  | starting
  | active
  | cleaning
  | cleanupPending
  | collected
  deriving DecidableEq

/-- States that only last while the operation lock is held. -/
def RecordState.transitional : RecordState → Bool
  | starting | cleaning => true
  | _ => false

/-- `record.state in {"cleanup_pending", "collected"}`. -/
def RecordState.pending : RecordState → Bool
  | cleanupPending | collected => true
  | _ => false

/-- `_UnitRecord` and `_GuardRecord`, and their history from `issued` on. -/
structure ManagedRecord where
  unitName : String
  state : RecordState := .starting
  lease : Bool := false
  ownership : Option Nat := none
  operationLock : Option Nat
  cleanupAttemptOrder : Nat := 0
  startMayExist : Bool := false
  outputReadFd : Int := 0
  outputPipeIdentity : Nat × Nat := (0, 0)
  issued : Bool := false
  live : Bool := false
  owned : Bool := false
  deriving DecidableEq

/-- A lease of the record, under the unit name it carries. -/
structure Lease where
  unitName : String
  record : Nat
  deriving DecidableEq

/-- The records, and the table of those that are tracked. -/
structure Heap where
  records : Nat → ManagedRecord
  allocated : Nat
  table : Dict String Nat

namespace Heap

def Tracked (heap : Heap) (rec : Nat) : Prop :=
  heap.table.get (heap.records rec).unitName = some rec

instance (heap : Heap) (rec : Nat) : Decidable (heap.Tracked rec) :=
  inferInstanceAs (Decidable (heap.table.get _ = _))

def put (heap : Heap) (rec : Nat) (managed : ManagedRecord) : Heap :=
  { heap with records := fun other => if other = rec then managed else heap.records other }

def allocate (heap : Heap) (managed : ManagedRecord) : Heap :=
  { heap.put heap.allocated managed with allocated := heap.allocated + 1 }

def insert (heap : Heap) (rec : Nat) : Heap :=
  { heap with table := heap.table.set (heap.records rec).unitName rec }

/-- `del self._units[unit_name]`. -/
def drop (heap : Heap) (rec : Nat) : Heap :=
  { heap with table := heap.table.pop (heap.records rec).unitName }

end Heap

structure World extends Heap where
  cleanupRetryLock : Option Nat
  cleanupAttemptSequence : Nat
  reconcileInProgress : Bool
  reconcileReady : Bool
  /-- The records whose removal was attempted, newest first. -/
  attempts : List Nat

/-- Calls that leave the shared state alone. -/
inductive Query
  | monotonic
  -- `SystemdProbeManager`
  | buildProbeTransientUnit
  | pipeIdentity (descriptor : Int) (writeEnd : Bool)
  | onLinux
  | handlesException
  | responseIsValid
  | readBoundedOutput (descriptor : Int) (timeout : Rat)
  -- `ProbeConnectGuardManager`
  | scopeIsValid (unitName : String)
  | verify (rec : Nat) (timeout : Rat)

abbrev Query.Answer : Query → Type
  /- `none` where the clock raised an arithmetic, type, value or operating system error. -/
  | .monotonic => Option Rat
  /- The name of the unit. -/
  | .buildProbeTransientUnit => String
  | .pipeIdentity .. => Nat × Nat
  | .onLinux | .handlesException | .responseIsValid | .scopeIsValid _ => Bool
  | .readBoundedOutput .. => List UInt8
  | .verify .. => Unit

/-- What `_retry_pending_record` finds under the lock. -/
inductive RetryClaim
  | skipped
  | dropped
  | claimed
  deriving DecidableEq

inductive Call
  | query (query : Query)
  -- both managers
  | newRecord (unitName : String) (outputReadFd : Int) (outputPipeIdentity : Nat × Nat)
  | activate (rec : Nat)
  | setOwnership (rec ledger : Nat)
  | removeRecord (rec : Nat)
  | acquireOperation (rec : Nat)
  | acquireRetry
  | releaseRetry
  | pendingBatch
  | claimRetry (rec : Nat)
  -- `SystemdProbeManager`
  | insertUnit (rec : Nat)
  | output (rec : Nat)
  | markCleaning (rec : Nat)
  | finishRecovery (rec : Nat) (collected retainCollected : Bool)
  | releaseUnitOperation (rec : Nat) (preserveActive : Bool)
  | findUnit (lease : Lease) (ownership : Option Nat)
  | beginCleanup (lease : Lease) (rec : Nat) (ownership : Option Nat)
  | unresolvedCleanupCount
  -- `ProbeConnectGuardManager`
  | insertGuard (rec : Nat)
  | forget (rec : Nat) (requireReconcile : Bool)
  | startCleaning (rec : Nat)
  | markCleanupPending (rec : Nat)
  | releaseGuardOperation (rec : Nat) (preserveActive : Bool)
  | findGuard (lease : Lease) (ownership : Option Nat)
  | beginRelease (lease : Lease) (rec : Nat) (ownership : Option Nat)
  | finishRelease (rec : Nat) (ownership : Option Nat)
  | pendingCount
  | reconcileState
  | beginReconcile
  | endReconcile (ready : Option Bool)
  -- the transport or the backend, and the ledgers
  | transportCall (rec : Nat) (timeout : Rat)
  | backendInstall (rec : Nat) (timeout : Rat)
  | remove (rec : Nat) (timeout : Rat)
  | reconcileOwned (timeout : Rat)
  | publish (rec ledger : Nat)
  | owns (rec ledger : Nat)
  | release (rec ledger : Nat)

abbrev Answer : Call → Type
  | .query query => query.Answer
  | .newRecord .. => Nat
  | .activate _ | .removeRecord _ | .acquireOperation _ | .acquireRetry | .insertUnit _
  | .markCleaning _ | .finishRecovery .. | .finishRelease .. | .beginReconcile | .owns .. => Bool
  | .pendingBatch => List Nat
  | .claimRetry _ => RetryClaim
  | .output _ => Int × (Nat × Nat)
  | .findUnit .. | .findGuard .. => Option Nat
  /- The code of an error, or whether only the ledger is left to release. -/
  | .beginCleanup .. | .beginRelease .. => Except String Bool
  | .insertGuard _ => Option String
  | .unresolvedCleanupCount | .pendingCount => Nat
  /- Whether reconciliation runs, and whether it has succeeded. -/
  | .reconcileState => Bool × Bool
  | .reconcileOwned _ => Int
  | _ => Unit

abbrev Program := Prog Call Answer Failure

namespace World

def allocate (w : World) (managed : ManagedRecord) : World :=
  { w with toHeap := w.toHeap.allocate managed }

def update (w : World) (rec : Nat) (change : ManagedRecord → ManagedRecord) : World :=
  { w with toHeap := w.toHeap.put rec (change (w.records rec)) }

def setState (w : World) (rec : Nat) (state : RecordState) : World :=
  w.update rec fun managed => { managed with state }

def drop (w : World) (rec : Nat) : World :=
  { w with toHeap := w.toHeap.drop rec }

def markPending (w : World) (rec : Nat) : World :=
  { w with
    toHeap := w.toHeap.put rec
      { w.records rec with
        state := .cleanupPending
        cleanupAttemptOrder := w.cleanupAttemptSequence + 1 }
    cleanupAttemptSequence := w.cleanupAttemptSequence + 1 }

def unlock (w : World) (rec : Nat) : World :=
  w.update rec fun managed => { managed with operationLock := none }

/-- The pending records in the order of their last attempt, at most eight of them. -/
def batch (w : World) : List Nat :=
  ((w.table.values.filter fun rec => (w.records rec).state.pending).mergeSort
    fun first second => decide ((w.records first).cleanupAttemptOrder ≤
      (w.records second).cleanupAttemptOrder)).take 8

def count (w : World) (counted : RecordState → Bool) : Nat :=
  (w.table.values.filter fun rec => counted (w.records rec).state).length

end World

/-- A lease for the record that is filed under its unit name. -/
def World.isLeaseOf (w : World) (lease : Lease) (rec : Nat) : Bool :=
  decide (w.table.get lease.unitName = some rec) && decide (lease.record = rec) &&
    (w.records rec).lease

/-- The record has the ledger that was passed, if one was. -/
def hasLedger (managed : ManagedRecord) (own : Option Nat) : Bool :=
  own.isNone || decide (managed.ownership = own)

def releasable (managed : ManagedRecord) (own : Option Nat) : Bool :=
  decide (managed.state = .active) ||
    own.isSome && decide (managed.ownership = own) && managed.state.pending

/-- The second check of `_cleanup_lease`, under both locks. -/
def beginUnitCleanup (w : World) (lease : Lease) (rec : Nat) (own : Option Nat) :
    Except String Bool × World :=
  let cleaning := w.setState rec .cleaning
  if w.isLeaseOf lease rec && hasLedger (w.records rec) own then
    match (w.records rec).state, own with
    | .collected, some _ => (.ok true, w)
    | .cleanupPending, some _ => (.ok false, cleaning)
    | .active, _ => (.ok false, cleaning)
    | _, _ => (.error "probe_transient_cleanup_in_progress", w)
  else (.error "probe_transient_lease_invalid", w)

def beginGuardRelease (w : World) (lease : Lease) (rec : Nat) (own : Option Nat) :
    Except String Bool × World :=
  if w.isLeaseOf lease rec && releasable (w.records rec) own then
    if (w.records rec).state = .collected then (.ok true, w)
    else (.ok false, w.setState rec .cleaning)
  else (.error "probe_guard_lease_invalid", w)

/-- A retry asks the ledger of a pending record that has a lease. -/
def World.asksLedger (w : World) (rec : Nat) : Bool :=
  decide (w.Tracked rec) && (w.records rec).state.pending &&
    (w.records rec).ownership.isSome && (w.records rec).lease

/-- The block of a retry under the lock, when the ledger answers. -/
def claimRetry (w : World) (rec : Nat) : RetryClaim × World :=
  if w.Tracked rec ∧ (w.records rec).state.pending = true then
    if w.asksLedger rec && (w.records rec).owned then (.skipped, w)
    else if (w.records rec).state = .collected then (.dropped, w.drop rec)
    else (.claimed, w.setState rec .cleaning)
  else (.skipped, w)

def releaseUnit (w : World) (rec : Nat) (preserveActive : Bool) : World :=
  let managed := w.records rec
  let settled :=
    if w.Tracked rec then
      if managed.state = .starting ∧ managed.startMayExist = false then w.drop rec
      else if managed.state.transitional ∨ managed.state = .active ∧ preserveActive = false then
        w.markPending rec
      else w
    else w
  settled.unlock rec

def releaseGuard (w : World) (rec : Nat) (preserveActive : Bool) : World :=
  let managed := w.records rec
  let settled :=
    if w.Tracked rec ∧
        (managed.state.transitional ∨ managed.state = .active ∧ preserveActive = false) then
      w.markPending rec
    else w
  settled.unlock rec

def plainly {Value : Type} (wish : Except Failure Value) (w : World) :
    Option (Except Failure Value × World) :=
  match wish with
  | .ok _ => some (wish, w)
  | .error err => if err.isRejection then none else some (wish, w)

/-- A ledger that returns has done what it was asked to do; one that raises may have. -/
def ledgerCall (took : Bool) (wish : Except Failure Unit) (post w : World) :
    Option (Except Failure Unit × World) :=
  plainly wish (if wish.isOk || took then post else w)

/-- The start or the install: only a rejection says that there is nothing. -/
def issueCall (isRejection : Failure → Bool) (wish : Except Failure Unit) (rec : Nat)
    (w : World) : World :=
  w.update rec fun managed =>
    { managed with
      startMayExist := true
      issued := true
      live := match wish with
        | .ok _ => true
        | .error err => !isRejection err }

def removeCall (wish : Except Failure Unit) (rec : Nat) (w : World) : World :=
  { w with
    toHeap := w.toHeap.put rec
      { w.records rec with live := (w.records rec).live && !wish.isOk }
    attempts := rec :: w.attempts }

/-- The answer and the world after a call of the thread. `took` tells whether a ledger call that
raises has taken effect, and `wish` is what a clock, a collaborator or a ledger answers. -/
def perform (tid : Nat) (w : World) (took : Bool) :
    (req : Call) → Except Failure (Answer req) → Option (Except Failure (Answer req) × World)
  | .query _, wish => plainly wish w
  | .newRecord unitName outputReadFd outputPipeIdentity, _ =>
    some (.ok w.allocated,
      w.allocate { unitName, operationLock := some tid, outputReadFd, outputPipeIdentity })
  | .activate rec, _ =>
    if w.Tracked rec ∧ (w.records rec).state = .starting then
      some (.ok true, w.update rec fun managed =>
        { managed with lease := true, state := .active })
    else some (.ok false, w)
  | .setOwnership rec ledger, _ =>
    some (.ok (), w.update rec fun managed => { managed with ownership := some ledger })
  | .removeRecord rec, _ =>
    if w.Tracked rec then some (.ok true, w.drop rec) else some (.ok false, w)
  | .acquireOperation rec, _ =>
    if (w.records rec).operationLock = none then
      some (.ok true, w.update rec fun managed =>
        { managed with operationLock := some tid })
    else some (.ok false, w)
  | .acquireRetry, _ =>
    if w.cleanupRetryLock = none then
      some (.ok true, { w with cleanupRetryLock := some tid })
    else some (.ok false, w)
  | .releaseRetry, _ => some (.ok (), { w with cleanupRetryLock := none })
  | .pendingBatch, _ => some (.ok w.batch, w)
  | .claimRetry rec, .ok _ =>
    some (.ok (claimRetry w rec).1, (claimRetry w rec).2)
  | .claimRetry rec, .error err =>
    if w.asksLedger rec then some (.error err, w) else none
  | .insertUnit rec, _ =>
    if w.table.get (w.records rec).unitName = none then
      some (.ok true, { w with toHeap := w.toHeap.insert rec })
    else some (.ok false, w)
  | .output rec, _ =>
    some (.ok ((w.records rec).outputReadFd, (w.records rec).outputPipeIdentity), w)
  | .markCleaning rec, _ =>
    if w.Tracked rec ∧ ((w.records rec).state = .starting ∨
        (w.records rec).state = .active) then
      some (.ok true, w.setState rec .cleaning)
    else some (.ok false, w)
  | .finishRecovery rec collected retainCollected, _ =>
    if w.Tracked rec ∧ (w.records rec).state = .cleaning then
      some (.ok true, if collected then
          if retainCollected then
            w.setState rec .collected
          else w.drop rec
        else w.markPending rec)
    else some (.ok false, w)
  | .releaseUnitOperation rec preserveActive, _ =>
    some (.ok (), releaseUnit w rec preserveActive)
  | .findUnit lease own, _ =>
    some (.ok (if w.isLeaseOf lease lease.record &&
      hasLedger (w.records lease.record) own then some lease.record else none), w)
  | .beginCleanup lease rec own, _ =>
    some (.ok (beginUnitCleanup w lease rec own).1, (beginUnitCleanup w lease rec own).2)
  | .unresolvedCleanupCount, _ =>
    some (.ok (w.count fun state => decide (state = .cleaning) || state.pending), w)
  | .insertGuard rec, _ =>
    if w.reconcileInProgress then some (.ok (some "probe_guard_reconcile_busy"), w)
    else if w.reconcileReady = false then
      some (.ok (some "probe_guard_reconcile_required"), w)
    else if w.table.get (w.records rec).unitName = none then
      some (.ok none, { w with toHeap := w.toHeap.insert rec })
    else some (.ok (some "probe_guard_already_active"), w)
  | .forget rec requireReconcile, _ =>
    let forgotten := if w.Tracked rec then w.drop rec else w
    some (.ok (), { forgotten with reconcileReady := w.reconcileReady && !requireReconcile })
  | .startCleaning rec, _ =>
    some (.ok (), if w.Tracked rec then
      w.setState rec .cleaning else w)
  | .markCleanupPending rec, _ =>
    some (.ok (), if w.Tracked rec then w.markPending rec else w)
  | .releaseGuardOperation rec preserveActive, _ =>
    some (.ok (), releaseGuard w rec preserveActive)
  | .findGuard lease own, _ =>
    some (.ok (if w.isLeaseOf lease lease.record &&
      releasable (w.records lease.record) own then some lease.record else none), w)
  | .beginRelease lease rec own, _ =>
    some (.ok (beginGuardRelease w lease rec own).1, (beginGuardRelease w lease rec own).2)
  | .finishRelease rec own, _ =>
    if w.Tracked rec then
      some (.ok true, if own.isNone then w.drop rec
        else w.setState rec .collected)
    else some (.ok false, w)
  | .pendingCount, _ => some (.ok (w.count RecordState.pending), w)
  | .reconcileState, _ => some (.ok (w.reconcileInProgress, w.reconcileReady), w)
  | .beginReconcile, _ =>
    if w.table.length ≠ 0 ∨ w.reconcileInProgress = true then some (.ok false, w)
    else some (.ok true, { w with reconcileInProgress := true, reconcileReady := false })
  | .endReconcile ready, _ =>
    some (.ok (), { w with
      reconcileInProgress := false
      reconcileReady := ready.getD w.reconcileReady })
  | .transportCall rec _, wish => some (wish, issueCall Failure.isStartRejection wish rec w)
  | .backendInstall rec _, wish => some (wish, issueCall Failure.isRejection wish rec w)
  | .remove rec _, wish => some (wish, removeCall wish rec w)
  | .reconcileOwned _, wish => some (wish, w)
  | .publish rec ledger, wish =>
    if (w.records rec).ownership = some ledger then
      ledgerCall took wish (w.update rec fun managed => { managed with owned := true })
        w
    else plainly wish w
  | .owns rec ledger, wish =>
    if (w.records rec).ownership = some ledger then
      match wish with
      | .ok _ => some (.ok (w.records rec).owned, w)
      | .error err => plainly (.error err) w
    else plainly wish w
  | .release rec ledger, wish =>
    if (w.records rec).ownership = some ledger then
      ledgerCall took wish (w.update rec fun managed => { managed with owned := false })
        w
    else plainly wish w

/-- Nobody gives up a lease that a ledger owns, except with that ledger. -/
def HonoursLedger (w : World) : Call → Prop
  | .beginCleanup _ rec own | .beginRelease _ rec own =>
    (w.records rec).owned = true → (w.records rec).ownership = own
  | _ => True

def machine : Machine Call Answer Failure World where
  exec tid w req ans post :=
    HonoursLedger w req ∧ ∃ took wish, perform tid w took req wish = some (ans, post)
  leave _ w := w

def Fresh (w : World) : Prop :=
  w.allocated = 0 ∧ w.table = Dict.empty ∧ w.cleanupRetryLock = none ∧
    w.cleanupAttemptSequence = 0 ∧ w.reconcileInProgress = false ∧
    w.reconcileReady = false

end RtspProxy.Managers
