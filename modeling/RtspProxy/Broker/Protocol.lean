import RtspProxy.Broker.World

/-!
# The protocol of the broker's threads

`BrokerStep` says what a thread may do to the shared world: the abstract broker.
A record is changed only by the thread that holds its operation lock, its
resources are given up in one order (the unit, then the guard, then the channels,
then the sealed input), and it leaves the table only when all four are gone.
Recovery belongs to the holder of the recovery lock and finds the table empty. A
target is taken under the admission lock while admission is open.

The calls a thread makes have to be `Permitted`; then each is such a step
(`call_steps`), and every step keeps the `Invariant`.
-/

namespace RtspProxy.Broker

open Nodes Lib Lib.Program

/-- What the holder of the operation lock may do to a record. -/
inductive RecordStep (closed : Nat → Bool) (active : Prop) (pre : ExecutionOwnership) :
    ExecutionOwnership → Prop
  | publishChannels (channels : Nat) (isActive : active) (executing : pre.state = .executing) :
      RecordStep closed active pre { pre with channels := some channels }
  | publishUnit (jobPath : String) (isActive : active) (executing : pre.state = .executing)
      (shut : pre.gateReleased = false) :
      RecordStep closed active pre
        { pre with systemd := some (pre.unitLease jobPath), unitLive := true }
  | publishGuard (isActive : active) (executing : pre.state = .executing) :
      RecordStep closed active pre { pre with guard := some pre.guardLease, guardLive := true }
  | releaseGate (unit : pre.systemd ≠ none) (guarded : pre.guard = some pre.guardLease)
      (live : pre.guardLive = true) :
      RecordStep closed active pre { pre with gateReleased := true }
  | collectUnit : RecordStep closed active pre { pre with systemd := none, unitLive := false }
  | releaseGuard (noUnit : pre.systemd = none) :
      RecordStep closed active pre { pre with guard := none, guardLive := false }
  | releaseChannels (noUnit : pre.systemd = none) (noGuard : pre.guard = none) :
      RecordStep closed active pre { pre with channels := none }
  | markClosed (empty : pre.slotsEmpty = true)
      (isClosed : closed pre.received.handle = true)
      (resting : active → pre.state ≠ .executing) :
      RecordStep closed active pre { pre with receivedClosed := true }
  | rest (isActive : active) (state : ExecutionState) (resting : state ≠ .executing) :
      RecordStep closed active pre { pre with state := state }
  | relock (lock : Option Nat) : RecordStep closed active pre { pre with operationLock := lock }

def Locks (tid : Nat) (w : World) (rec : Nat) : Prop :=
  rec < w.allocated ∧ (w.records rec).operationLock = some tid

/-- The hold of the thread on the target is for this record. -/
def Booked (tid : Nat) (w : World) (rec : Nat) : Prop :=
  w.activeTargets (w.records rec).target = some { thread := tid, record := some rec }

/-- The record is not executing, nothing is in its slots and its input is closed. -/
def Quiet (w : World) (rec : Nat) : Prop :=
  (w.Active rec → (w.records rec).state ≠ .executing) ∧ (w.records rec).slotsEmpty = true ∧
    w.closed (w.records rec).received.handle = true

/-- What a thread may do to the world. -/
inductive BrokerStep (calm : Prop) (tid : Nat) (w : World) : World → Prop
  | idle : BrokerStep calm tid w w
  | allocate (received : ReceivedProbeInput)
      (held : calm → w.activeTargets received.request.target = some { thread := tid }) :
      BrokerStep calm tid w (w.allocate tid received)
  | enter (rec : Nat) (locks : Locks tid w rec)
      (own : (w.records rec).owner = tid) (ready : w.recoveryReady = true)
      (free : w.active.get (w.records rec).requestId = none)
      (room : w.active.length < 128) (executing : (w.records rec).state = .executing)
      (unclosed : (w.records rec).receivedClosed = false)
      (booked : calm → Booked tid w rec) :
      BrokerStep calm tid w { w with active := w.active.set (w.records rec).requestId rec }
  | change (rec : Nat) (locks : Locks tid w rec) (post : ExecutionOwnership)
      (step : RecordStep w.closed (w.Active rec) (w.records rec) post) :
      BrokerStep calm tid w (w.put rec post)
  | lock (rec : Nat) (present : rec < w.allocated)
      (free : (w.records rec).operationLock = none) :
      BrokerStep calm tid w
        (w.update rec fun ownership => { ownership with operationLock := some tid })
  | leave (rec : Nat) (locks : Locks tid w rec) (isActive : w.Active rec)
      (collected : (w.records rec).collected = true) :
      BrokerStep calm tid w { w with active := w.active.pop (w.records rec).requestId }
  | retry (lock : Option Nat) : BrokerStep calm tid w { w with retryLock := lock }
  | takeRecovery (free : w.recoveryLock = none) :
      BrokerStep calm tid w { w with recoveryLock := some tid }
  | giveRecovery (own : w.recoveryLock = some tid) :
      BrokerStep calm tid w { w with recoveryLock := none }
  | beginRecovery (own : w.recoveryLock = some tid) (empty : w.active.length = 0) :
      BrokerStep calm tid w
        { w with recoveryReady := false, unitsReport := none, guardsReport := none }
  | report (own : w.recoveryLock = some tid) (notReady : w.recoveryReady = false)
      (empty : w.active.length = 0) (units guards : Option Int) :
      BrokerStep calm tid w { w with unitsReport := units, guardsReport := guards }
  | setReady (own : w.recoveryLock = some tid) (ready : Bool)
      (reported : ready = true → w.unitsReport = some 0 ∧ w.guardsReport = some 0) :
      BrokerStep calm tid w { w with recoveryReady := ready }
  | closeReceived (rec : Nat) (locks : Locks tid w rec)
      (empty : (w.records rec).slotsEmpty = true) :
      BrokerStep calm tid w (w.close (w.records rec).received.handle)
  -- Only a connection of the calm service closes an input without its record.
  | closeInput (serving : calm) (handle : Nat) : BrokerStep calm tid w (w.close handle)
  | takeAdmission (free : w.admissionLock = none) :
      BrokerStep calm tid w
        { w with admissionLock := some tid, checkBegan := w.admissionOpen }
  | giveAdmission (own : w.admissionLock = some tid) :
      BrokerStep calm tid w { w with admissionLock := none }
  | addTarget (target : ProbeConnectGuardTarget) (own : w.admissionLock = some tid)
      (absent : w.activeTargets target = none) (clean : w.cleanupFailed = false)
      (began : w.checkBegan = true) :
      BrokerStep calm tid w (w.setTarget target (some { thread := tid }))
  | discardTarget (target : ProbeConnectGuardTarget) (holder : TargetHolder)
      (held : w.activeTargets target = some holder) (own : holder.thread = tid)
      (finished : calm → ∀ rec, holder.record = some rec →
        w.cleanupFailed = true ∨ Quiet w rec) :
      BrokerStep calm tid w (w.setTarget target none)
  | publishFailure (free : w.admissionLock = none) :
      BrokerStep calm tid w { w with cleanupFailed := true }
  | shutdown : BrokerStep calm tid w { w with stopping := true }

/-- The unit of a record is gone before its lease, its guard outlasts a running unit, and a record
outside the table holds nothing. -/
structure ExecutionOwnership.Sound (closed : Nat → Bool) (active : Prop)
    (ownership : ExecutionOwnership) : Prop where
  unit : ownership.unitLive = true → ownership.systemd ≠ none
  guard : ownership.guardLive = true → ownership.guard ≠ none
  exactGuard : ∀ lease, ownership.guard = some lease → lease = ownership.guardLease
  exactUnit : ∀ lease, ownership.systemd = some lease → ∃ jobPath, lease = ownership.unitLease jobPath
  guarded : ownership.gateReleased = true → ownership.unitLive = true → ownership.guardLive = true
  outside : ¬active → ownership.slotsEmpty = true
  closing : ownership.receivedClosed = true → closed ownership.received.handle = true
  resting : ownership.receivedClosed = true → active → ownership.state ≠ .executing

structure Invariant (calm : Prop) (w : World) : Prop where
  keyed : ∀ requestId rec, w.Owns requestId rec →
    rec < w.allocated ∧ (w.records rec).requestId = requestId
  room : w.active.length ≤ 128
  records : ∀ rec < w.allocated, (w.records rec).Sound w.closed (w.Active rec)
  ready : w.recoveryReady = true → w.unitsReport = some 0 ∧ w.guardsReport = some 0
  began : w.admissionLock ≠ none → w.checkBegan = false → w.cleanupFailed = true ∨ w.stopping = true
  held : calm → ∀ rec < w.allocated,
    Booked (w.records rec).owner w rec ∨ w.cleanupFailed = true ∨ Quiet w rec

/-- The thread holds the lock of a record that is in the table and executing. -/
def Executes (tid : Nat) (w : World) (rec : Nat) : Prop :=
  Locks tid w rec ∧ w.Active rec ∧ (w.records rec).state = .executing

def Permitted (calm : Prop) (tid : Nat) (w : World) : Call → Prop
  | .newOwnership received => calm → w.activeTargets received.request.target = some { thread := tid }
  | .register rec =>
    Locks tid w rec ∧ (w.records rec).owner = tid ∧
      (w.records rec).state = .executing ∧
      (w.records rec).receivedClosed = false ∧ (calm → Booked tid w rec)
  | .beginCleaning rec | .releaseOperation rec | .readOutput rec _
  | .ensureCollected rec _ => Locks tid w rec
  | .finalizeOwnership requestId rec =>
    Locks tid w rec ∧ (w.records rec).requestId = requestId
  | .claimPending requestId rec =>
    Locks tid w rec ∧ (w.records rec).requestId = requestId
  | .releaseChannels rec _ | .closeChannels rec _ =>
    Locks tid w rec ∧ (w.records rec).systemd = none ∧ (w.records rec).guard = none
  | .closeReceived rec =>
    Locks tid w rec ∧ (w.records rec).slotsEmpty = true
  | .markReceivedClosed rec =>
    Locks tid w rec ∧ Quiet w rec
  | .acquireOperation rec => rec < w.allocated
  | .createOwned rec => Executes tid w rec
  | .startOwned rec _ =>
    Executes tid w rec ∧ (w.records rec).gateReleased = false
  | .installOwned rec requestId unitName _ target =>
    Executes tid w rec ∧ { requestId, unitName, target } = (w.records rec).guardLease
  | .releaseGate rec =>
    Locks tid w rec ∧ (w.records rec).systemd ≠ none ∧
      (w.records rec).guard = some (w.records rec).guardLease ∧
      (w.records rec).guardLive = true
  | .ensureReleased rec _ => Locks tid w rec ∧ (w.records rec).systemd = none
  | .releaseRecovery | .beginRecovery => w.recoveryLock = some tid
  | .reconcileUnits | .reconcileGuards =>
    w.recoveryLock = some tid ∧ w.recoveryReady = false ∧ w.active.length = 0
  | .setRecoveryReady ready =>
    w.recoveryLock = some tid ∧ (ready = true → w.unitsReport = some 0 ∧ w.guardsReport = some 0)
  | .releaseAdmission => w.admissionLock = some tid
  | .addTarget _ =>
    w.admissionLock = some tid ∧ w.cleanupFailed = false ∧ w.checkBegan = true
  | .discardTarget target =>
    ∃ holder, w.activeTargets target = some holder ∧ holder.thread = tid ∧
      (calm → ∀ rec, holder.record = some rec → w.cleanupFailed = true ∨ Quiet w rec)
  | .closeInput _ => calm
  | _ => True

section Lookups

variable {w : World} {rec other : Nat} {ownership : ExecutionOwnership}

@[simp] theorem put_records_self : (w.put rec ownership).records rec = ownership :=
  if_pos rfl

theorem put_records_ne (differ : other ≠ rec) :
    (w.put rec ownership).records other = w.records other :=
  if_neg differ

theorem active_put (sameInput : ownership.received = (w.records rec).received) :
    (w.put rec ownership).Active other ↔ w.Active other := by
  have sameId : ((w.put rec ownership).records other).requestId =
      (w.records other).requestId := by
    by_cases isRecord : other = rec
    · rw [isRecord, put_records_self]
      unfold ExecutionOwnership.requestId
      rw [sameInput]
    · rw [put_records_ne isRecord]
  unfold World.Active
  rw [sameId]
  rfl

theorem active_set (free : w.active.get (w.records rec).requestId = none) :
    World.Active { w with active := w.active.set (w.records rec).requestId rec }
      other ↔ other = rec ∨ w.Active other := by
  unfold World.Active World.Owns
  rw [Dict.get_set]
  split_ifs with sameId
  · constructor
    · intro isRecord
      exact .inl (Option.some.inj isRecord).symm
    · rintro (isRecord | isActive)
      · rw [isRecord]
      · rw [sameId, free] at isActive
        cases isActive
  · constructor
    · intro isActive
      exact .inr isActive
    · rintro (isRecord | isActive)
      · exact absurd (by rw [isRecord]) sameId
      · exact isActive

theorem active_pop (isActive : w.Active rec) :
    World.Active { w with active := w.active.pop (w.records rec).requestId } other ↔
      other ≠ rec ∧ w.Active other := by
  unfold World.Active World.Owns
  rw [Dict.get_pop]
  split_ifs with sameId
  · constructor
    · intro impossible
      cases impossible
    · rintro ⟨differ, otherActive⟩
      rw [sameId] at otherActive
      exact absurd (Option.some.inj (otherActive.symm.trans isActive)) differ
  · constructor
    · intro otherActive
      refine ⟨?_, otherActive⟩
      intro isRecord
      exact sameId (by rw [isRecord])
    · exact fun both => both.2

end Lookups

namespace RecordStep

variable {closed : Nat → Bool} {active : Prop} {pre post : ExecutionOwnership}

variable (step : RecordStep closed active pre post)

include step

theorem origin :
    post.received = pre.received ∧ post.owner = pre.owner := by
  cases step <;> exact ⟨rfl, rfl⟩

theorem rests (resting : pre.state ≠ .executing) :
    post.state ≠ .executing := by
  cases step with
  | rest isActive state restingAfter => exact restingAfter
  | _ => exact resting

theorem stays_empty (resting : active → pre.state ≠ .executing) (empty : pre.slotsEmpty = true) :
    post.slotsEmpty = true := by
  simp only [ExecutionOwnership.slotsEmpty, Bool.and_eq_true, Option.isNone_iff_eq_none] at *
  cases step with
  | publishChannels channels isActive executing => exact absurd executing (resting isActive)
  | publishUnit jobPath isActive executing => exact absurd executing (resting isActive)
  | publishGuard isActive executing => exact absurd executing (resting isActive)
  | collectUnit => exact ⟨⟨empty.1.1, rfl⟩, empty.2⟩
  | releaseGuard => exact ⟨empty.1, rfl⟩
  | releaseChannels => exact ⟨⟨rfl, empty.1.2⟩, empty.2⟩
  | _ => exact empty

theorem keeps_sound (sound : pre.Sound closed active) : post.Sound closed active := by
  have outside : ¬active → post.slotsEmpty = true := fun notActive =>
    step.stays_empty (fun isActive => absurd isActive notActive) (sound.outside notActive)
  cases step with
  | publishChannels channels isActive executing => exact { sound with outside }
  | publishUnit jobPath isActive executing shut =>
    refine { sound with outside, unit := ?_, exactUnit := ?_, guarded := ?_ }
    · exact fun _ => Option.some_ne_none _
    · rintro lease isLease
      exact ⟨jobPath, (Option.some.inj isLease).symm⟩
    · intro released
      rw [shut] at released
      cases released
  | publishGuard isActive executing =>
    refine { sound with outside, guard := ?_, exactGuard := ?_, guarded := ?_ }
    · exact fun _ => Option.some_ne_none _
    · exact fun lease isLease => (Option.some.inj isLease).symm
    · exact fun _ _ => rfl
  | releaseGate unit guarded live => exact { sound with outside, guarded := fun _ _ => live }
  | collectUnit =>
    refine { sound with outside, unit := ?_, exactUnit := ?_, guarded := ?_ }
    · intro impossible
      cases impossible
    · intro lease impossible
      cases impossible
    · intro _ impossible
      cases impossible
  | releaseGuard noUnit =>
    refine { sound with outside, guard := ?_, exactGuard := ?_, guarded := ?_ }
    · intro impossible
      cases impossible
    · intro lease impossible
      cases impossible
    · intro _ unitLive
      exact absurd noUnit (sound.unit unitLive)
  | releaseChannels => exact { sound with outside }
  | markClosed empty isClosed resting =>
    exact { sound with outside, closing := fun _ => isClosed, resting := fun _ => resting }
  | rest isActive state resting => exact { sound with outside, resting := fun _ _ => resting }
  | relock lock => exact { sound with outside }

omit step

end RecordStep

end RtspProxy.Broker
