import RtspProxy.Broker.Protocol

/-!
# The steps of the broker keep its invariant

Every step keeps the invariant (`step_keeps`) and disturbs the other threads
only as `Effect` says (`step_effect`). A permitted call is a step
(`call_steps`), so together they are the protocol the programs are checked
against.
-/

namespace RtspProxy.Broker

open Nodes Lib Lib.Program

variable {calm : Prop} {tid : Nat} {w post : World}

variable {rec : Nat}

section Allocate

variable {received : ReceivedProbeInput}

theorem allocate_old (present : rec < w.allocated) :
    (w.allocate tid received).records rec = w.records rec :=
  put_records_ne (Nat.ne_of_lt present)

@[simp] theorem allocate_new :
    (w.allocate tid received).records w.allocated =
      { received, operationLock := some tid, owner := tid } :=
  put_records_self

theorem allocate_active_old (present : rec < w.allocated) :
    (w.allocate tid received).Active rec ↔ w.Active rec := by
  unfold World.Active World.Owns
  rw [allocate_old present]
  rfl

theorem allocate_not_active (inv : Invariant calm w) :
    ¬(w.allocate tid received).Active w.allocated := by
  intro isActive
  exact Nat.lt_irrefl _ (inv.keyed _ _ isActive).1

theorem allocate_quiet (present : rec < w.allocated) :
    Quiet (w.allocate tid received) rec ↔ Quiet w rec := by
  unfold Quiet
  rw [allocate_active_old present, allocate_old present]
  rfl

theorem allocate_keeps (inv : Invariant calm w)
    (held : calm → w.activeTargets received.request.target = some { thread := tid }) :
    Invariant calm (w.allocate tid received) := by
  constructor
  case keyed =>
    intro requestId rec owns
    obtain ⟨present, isKey⟩ := inv.keyed requestId rec owns
    rw [allocate_old present]
    exact ⟨Nat.lt_succ_of_lt present, isKey⟩
  case room => exact inv.room
  case records =>
    intro rec present
    rcases Nat.lt_succ_iff_lt_or_eq.mp present with old | isNew
    · have sound := inv.records rec old
      rw [allocate_old old]
      exact { sound with
        outside := fun outside => sound.outside fun isActive =>
          outside ((allocate_active_old old).mpr isActive)
        resting := fun isClosed isActive =>
          sound.resting isClosed ((allocate_active_old old).mp isActive) }
    · rw [isNew, allocate_new]
      constructor <;> simp [ExecutionOwnership.slotsEmpty]
  case ready => exact inv.ready
  case began => exact inv.began
  case held =>
    intro isCalm rec present
    rcases Nat.lt_succ_iff_lt_or_eq.mp present with old | isNew
    · rw [allocate_quiet old]
      rcases inv.held isCalm rec old with booked | rest
      · -- the hold that the new record joins had no record yet
        left
        unfold Booked at booked ⊢
        rw [allocate_old old]
        refine (if_neg ?_).trans booked
        rintro ⟨_, empty⟩
        rw [booked] at empty
        cases empty
      · exact .inr rest
    · left
      unfold Booked
      rw [isNew, allocate_new]
      exact if_pos ⟨rfl, held isCalm⟩

end Allocate

section Change

variable {rec : Nat} {ownership : ExecutionOwnership}

theorem quiet_put_self (step : RecordStep w.closed (w.Active rec) (w.records rec) ownership)
    (quiet : Quiet w rec) : Quiet (w.put rec ownership) rec := by
  unfold Quiet
  rw [active_put step.origin.1, put_records_self, step.origin.1]
  refine ⟨?_, step.stays_empty quiet.1 quiet.2.1, quiet.2.2⟩
  intro isActive
  exact step.rests (quiet.1 isActive)

theorem quiet_put_ne {other : Nat} (differ : other ≠ rec)
    (sameInput : ownership.received = (w.records rec).received) :
    Quiet (w.put rec ownership) other ↔ Quiet w other := by
  unfold Quiet
  rw [active_put sameInput, put_records_ne differ]
  rfl

theorem booked_put {other holder : Nat}
    (sameInput : ownership.received = (w.records rec).received) :
    Booked holder (w.put rec ownership) other ↔ Booked holder w other := by
  have sameTarget : ((w.put rec ownership).records other).target = (w.records other).target := by
    by_cases isRecord : other = rec
    · rw [isRecord, put_records_self]
      unfold ExecutionOwnership.target
      rw [sameInput]
    · rw [put_records_ne isRecord]
  unfold Booked
  rw [sameTarget]
  rfl

theorem put_keeps (inv : Invariant calm w)
    (sameInput : ownership.received = (w.records rec).received)
    (sameOwner : ownership.owner = (w.records rec).owner)
    (sound : rec < w.allocated → ownership.Sound w.closed (w.Active rec))
    (quiet : Quiet w rec → Quiet (w.put rec ownership) rec) :
    Invariant calm (w.put rec ownership) := by
  constructor
  case keyed =>
    intro requestId other owns
    obtain ⟨present, isKey⟩ := inv.keyed requestId other owns
    refine ⟨present, ?_⟩
    by_cases isRecord : other = rec
    · subst isRecord
      rw [put_records_self]
      unfold ExecutionOwnership.requestId at isKey ⊢
      rw [sameInput]
      exact isKey
    · rw [put_records_ne isRecord]
      exact isKey
  case room => exact inv.room
  case records =>
    intro other present
    have sameActive : (w.put rec ownership).Active other = w.Active other :=
      propext (active_put sameInput)
    rw [sameActive]
    by_cases isRecord : other = rec
    · subst isRecord
      rw [put_records_self]
      exact sound present
    · rw [put_records_ne isRecord]
      exact inv.records other present
  case ready => exact inv.ready
  case began => exact inv.began
  case held =>
    intro isCalm other present
    rw [booked_put sameInput]
    by_cases isRecord : other = rec
    · subst isRecord
      rw [put_records_self, sameOwner]
      rcases inv.held isCalm other present with booked | failed | isQuiet
      · exact .inl booked
      · exact .inr (.inl failed)
      · exact .inr (.inr (quiet isQuiet))
    · rw [put_records_ne isRecord, quiet_put_ne isRecord sameInput]
      exact inv.held isCalm other present

theorem change_keeps (inv : Invariant calm w)
    (step : RecordStep w.closed (w.Active rec) (w.records rec) ownership) :
    Invariant calm (w.put rec ownership) :=
  put_keeps inv step.origin.1 step.origin.2
    (fun present => step.keeps_sound (inv.records rec present)) (quiet_put_self step)

end Change

section Table

variable {rec : Nat}

theorem enter_keeps (inv : Invariant calm w) (present : rec < w.allocated)
    (own : (w.records rec).owner = tid)
    (free : w.active.get (w.records rec).requestId = none) (room : w.active.length < 128)
    (unclosed : (w.records rec).receivedClosed = false)
    (booked : calm → Booked tid w rec) :
    Invariant calm { w with active := w.active.set (w.records rec).requestId rec } := by
  constructor
  case keyed =>
    intro requestId other owns
    unfold World.Owns at owns
    rw [Dict.get_set] at owns
    split_ifs at owns with sameId
    · cases owns
      exact ⟨present, sameId.symm⟩
    · exact inv.keyed requestId other owns
  case room =>
    rw [Dict.length_set_of_absent free]
    exact room
  case records =>
    intro other otherPresent
    have sound := inv.records other otherPresent
    refine { sound with outside := ?_, resting := ?_ }
    · intro outside
      exact sound.outside fun isActive => outside ((active_set free).mpr (.inr isActive))
    · intro isClosed isActive
      rcases (active_set free).mp isActive with isRecord | wasActive
      · rw [isRecord, unclosed] at isClosed
        cases isClosed
      · exact sound.resting isClosed wasActive
  case ready => exact inv.ready
  case began => exact inv.began
  case held =>
    intro isCalm other otherPresent
    by_cases isRecord : other = rec
    · left
      rw [isRecord]
      exact own.symm ▸ booked isCalm
    · rcases inv.held isCalm other otherPresent with isBooked | failed | quiet
      · exact .inl isBooked
      · exact .inr (.inl failed)
      · refine .inr (.inr ⟨?_, quiet.2⟩)
        intro isActive
        rcases (active_set free).mp isActive with same | wasActive
        · exact absurd same isRecord
        · exact quiet.1 wasActive

theorem leave_keeps (inv : Invariant calm w) (isActive : w.Active rec)
    (collected : (w.records rec).collected = true) :
    Invariant calm { w with active := w.active.pop (w.records rec).requestId } := by
  have stillActive {other : Nat} (post : World.Active
      { w with active := w.active.pop (w.records rec).requestId } other) :
      w.Active other := ((active_pop isActive).mp post).2
  constructor
  case keyed =>
    intro requestId other owns
    unfold World.Owns at owns
    rw [Dict.get_pop] at owns
    split_ifs at owns
    exact inv.keyed requestId other owns
  case room => exact Nat.le_trans (Dict.length_pop_le _ _) inv.room
  case records =>
    intro other present
    have sound := inv.records other present
    refine { sound with outside := ?_, resting := ?_ }
    · intro outside
      by_cases isRecord : other = rec
      · rw [isRecord]
        exact (Bool.and_eq_true_iff.mp collected).1
      · exact sound.outside fun wasActive => outside ((active_pop isActive).mpr ⟨isRecord, wasActive⟩)
    · exact fun isClosed post => sound.resting isClosed (stillActive post)
  case ready => exact inv.ready
  case began => exact inv.began
  case held =>
    intro isCalm other present
    rcases inv.held isCalm other present with booked | failed | quiet
    · exact .inl booked
    · exact .inr (.inl failed)
    · exact .inr (.inr ⟨fun post => quiet.1 (stillActive post), quiet.2⟩)

end Table

theorem close_mono {handle other : Nat} (isClosed : w.closed other = true) :
    (w.close handle).closed other = true := by
  unfold World.close
  dsimp only
  split_ifs
  · rfl
  · exact isClosed

theorem close_keeps (inv : Invariant calm w) (handle : Nat) :
    Invariant calm (w.close handle) := by
  constructor
  case keyed => exact inv.keyed
  case room => exact inv.room
  case records =>
    intro rec present
    have sound := inv.records rec present
    exact { sound with closing := fun isClosed => close_mono (sound.closing isClosed) }
  case ready => exact inv.ready
  case began => exact inv.began
  case held =>
    intro isCalm rec present
    rcases inv.held isCalm rec present with booked | failed | quiet
    · exact .inl booked
    · exact .inr (.inl failed)
    · exact .inr (.inr ⟨quiet.1, quiet.2.1, close_mono quiet.2.2⟩)

theorem set_target_keeps {target : ProbeConnectGuardTarget} {holder : Option TargetHolder}
    (inv : Invariant calm w)
    (given : calm → ∀ rec < w.allocated, (w.records rec).target = target →
      Booked (w.records rec).owner w rec → w.cleanupFailed = true ∨ Quiet w rec) :
    Invariant calm (w.setTarget target holder) := by
  refine { inv with held := ?_ }
  intro isCalm rec present
  rcases inv.held isCalm rec present with booked | rest
  · by_cases isTarget : (w.records rec).target = target
    · exact .inr (given isCalm rec present isTarget booked)
    · left
      exact (if_neg isTarget).trans booked
  · exact .inr rest

theorem step_keeps (inv : Invariant calm w) (step : BrokerStep calm tid w post) :
    Invariant calm post := by
  cases step with
  | idle => exact inv
  | allocate received held => exact allocate_keeps inv held
  | enter rec locks own ready free room executing unclosed booked =>
    exact enter_keeps inv locks.1 own free room unclosed booked
  | change rec locks post step => exact change_keeps inv step
  | lock rec present free => exact change_keeps inv (.relock (some tid))
  | leave rec locks isActive collected => exact leave_keeps inv isActive collected
  | retry lock => exact { inv with }
  | takeRecovery free => exact { inv with }
  | giveRecovery own => exact { inv with }
  | beginRecovery own empty =>
    refine { inv with ready := ?_ }
    intro impossible
    cases impossible
  | report own notReady empty units guards =>
    refine { inv with ready := ?_ }
    intro isReady
    rw [notReady] at isReady
    cases isReady
  | setReady own ready reported => exact { inv with ready := reported }
  | closeReceived | closeInput => exact close_keeps inv _
  | takeAdmission free =>
    refine { inv with began := ?_ }
    intro _ isShut
    simpa [World.admissionOpen, Decidable.imp_iff_not_or] using isShut
  | giveAdmission own =>
    refine { inv with began := ?_ }
    intro taken
    exact absurd rfl taken
  | addTarget target own absent clean began =>
    refine set_target_keeps inv ?_
    intro isCalm rec present isTarget booked
    unfold Booked at booked
    rw [isTarget, absent] at booked
    cases booked
  | discardTarget target holder held own finished =>
    refine set_target_keeps inv ?_
    intro isCalm rec present isTarget booked
    unfold Booked at booked
    rw [isTarget, held] at booked
    exact finished isCalm rec (by rw [Option.some.inj booked])
  | publishFailure free =>
    refine { inv with began := ?_, held := ?_ }
    · exact fun _ _ => .inl rfl
    · exact fun _ _ _ => .inr (.inl rfl)
  | shutdown => exact { inv with began := fun _ _ => .inr rfl }

/-- What a step of one thread leaves to the others. -/
structure Effect (actor : Nat) (pre post : World) : Prop where
  allocated : pre.allocated ≤ post.allocated
  /-- A record belongs to the thread that locked it, and so does its place in the table. -/
  locked : ∀ rec < pre.allocated, ∀ tid, tid ≠ actor →
    (pre.records rec).operationLock = some tid →
      post.records rec = pre.records rec ∧ (post.Active rec ↔ pre.Active rec)
  origin : ∀ rec < pre.allocated,
    (post.records rec).received = (pre.records rec).received ∧
      (post.records rec).owner = (pre.records rec).owner
  /-- Only its maker puts a record into the table, and a record that rests goes on resting. -/
  resting : ∀ rec < pre.allocated, (pre.records rec).owner ≠ actor →
    (pre.Active rec → (pre.records rec).state ≠ .executing) →
      post.Active rec → (post.records rec).state ≠ .executing
  outside : ∀ rec < pre.allocated, (pre.records rec).owner ≠ actor →
    ¬pre.Active rec → ¬post.Active rec
  closed : ∀ handle, pre.closed handle = true → post.closed handle = true
  failed : pre.cleanupFailed = true → post.cleanupFailed = true
  recovery : ∀ tid, tid ≠ actor → pre.recoveryLock = some tid →
    post.recoveryLock = some tid ∧ post.recoveryReady = pre.recoveryReady ∧
      post.unitsReport = pre.unitsReport ∧ post.guardsReport = pre.guardsReport ∧
      (pre.recoveryReady = false → pre.active.length = 0 → post.active.length = 0)
  admission : ∀ tid, tid ≠ actor → pre.admissionLock = some tid →
    post.admissionLock = some tid ∧ post.checkBegan = pre.checkBegan ∧
      post.cleanupFailed = pre.cleanupFailed
  targets : ∀ target holder, holder.thread ≠ actor → pre.activeTargets target = some holder →
    post.activeTargets target = some holder

theorem effect_idle (actor : Nat) (w : World) : Effect actor w w where
  allocated := Nat.le_refl _
  locked _ _ _ _ _ := ⟨rfl, Iff.rfl⟩
  origin _ _ := ⟨rfl, rfl⟩
  resting _ _ _ resting := resting
  outside _ _ _ outside := outside
  closed _ isClosed := isClosed
  failed hasFailed := hasFailed
  recovery _ _ own := ⟨own, rfl, rfl, rfl, fun _ empty => empty⟩
  admission _ _ own := ⟨own, rfl, rfl⟩
  targets _ _ _ held := held

theorem allocate_effect (received : ReceivedProbeInput) :
    Effect tid w (w.allocate tid received) := by
  refine { effect_idle tid w with
    allocated := Nat.le_succ _, locked := ?_, origin := ?_, resting := ?_, outside := ?_,
    targets := ?_ }
  · intro rec present other _ _
    exact ⟨allocate_old present, allocate_active_old present⟩
  · intro rec present
    rw [allocate_old present]
    exact ⟨rfl, rfl⟩
  · intro rec present _ resting isActive
    rw [allocate_old present]
    exact resting ((allocate_active_old present).mp isActive)
  · intro rec present _ outside isActive
    exact outside ((allocate_active_old present).mp isActive)
  · intro target holder differ held
    refine (if_neg ?_).trans held
    rintro ⟨_, own⟩
    rw [held] at own
    exact differ (by rw [Option.some.inj own])

theorem put_effect {ownership : ExecutionOwnership}
    (free : ∀ other, other ≠ tid → (w.records rec).operationLock ≠ some other)
    (sameInput : ownership.received = (w.records rec).received)
    (sameOwner : ownership.owner = (w.records rec).owner)
    (rests : (w.records rec).state ≠ .executing → ownership.state ≠ .executing) :
    Effect tid w (w.put rec ownership) := by
  refine { effect_idle tid w with locked := ?_, origin := ?_, resting := ?_, outside := ?_ }
  · intro other present holder differ own
    refine ⟨put_records_ne ?_, active_put sameInput⟩
    intro isRecord
    exact free holder differ (isRecord ▸ own)
  · intro other present
    by_cases isRecord : other = rec
    · rw [isRecord, put_records_self]
      exact ⟨sameInput, sameOwner⟩
    · rw [put_records_ne isRecord]
      exact ⟨rfl, rfl⟩
  · intro other present _ resting isActive
    have wasActive := (active_put sameInput).mp isActive
    by_cases isRecord : other = rec
    · subst isRecord
      rw [put_records_self]
      exact rests (resting wasActive)
    · rw [put_records_ne isRecord]
      exact resting wasActive
  · intro other present _ outside isActive
    exact outside ((active_put sameInput).mp isActive)

theorem lock_exclusive (locks : Locks tid w rec) :
    ∀ other, other ≠ tid → (w.records rec).operationLock ≠ some other := by
  intro other differ own
  exact differ (Option.some.inj (own.symm.trans locks.2))

theorem enter_effect (locks : Locks tid w rec)
    (own : (w.records rec).owner = tid) (ready : w.recoveryReady = true)
    (free : w.active.get (w.records rec).requestId = none) :
    Effect tid w { w with active := w.active.set (w.records rec).requestId rec } := by
  refine { effect_idle tid w with
    locked := ?_, resting := ?_, outside := ?_, recovery := ?_ }
  · intro other present holder differ isOwn
    refine ⟨rfl, (active_set free).trans ⟨?_, .inr⟩⟩
    rintro (isRecord | isActive)
    · exact absurd (isRecord ▸ isOwn) (lock_exclusive locks holder differ)
    · exact isActive
  · intro other present notOwn resting isActive
    rcases (active_set free).mp isActive with isRecord | wasActive
    · exact absurd (isRecord ▸ own) notOwn
    · exact resting wasActive
  · intro other present notOwn outside isActive
    rcases (active_set free).mp isActive with isRecord | wasActive
    · exact notOwn (isRecord ▸ own)
    · exact outside wasActive
  · intro holder differ isOwn
    refine ⟨isOwn, rfl, rfl, rfl, ?_⟩
    intro notReady
    rw [ready] at notReady
    cases notReady

theorem leave_effect (locks : Locks tid w rec) (isActive : w.Active rec) :
    Effect tid w { w with active := w.active.pop (w.records rec).requestId } := by
  refine { effect_idle tid w with
    locked := ?_, resting := ?_, outside := ?_, recovery := ?_ }
  · intro other present holder differ isOwn
    refine ⟨rfl, (active_pop isActive).trans ⟨And.right, fun otherActive => ⟨?_, otherActive⟩⟩⟩
    intro isRecord
    exact lock_exclusive locks holder differ (isRecord ▸ isOwn)
  · intro other present _ resting post
    exact resting ((active_pop isActive).mp post).2
  · intro other present _ outside post
    exact outside ((active_pop isActive).mp post).2
  · intro holder differ isOwn
    refine ⟨isOwn, rfl, rfl, rfl, ?_⟩
    intro _ empty
    exact Nat.le_zero.mp (empty ▸ Dict.length_pop_le _ _)

theorem own_ne {lock : Option Nat} {other : Nat} (own : lock = some tid) (differ : other ≠ tid)
    (held : lock = some other) : False :=
  differ (Option.some.inj (held.symm.trans own))

theorem step_effect (step : BrokerStep calm tid w post) : Effect tid w post := by
  have idle := effect_idle tid w
  cases step with
  | idle => exact idle
  | allocate received held => exact allocate_effect received
  | enter rec locks own ready free => exact enter_effect locks own ready free
  | change rec locks post step =>
    exact put_effect (lock_exclusive locks) step.origin.1 step.origin.2 step.rests
  | lock rec present free =>
    refine put_effect ?_ rfl rfl id
    intro other _ own
    rw [free] at own
    cases own
  | leave rec locks isActive collected => exact leave_effect locks isActive
  | retry lock => exact { idle with }
  | takeRecovery free =>
    refine { idle with recovery := ?_ }
    intro other _ own
    rw [free] at own
    cases own
  | giveRecovery own =>
    exact { idle with recovery := fun _ differ held => (own_ne own differ held).elim }
  | beginRecovery own empty =>
    exact { idle with recovery := fun _ differ held => (own_ne own differ held).elim }
  | report own notReady empty units guards =>
    exact { idle with recovery := fun _ differ held => (own_ne own differ held).elim }
  | setReady own ready reported =>
    exact { idle with recovery := fun _ differ held => (own_ne own differ held).elim }
  | closeReceived | closeInput => exact { idle with closed := fun _ => close_mono }
  | takeAdmission free =>
    refine { idle with admission := ?_ }
    intro other _ own
    rw [free] at own
    cases own
  | giveAdmission own =>
    exact { idle with admission := fun _ differ held => (own_ne own differ held).elim }
  | addTarget target own absent clean began =>
    refine { idle with targets := ?_ }
    intro other holder _ held
    refine (if_neg ?_).trans held
    intro isTarget
    rw [isTarget, absent] at held
    cases held
  | discardTarget target holder held own finished =>
    refine { idle with targets := ?_ }
    intro other otherHolder differ otherHeld
    refine (if_neg ?_).trans otherHeld
    intro isTarget
    rw [isTarget, held] at otherHeld
    exact differ (Option.some.inj otherHeld ▸ own)
  | publishFailure free =>
    refine { idle with failed := fun _ => rfl, admission := ?_ }
    intro other _ own
    rw [free] at own
    cases own
  | shutdown => exact { idle with }

section Calls

theorem collaborate_cases {Value : Type} {took sure : Bool} {wish ans : Except Failure Value}
    {effect : World} (acted : collaborate took sure wish effect w = some (ans, post)) :
    ans = wish ∧ (took = true ∧ post = effect ∨
      took = false ∧ post = w ∧ (sure = true → ∃ error, ans = .error error)) := by
  unfold collaborate at acted
  split at acted
  · rename_i isTook
    cases acted
    exact ⟨rfl, .inl ⟨isTook, rfl⟩⟩
  · rename_i notTook
    have isFalse : took = false := by simpa using notTook
    cases wish with
    | ok value =>
      split_ifs at acted with isSure
      cases acted
      exact ⟨rfl, .inr ⟨isFalse, rfl, fun sure => absurd sure isSure⟩⟩
    | error error =>
      cases acted
      exact ⟨rfl, .inr ⟨isFalse, rfl, fun _ => ⟨error, rfl⟩⟩⟩

theorem collaborate_steps {Value : Type} {took sure : Bool} {wish ans : Except Failure Value}
    {effect : World} (acted : collaborate took sure wish effect w = some (ans, post))
    (steps : took = true → BrokerStep calm tid w effect) :
    BrokerStep calm tid w post := by
  obtain ⟨_, ⟨isTook, rfl⟩ | ⟨_, rfl, _⟩⟩ := collaborate_cases acted
  · exact steps isTook
  · exact .idle

/-- Closing what is closed is a close that returned. -/
theorem close_collaborates {took : Bool} {handle : Nat} {wish ans : Except Failure Unit}
    (acted : closeDescriptor took handle wish w = some (ans, post)) :
    ∃ took wish, collaborate took true wish (w.close handle) w = some (ans, post) := by
  unfold closeDescriptor at acted
  split_ifs at acted with isClosed
  · have same : w.close handle = w := by
      unfold World.close
      congr 1
      funext other
      split_ifs with isHandle
      · rw [isHandle, isClosed]
      · rfl
    cases acted
    refine ⟨true, .ok (), ?_⟩
    rw [same]
    rfl
  · exact ⟨_, _, acted⟩

theorem enter_steps (permitted : Permitted calm tid w (.register rec)) :
    BrokerStep calm tid w (enter w rec).2 := by
  obtain ⟨locks, own, executing, unclosed, booked⟩ := permitted
  unfold enter
  dsimp only
  split_ifs with notReady present full
  · exact .idle
  · exact .idle
  · exact .idle
  · refine .enter rec locks own ?_ ?_ ?_ executing unclosed booked
    · simpa using notReady
    · simpa [Dict.contains] using present
    · exact Nat.lt_of_not_le full

theorem finalize_steps {requestId : UUID} (locks : Locks tid w rec)
    (isKey : (w.records rec).requestId = requestId) :
    BrokerStep calm tid w (finalize w requestId rec) := by
  subst isKey
  unfold finalize
  split_ifs with owns collected
  · exact .leave rec locks owns collected
  · exact .change rec locks _ (.rest owns _ (by decide))
  · exact .idle

theorem claim_steps {requestId : UUID} (locks : Locks tid w rec)
    (isKey : (w.records rec).requestId = requestId) :
    BrokerStep calm tid w (claim w requestId rec).2 := by
  subst isKey
  unfold claim
  split_ifs with both
  · exact .change rec locks _ (.rest both.1 _ (by decide))
  · exact .idle

theorem call_steps {req : Call} {ans : Except Failure (Answer req)}
    (permitted : Permitted calm tid w req)
    (ran : (machine calm).exec tid w req ans post) :
    BrokerStep calm tid w post := by
  obtain ⟨_, chance, wish, acted⟩ := ran
  cases req with
  | query question =>
    cases acted
    exact .idle
  | newOwnership received =>
    cases acted
    exact .allocate received permitted
  | register rec =>
    have isAfter : post = (enter w rec).2 :=
      (congrArg Prod.snd (Option.some.inj acted)).symm
    rw [isAfter]
    exact enter_steps permitted
  | ownsRecord | ownership | pendingRecords | unresolvedCleanupCount | cleanupFailedIsSet
  | stoppingIsSet | closeChannels =>
    cases acted
    exact .idle
  | beginCleaning rec =>
    cases acted
    split_ifs with isActive
    · exact .change rec permitted _ (.rest isActive _ (by decide))
    · exact .idle
  | finalizeOwnership requestId rec =>
    cases acted
    exact finalize_steps permitted.1 permitted.2
  | releaseOperation rec =>
    cases acted
    exact .change rec permitted _ (.relock none)
  | releaseChannels rec channels =>
    simp only [perform] at acted
    split_ifs at acted
    · cases acted
      exact .change rec permitted.1 _ (.releaseChannels permitted.2.1 permitted.2.2)
    · cases acted
      exact .idle
  | markReceivedClosed rec =>
    cases acted
    obtain ⟨locks, resting, empty, isClosed⟩ := permitted
    exact .change rec locks _ (.markClosed empty isClosed resting)
  | acquireRetry =>
    simp only [perform] at acted
    split_ifs at acted
    · cases acted
      exact .retry _
    · cases acted
      exact .idle
  | releaseRetry =>
    cases acted
    exact .retry none
  | acquireOperation rec =>
    simp only [perform] at acted
    split_ifs at acted with free
    · cases acted
      exact .lock rec permitted free
    · cases acted
      exact .idle
  | claimPending requestId rec =>
    cases acted
    exact claim_steps permitted.1 permitted.2
  | acquireRecovery =>
    simp only [perform] at acted
    split_ifs at acted with free
    cases acted
    exact .takeRecovery free
  | releaseRecovery =>
    cases acted
    exact .giveRecovery permitted
  | beginRecovery =>
    simp only [perform] at acted
    split_ifs at acted with empty
    · cases acted
      exact .beginRecovery permitted empty
    · cases acted
      exact .idle
  | setRecoveryReady ready =>
    cases acted
    exact .setReady permitted.1 ready permitted.2
  | createOwned rec =>
    obtain ⟨locks, isActive, executing⟩ := permitted
    refine collaborate_steps acted ?_
    exact fun _ => .change rec locks _ (.publishChannels _ isActive executing)
  | startOwned rec channels =>
    obtain ⟨⟨locks, isActive, executing⟩, shut⟩ := permitted
    refine collaborate_steps acted ?_
    exact fun _ => .change rec locks _ (.publishUnit _ isActive executing shut)
  | installOwned rec requestId unitName cgroupPath target =>
    obtain ⟨⟨locks, isActive, executing⟩, exact_⟩ := permitted
    refine collaborate_steps acted ?_
    intro _
    rw [exact_]
    exact .change rec locks _ (.publishGuard isActive executing)
  | releaseGate rec =>
    obtain ⟨locks, unit, guarded, live⟩ := permitted
    refine collaborate_steps acted ?_
    exact fun _ => .change rec locks _ (.releaseGate unit guarded live)
  | readOutput rec lease =>
    refine collaborate_steps acted ?_
    exact fun _ => .change rec permitted _ .collectUnit
  | ensureCollected rec lease =>
    refine collaborate_steps acted ?_
    exact fun _ => .change rec permitted _ .collectUnit
  | ensureReleased rec lease =>
    refine collaborate_steps acted ?_
    exact fun _ => .change rec permitted.1 _ (.releaseGuard permitted.2)
  | closeReceived rec =>
    obtain ⟨_, _, acted⟩ := close_collaborates acted
    refine collaborate_steps acted ?_
    exact fun _ => .closeReceived rec permitted.1 permitted.2
  | reconcileUnits =>
    cases acted
    exact .report permitted.1 permitted.2.1 permitted.2.2 _ _
  | reconcileGuards =>
    cases acted
    exact .report permitted.1 permitted.2.1 permitted.2.2 _ _
  | acquireAdmission =>
    simp only [perform] at acted
    split_ifs at acted with free
    cases acted
    exact .takeAdmission free
  | releaseAdmission =>
    cases acted
    exact .giveAdmission permitted
  | addTarget target =>
    simp only [perform] at acted
    split_ifs at acted with absent
    · cases acted
      exact .addTarget target permitted.1 absent permitted.2.1 permitted.2.2
    · cases acted
      exact .idle
  | discardTarget target =>
    obtain ⟨holder, held, own, finished⟩ := permitted
    simp only [perform] at acted
    split_ifs at acted
    cases acted
    exact .discardTarget target holder held own finished
  | admissionIsOpen =>
    simp only [perform] at acted
    split_ifs at acted
    cases acted
    exact .idle
  | publishCleanupFailure =>
    simp only [perform] at acted
    split_ifs at acted with free
    cases acted
    exact .publishFailure free
  | requestShutdown =>
    cases acted
    exact .shutdown
  | closeInput received =>
    obtain ⟨_, _, acted⟩ := close_collaborates acted
    refine collaborate_steps acted ?_
    exact fun _ => .closeInput permitted _

end Calls

def protocol (calm : Prop) : Protocol (machine calm) where
  invariant := Invariant calm
  effect := BrokerStep calm
  permitted := Permitted calm
  sound invariant permitted ran :=
    have step := call_steps permitted ran
    ⟨step_keeps invariant step, step⟩
  leaves _ _ invariant := ⟨invariant, .idle⟩

theorem fresh_invariant (fresh : Fresh w) : Invariant calm w := by
  obtain ⟨noRecords, noneActive, notReady, _, _, unlocked, _⟩ := fresh
  constructor
  case keyed =>
    intro requestId rec owns
    unfold World.Owns at owns
    rw [noneActive, Dict.get_empty] at owns
    cases owns
  case room =>
    rw [noneActive]
    exact Nat.zero_le _
  case records =>
    intro rec present
    rw [noRecords] at present
    cases present
  case ready =>
    intro isReady
    rw [notReady] at isReady
    cases isReady
  case began =>
    intro taken
    exact absurd unlocked taken
  case held =>
    intro _ rec present
    rw [noRecords] at present
    cases present

end RtspProxy.Broker
