import RtspProxy.Managers.World

/-!
# The protocol of the managers' threads

`HeapStep` is the abstract manager: a record is changed only by the thread that
holds its operation lock, it is issued once, while it is new and tracked, it
leaves the table only when its resource is gone and no ledger owns its lease, and
the lock is given back only when a tracked record rests. A call is a few such
steps (`call_steps`), each of which keeps the `Invariant` and leaves the records
of the other threads alone.
-/

namespace RtspProxy.Managers

open Lib Lib.Program

/-- What the holder of the operation lock may do to a record. -/
inductive RecordStep (tracked : Prop) (pre : ManagedRecord) : ManagedRecord → Prop
  | issue (live : Bool) (isTracked : tracked) (starting : pre.state = .starting)
      (first : pre.issued = false) :
      RecordStep tracked pre { pre with startMayExist := true, issued := true, live }
  | activate (isTracked : tracked) (starting : pre.state = .starting) :
      RecordStep tracked pre { pre with lease := true, state := .active }
  | adopt (ledger : Nat) (unowned : pre.owned = false) :
      RecordStep tracked pre { pre with ownership := some ledger }
  | publish (isTracked : tracked) (leased : pre.lease = true) (adopted : pre.ownership ≠ none)
      (lasting : pre.state ≠ .starting) :
      RecordStep tracked pre { pre with owned := true }
  | release : RecordStep tracked pre { pre with owned := false }
  | clean : RecordStep tracked pre { pre with state := .cleaning }
  | recover (remains : Bool) :
      RecordStep tracked pre { pre with live := pre.live && remains }
  | postpone (order : Nat) :
      RecordStep tracked pre { pre with state := .cleanupPending, cleanupAttemptOrder := order }
  | collect (gone : pre.live = false) :
      RecordStep tracked pre { pre with state := .collected }
  | unlock (settled : tracked → pre.state.transitional = false) :
      RecordStep tracked pre { pre with operationLock := none }

def Locks (tid : Nat) (heap : Heap) (rec : Nat) : Prop :=
  rec < heap.allocated ∧ (heap.records rec).operationLock = some tid

/-- What a thread may do to the records and their table. -/
inductive HeapStep (tid : Nat) (heap : Heap) : Heap → Prop
  | create (unitName : String) (outputReadFd : Int) (outputPipeIdentity : Nat × Nat) :
      HeapStep tid heap (heap.allocate
        { unitName, operationLock := some tid, outputReadFd, outputPipeIdentity })
  | enter (rec : Nat) (locks : Locks tid heap rec)
      (free : heap.table.get (heap.records rec).unitName = none) :
      HeapStep tid heap (heap.insert rec)
  | change (rec : Nat) (locks : Locks tid heap rec) (post : ManagedRecord)
      (step : RecordStep (heap.Tracked rec) (heap.records rec) post) :
      HeapStep tid heap (heap.put rec post)
  | lock (rec : Nat) (present : rec < heap.allocated)
      (free : (heap.records rec).operationLock = none) :
      HeapStep tid heap
        (heap.put rec { heap.records rec with operationLock := some tid })
  | leave (rec : Nat) (locks : Locks tid heap rec) (isTracked : heap.Tracked rec)
      (gone : (heap.records rec).live = false) (unowned : (heap.records rec).owned = false) :
      HeapStep tid heap (heap.drop rec)

structure ManagedRecord.Sound (tracked : Prop) (managed : ManagedRecord) : Prop where
  live : managed.live = true → tracked ∧ managed.issued = true ∧ managed.startMayExist = true
  owned : managed.owned = true → tracked ∧ managed.lease = true ∧ managed.ownership ≠ none
  new : managed.state = .starting → managed.owned = false
  settled : tracked → managed.state.transitional = true → managed.operationLock ≠ none
  collected : managed.state = .collected → managed.live = false

structure Invariant (heap : Heap) : Prop where
  keyed : ∀ unitName rec, heap.table.get unitName = some rec →
    rec < heap.allocated ∧ (heap.records rec).unitName = unitName
  records : ∀ rec < heap.allocated, (heap.records rec).Sound (heap.Tracked rec)

section Lookups

variable {heap : Heap} {rec other : Nat} {managed : ManagedRecord}

@[simp] theorem put_records_self : (heap.put rec managed).records rec = managed :=
  if_pos rfl

theorem put_records_ne (differ : other ≠ rec) :
    (heap.put rec managed).records other = heap.records other :=
  if_neg differ

theorem tracked_put (sameName : managed.unitName = (heap.records rec).unitName) :
    (heap.put rec managed).Tracked other ↔ heap.Tracked other := by
  have same : ((heap.put rec managed).records other).unitName =
      (heap.records other).unitName := by
    by_cases isRecord : other = rec
    · rw [isRecord, put_records_self]
      exact sameName
    · rw [put_records_ne isRecord]
  unfold Heap.Tracked
  rw [same]
  rfl

theorem tracked_insert (free : heap.table.get (heap.records rec).unitName = none) :
    (heap.insert rec).Tracked other ↔ other = rec ∨ heap.Tracked other := by
  unfold Heap.Tracked Heap.insert
  rw [Dict.get_set]
  split_ifs with sameName
  · constructor
    · intro isRecord
      exact .inl (Option.some.inj isRecord).symm
    · rintro (isRecord | isTracked)
      · rw [isRecord]
      · rw [sameName, free] at isTracked
        cases isTracked
  · constructor
    · intro isTracked
      exact .inr isTracked
    · rintro (isRecord | isTracked)
      · exact absurd (by rw [isRecord]) sameName
      · exact isTracked

theorem tracked_drop (isTracked : heap.Tracked rec) :
    (heap.drop rec).Tracked other ↔ other ≠ rec ∧ heap.Tracked other := by
  unfold Heap.Tracked Heap.drop at *
  rw [Dict.get_pop]
  split_ifs with sameName
  · constructor
    · intro impossible
      cases impossible
    · rintro ⟨differ, otherTracked⟩
      rw [sameName] at otherTracked
      exact absurd (Option.some.inj (otherTracked.symm.trans isTracked)) differ
  · constructor
    · intro otherTracked
      refine ⟨?_, otherTracked⟩
      intro isRecord
      exact sameName (by rw [isRecord])
    · exact fun both => both.2

theorem allocate_old (present : rec < heap.allocated) :
    (heap.allocate managed).records rec = heap.records rec :=
  put_records_ne (Nat.ne_of_lt present)

@[simp] theorem allocate_new : (heap.allocate managed).records heap.allocated = managed :=
  put_records_self

theorem tracked_allocate_old (present : rec < heap.allocated) :
    (heap.allocate managed).Tracked rec ↔ heap.Tracked rec := by
  unfold Heap.Tracked
  rw [allocate_old present]
  rfl

theorem not_tracked_allocate (inv : Invariant heap) :
    ¬(heap.allocate managed).Tracked heap.allocated := by
  intro isTracked
  exact Nat.lt_irrefl _ (inv.keyed _ _ isTracked).1

end Lookups

namespace RecordStep

variable {tracked : Prop} {pre post : ManagedRecord}

theorem same_name (step : RecordStep tracked pre post) : post.unitName = pre.unitName := by
  cases step <;> rfl

theorem keeps_sound (step : RecordStep tracked pre post) (sound : pre.Sound tracked)
    (locked : pre.operationLock ≠ none) : post.Sound tracked := by
  cases step with
  | issue live isTracked starting first =>
    refine { sound with live := ?_, collected := ?_ }
    · exact fun _ => ⟨isTracked, rfl, rfl⟩
    · intro isCollected
      rw [starting] at isCollected
      cases isCollected
  | activate isTracked starting =>
    refine { sound with owned := ?_, new := ?_, settled := ?_, collected := ?_ }
    · exact fun isOwned => ⟨(sound.owned isOwned).1, rfl, (sound.owned isOwned).2.2⟩
    · intro impossible
      cases impossible
    · exact fun _ _ => locked
    · intro impossible
      cases impossible
  | adopt ledger unowned =>
    refine { sound with owned := ?_ }
    intro isOwned
    rw [unowned] at isOwned
    cases isOwned
  | publish isTracked leased adopted lasting =>
    refine { sound with owned := ?_, new := ?_ }
    · exact fun _ => ⟨isTracked, leased, adopted⟩
    · exact fun starting => absurd starting lasting
  | release =>
    refine { sound with owned := ?_, new := fun _ => rfl }
    intro impossible
    cases impossible
  | clean =>
    refine { sound with new := ?_, settled := fun _ _ => locked, collected := ?_ }
    · intro impossible
      cases impossible
    · intro impossible
      cases impossible
  | recover remains =>
    refine { sound with live := ?_, collected := ?_ }
    · intro isLive
      exact sound.live (Bool.and_eq_true_iff.mp isLive).1
    · intro isCollected
      exact Bool.and_eq_false_iff.mpr (.inl (sound.collected isCollected))
  | postpone order =>
    refine { sound with new := ?_, settled := fun _ _ => locked, collected := ?_ }
    · intro impossible
      cases impossible
    · intro impossible
      cases impossible
  | collect gone =>
    refine { sound with new := ?_, settled := fun _ _ => locked, collected := fun _ => gone }
    intro impossible
    cases impossible
  | unlock settled =>
    refine { sound with settled := ?_ }
    intro isTracked transitional
    rw [settled isTracked] at transitional
    cases transitional

end RecordStep

section Keeps

variable {heap post : Heap} {tid rec : Nat} {managed : ManagedRecord}

theorem sound_place {tracked place : Prop} (sound : managed.Sound tracked)
    (live : managed.live = true → place) (owned : managed.owned = true → place)
    (settled : place → tracked ∨ managed.operationLock ≠ none) : managed.Sound place := by
  constructor
  case live => exact fun isLive => ⟨live isLive, (sound.live isLive).2⟩
  case owned => exact fun isOwned => ⟨owned isOwned, (sound.owned isOwned).2⟩
  case new => exact sound.new
  case settled =>
    intro isPlaced transitional
    rcases settled isPlaced with isTracked | locked
    · exact sound.settled isTracked transitional
    · exact locked
  case collected => exact sound.collected

variable (inv : Invariant heap)

include inv

theorem put_keeps (sameName : managed.unitName = (heap.records rec).unitName)
    (sound : rec < heap.allocated → managed.Sound (heap.Tracked rec)) :
    Invariant (heap.put rec managed) := by
  constructor
  case keyed =>
    intro unitName other found
    obtain ⟨present, isName⟩ := inv.keyed unitName other found
    refine ⟨present, ?_⟩
    by_cases isRecord : other = rec
    · rw [isRecord, put_records_self, sameName, ← isRecord]
      exact isName
    · rw [put_records_ne isRecord]
      exact isName
  case records =>
    intro other present
    rw [propext (tracked_put sameName)]
    by_cases isRecord : other = rec
    · subst isRecord
      rw [put_records_self]
      exact sound present
    · rw [put_records_ne isRecord]
      exact inv.records other present

theorem allocate_keeps (isNew : managed.Sound False) :
    Invariant (heap.allocate managed) := by
  constructor
  case keyed =>
    intro unitName other found
    obtain ⟨present, isName⟩ := inv.keyed unitName other found
    rw [allocate_old present]
    exact ⟨Nat.lt_succ_of_lt present, isName⟩
  case records =>
    intro other present
    rcases Nat.lt_succ_iff_lt_or_eq.mp present with old | rfl
    · rw [allocate_old old, propext (tracked_allocate_old old)]
      exact inv.records other old
    · rw [allocate_new, eq_false (not_tracked_allocate inv)]
      exact isNew

theorem insert_keeps (locks : Locks tid heap rec)
    (free : heap.table.get (heap.records rec).unitName = none) :
    Invariant (heap.insert rec) := by
  constructor
  case keyed =>
    intro unitName other found
    unfold Heap.insert at found
    rw [Dict.get_set] at found
    split_ifs at found with sameName
    · cases found
      exact ⟨locks.1, sameName.symm⟩
    · exact inv.keyed unitName other found
  case records =>
    intro other present
    have sound := inv.records other present
    refine sound_place sound ?_ ?_ ?_
    · exact fun isLive => (tracked_insert free).mpr (.inr (sound.live isLive).1)
    · exact fun isOwned => (tracked_insert free).mpr (.inr (sound.owned isOwned).1)
    · intro isTracked
      rcases (tracked_insert free).mp isTracked with isRecord | wasTracked
      · right
        rw [isRecord]
        exact locks.2 ▸ Option.some_ne_none _
      · exact .inl wasTracked

theorem drop_keeps (isTracked : heap.Tracked rec)
    (gone : (heap.records rec).live = false) (unowned : (heap.records rec).owned = false) :
    Invariant (heap.drop rec) := by
  constructor
  case keyed =>
    intro unitName other found
    unfold Heap.drop at found
    rw [Dict.get_pop] at found
    split_ifs at found
    exact inv.keyed unitName other found
  case records =>
    intro other present
    have sound := inv.records other present
    refine sound_place sound ?_ ?_ ?_
    · intro isLive
      refine (tracked_drop isTracked).mpr ⟨?_, (sound.live isLive).1⟩
      rintro rfl
      exact Bool.false_ne_true (gone.symm.trans isLive)
    · intro isOwned
      refine (tracked_drop isTracked).mpr ⟨?_, (sound.owned isOwned).1⟩
      rintro rfl
      exact Bool.false_ne_true (unowned.symm.trans isOwned)
    · exact fun still => .inl ((tracked_drop isTracked).mp still).2

theorem step_keeps (step : HeapStep tid heap post) :
    Invariant post := by
  cases step with
  | create unitName outputReadFd outputPipeIdentity =>
    refine allocate_keeps inv ?_
    constructor <;> simp
  | enter rec locks free => exact insert_keeps inv locks free
  | change rec locks managed step =>
    refine put_keeps inv step.same_name ?_
    exact fun present => step.keeps_sound (inv.records rec present)
      (locks.2 ▸ Option.some_ne_none _)
  | lock rec present free =>
    refine put_keeps inv rfl ?_
    exact fun present => { inv.records rec present with
      settled := fun _ _ => Option.some_ne_none _ }
  | leave rec locks isTracked gone unowned => exact drop_keeps inv isTracked gone unowned

omit inv

end Keeps

/-- What the steps of one thread leave to the others. -/
structure Effect (actor : Nat) (pre post : Heap) : Prop where
  allocated : pre.allocated ≤ post.allocated
  /-- A record belongs to the thread that locked it, and so does its place in the table. -/
  locked : ∀ rec < pre.allocated, ∀ tid, tid ≠ actor →
    (pre.records rec).operationLock = some tid →
      post.records rec = pre.records rec ∧ (post.Tracked rec ↔ pre.Tracked rec)

section Effects

variable {heap post : Heap} {actor : Nat}

theorem effect_refl (heap : Heap) : Effect actor heap heap where
  allocated := Nat.le_refl _
  locked _ _ _ _ _ := ⟨rfl, .rfl⟩

theorem effect_trans {middle : Heap} (first : Effect actor heap middle)
    (second : Effect actor middle post) : Effect actor heap post where
  allocated := Nat.le_trans first.allocated second.allocated
  locked rec present tid differ own := by
    obtain ⟨same, samePlace⟩ := first.locked rec present tid differ own
    obtain ⟨sameAgain, samePlaceAgain⟩ := second.locked rec
      (Nat.lt_of_lt_of_le present first.allocated) tid differ (same ▸ own)
    exact ⟨sameAgain.trans same, samePlaceAgain.trans samePlace⟩

theorem put_effect {rec : Nat} {managed : ManagedRecord}
    (sameName : managed.unitName = (heap.records rec).unitName)
    (unlocked : ∀ tid, tid ≠ actor → (heap.records rec).operationLock ≠ some tid) :
    Effect actor heap (heap.put rec managed) where
  allocated := Nat.le_refl _
  locked other _ tid differ own := by
    refine ⟨put_records_ne ?_, tracked_put sameName⟩
    intro isRecord
    exact unlocked tid differ (isRecord ▸ own)

theorem step_effect (step : HeapStep actor heap post) : Effect actor heap post := by
  have others {rec : Nat} (locks : Locks actor heap rec) {tid : Nat}
      (differ : tid ≠ actor) : (heap.records rec).operationLock ≠ some tid := by
    intro own
    exact differ (Option.some.inj (own.symm.trans locks.2))
  cases step with
  | create unitName outputReadFd outputPipeIdentity =>
    refine ⟨Nat.le_succ _, ?_⟩
    intro rec present tid differ own
    exact ⟨allocate_old present, tracked_allocate_old present⟩
  | enter rec locks free =>
    refine ⟨Nat.le_refl _, ?_⟩
    intro other present tid differ own
    refine ⟨rfl, (tracked_insert free).trans (or_iff_right ?_)⟩
    intro isRecord
    exact others locks differ (isRecord ▸ own)
  | change rec locks managed step =>
    exact put_effect step.same_name fun tid differ => others locks differ
  | lock rec present free =>
    refine put_effect rfl ?_
    intro tid differ own
    rw [free] at own
    cases own
  | leave rec locks isTracked gone unowned =>
    refine ⟨Nat.le_refl _, ?_⟩
    intro other present tid differ own
    refine ⟨rfl, (tracked_drop isTracked).trans (and_iff_right ?_)⟩
    intro isRecord
    exact others locks differ (isRecord ▸ own)

end Effects

/-- Any number of steps of one thread. -/
abbrev HeapSteps (tid : Nat) : Heap → Heap → Prop := Relation.ReflTransGen (HeapStep tid)

theorem steps_keep {heap post : Heap} {tid : Nat} (inv : Invariant heap)
    (steps : HeapSteps tid heap post) : Invariant post := by
  induction steps with
  | refl => exact inv
  | tail _ step ih => exact step_keeps ih step

theorem steps_effect {heap post : Heap} {actor : Nat} (steps : HeapSteps actor heap post) :
    Effect actor heap post := by
  induction steps with
  | refl => exact effect_refl heap
  | tail _ step ih => exact effect_trans ih (step_effect step)

end RtspProxy.Managers
