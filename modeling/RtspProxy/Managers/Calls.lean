import RtspProxy.Managers.Protocol

/-!
# The calls of the managers are steps of the protocol

A permitted call of a thread takes the records and the table through steps of
the abstract manager (`call_steps`), and everything else it changes is
bookkeeping that the steps do not look at.
-/

namespace RtspProxy.Managers

open Lib Lib.Program

/-- Nothing is left of the record: its resource is gone and no ledger owns its lease. -/
def ManagedRecord.Bare (managed : ManagedRecord) : Prop :=
  managed.live = false ∧ managed.owned = false

def Permitted (tid : Nat) (heap : Heap) : Call → Prop
  | .activate rec | .insertUnit rec | .insertGuard rec | .markCleaning rec
  | .releaseUnitOperation rec _ | .releaseGuardOperation rec _ | .beginCleanup _ rec _
  | .beginRelease _ rec _ | .claimRetry rec | .startCleaning rec
  | .markCleanupPending rec | .remove rec _ | .release rec _ => Locks tid heap rec
  | .setOwnership rec _ => Locks tid heap rec ∧ (heap.records rec).owned = false
  | .removeRecord rec | .forget rec _ =>
    Locks tid heap rec ∧ (heap.records rec).Bare
  | .finishRecovery rec collected retainCollected =>
    Locks tid heap rec ∧ (collected = true → (heap.records rec).live = false ∧
      (retainCollected = false → (heap.records rec).owned = false))
  | .finishRelease rec ownership =>
    Locks tid heap rec ∧ (heap.records rec).live = false ∧
      (ownership = none → (heap.records rec).owned = false)
  | .acquireOperation rec => rec < heap.allocated
  | .transportCall rec _ | .backendInstall rec _ =>
    Locks tid heap rec ∧ heap.Tracked rec ∧ (heap.records rec).state = .starting ∧
      (heap.records rec).issued = false
  | .publish rec _ =>
    Locks tid heap rec ∧ heap.Tracked rec ∧ (heap.records rec).lease = true ∧
      (heap.records rec).state ≠ .starting
  | _ => True

section Calls

variable {tid rec : Nat} {w post : World}

variable {managed : ManagedRecord}

variable (locks : Locks tid w.toHeap rec)

include locks

theorem change_steps (step : RecordStep (w.Tracked rec) (w.records rec) managed) :
    HeapSteps tid w.toHeap (w.toHeap.put rec managed) :=
  .single (.change rec locks managed step)

theorem drop_steps (bare : (w.records rec).Bare) :
    HeapSteps tid w.toHeap
      (if w.Tracked rec then w.drop rec else w).toHeap := by
  split_ifs with isTracked
  · exact .single (.leave rec locks isTracked bare.1 bare.2)
  · exact .refl

theorem locks_put (own : managed.operationLock = some tid) :
    Locks tid (w.toHeap.put rec managed) rec := by
  refine ⟨locks.1, ?_⟩
  rw [put_records_self]
  exact own

theorem unlock_steps (settled : w.Tracked rec → (w.records rec).state.transitional = false) :
    HeapSteps tid w.toHeap (w.unlock rec).toHeap :=
  .single (.change rec locks _ (.unlock settled))

theorem mark_pending_steps :
    HeapSteps tid w.toHeap ((w.markPending rec).unlock rec).toHeap := by
  have postponed : HeapSteps tid w.toHeap (w.markPending rec).toHeap :=
    .single (.change rec locks _ (.postpone _))
  refine postponed.trans (unlock_steps (locks_put locks locks.2) ?_)
  intro _
  unfold World.markPending
  rw [put_records_self]
  rfl

omit locks

variable {preserveActive : Bool}

theorem not_transitional
    (rests : ¬(managed.state.transitional ∨ managed.state = .active ∧ preserveActive = false)) :
    managed.state.transitional = false :=
  Bool.eq_false_iff.mpr fun transitional => rests (.inl transitional)

theorem release_unit_steps (inv : Invariant w.toHeap) (locks : Locks tid w.toHeap rec) :
    HeapSteps tid w.toHeap (releaseUnit w rec preserveActive).toHeap := by
  have sound := inv.records rec locks.1
  unfold releaseUnit
  dsimp only
  split_ifs with isTracked unstarted unsettled
  · have gone : (w.records rec).live = false := by
      refine Bool.eq_false_iff.mpr ?_
      intro isLive
      exact Bool.false_ne_true (unstarted.2.symm.trans (sound.live isLive).2.2)
    have left : HeapSteps tid w.toHeap (w.drop rec).toHeap :=
      .single (.leave rec locks isTracked gone (sound.new unstarted.1))
    refine left.trans (unlock_steps locks ?_)
    intro still
    exact absurd rfl ((tracked_drop isTracked).mp still).1
  · exact mark_pending_steps locks
  · exact unlock_steps locks fun _ => not_transitional unsettled
  · exact unlock_steps locks fun isTracked' => absurd isTracked' isTracked

theorem release_guard_steps (locks : Locks tid w.toHeap rec) :
    HeapSteps tid w.toHeap (releaseGuard w rec preserveActive).toHeap := by
  unfold releaseGuard
  dsimp only
  split_ifs with unsettled
  · exact mark_pending_steps locks
  · refine unlock_steps locks ?_
    exact fun isTracked => not_transitional fun reason => unsettled ⟨isTracked, reason⟩

theorem begin_cleanup_steps {lease : Lease} {own : Option Nat} (locks : Locks tid w.toHeap rec) :
    HeapSteps tid w.toHeap (beginUnitCleanup w lease rec own).2.toHeap := by
  unfold beginUnitCleanup
  split_ifs
  · split
    · exact .refl
    · exact change_steps locks .clean
    · exact change_steps locks .clean
    · exact .refl
  · exact .refl

theorem begin_release_steps {lease : Lease} {own : Option Nat} (locks : Locks tid w.toHeap rec) :
    HeapSteps tid w.toHeap (beginGuardRelease w lease rec own).2.toHeap := by
  unfold beginGuardRelease
  split_ifs
  · exact .refl
  · exact change_steps locks .clean
  · exact .refl

theorem asks_owner (inv : Invariant w.toHeap) (present : rec < w.allocated)
    (pending : (w.records rec).state.pending = true)
    (isOwned : (w.records rec).owned = true) : w.asksLedger rec = true := by
  obtain ⟨isTracked, leased, adopted⟩ := (inv.records rec present).owned isOwned
  unfold World.asksLedger
  simp [isTracked, leased, pending, Option.isSome_iff_ne_none, adopted]

theorem claim_retry_steps (inv : Invariant w.toHeap) (locks : Locks tid w.toHeap rec) :
    HeapSteps tid w.toHeap (claimRetry w rec).2.toHeap := by
  unfold claimRetry
  split_ifs with isPending isOwned isCollected
  · exact .refl
  · have sound := inv.records rec locks.1
    refine .single (.leave rec locks isPending.1 (sound.collected isCollected) ?_)
    refine Bool.eq_false_iff.mpr ?_
    intro owned
    rw [asks_owner inv locks.1 isPending.2 owned, owned] at isOwned
    exact isOwned rfl
  · exact change_steps locks .clean
  · exact .refl

theorem plainly_cases {Value : Type} {wish ans : Except Failure Value} {pre : World}
    (acted : plainly wish pre = some (ans, post)) :
    ans = wish ∧ post = pre ∧ ∀ err, wish = .error err → err.isRejection = false := by
  unfold plainly at acted
  split at acted
  · cases acted
    refine ⟨rfl, rfl, ?_⟩
    intro err impossible
    cases impossible
  · split_ifs at acted with rejection
    cases acted
    refine ⟨rfl, rfl, ?_⟩
    rintro _ ⟨⟩
    exact Bool.eq_false_iff.mpr rejection

variable {wish ans : Except Failure Unit}

theorem ledger_cases {took : Bool} {changed : World}
    (acted : ledgerCall took wish changed w = some (ans, post)) :
    ans = wish ∧ (∀ err, wish = .error err → err.isRejection = false) ∧
      (post = changed ∨ post = w ∧ ∃ err, wish = .error err) := by
  obtain ⟨isWish, isAfter, plain⟩ := plainly_cases acted
  refine ⟨isWish, plain, ?_⟩
  rw [isAfter]
  cases wish with
  | ok _ => exact .inl rfl
  | error err =>
    split_ifs
    · exact .inl rfl
    · exact .inr ⟨rfl, err, rfl⟩

theorem ledger_steps {took : Bool} {owned : Bool} (acted : ledgerCall took wish
      (w.update rec fun managed => { managed with owned }) w = some (ans, post))
    (step : HeapSteps tid w.toHeap
      (w.toHeap.put rec { w.records rec with owned })) :
    HeapSteps tid w.toHeap post.toHeap := by
  obtain ⟨_, _, rfl | ⟨rfl, _⟩⟩ := ledger_cases acted
  · exact step
  · exact .refl

theorem call_steps {req : Call} {ans : Except Failure (Answer req)}
    (inv : Invariant w.toHeap) (permitted : Permitted tid w.toHeap req)
    (ran : machine.exec tid w req ans post) :
    HeapSteps tid w.toHeap post.toHeap := by
  obtain ⟨_, took, wish, acted⟩ := ran
  cases req with
  | query question =>
    obtain ⟨_, rfl, _⟩ := plainly_cases acted
    exact .refl
  | newRecord unitName outputReadFd outputPipeIdentity =>
    cases acted
    exact .single (.create unitName outputReadFd outputPipeIdentity)
  | activate rec =>
    simp only [perform] at acted
    split_ifs at acted with fits
    · cases acted
      exact change_steps permitted (.activate fits.1 fits.2)
    · cases acted
      exact .refl
  | setOwnership rec ledger =>
    cases acted
    exact change_steps permitted.1 (.adopt ledger permitted.2)
  | removeRecord rec =>
    simp only [perform] at acted
    split_ifs at acted with isTracked
    · cases acted
      exact .single (.leave rec permitted.1 isTracked permitted.2.1 permitted.2.2)
    · cases acted
      exact .refl
  | acquireOperation rec =>
    simp only [perform] at acted
    split_ifs at acted with free
    · cases acted
      exact .single (.lock rec permitted free)
    · cases acted
      exact .refl
  | acquireRetry =>
    simp only [perform] at acted
    split_ifs at acted
    · cases acted
      exact .refl
    · cases acted
      exact .refl
  | claimRetry rec =>
    cases wish with
    | ok _ =>
      cases acted
      exact claim_retry_steps inv permitted
    | error err =>
      simp only [perform] at acted
      split_ifs at acted
      cases acted
      exact .refl
  | insertUnit rec =>
    simp only [perform] at acted
    split_ifs at acted with free
    · cases acted
      exact .single (.enter rec permitted free)
    · cases acted
      exact .refl
  | markCleaning rec =>
    simp only [perform] at acted
    split_ifs at acted
    · cases acted
      exact change_steps permitted .clean
    · cases acted
      exact .refl
  | finishRecovery rec collected retainCollected =>
    obtain ⟨locks, finished⟩ := permitted
    simp only [perform] at acted
    split_ifs at acted with fits isCollected retain
    · cases acted
      exact change_steps locks (.collect (finished isCollected).1)
    · cases acted
      exact .single (.leave rec locks fits.1 (finished isCollected).1
        ((finished isCollected).2 (Bool.eq_false_iff.mpr retain)))
    · cases acted
      exact change_steps locks (.postpone _)
    · cases acted
      exact .refl
  | releaseUnitOperation rec preserveActive =>
    cases acted
    exact release_unit_steps inv permitted
  | beginCleanup lease rec own =>
    cases acted
    exact begin_cleanup_steps permitted
  | insertGuard rec =>
    simp only [perform] at acted
    split_ifs at acted with busy required free
    · cases acted
      exact .refl
    · cases acted
      exact .refl
    · cases acted
      exact .single (.enter rec permitted free)
    · cases acted
      exact .refl
  | forget rec requireReconcile =>
    cases acted
    exact drop_steps permitted.1 permitted.2
  | startCleaning rec =>
    cases acted
    split_ifs
    · exact change_steps permitted .clean
    · exact .refl
  | markCleanupPending rec =>
    cases acted
    split_ifs
    · exact change_steps permitted (.postpone _)
    · exact .refl
  | releaseGuardOperation rec preserveActive =>
    cases acted
    exact release_guard_steps permitted
  | beginRelease lease rec own =>
    cases acted
    exact begin_release_steps permitted
  | finishRelease rec own =>
    obtain ⟨locks, gone, unowned⟩ := permitted
    simp only [perform] at acted
    split_ifs at acted with isTracked isNone
    · cases acted
      exact .single (.leave rec locks isTracked gone
        (unowned (Option.isNone_iff_eq_none.mp isNone)))
    · cases acted
      exact change_steps locks (.collect gone)
    · cases acted
      exact .refl
  | beginReconcile =>
    simp only [perform] at acted
    split_ifs at acted
    · cases acted
      exact .refl
    · cases acted
      exact .refl
  | transportCall rec timeout =>
    cases acted
    exact change_steps permitted.1 (.issue _ permitted.2.1 permitted.2.2.1 permitted.2.2.2)
  | backendInstall rec timeout =>
    cases acted
    exact change_steps permitted.1 (.issue _ permitted.2.1 permitted.2.2.1 permitted.2.2.2)
  | remove rec timeout =>
    cases acted
    exact change_steps permitted (.recover _)
  | publish rec ledger =>
    simp only [perform] at acted
    split_ifs at acted with adopted
    · refine ledger_steps acted (change_steps permitted.1 ?_)
      exact .publish permitted.2.1 permitted.2.2.1 (adopted ▸ Option.some_ne_none _) permitted.2.2.2
    · obtain ⟨_, rfl, _⟩ := plainly_cases acted
      exact .refl
  | owns rec ledger =>
    simp only [perform] at acted
    split_ifs at acted
    · cases wish with
      | ok _ =>
        cases acted
        exact .refl
      | error err =>
        obtain ⟨_, rfl, _⟩ := plainly_cases acted
        exact .refl
    · obtain ⟨_, rfl, _⟩ := plainly_cases acted
      exact .refl
  | release rec ledger =>
    simp only [perform] at acted
    split_ifs at acted
    · exact ledger_steps acted (change_steps permitted .release)
    · obtain ⟨_, rfl, _⟩ := plainly_cases acted
      exact .refl
  | _ =>
    cases acted
    exact .refl

end Calls

def protocol : Protocol machine where
  invariant w := Invariant w.toHeap
  effect tid pre post := HeapSteps tid pre.toHeap post.toHeap
  permitted tid w := Permitted tid w.toHeap
  sound invariant permitted ran :=
    have steps := call_steps invariant permitted ran
    ⟨steps_keep invariant steps, steps⟩
  leaves _ _ invariant := ⟨invariant, .refl⟩

theorem fresh_invariant {w : World} (fresh : Fresh w) : Invariant w.toHeap := by
  obtain ⟨noRecords, empty, _⟩ := fresh
  constructor
  case keyed =>
    intro unitName rec found
    rw [empty, Dict.get_empty] at found
    cases found
  case records =>
    intro rec present
    rw [noRecords] at present
    cases present

end RtspProxy.Managers
