import RtspProxy.Managers.Programs
import RtspProxy.Managers.Calls

/-!
# The programs of the managers keep the protocol

What matters of a locked record is its `Stake`: whether its resource may be
there, and whether its ledger owns its lease. Most calls under the lock change
neither (`Restates`), so a program is walked through from one call that does to
the next: the issue, the publication, the removal and the release.
-/

namespace RtspProxy.Managers

open Lib Lib.Program Lib.Program.Prog

variable {tid rec : Nat}

/-- What a manager can lose of a record. -/
structure Stake where
  live : Bool
  owned : Bool
  ownership : Option Nat

def ManagedRecord.stake (managed : ManagedRecord) : Stake :=
  { live := managed.live, owned := managed.owned, ownership := managed.ownership }

/-- The thread holds the lock of the record, and this is known of the record and its place. -/
def Locking (tid rec : Nat) (known : ManagedRecord → Prop → Prop) (w : World) : Prop :=
  Locks tid w.toHeap rec ∧ known (w.records rec) (w.Tracked rec)

/-- The thread holds the lock of the record, and this is known of its stake. -/
abbrev Holding (tid rec : Nat) (known : Stake → Prop) : World → Prop :=
  Locking tid rec fun managed _ => known managed.stake

variable {known : ManagedRecord → Prop → Prop}

theorem stable_locking : Stable protocol tid (Locking tid rec known) := by
  rintro pre post _ _ ⟨actor, differ, steps⟩ ⟨⟨present, own⟩, holds⟩
  have effect := steps_effect steps
  obtain ⟨sameRecord, samePlace⟩ := effect.locked rec present tid (Ne.symm differ) own
  refine ⟨⟨Nat.lt_of_lt_of_le present effect.allocated, ?_⟩, ?_⟩
  · rw [sameRecord]
    exact own
  · rw [sameRecord, propext samePlace]
    exact holds

variable {w : World}

theorem locking_weaken {weaker : ManagedRecord → Prop → Prop} (locking : Locking tid rec known w)
    (weaken : ∀ managed tracked, known managed tracked → weaker managed tracked) :
    Locking tid rec weaker w :=
  ⟨locking.1, weaken _ _ locking.2⟩

variable {change : ManagedRecord → ManagedRecord}

theorem locking_update (locks : Locks tid w.toHeap rec)
    (sameName : (change (w.records rec)).unitName = (w.records rec).unitName)
    (sameLock : (change (w.records rec)).operationLock = (w.records rec).operationLock)
    (holds : known (change (w.records rec)) (w.Tracked rec)) :
    Locking tid rec known (w.update rec change) := by
  refine ⟨locks_put locks (sameLock.trans locks.2), ?_⟩
  unfold World.update
  rw [put_records_self, propext (tracked_put sameName)]
  exact holds

def Locked (_ : Stake) : Prop := True

def Claimed (ownership : Option Nat) (stake : Stake) : Prop :=
  stake.owned = true → ownership ≠ none ∧ stake.ownership = ownership

/-- No other ledger owns the lease, and if the resource is `collected` it is gone. -/
def Recovered (ownership : Option Nat) (collected : Bool) (stake : Stake) : Prop :=
  Claimed ownership stake ∧ (collected = true → stake.live = false)

def Stake.Bare (stake : Stake) : Prop := stake.live = false ∧ stake.owned = false

variable {ownership : Option Nat}

theorem claimed_unowned {stake : Stake} (unowned : stake.owned = false) :
    Claimed ownership stake := by
  intro isOwned
  exact absurd (unowned.symm.trans isOwned) Bool.false_ne_true

theorem claimed_none {stake : Stake} (claimed : Claimed none stake) : stake.owned = false := by
  refine Bool.eq_false_iff.mpr ?_
  intro isOwned
  exact (claimed isOwned).1 rfl

abbrev Always {Result : Type} (fact : World → Prop) : Except Failure Result → World → Prop :=
  fun _ w => fact w

abbrev Keeps {Result : Type} (tid : Nat) (fact : World → Prop) (prog : Program Result) :
    Prop :=
  Maintains protocol tid fact prog

/-- Calls of the lock holder that change neither the lock nor the stake of the record. -/
def Call.Restates (rec : Nat) : Call → Prop
  | .query _ | .reconcileState | .output _ | .owns .. | .reconcileOwned _ | .beginReconcile
  | .endReconcile _ => True
  | .activate other | .removeRecord other | .markCleaning other | .finishRecovery other _ _
  | .beginCleanup _ other _ | .forget other _ | .startCleaning other | .markCleanupPending other
  | .beginRelease _ other _ | .finishRelease other _ => other = rec
  | _ => False

/-- The lock and the stake of the record are as they were. -/
def Alike (rec : Nat) (w post : World) : Prop :=
  post.allocated = w.allocated ∧
    (post.records rec).operationLock = (w.records rec).operationLock ∧
    (post.records rec).stake = (w.records rec).stake

theorem alike_refl (w : World) : Alike rec w w := ⟨rfl, rfl, rfl⟩

theorem alike_update (sameLock : (change (w.records rec)).operationLock =
      (w.records rec).operationLock)
    (sameStake : (change (w.records rec)).stake = (w.records rec).stake) :
    Alike rec w (w.update rec change) := by
  unfold Alike World.update
  rw [put_records_self]
  exact ⟨rfl, sameLock, sameStake⟩

theorem alike_drop (w : World) : Alike rec w (w.drop rec) := ⟨rfl, rfl, rfl⟩

theorem alike_state (w : World) (st : RecordState) :
    Alike rec w (w.setState rec st) :=
  alike_update rfl rfl

theorem alike_pending (w : World) : Alike rec w (w.markPending rec) := by
  unfold Alike World.markPending
  rw [put_records_self]
  exact ⟨rfl, rfl, rfl⟩

variable {req : Call}

variable {post : World}

variable {ans : Except Failure (Answer req)}

theorem restates_alike (restates : req.Restates rec)
    (ran : machine.exec tid w req ans post) : Alike rec w post := by
  obtain ⟨_, took, wish, acted⟩ := ran
  cases req with
  | query question =>
    obtain ⟨_, rfl, _⟩ := plainly_cases acted
    exact alike_refl _
  | reconcileState | output | reconcileOwned =>
    cases acted
    exact alike_refl _
  | owns other ledger =>
    simp only [perform] at acted
    split_ifs at acted
    · cases wish with
      | ok _ =>
        cases acted
        exact alike_refl _
      | error err =>
        obtain ⟨_, rfl, _⟩ := plainly_cases acted
        exact alike_refl _
    · obtain ⟨_, rfl, _⟩ := plainly_cases acted
      exact alike_refl _
  | beginReconcile =>
    simp only [perform] at acted
    split_ifs at acted
    · cases acted
      exact alike_refl _
    · cases acted
      exact alike_refl _
  | endReconcile ready =>
    cases acted
    exact alike_refl _
  | activate other =>
    cases restates
    simp only [perform] at acted
    split_ifs at acted
    · cases acted
      exact alike_update rfl rfl
    · cases acted
      exact alike_refl _
  | removeRecord other =>
    cases restates
    simp only [perform] at acted
    split_ifs at acted
    · cases acted
      exact alike_drop _
    · cases acted
      exact alike_refl _
  | markCleaning other =>
    cases restates
    simp only [perform] at acted
    split_ifs at acted
    · cases acted
      exact alike_state _ _
    · cases acted
      exact alike_refl _
  | finishRecovery other collected retainCollected =>
    cases restates
    simp only [perform] at acted
    split_ifs at acted
    · cases acted
      exact alike_state _ _
    · cases acted
      exact alike_drop _
    · cases acted
      exact alike_pending _
    · cases acted
      exact alike_refl _
  | beginCleanup lease other ownership =>
    cases restates
    cases acted
    unfold beginUnitCleanup
    split_ifs
    · split
      · exact alike_refl _
      · exact alike_state _ _
      · exact alike_state _ _
      · exact alike_refl _
    · exact alike_refl _
  | forget other requireReconcile =>
    cases restates
    cases acted
    split_ifs
    · exact alike_drop _
    · exact alike_refl _
  | startCleaning other =>
    cases restates
    cases acted
    split_ifs
    · exact alike_state _ _
    · exact alike_refl _
  | markCleanupPending other =>
    cases restates
    cases acted
    split_ifs
    · exact alike_pending _
    · exact alike_refl _
  | beginRelease lease other ownership =>
    cases restates
    cases acted
    unfold beginGuardRelease
    split_ifs
    · exact alike_refl _
    · exact alike_state _ _
    · exact alike_refl _
  | finishRelease other ownership =>
    cases restates
    simp only [perform] at acted
    split_ifs at acted
    · cases acted
      exact alike_drop _
    · cases acted
      exact alike_state _ _
    · cases acted
      exact alike_refl _
  | _ => cases restates

theorem holding_alike {known : Stake → Prop} (alike : Alike rec w post)
    (holding : Holding tid rec known w) : Holding tid rec known post := by
  obtain ⟨sameCount, sameLock, sameStake⟩ := alike
  obtain ⟨⟨present, own⟩, holds⟩ := holding
  refine ⟨⟨sameCount ▸ present, sameLock.trans own⟩, ?_⟩
  change known (post.records rec).stake
  rw [sameStake]
  exact holds

theorem keeps_restate {known : Stake → Prop} (restates : req.Restates rec)
    (permitted : ∀ w : World, Holding tid rec known w → Permitted tid w.toHeap req) :
    Keeps tid (Holding tid rec known) (send req) := by
  intro w holding
  refine safe_ask stable_locking holding (fun cur _ => permitted cur) ?_
  intro cur ans post _ holding ran
  exact holding_alike (restates_alike restates ran) holding

/-- Clocks and other calls that leave the world alone, whoever makes them. -/
def Call.Reads : Call → Prop
  | .query _ | .reconcileState | .output _ | .pendingBatch | .unresolvedCleanupCount
  | .pendingCount | .findUnit .. | .findGuard .. => True
  | _ => False

theorem reads_permitted (reads : req.Reads) (heap : Heap) : Permitted tid heap req := by
  cases req <;> trivial

theorem reads_idle (reads : req.Reads) {pre : World}
    (ran : machine.exec tid pre req ans post) : post = pre := by
  obtain ⟨_, took, wish, acted⟩ := ran
  cases req with
  | query question => exact (plainly_cases acted).2.1
  | reconcileState | output | pendingBatch | unresolvedCleanupCount | pendingCount | findUnit
  | findGuard =>
    cases acted
    rfl
  | _ => cases reads

variable {Result : Type}

theorem keeps_reads {fact : World → Prop} {prog : Program Result}
    (stable : Stable protocol tid fact) (only : Only Call.Reads prog) :
    Keeps tid fact prog :=
  maintains_only (fun _ cur reads => reads_permitted reads cur.toHeap)
    (fun _ _ _ _ reads => reads_idle reads) stable only

theorem only_query (question : Query) : Only Call.Reads (query question) := only_ask trivial

theorem only_clock : Only Call.Reads clock := by
  refine only_bind (only_query _) ?_
  intro ans
  cases ans <;> trivial

theorem stable_true : Stable protocol tid fun _ => True := fun _ _ _ _ _ _ => trivial

/-- The program may be run by anyone at any time. -/
abbrev Harmless {Result : Type} (tid : Nat) (prog : Program Result) : Prop :=
  Keeps tid (fun _ => True) prog

theorem harmless_reads {prog : Program Result} (only : Only Call.Reads prog) : Harmless tid prog :=
  keeps_reads stable_true only

theorem harmless_call (permitted : ∀ heap, Permitted tid heap req) :
    Harmless tid (send req) := by
  intro w _
  refine safe_ask stable_true trivial (fun cur _ _ => permitted cur.toHeap) ?_
  exact fun _ _ _ _ _ _ => trivial

theorem safe_ensuring {first : World → Prop} {body : Program Result}
    {final : Program Unit} (safe : SafeAmong protocol tid (Always first) body w)
    (ends : ∀ post, first post → SafeAmong protocol tid (fun _ _ => True) final post) :
    SafeAmong protocol tid (fun _ _ => True) (ensuring body final) w := by
  refine safe_and_then safe ?_
  intro out post holds
  refine safe_and_then (ends post holds) ?_
  intro ended later _
  cases ended <;> trivial

def Present (rec : Nat) (w : World) : Prop := rec < w.allocated

theorem stable_present : Stable protocol tid (Present rec) := by
  rintro pre post _ _ ⟨actor, _, steps⟩ present
  exact Nat.lt_of_lt_of_le present (steps_effect steps).allocated

def AllPresent (records : List Nat) (w : World) : Prop :=
  ∀ rec ∈ records, Present rec w

theorem all_present_kept {records : List Nat} (actor : Nat) (pre post : World)
    (steps : HeapSteps actor pre.toHeap post.toHeap) (present : AllPresent records pre) :
    AllPresent records post :=
  fun rec mem => Nat.lt_of_lt_of_le (present rec mem) (steps_effect steps).allocated

theorem stable_all_present {records : List Nat} :
    Stable protocol tid (AllPresent records) := by
  rintro pre post _ _ ⟨actor, _, steps⟩ present
  exact all_present_kept actor pre post steps present

theorem acquire_operation_locks (present : Present rec w) :
    SafeAmong protocol tid
      (Returns (fun acquired post => acquired = true → Holding tid rec Locked post)
        fun _ _ => False) (send (.acquireOperation rec)) w := by
  refine safe_ask stable_present present (fun _ _ present => present) ?_
  rintro cur ans post _ present ⟨_, took, wish, acted⟩
  simp only [perform] at acted
  split_ifs at acted
  · cases acted
    intro _
    refine ⟨⟨present, ?_⟩, trivial⟩
    unfold World.update
    rw [put_records_self]
  · cases acted
    intro impossible
    cases impossible

theorem release_operation_safe (locking : Locking tid rec known w)
    (permitted : ∀ heap, Locks tid heap rec → Permitted tid heap req) :
    SafeAmong protocol tid (fun _ _ => True) (send req) w := by
  refine safe_ask stable_locking locking ?_ ?_
  · exact fun cur _ locking => permitted _ locking.1
  · exact fun _ _ _ _ _ _ => trivial

theorem under_lock_safe {body other : Program Result} {final : Program Unit}
    (present : Present rec w) (bodySafe : ∀ post, Holding tid rec Locked post →
      SafeAmong protocol tid (Always (Holding tid rec Locked)) body post)
    (finalSafe : ∀ post, Holding tid rec Locked post →
      SafeAmong protocol tid (fun _ _ => True) final post) (otherwise : Harmless tid other) :
    SafeAmong protocol tid (fun _ _ => True)
      (do if ← send (.acquireOperation rec) then ensuring body final else other) w := by
  refine safe_then (acquire_operation_locks present) (fun _ _ _ => trivial) ?_
  intro acquired post locks
  cases acquired with
  | true => exact safe_ensuring (bodySafe post (locks rfl)) finalSafe
  | false => exact otherwise post trivial

theorem is_lease_present (inv : Invariant w.toHeap) {lease : Lease}
    (isLease : w.isLeaseOf lease rec = true) : Present rec w := by
  unfold World.isLeaseOf at isLease
  simp only [Bool.and_eq_true, decide_eq_true_eq] at isLease
  exact (inv.keyed _ _ isLease.1.1).1

theorem find_present (inv : Invariant w.toHeap) {lease : Lease} {accepted : Bool}
    (found : (if w.isLeaseOf lease lease.record && accepted then
      some lease.record else none) = some rec) : Present rec w := by
  split_ifs at found with fits
  cases found
  exact is_lease_present inv (Bool.and_eq_true_iff.mp fits).1

theorem find_unit_present (lease : Lease) (ownership : Option Nat) (w : World) :
    SafeAmong protocol tid
      (Returns (fun found post => ∀ rec, found = some rec → Present rec post)
        fun _ _ => True) (send (.findUnit lease ownership)) w := by
  refine safe_ask stable_true trivial (fun _ _ _ => trivial) ?_
  rintro cur ans post inv _ ⟨_, took, wish, acted⟩
  cases acted
  exact fun rec => find_present inv

theorem find_guard_present (lease : Lease) (ownership : Option Nat) (w : World) :
    SafeAmong protocol tid
      (Returns (fun found post => ∀ rec, found = some rec → Present rec post)
        fun _ _ => True) (send (.findGuard lease ownership)) w := by
  refine safe_ask stable_true trivial (fun _ _ _ => trivial) ?_
  rintro cur ans post inv _ ⟨_, took, wish, acted⟩
  cases acted
  exact fun rec => find_present inv

theorem batch_present (inv : Invariant w.toHeap) (mem : rec ∈ w.batch) :
    Present rec w := by
  have inTable := List.mem_of_mem_filter
    ((List.mergeSort_perm _ _).mem_iff.mp (List.mem_of_mem_take mem))
  obtain ⟨⟨unitName, _⟩, item, rfl⟩ := List.mem_map.mp inTable
  exact (inv.keyed unitName _ (Dict.get_eq_some.mpr item)).1

theorem pending_batch_present (w : World) :
    SafeAmong protocol tid
      (Returns (fun batch post => AllPresent batch post) fun _ _ => True)
      (send .pendingBatch) w := by
  refine safe_ask stable_true trivial (fun _ _ _ => trivial) ?_
  rintro cur ans post inv _ ⟨_, took, wish, acted⟩
  cases acted
  exact fun rec => batch_present inv

theorem sweep_safe {First Final : Type} {rest : List Nat} {prog : Program First}
    {next : First → Program Final} (present : AllPresent (rec :: rest) w)
    (safe : SafeAmong protocol tid (fun _ _ => True) prog w)
    (continues : ∀ res post, AllPresent rest post →
      SafeAmong protocol tid (fun _ _ => True) (next res) post) :
    SafeAmong protocol tid (fun _ _ => True) (prog >>= next) w := by
  have kept := safe_frame (fun actor pre post _ _ => all_present_kept actor pre post) present safe
  refine safe_and_then kept ?_
  intro out post both
  cases out with
  | error err => trivial
  | ok res =>
    exact continues res post fun other mem => both.2 other (List.mem_cons_of_mem _ mem)

theorem release_retry_safe (w : World) :
    SafeAmong protocol tid (fun _ _ => True) (send .releaseRetry) w :=
  harmless_call (fun _ => by trivial) w trivial

theorem retry_harmless {sweep count : Program Result}
    (sweepHarmless : Harmless tid sweep) (countHarmless : Harmless tid count) :
    Harmless tid
      (do if ← send .acquireRetry then ensuring sweep (send .releaseRetry) else count) := by
  refine maintains_bind (harmless_call fun _ => trivial) ?_
  intro acquired
  cases acquired with
  | true =>
    intro w _
    refine safe_ensuring (sweepHarmless w trivial) ?_
    exact fun post _ => release_retry_safe post
  | false => exact countHarmless

theorem remove_recovers {timeout : Rat} (holding : Holding tid rec (Claimed ownership) w) :
    SafeAmong protocol tid
      (Returns (fun _ => Holding tid rec (Recovered ownership true))
        fun _ => Holding tid rec (Claimed ownership)) (send (.remove rec timeout)) w := by
  refine safe_ask stable_locking holding (fun _ _ holding => holding.1) ?_
  rintro cur ans post _ ⟨locks, claimed⟩ ⟨_, took, wish, acted⟩
  cases acted
  have removed (known : Stake → Prop)
      (holds : known (ManagedRecord.stake { cur.records rec with
        live := (cur.records rec).live && !ans.isOk })) :
      Holding tid rec known (removeCall ans rec cur) := by
    refine ⟨locks_put locks locks.2, ?_⟩
    unfold removeCall
    rw [put_records_self]
    exact holds
  cases ans with
  | ok _ => exact removed _ ⟨claimed, fun _ => Bool.and_false _⟩
  | error err => exact removed _ claimed

theorem owns_tells {ledger : Nat} {known : Stake → Prop}
    (claims : ∀ stake, known stake → Claimed (some ledger) stake)
    (holding : Holding tid rec known w) :
    SafeAmong protocol tid
      (Returns (fun owns => Holding tid rec fun stake =>
          known stake ∧ (owns = false → stake.owned = false))
        fun err post => Holding tid rec known post ∧ err.isRejection = false)
      (send (.owns rec ledger)) w := by
  refine safe_ask stable_locking holding (fun _ _ _ => trivial) ?_
  rintro cur ans post _ ⟨locks, holds⟩ ⟨_, took, wish, acted⟩
  simp only [perform] at acted
  split_ifs at acted with adopted
  · cases wish with
    | ok _ =>
      cases acted
      exact ⟨locks, holds, id⟩
    | error err =>
      obtain ⟨rfl, rfl, plain⟩ := plainly_cases acted
      exact ⟨⟨locks, holds⟩, plain err rfl⟩
  · obtain ⟨rfl, rfl, plain⟩ := plainly_cases acted
    cases ans with
    | ok owns =>
      refine ⟨locks, holds, fun _ => ?_⟩
      refine Bool.eq_false_iff.mpr ?_
      intro isOwned
      exact adopted (claims _ holds isOwned).2
    | error err => exact ⟨⟨locks, holds⟩, plain err rfl⟩

theorem release_frees {ledger : Nat} {collected : Bool}
    (holding : Holding tid rec (Recovered (some ledger) collected) w) :
    SafeAmong protocol tid
      (Returns (fun _ => Holding tid rec fun stake =>
          Recovered (some ledger) collected stake ∧ stake.owned = false)
        fun _ => Holding tid rec (Recovered (some ledger) collected))
      (send (.release rec ledger)) w := by
  refine safe_ask stable_locking holding (fun _ _ holding => holding.1) ?_
  rintro cur ans post _ ⟨locks, holds⟩ ⟨_, took, wish, acted⟩
  simp only [perform] at acted
  split_ifs at acted with adopted
  · have freed : Holding tid rec
        (fun stake => Recovered (some ledger) collected stake ∧ stake.owned = false)
        (cur.update rec fun managed => { managed with owned := false }) :=
      locking_update locks rfl rfl ⟨⟨claimed_unowned rfl, holds.2⟩, rfl⟩
    obtain ⟨rfl, _, rfl | ⟨rfl, err, rfl⟩⟩ := ledger_cases acted
    · cases ans with
      | ok _ => exact freed
      | error err => exact locking_weaken freed fun _ _ => And.left
    · exact ⟨locks, holds⟩
  · obtain ⟨rfl, rfl, _⟩ := plainly_cases acted
    cases ans with
    | ok _ =>
      refine ⟨locks, holds, Bool.eq_false_iff.mpr ?_⟩
      intro isOwned
      exact adopted (holds.1 isOwned).2
    | error err => exact ⟨locks, holds⟩

theorem not_recovered (holding : Holding tid rec (Claimed ownership) w) :
    Holding tid rec (Recovered ownership false) w := by
  refine locking_weaken holding fun _ _ claimed => ⟨claimed, ?_⟩
  intro impossible
  cases impossible

theorem honours_claims (inv : Invariant w.toHeap) (locks : Locks tid w.toHeap rec)
    (honours : (w.records rec).owned = true → (w.records rec).ownership = ownership) :
    Claimed ownership (w.records rec).stake := by
  intro isOwned
  have adopted := ((inv.records rec locks.1).owned isOwned).2.2
  exact ⟨honours isOwned ▸ adopted, honours isOwned⟩

theorem claim_retry_claims (holding : Holding tid rec Locked w) :
    SafeAmong protocol tid
      (Returns (fun claim post => Holding tid rec Locked post ∧
          (claim = .claimed → Holding tid rec (Claimed none) post))
        fun _ => Holding tid rec Locked) (send (.claimRetry rec)) w := by
  refine safe_ask stable_locking holding (fun _ _ holding => holding.1) ?_
  rintro cur ans post inv holding ⟨_, took, wish, acted⟩
  cases wish with
  | error err =>
    simp only [perform] at acted
    split_ifs at acted
    cases acted
    exact holding
  | ok wished =>
    cases acted
    unfold claimRetry
    split_ifs with isPending isOwned isCollected
    · refine ⟨holding, ?_⟩
      intro impossible
      cases impossible
    · refine ⟨holding_alike (alike_drop _) holding, ?_⟩
      intro impossible
      cases impossible
    · have unowned : (cur.records rec).owned = false := by
        refine Bool.eq_false_iff.mpr ?_
        intro owned
        rw [asks_owner inv holding.1.1 isPending.2 owned, owned] at isOwned
        exact isOwned rfl
      have claimed : Holding tid rec (Claimed none) cur :=
        ⟨holding.1, claimed_unowned unowned⟩
      exact ⟨holding_alike (alike_state _ _) holding,
        fun _ => holding_alike (alike_state _ _) claimed⟩
    · refine ⟨holding, ?_⟩
      intro impossible
      cases impossible

end RtspProxy.Managers
