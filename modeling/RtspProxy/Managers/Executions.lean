import RtspProxy.Managers.Safety

/-!
# No unit and no guard is lost

The programs of the systemd manager, walked through from one change of a stake to
the next.
-/

namespace RtspProxy.Managers

open Lib Lib.Program Lib.Program.Prog

variable {tid rec : Nat}

def New (managed : ManagedRecord) (_ : Prop) : Prop :=
  managed.state = .starting ∧ managed.issued = false ∧ managed.owned = false

def Reserved (managed : ManagedRecord) (tracked : Prop) : Prop :=
  tracked ∧ New managed tracked

def Placed (managed : ManagedRecord) (tracked : Prop) : Prop :=
  tracked ∧ managed.state = .starting ∧ managed.owned = false

def Active (managed : ManagedRecord) (tracked : Prop) : Prop :=
  tracked ∧ managed.lease = true ∧ managed.state = .active ∧ managed.owned = false

/-- The program ends as stated when it returns, and with the lock held when it raises. -/
abbrev Reaches {Result : Type} (tid rec : Nat) (reached : Result → World → Prop)
    (prog : Program Result) (w : World) : Prop :=
  SafeAmong protocol tid (Returns reached fun _ => Holding tid rec Locked) prog w

variable {w : World}

theorem holding_locked {known : ManagedRecord → Prop → Prop}
    (locking : Locking tid rec known w) : Holding tid rec Locked w :=
  locking_weaken locking fun _ _ _ => trivial

theorem new_record_made (unitName : String) (outputReadFd : Int)
    (outputPipeIdentity : Nat × Nat) (w : World) :
    SafeAmong protocol tid (Returns (fun rec => Locking tid rec New) fun _ _ => True)
      (send (.newRecord unitName outputReadFd outputPipeIdentity)) w := by
  refine safe_ask stable_true trivial (fun _ _ _ => trivial) ?_
  rintro cur ans post _ _ ⟨_, took, wish, acted⟩
  cases acted
  unfold World.allocate
  refine ⟨⟨Nat.lt_succ_self _, ?_⟩, ?_⟩
  · rw [allocate_new]
  · rw [allocate_new]
    exact ⟨rfl, rfl, rfl⟩

variable (locking : Locking tid rec New w)

include locking

theorem inserted (free : w.table.get (w.records rec).unitName = none) :
    Locking tid rec Reserved { w with toHeap := w.toHeap.insert rec } :=
  ⟨locking.1, (tracked_insert free).mpr (.inl rfl), locking.2⟩

theorem insert_unit_reserves :
    Reaches tid rec
      (fun isNew post => Holding tid rec Locked post ∧
        (isNew = true → Locking tid rec Reserved post)) (send (.insertUnit rec)) w := by
  refine safe_ask stable_locking locking (fun _ _ locking => locking.1) ?_
  rintro cur ans post _ locking ⟨_, took, wish, acted⟩
  simp only [perform] at acted
  split_ifs at acted with free
  · cases acted
    exact ⟨holding_locked (inserted locking free), fun _ => inserted locking free⟩
  · cases acted
    refine ⟨holding_locked locking, ?_⟩
    intro impossible
    cases impossible

theorem insert_guard_reserves :
    Reaches tid rec
      (fun code post => Holding tid rec Locked post ∧
        (code = none → Locking tid rec Reserved post)) (send (.insertGuard rec)) w := by
  refine safe_ask stable_locking locking (fun _ _ locking => locking.1) ?_
  rintro cur ans post _ locking ⟨_, took, wish, acted⟩
  have refused {code : String} : Holding tid rec Locked cur ∧
      (some code = none → Locking tid rec Reserved cur) := by
    refine ⟨holding_locked locking, ?_⟩
    intro impossible
    cases impossible
  simp only [perform] at acted
  split_ifs at acted with busy required free
  · cases acted
    exact refused
  · cases acted
    exact refused
  · cases acted
    exact ⟨holding_locked (inserted locking free), fun _ => inserted locking free⟩
  · cases acted
    exact refused

omit locking

theorem issue_places {isRejection : Failure → Bool} {out : Except Failure Unit}
    (locking : Locking tid rec Reserved w) :
    Returns (fun _ => Locking tid rec Placed)
      (fun err => Holding tid rec fun stake =>
        stake.owned = false ∧ (isRejection err = true → stake.live = false)) out
      (issueCall isRejection out rec w) := by
  obtain ⟨locks, isTracked, starting, _, unowned⟩ := locking
  unfold issueCall
  cases out with
  | ok _ =>
    have placed : Placed { w.records rec with
        startMayExist := true, issued := true, live := true } (w.Tracked rec) :=
      ⟨isTracked, starting, unowned⟩
    exact @locking_update _ _ Placed _ _ locks (by rfl) (by rfl) placed
  | error err =>
    have gone : isRejection err = true → (!isRejection err) = false := by
      intro rejected
      rw [rejected]
      rfl
    exact @locking_update _ _ (fun managed _ => managed.owned = false ∧
      (isRejection err = true → managed.live = false)) _ _ locks (by rfl) (by rfl)
      ⟨unowned, gone⟩

theorem reserved_permits (w : World) (_ : Invariant w.toHeap)
    (locking : Locking tid rec Reserved w) :
    Locks tid w.toHeap rec ∧ w.Tracked rec ∧
      (w.records rec).state = .starting ∧ (w.records rec).issued = false :=
  ⟨locking.1, locking.2.1, locking.2.2.1, locking.2.2.2.1⟩

variable {timeout : Rat}

theorem transport_call_places (locking : Locking tid rec Reserved w) :
    SafeAmong protocol tid
      (Returns (fun _ => Locking tid rec Placed) fun err => Holding tid rec fun stake =>
        stake.owned = false ∧ (err.isStartRejection = true → stake.live = false))
      (send (.transportCall rec timeout)) w := by
  refine safe_ask stable_locking locking reserved_permits ?_
  rintro cur ans post _ locking ⟨_, took, wish, acted⟩
  cases acted
  exact issue_places locking

theorem backend_install_places (locking : Locking tid rec Reserved w) :
    SafeAmong protocol tid
      (Returns (fun _ => Locking tid rec Placed) fun err => Holding tid rec fun stake =>
        stake.owned = false ∧ (err.isRejection = true → stake.live = false))
      (send (.backendInstall rec timeout)) w := by
  refine safe_ask stable_locking locking reserved_permits ?_
  rintro cur ans post _ locking ⟨_, took, wish, acted⟩
  cases acted
  exact issue_places locking

theorem placed_claimed (locking : Locking tid rec Placed w) :
    Holding tid rec (Claimed none) w :=
  locking_weaken locking fun _ _ placed => claimed_unowned placed.2.2

theorem activate_activates (locking : Locking tid rec Placed w) :
    SafeAmong protocol tid
      (Returns (fun activated post => Holding tid rec (Claimed none) post ∧
        (activated = true → Locking tid rec Active post)) fun _ _ => False)
      (send (.activate rec)) w := by
  refine safe_ask stable_locking locking (fun _ _ locking => locking.1) ?_
  rintro cur ans post _ locking ⟨_, took, wish, acted⟩
  obtain ⟨locks, isTracked, starting, unowned⟩ := locking
  simp only [perform] at acted
  split_ifs at acted
  · cases acted
    refine ⟨locking_update locks rfl rfl (claimed_unowned unowned), fun _ => ?_⟩
    exact locking_update locks rfl rfl ⟨isTracked, rfl, rfl, unowned⟩
  · cases acted
    refine ⟨⟨locks, claimed_unowned unowned⟩, ?_⟩
    intro impossible
    cases impossible

def Adopted (ledger : Nat) (managed : ManagedRecord) (tracked : Prop) : Prop :=
  Active managed tracked ∧ managed.ownership = some ledger

variable {ledger : Nat}

theorem set_ownership_adopts (locking : Locking tid rec Active w) :
    Reaches tid rec (fun _ => Locking tid rec (Adopted ledger))
      (send (.setOwnership rec ledger)) w := by
  refine safe_ask stable_locking locking ?_ ?_
  · exact fun _ _ locking => ⟨locking.1, locking.2.2.2.2⟩
  · rintro cur ans post _ ⟨locks, active⟩ ⟨_, took, wish, acted⟩
    cases acted
    exact locking_update locks rfl rfl ⟨active, rfl⟩

theorem publish_claims (locking : Locking tid rec (Adopted ledger) w) :
    SafeAmong protocol tid
      (Returns (fun _ => Holding tid rec (Claimed (some ledger))) fun err post =>
        Holding tid rec (Claimed (some ledger)) post ∧ err.isRejection = false)
      (send (.publish rec ledger)) w := by
  refine safe_ask stable_locking locking ?_ ?_
  · rintro _ _ ⟨locks, ⟨isTracked, leased, active, _⟩, _⟩
    refine ⟨locks, isTracked, leased, ?_⟩
    rw [active]
    decide
  · rintro cur ans post _ ⟨locks, active, adopted⟩ ⟨_, took, wish, acted⟩
    have claims (owned : Bool) : Claimed (some ledger) (ManagedRecord.stake
        { cur.records rec with owned }) := fun _ => ⟨Option.some_ne_none _, adopted⟩
    have untouched : Holding tid rec (Claimed (some ledger)) cur := ⟨locks, claims _⟩
    simp only [perform] at acted
    rw [if_pos adopted] at acted
    have published : Holding tid rec (Claimed (some ledger))
        (cur.update rec fun managed => { managed with owned := true }) :=
      locking_update locks rfl rfl (claims true)
    obtain ⟨rfl, plain, rfl | ⟨rfl, err, rfl⟩⟩ := ledger_cases acted
    · cases ans with
      | ok _ => exact published
      | error err => exact ⟨published, plain err rfl⟩
    · exact ⟨untouched, plain err rfl⟩

namespace SystemdProbeManager

theorem remove_record_keeps : Keeps tid (Holding tid rec Stake.Bare) (removeRecord rec) := by
  refine maintains_bind (keeps_restate rfl fun _ holding => holding) ?_
  intro removed
  cases removed
  · exact maintains_raise
  · exact maintains_pure

theorem mark_cleaning_keeps {known : Stake → Prop} :
    Keeps tid (Holding tid rec known) (markCleaning rec) := by
  refine maintains_bind (keeps_restate rfl fun _ holding => holding.1) ?_
  intro marked
  cases marked
  · exact maintains_raise
  · exact maintains_pure

variable {own : Option Nat}

theorem attempt_recovery_recovers (holding : Holding tid rec (Claimed own) w) :
    SafeAmong protocol tid
      (Returns (fun recovery => Holding tid rec (Recovered own recovery.collected))
        fun _ _ => False) (attemptRecovery rec timeout) w := by
  refine safe_cases (remove_recovers holding) (fun _ _ => id) ?_
  intro err post claimed
  have failed := not_recovered claimed
  dsimp only
  split_ifs <;> exact failed

theorem finish_recovery_keeps {recovery : RecoveryOutcome} :
    Keeps tid (Holding tid rec (Recovered own recovery.collected))
      (finishRecovery rec recovery own.isSome) := by
  refine maintains_bind (keeps_restate rfl ?_) ?_
  · rintro w ⟨locks, claimed, gone⟩
    refine ⟨locks, ?_⟩
    intro collected
    refine ⟨gone collected, ?_⟩
    intro isNone
    cases own with
    | none => exact claimed_none claimed
    | some ledger => cases isNone
  · intro finished
    cases finished
    · exact maintains_raise
    · exact maintains_pure

theorem recover_cleaning_record_recovers (holding : Holding tid rec (Claimed own) w) :
    Reaches tid rec
      (fun recovery => Holding tid rec (Recovered own recovery.collected))
      (recoverCleaningRecord rec timeout own.isSome) w := by
  refine safe_then (attempt_recovery_recovers holding) (fun _ _ => False.elim) ?_
  intro recovery post holding
  refine maintains_then finish_recovery_keeps (fun _ _ => holding_locked) ?_ holding
  exact fun _ _ finished => safe_pure finished

theorem raise_after_recovery_cases (failure : Option String) (interruption : Option Failure)
    (recovery : RecoveryOutcome) :
    (∃ err, raiseAfterRecovery failure interruption recovery = raise err) ∨
      raiseAfterRecovery failure interruption recovery = pure () ∧ recovery.collected = true := by
  unfold raiseAfterRecovery
  cases recovery.interruption with
  | some err => exact .inl ⟨_, rfl⟩
  | none =>
    split_ifs with missed
    · cases interruption <;> exact .inl ⟨_, rfl⟩
    · cases interruption with
      | some err => exact .inl ⟨_, rfl⟩
      | none =>
        cases failure with
        | some code => exact .inl ⟨_, rfl⟩
        | none => exact .inr ⟨rfl, Bool.eq_true_of_not_eq_false missed⟩

variable {Result : Type}

theorem recover_reserved_start_safe {failure : Option String}
    {interruption : Option Failure} (holding : Holding tid rec (Claimed none) w) :
    SafeAmong protocol tid (Returns (fun _ _ => False) fun _ => Holding tid rec Locked)
      (recoverReservedStart rec failure interruption : Program Result) w := by
  refine maintains_then mark_cleaning_keeps (fun _ _ => holding_locked) ?_ holding
  intro _ marked holding
  refine safe_then (recover_cleaning_record_recovers holding) (fun _ _ => id) ?_
  intro recovery post holding
  obtain ⟨err, raises⟩ | ⟨returns, _⟩ := raise_after_recovery_cases failure interruption recovery
  · rw [raises]
    exact holding_locked holding
  · rw [returns]
    exact holding_locked holding

theorem recover_from_safe {err : Failure} {code : String}
    (holding : Holding tid rec (Claimed none) w) :
    SafeAmong protocol tid (Returns (fun _ _ => False) fun _ => Holding tid rec Locked)
      (recoverFrom rec err code : Program Result) w := by
  unfold recoverFrom
  split_ifs
  · exact recover_reserved_start_safe holding
  · exact recover_reserved_start_safe holding

theorem never_returns {reached : Result → World → Prop} {prog : Program Result}
    (safe : SafeAmong protocol tid
      (Returns (fun _ _ => False) fun _ => Holding tid rec Locked) prog w) :
    Reaches tid rec reached prog w := by
  refine safe_weaken safe ?_
  intro out post holds
  cases out with
  | ok _ => cases holds
  | error err => exact holds

theorem rejected_start_safe {err : Failure} (holding : Holding tid rec Stake.Bare w) :
    SafeAmong protocol tid (Returns (fun _ _ => False) fun _ => Holding tid rec Locked)
      (do
        removeRecord rec
        raise err : Program Result) w := by
  refine maintains_then remove_record_keeps (fun _ _ => holding_locked) ?_ holding
  exact fun _ _ holding => safe_raise (holding_locked holding)

theorem start_reserved_activates {unitName : String} (locking : Locking tid rec Reserved w) :
    Reaches tid rec (fun _ => Locking tid rec Active)
      (startReserved unitName rec timeout) w := by
  refine safe_cases (transport_call_places locking) ?_ ?_
  case refine_2 =>
      intro err issued holds
      have claimed : Holding tid rec (Claimed none) issued :=
        locking_weaken holds fun _ _ both => claimed_unowned both.1
      have bare (rejected : err.isStartRejection = true) :
          Holding tid rec Stake.Bare issued :=
        locking_weaken holds fun _ _ both => ⟨both.2 rejected, both.1⟩
      cases err with
      | rejected code => exact never_returns (rejected_start_safe (bare rfl))
      | rejectedInterruption cause => exact never_returns (rejected_start_safe (bare rfl))
      | _ => exact never_returns (recover_from_safe claimed)
  case refine_1 =>
      intro _ issued holds
      refine safe_and_then (keeps_reads stable_locking (only_query _) issued holds) ?_
      intro ans checked placed
      have claimed := placed_claimed placed
      cases ans with
      | error err => exact never_returns (recover_from_safe claimed)
      | ok valid =>
        cases valid with
        | false => exact never_returns (recover_reserved_start_safe claimed)
        | true =>
          refine safe_then (activate_activates placed) (fun _ _ => False.elim) ?_
          intro activated post both
          cases activated with
          | true => exact both.2 rfl
          | false => exact never_returns (recover_reserved_start_safe both.1)

theorem publish_lease_safe (locking : Locking tid rec Active w) :
    SafeAmong protocol tid (Always (Holding tid rec Locked))
      (publishLease rec ledger) w := by
  refine safe_then (set_ownership_adopts locking) (fun _ _ => id) ?_
  intro _ adopted locking
  refine safe_cases (publish_claims locking) (fun _ _ => holding_locked) ?_
  intro err published holds
  refine safe_cases (owns_tells (fun _ => id) holds.1) ?_ (fun _ _ both => holding_locked both.1)
  intro owns told known
  cases owns with
  | true => exact holding_locked known
  | false =>
    have unowned : Holding tid rec (Claimed none) told :=
      locking_weaken known fun _ _ both => claimed_unowned (both.2 rfl)
    exact safe_cases (recover_from_safe unowned) (fun _ _ => False.elim) fun _ _ => id

theorem start_recorded_safe {unitName : String} (locking : Locking tid rec New w) :
    SafeAmong protocol tid (Always (Holding tid rec Locked))
      (startRecorded unitName rec timeout own) w := by
  have reserved : Reaches tid rec (fun _ => Locking tid rec Active)
      (do
        if ← send (.insertUnit rec) then startReserved unitName rec timeout
        else raise (.error "probe_transient_already_active") : Program Lease) w := by
    refine safe_then (insert_unit_reserves locking) (fun _ _ => id) ?_
    intro isNew post both
    cases isNew with
    | true => exact start_reserved_activates (both.2 rfl)
    | false => exact safe_raise both.1
  refine safe_cases reserved ?_ fun _ _ => id
  intro lease started holds
  cases own with
  | none =>
    refine safe_and_then (keeps_reads stable_locking (only_query _) started holds) ?_
    intro ans post active
    cases ans <;> exact holding_locked active
  | some ledger =>
    refine safe_and_then (publish_lease_safe holds) ?_
    intro attempt post locked
    cases attempt <;> exact locked

theorem start_harmless (descriptors : OutputDescriptors) (timeout : Rat)
    (own : Option Nat) : Harmless tid (start descriptors timeout own) := by
  unfold start
  split_ifs
  case neg => exact maintains_raise
  refine maintains_bind (harmless_reads (only_query _)) ?_
  intro unitName
  refine maintains_bind (harmless_reads (only_query _)) ?_
  intro outputPipeIdentity
  refine maintains_bind (harmless_reads (only_query _)) ?_
  intro outputWriteIdentity
  refine maintains_bind (harmless_reads (only_query _)) ?_
  intro linux
  split_ifs
  · exact maintains_raise
  intro w _
  refine safe_then (new_record_made _ _ _ w) (fun _ _ _ => trivial) ?_
  intro rec made locking
  refine safe_then (safe_returns (start_recorded_safe locking)) (fun _ _ _ => trivial) ?_
  rintro ⟨out, preserveActive⟩ post locked
  refine safe_and_then (release_operation_safe locked fun _ => id) ?_
  intro released later _
  cases released <;> trivial

theorem only_cleanup_deadline (timeout : Option Rat) : Only Call.Reads (cleanupDeadline timeout) := by
  cases timeout with
  | none => trivial
  | some seconds =>
    unfold cleanupDeadline
    dsimp only
    split_ifs
    · refine only_bind (only_query _) ?_
      intro ans
      cases ans <;> trivial
    · trivial

theorem only_remaining_cleanup (due : Option Rat) :
    Only Call.Reads (remainingCleanup due) := by
  cases due with
  | none => trivial
  | some limit =>
    refine only_bind (only_query _) ?_
    intro ans
    cases ans with
    | none => trivial
    | some now =>
      dsimp only
      split_ifs <;> trivial

theorem only_read_output_of (outputFd : Option Int) (timeout due : Option Rat) :
    Only Call.Reads (readOutputOf rec outputFd timeout due) := by
  cases outputFd with
  | none => trivial
  | some descriptor =>
    refine only_and_then ?_ ?_
    · refine only_bind (only_ask trivial) ?_
      rintro ⟨outputReadFd, outputPipeIdentity⟩
      dsimp only
      split
      · trivial
      refine only_bind (only_query _) ?_
      intro identity
      split_ifs
      · trivial
      · trivial
      exact only_bind (only_remaining_cleanup due) fun _ => only_query _
    · intro out
      cases out with
      | ok output => trivial
      | error err =>
        cases err with
        | error code => trivial
        | _ =>
          dsimp only
          split_ifs <;> trivial

/-- A ledger gives the lease up, by returning or by not owning it any more, before the record is
removed. -/
theorem release_then_remove {remove : Program Unit}
    (removes : Keeps tid (Holding tid rec Stake.Bare) remove)
    (holding : Holding tid rec (Recovered (some ledger) true) w) :
    SafeAmong protocol tid (Always (Holding tid rec Locked))
      ((send (.release rec ledger)).andThen fun out =>
        match out with
        | .ok _ => remove
        | .error err => do
            if ← send (.owns rec ledger) then raise err
            else
              remove
              raise err) w := by
  have bare {post : World}
      (freed : Holding tid rec (fun stake => Recovered (some ledger) true stake ∧
        stake.owned = false) post) : Holding tid rec Stake.Bare post :=
    locking_weaken freed fun _ _ both => ⟨both.1.2 rfl, both.2⟩
  refine safe_cases (release_frees holding) ?_ ?_
  · intro _ released freed
    exact safe_weaken (removes released (bare freed)) fun _ _ => holding_locked
  · intro err released kept
    refine safe_then (owns_tells (fun _ recovered => recovered.1) kept)
      (fun _ _ both => holding_locked both.1) ?_
    intro owns told known
    cases owns with
    | true => exact safe_raise (holding_locked known)
    | false =>
      have freed := bare (locking_weaken known fun _ _ both => ⟨both.1, both.2 rfl⟩)
      refine maintains_then removes (fun _ _ => holding_locked) ?_ freed
      exact fun _ _ holding => safe_raise (holding_locked holding)

theorem begin_cleanup_claims {lease : Lease} (holding : Holding tid rec Locked w) :
    SafeAmong protocol tid
      (Returns (fun begun => Holding tid rec (Recovered own
        (decide (begun.toOption = some true)))) fun _ _ => False)
      (send (.beginCleanup lease rec own)) w := by
  refine safe_ask stable_locking holding (fun _ _ holding => holding.1) ?_
  intro cur ans post inv holding ran
  have alike : Alike rec cur post := restates_alike (by exact rfl) ran
  obtain ⟨honours, took, wish, acted⟩ := ran
  have claimed : Holding tid rec (Claimed own) cur :=
    ⟨holding.1, honours_claims inv holding.1 honours⟩
  cases acted
  have still := holding_alike alike claimed
  refine ⟨still.1, still.2, ?_⟩
  intro collected
  have stakes := alike.2.2
  refine (congrArg Stake.live stakes).trans ?_
  refine (inv.records rec holding.1.1).collected ?_
  simp only [decide_eq_true_eq] at collected
  unfold beginUnitCleanup at collected
  split_ifs at collected
  · split at collected
    · assumption
    · cases collected
    · cases collected
    · cases collected
  · cases collected

theorem recover_lease_recovers {due : Option Rat} (holding : Holding tid rec (Claimed own) w) :
    Reaches tid rec
      (fun recovery => Holding tid rec (Recovered own recovery.collected))
      (recoverLease rec due own.isSome) w := by
  refine safe_and_then (keeps_reads stable_locking (only_remaining_cleanup due) w holding) ?_
  intro out timed claimed
  cases out with
  | ok timeout => exact recover_cleaning_record_recovers claimed
  | error err =>
    cases err with
    | error code =>
      have failed := not_recovered claimed
      have finishing : Keeps tid (Holding tid rec (Recovered own false))
          (finishRecovery rec { collected := false } own.isSome) := by
        exact @finish_recovery_keeps tid rec own { collected := false }
      refine maintains_then finishing (fun _ _ => holding_locked) ?_ failed
      exact fun _ _ kept => kept
    | _ => exact safe_raise (holding_locked claimed)

theorem cleanup_locked_safe {lease : Lease} {outputFd : Option Int} {timeout due : Option Rat}
    (holding : Holding tid rec Locked w) :
    SafeAmong protocol tid (Always (Holding tid rec Locked))
      (cleanupLocked lease rec outputFd timeout due own) w := by
  refine safe_then (begin_cleanup_claims holding) (fun _ _ => False.elim) ?_
  intro begun post recovered
  rcases begun with code | alreadyCollected
  · exact safe_raise (holding_locked recovered)
  cases alreadyCollected with
  | true =>
    cases own with
    | none => exact safe_raise (holding_locked recovered)
    | some ledger =>
      refine safe_then (safe_returns (release_then_remove remove_record_keeps recovered))
        (fun _ _ => id) ?_
      exact fun _ _ locked => safe_pure locked
  | false =>
    have claimed : Holding tid rec (Claimed own) post :=
      locking_weaken recovered fun _ _ => And.left
    refine maintains_then (keeps_reads stable_locking (only_read_output_of outputFd timeout due))
      (fun _ _ => holding_locked) ?_ claimed
    rintro ⟨output, failure, interruption⟩ read claimed
    refine safe_then (recover_lease_recovers claimed) (fun _ _ => id) ?_
    intro recovery finished holding
    obtain ⟨err, raises⟩ | ⟨returns, collected⟩ :=
      raise_after_recovery_cases failure interruption recovery
    · rw [raises]
      exact holding_locked holding
    · rw [returns]
      cases own with
      | none => exact holding_locked holding
      | some ledger =>
        rw [collected] at holding
        have released := safe_returns (release_then_remove remove_record_keeps holding)
        change SafeAmong protocol tid _ (do
          releaseCollectedOwnership rec ledger
          pure output) finished
        exact safe_then released (fun _ _ => id) fun _ _ locked => safe_pure locked

theorem cleanup_lease_harmless (lease : Lease) (outputFd : Option Int) (timeout : Option Rat)
    (own : Option Nat) :
    Harmless tid (cleanupLease lease outputFd timeout own) := by
  refine maintains_bind (harmless_reads (only_cleanup_deadline timeout)) ?_
  intro due w _
  refine safe_then (find_unit_present lease own w) (fun _ _ _ => trivial) ?_
  intro found post present
  cases found with
  | none => exact safe_raise trivial
  | some rec =>
    refine under_lock_safe (present rec rfl) ?_ ?_ maintains_raise
    · exact fun _ => cleanup_locked_safe
    · exact fun _ locked => release_operation_safe locked fun _ => id

theorem read_output_harmless (lease : Lease) (outputFd : Int) (timeout : Rat)
    (own : Option Nat) : Harmless tid (readOutput lease outputFd timeout own) := by
  refine maintains_bind (cleanup_lease_harmless lease _ _ own) ?_
  intro output
  cases output with
  | none => exact maintains_raise
  | some output => exact maintains_pure

theorem retry_locked_safe (holding : Holding tid rec Locked w) :
    SafeAmong protocol tid (Always (Holding tid rec Locked))
      (retryLocked rec timeout) w := by
  refine safe_cases (claim_retry_claims holding) ?_ fun _ _ => id
  intro claim post both
  cases claim with
  | skipped => exact both.1
  | dropped => exact both.1
  | claimed =>
    have recovered : Reaches tid rec
        (fun recovery => Holding tid rec (Recovered none recovery.collected))
        (recoverCleaningRecord rec timeout false) post :=
      recover_cleaning_record_recovers (both.2 rfl)
    exact safe_then recovered (fun _ _ => id) fun _ _ holding => holding_locked holding

theorem retry_pending_record_safe (present : Present rec w) :
    SafeAmong protocol tid (fun _ _ => True) (retryPendingRecord rec timeout) w := by
  refine under_lock_safe present (fun _ => retry_locked_safe) ?_ maintains_pure
  exact fun _ locked => release_operation_safe locked fun _ => id

theorem retry_records_safe (due : Rat) {records : List Nat} (present : AllPresent records w) :
    SafeAmong protocol tid (fun _ _ => True) (retryRecords due records) w := by
  induction records generalizing w with
  | nil => trivial
  | cons rec rest ih =>
    refine maintains_then (keeps_reads stable_all_present only_clock) (fun _ _ _ => trivial) ?_
      present
    intro now post present
    split_ifs
    · trivial
    refine sweep_safe present (retry_pending_record_safe (present rec List.mem_cons_self)) ?_
    intro recovery later present
    refine safe_and_then (ih present) ?_
    intro interruptions last _
    cases interruptions <;> trivial

theorem count_harmless : Harmless tid (send .unresolvedCleanupCount) :=
  harmless_call fun _ => by trivial

theorem retry_sweep_harmless : Harmless tid retrySweep := by
  refine maintains_bind (harmless_reads only_clock) ?_
  intro now w _
  refine safe_then (pending_batch_present w) (fun _ _ _ => trivial) ?_
  intro batch post present
  refine safe_and_then (retry_records_safe _ present) ?_
  intro out later _
  cases out with
  | error err => trivial
  | ok interruptions =>
    change SafeAmong protocol tid _ (if interruptions ≠ [] then _ else _) later
    split
    · trivial
    · exact count_harmless later trivial

theorem retry_pending_cleanup_harmless : Harmless tid retryPendingCleanup :=
  retry_harmless retry_sweep_harmless count_harmless

theorem operation_harmless {prog : Program Unit} (op : UnitOperation prog) :
    Harmless tid prog := by
  cases op with
  | start descriptors timeout own =>
    exact maintains_bind (start_harmless descriptors timeout own) fun _ => maintains_pure
  | readOutput lease outputFd timeout own =>
    exact maintains_bind (read_output_harmless lease outputFd timeout own)
      fun _ => maintains_pure
  | ensureCollected lease timeout ledger =>
    have collected : Harmless tid (cleanupLease lease none (some timeout) (some ledger)) :=
      cleanup_lease_harmless lease _ _ _
    exact maintains_bind (maintains_bind collected fun _ => maintains_pure) fun _ => maintains_pure
  | cancel lease =>
    have cancelled : Harmless tid (cleanupLease lease none none none) :=
      cleanup_lease_harmless lease _ _ _
    exact maintains_bind (maintains_bind cancelled fun _ => maintains_pure) fun _ => maintains_pure
  | retryPendingCleanup =>
    exact maintains_bind retry_pending_cleanup_harmless fun _ => maintains_pure

end SystemdProbeManager

end RtspProxy.Managers
