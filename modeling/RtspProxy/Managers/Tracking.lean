import RtspProxy.Managers.Executions

/-!
# No unit and no guard is lost

The guard manager walked through like the systemd manager, and what follows for
every run of any number of operations of either: a resource that was issued and
neither rejected nor removed is tracked, it is issued once, no tracked record is
left in a transitional state, and none is dropped from under the ledger that owns
its lease.
-/

namespace RtspProxy.Managers

open Lib Lib.Program Lib.Program.Prog

variable {tid rec : Nat}

variable {w : World}

namespace ProbeConnectGuardManager

def Failed (err : Failure) (stake : Stake) : Prop :=
  stake.owned = false ∧ (err.isRejection = true → stake.live = false)

theorem failed_of_plain {err : Failure} {stake : Stake} (unowned : stake.owned = false)
    (plain : err.isRejection = false) : Failed err stake := by
  refine ⟨unowned, ?_⟩
  intro rejected
  exact absurd (plain.symm.trans rejected) Bool.false_ne_true

variable {fact : World → Prop}

theorem query_plain (stable : Stable protocol tid fact) (question : Query) (holds : fact w) :
    SafeAmong protocol tid
      (Returns (fun _ => fact) fun err post => fact post ∧ err.isRejection = false)
      (query question) w := by
  refine safe_ask stable holds (fun _ _ _ => trivial) ?_
  rintro cur ans post _ isFact ⟨_, took, wish, acted⟩
  obtain ⟨rfl, rfl, plain⟩ := plainly_cases acted
  cases ans with
  | ok _ => exact isFact
  | error err => exact ⟨isFact, plain err rfl⟩

theorem remaining_plain (stable : Stable protocol tid fact) (deadline : Rat) (holds : fact w) :
    SafeAmong protocol tid
      (Returns (fun _ => fact) fun err post => fact post ∧ err.isRejection = false)
      (remaining deadline) w := by
  have ticks : SafeAmong protocol tid
      (Returns (fun _ => fact) fun err post => fact post ∧ err.isRejection = false)
      clock w := by
    refine safe_then (query_plain stable .monotonic holds) (fun _ _ => id) ?_
    intro ans post isFact
    cases ans with
    | none => exact ⟨isFact, rfl⟩
    | some now => exact isFact
  refine safe_then ticks (fun _ _ => id) ?_
  intro now post isFact
  split_ifs
  · exact ⟨isFact, rfl⟩
  · exact isFact

variable {deadline : Rat}

theorem install_verified_activates (locking : Locking tid rec Reserved w) :
    SafeAmong protocol tid
      (Returns (fun _ => Locking tid rec Active) fun err => Holding tid rec (Failed err))
      (installVerified rec deadline) w := by
  have unplaced {err : Failure} {post : World}
      (both : Locking tid rec Placed post ∧ err.isRejection = false) :
      Holding tid rec (Failed err) post :=
    locking_weaken both.1 fun _ _ placed => failed_of_plain placed.2.2 both.2
  refine safe_then (remaining_plain stable_locking deadline locking) ?_ ?_
  · rintro err post ⟨reserved, plain⟩
    exact locking_weaken reserved fun managed _ isNew =>
      @failed_of_plain err managed.stake isNew.2.2.2 plain
  intro timeout timed locking
  refine safe_then (backend_install_places locking) (fun _ _ => id) ?_
  intro _ installed placed
  refine safe_then (remaining_plain stable_locking deadline placed) (fun _ _ => unplaced) ?_
  intro left again placed
  refine safe_then (query_plain stable_locking _ placed) (fun _ _ => unplaced) ?_
  intro _ verified placed
  refine safe_then (activate_activates placed) (fun _ _ => False.elim) ?_
  intro activated post both
  cases activated with
  | true => exact both.2 rfl
  | false => exact locking_weaken both.1 fun _ _ claimed => failed_of_plain (claimed_none claimed) rfl

/-- An install that neither published nor left it open whether it did. -/
def Attempt.Failed (attempt : Attempt) (err : Failure) : Prop :=
  attempt.outcome = .error err ∧ attempt.publishedOwned = false ∧
    attempt.publicationUncertain = false

theorem attempt_ends {attempt : Attempt} {known : ManagedRecord → Prop → Prop}
    (locking : Locking tid rec known w)
    (fails : ∀ managed tracked err, known managed tracked → Attempt.Failed attempt err →
      Failed err managed.stake) :
    Reaches tid rec
      (fun attempt => Holding tid rec fun stake =>
        ∀ err, Attempt.Failed attempt err → Failed err stake) (pure attempt) w :=
  safe_pure (locking_weaken locking fun managed tracked holds err =>
    fails managed tracked err holds)

variable {own : Option Nat}

theorem attempt_install_safe {unitName : String} (locking : Locking tid rec Reserved w) :
    Reaches tid rec
      (fun attempt => Holding tid rec fun stake =>
        ∀ err, Attempt.Failed attempt err → Failed err stake)
      (attemptInstall unitName rec deadline own) w := by
  refine safe_cases (install_verified_activates locking) ?_ ?_
  · intro _ installed active
    cases own with
    | none =>
      refine attempt_ends active ?_
      rintro _ _ err _ ⟨impossible, _⟩
      cases impossible
    | some ledger =>
      refine safe_then (set_ownership_adopts active) (fun _ _ => id) ?_
      intro _ adopted locking
      refine safe_cases (publish_claims locking) ?_ ?_
      · intro _ published claimed
        refine attempt_ends claimed ?_
        rintro _ _ err _ ⟨impossible, _⟩
        cases impossible
      · rintro err published ⟨claimed, plain⟩
        refine safe_cases (owns_tells (fun _ => id) claimed) ?_ ?_
        · intro owns told known
          refine attempt_ends known ?_
          rintro managed _ _ both ⟨⟨⟩, unpublished, _⟩
          exact failed_of_plain (both.2 unpublished) plain
        · intro ownershipError told known
          refine attempt_ends known.1 ?_
          rintro _ _ err _ ⟨_, _, impossible⟩
          cases impossible
  · intro err post failed
    refine attempt_ends failed ?_
    rintro _ _ _ failed ⟨⟨⟩, _⟩
    exact failed

def Call.Reconciles : Call → Prop
  | .beginReconcile | .reconcileOwned _ | .endReconcile _ => True
  | _ => False

theorem reconcile_startup_maintains (timeout : Rat)
    (keeps : ∀ req, Call.Reconciles req → Keeps tid fact (send req)) :
    Keeps tid fact (reconcileStartup timeout) := by
  have validated : Keeps tid fact (validateTimeout timeout) := by
    unfold validateTimeout
    split_ifs
    · exact maintains_pure
    · exact maintains_raise
  refine maintains_bind validated fun _ => ?_
  refine maintains_bind (keeps .beginReconcile trivial) ?_
  intro begun
  cases begun with
  | false => exact maintains_raise
  | true =>
    refine maintains_and_then (keeps (.reconcileOwned timeout) trivial) ?_
    intro outcome
    cases outcome with
    | ok left => exact maintains_bind (keeps (.endReconcile _) trivial) fun _ => maintains_pure
    | error err =>
      exact maintains_bind (keeps (.endReconcile _) trivial) fun _ => maintains_raise

theorem reconciles_permitted {req : Call} (reconciles : Call.Reconciles req) (heap : Heap) :
    Permitted tid heap req := by
  cases req <;> trivial

theorem reconcile_startup_keeps {known : Stake → Prop} (timeout : Rat) :
    Keeps tid (Holding tid rec known) (reconcileStartup timeout) := by
  refine reconcile_startup_maintains timeout ?_
  intro req reconciles
  refine keeps_restate ?_ fun w _ => reconciles_permitted reconciles w.toHeap
  cases req <;> trivial

theorem reconcile_startup_harmless (timeout : Rat) :
    Harmless tid (reconcileStartup timeout) :=
  reconcile_startup_maintains timeout fun _ reconciles =>
    harmless_call (reconciles_permitted reconciles)

theorem forget_keeps {requireReconcile : Bool} :
    Keeps tid (Holding tid rec Stake.Bare) (send (.forget rec requireReconcile)) :=
  keeps_restate rfl fun _ holding => holding

theorem only_remaining (deadline : Rat) : Only Call.Reads (remaining deadline) := by
  refine only_bind only_clock ?_
  intro now
  split_ifs <;> trivial

theorem cleanup_reconcile_required_safe {Result : Type} {interruption : Option Failure}
    (holding : Holding tid rec Stake.Bare w) :
    SafeAmong protocol tid (Always (Holding tid rec Locked))
      (cleanupReconcileRequired rec deadline interruption : Program Result) w := by
  refine maintains_then forget_keeps (fun _ _ => holding_locked) ?_ holding
  intro _ forgotten holding
  cases interruption with
  | some err => exact holding_locked holding
  | none =>
    have reconciled : Keeps tid (Holding tid rec Stake.Bare)
        (do reconcileStartup (← remaining deadline) : Program Int) :=
      maintains_bind (keeps_reads stable_locking (only_remaining deadline))
        fun left => reconcile_startup_keeps left
    refine safe_and_then (reconciled forgotten holding) ?_
    intro outcome post holding
    cases outcome <;> exact holding_locked holding

variable {timeout : Rat}

theorem cleanup_failed_install_safe {Result : Type} {err : Failure}
    (holding : Holding tid rec (Failed err) w) :
    SafeAmong protocol tid (Always (Holding tid rec Locked))
      (cleanupFailedInstall rec deadline timeout err : Program Result) w := by
  have bare (rejected : err.isRejection = true) : Holding tid rec Stake.Bare w :=
    locking_weaken holding fun _ _ failed => ⟨failed.2 rejected, failed.1⟩
  have claimed : Holding tid rec (Claimed none) w :=
    locking_weaken holding fun _ _ failed => claimed_unowned failed.1
  have rejected (isRejection : err.isRejection = true) (raised : Failure) :
      SafeAmong protocol tid (Always (Holding tid rec Locked))
        (do
          send (.forget rec false)
          raise raised : Program Result) w :=
    maintains_then forget_keeps (fun _ _ => holding_locked)
      (fun _ _ holding => safe_raise (holding_locked holding)) (bare isRejection)
  have removed {primary pending gone : Failure} {grouped : Failure → Failure}
      {settle : Except Failure Unit → Program Result}
      (onError : ∀ cleanupError, settle (.error cleanupError) = do
        send (.markCleanupPending rec)
        if primary.isException = true ∧ cleanupError.isException = true then raise pending
          else raise (grouped cleanupError))
      (onOk : settle (.ok ()) = do
        send (.forget rec false)
        raise gone) :
      SafeAmong protocol tid (Always (Holding tid rec Locked))
        (do
          send (.startCleaning rec)
          (send (.remove rec timeout)).andThen settle) w := by
    have cleaning : Keeps tid (Holding tid rec (Claimed none))
        (send (.startCleaning rec)) := keeps_restate rfl fun _ holding => holding.1
    have pending : Keeps tid (Holding tid rec (Claimed none))
        (send (.markCleanupPending rec)) := keeps_restate rfl fun _ holding => holding.1
    refine maintains_then cleaning (fun _ _ => holding_locked) ?_ claimed
    intro _ started claimed
    refine safe_cases (remove_recovers claimed) ?_ ?_
    · intro _ gone recovered
      rw [onOk]
      have bare : Holding tid rec Stake.Bare gone :=
        locking_weaken recovered fun _ _ both => ⟨both.2 rfl, claimed_none both.1⟩
      refine maintains_then forget_keeps (fun _ _ => holding_locked) ?_ bare
      exact fun _ _ holding => safe_raise (holding_locked holding)
    · intro cleanupError post claimed
      rw [onError]
      refine maintains_then pending (fun _ _ => holding_locked) ?_ claimed
      intro _ postponed holding
      split
      · exact safe_raise (holding_locked holding)
      · exact safe_raise (holding_locked holding)
  cases err with
  | reconcileRequired interruption => exact cleanup_reconcile_required_safe (bare rfl)
  | rejectedInterruption cause => exact rejected rfl _
  | rejected code => exact rejected rfl _
  | _ => exact removed (fun _ => rfl) rfl

theorem install_locked_safe {unitName : String} (locking : Locking tid rec New w) :
    SafeAmong protocol tid (Always (Holding tid rec Locked))
      (installLocked unitName rec deadline timeout own) w := by
  refine safe_then (insert_guard_reserves locking) (fun _ _ => id) ?_
  intro refused post both
  cases refused with
  | some code => exact both.1
  | none =>
    refine safe_then (attempt_install_safe (both.2 rfl)) (fun _ _ => id) ?_
    rintro ⟨outcome, publishedOwned, publicationUncertain⟩ attempted known
    cases outcome with
    | ok res => exact holding_locked known
    | error err =>
      split_ifs with published
      · exact holding_locked known
      · simp only [not_or, Bool.not_eq_true] at published
        have failed : Holding tid rec (Failed err) attempted :=
          locking_weaken known fun _ _ fails => fails err ⟨rfl, published⟩
        refine safe_and_then (cleanup_failed_install_safe failed) ?_
        intro outcome last locked
        exact locked

theorem only_validate_timeout (timeout : Rat) : Only Call.Reads (validateTimeout timeout) := by
  unfold validateTimeout
  split_ifs <;> trivial

theorem install_harmless (unitName : String) (timeout : Rat) (own : Option Nat) :
    Harmless tid (install unitName timeout own) := by
  have validated : Harmless tid (validateScope unitName timeout) := by
    refine harmless_reads (only_bind (only_validate_timeout timeout) fun _ =>
      only_bind (only_query _) ?_)
    intro valid
    cases valid <;> trivial
  have reconciled (deadline : Rat) (ready : Bool) :
      Harmless tid (reconcileFirst deadline ready) := by
    cases ready with
    | true => exact maintains_pure
    | false =>
      exact maintains_bind (harmless_reads (only_remaining deadline))
        fun left => reconcile_startup_harmless left
  refine maintains_bind validated fun _ => ?_
  refine maintains_bind (harmless_reads only_clock) ?_
  intro now
  refine maintains_bind (harmless_call fun _ => by trivial) ?_
  rintro ⟨busy, ready⟩
  cases busy with
  | true => exact maintains_raise
  | false =>
    refine maintains_bind (reconciled _ ready) ?_
    intro left
    split
    · exact maintains_raise
    intro w _
    refine safe_then (new_record_made _ _ _ w) (fun _ _ _ => trivial) ?_
    intro rec made locking
    refine safe_then (safe_returns (install_locked_safe locking)) (fun _ _ _ => trivial) ?_
    rintro ⟨outcome, preserveActive⟩ post locked
    refine safe_and_then (release_operation_safe locked fun _ => id) ?_
    intro released later _
    cases released <;> trivial

theorem remove_active_record_keeps : Keeps tid (Holding tid rec Stake.Bare)
    (removeActiveRecord rec) := by
  refine maintains_bind (keeps_restate rfl fun _ holding => holding) ?_
  intro removed
  cases removed
  · exact maintains_raise
  · exact maintains_pure

theorem begin_release_claims {lease : Lease} (holding : Holding tid rec Locked w) :
    SafeAmong protocol tid
      (Returns (fun begun => Holding tid rec (Recovered own
        (decide (begun.toOption = some true)))) fun _ _ => False)
      (send (.beginRelease lease rec own)) w := by
  refine safe_ask stable_locking holding (fun _ _ holding => holding.1) ?_
  intro cur ans post inv holding ran
  have alike : Alike rec cur post := restates_alike (by exact rfl) ran
  obtain ⟨honours, took, wish, acted⟩ := ran
  have claimed : Holding tid rec (Claimed own) cur :=
    ⟨holding.1, honours_claims inv holding.1 honours⟩
  cases acted
  have still := holding_alike alike claimed
  refine ⟨still.1, still.2, ?_⟩
  intro collected
  refine (congrArg Stake.live alike.2.2).trans ?_
  refine (inv.records rec holding.1.1).collected ?_
  simp only [decide_eq_true_eq] at collected
  unfold beginGuardRelease at collected
  split_ifs at collected
  · assumption
  · cases collected
  · cases collected

theorem release_locked_safe {lease : Lease} (holding : Holding tid rec Locked w) :
    SafeAmong protocol tid (Always (Holding tid rec Locked))
      (releaseLocked lease rec timeout own) w := by
  refine safe_then (begin_release_claims holding) (fun _ _ => False.elim) ?_
  intro begun post recovered
  rcases begun with code | alreadyReleased
  · exact safe_raise (holding_locked recovered)
  cases alreadyReleased with
  | true =>
    cases own with
    | none => exact safe_raise (holding_locked recovered)
    | some ledger => exact SystemdProbeManager.release_then_remove remove_active_record_keeps recovered
  | false =>
    have claimed : Holding tid rec (Claimed own) post :=
      locking_weaken recovered fun _ _ => And.left
    refine safe_cases (remove_recovers claimed) ?_ ?_
    · intro _ removed holding
      have finishing : Keeps tid (Holding tid rec (Recovered own true))
          (send (.finishRelease rec own)) := by
        refine keeps_restate rfl ?_
        rintro w ⟨locks, claimed, gone⟩
        refine ⟨locks, gone rfl, ?_⟩
        rintro rfl
        exact claimed_none claimed
      refine maintains_then finishing (fun _ _ => holding_locked) ?_ holding
      intro finished last holding
      cases finished with
      | false => exact safe_raise (holding_locked holding)
      | true =>
        cases own with
        | none => exact safe_pure (holding_locked holding)
        | some ledger =>
          exact SystemdProbeManager.release_then_remove remove_active_record_keeps holding
    · intro err failed holding
      dsimp only
      split_ifs
      · exact safe_raise (holding_locked holding)
      · exact safe_raise (holding_locked holding)

theorem release_harmless (lease : Lease) (timeout : Rat) (own : Option Nat) :
    Harmless tid (release lease timeout own) := by
  refine maintains_bind (harmless_reads (only_validate_timeout timeout)) ?_
  intro _ w _
  refine safe_then (find_guard_present lease own w) (fun _ _ _ => trivial) ?_
  intro found post present
  cases found with
  | none => exact safe_raise trivial
  | some rec =>
    refine under_lock_safe (present rec rfl) ?_ ?_ maintains_raise
    · exact fun _ => release_locked_safe
    · exact fun _ locked => release_operation_safe locked fun _ => id

theorem retry_locked_safe (holding : Holding tid rec Locked w) :
    SafeAmong protocol tid (Always (Holding tid rec Locked))
      (retryLocked rec timeout) w := by
  refine safe_cases (claim_retry_claims holding) ?_ fun _ _ => id
  intro claim post both
  cases claim with
  | skipped => exact both.1
  | dropped => exact both.1
  | claimed =>
    refine safe_cases (remove_recovers (both.2 rfl)) ?_ fun _ _ => holding_locked
    intro _ removed recovered
    have bare : Holding tid rec Stake.Bare removed :=
      locking_weaken recovered fun _ _ both => ⟨both.2 rfl, claimed_none both.1⟩
    refine maintains_then forget_keeps (fun _ _ => holding_locked) ?_ bare
    exact fun _ _ holding => safe_pure (holding_locked holding)

theorem retry_record_safe (present : Present rec w) :
    SafeAmong protocol tid (fun _ _ => True) (retryRecord rec timeout) w := by
  refine under_lock_safe present (fun _ => retry_locked_safe) ?_ maintains_pure
  exact fun _ locked => release_operation_safe locked fun _ => id

theorem retry_records_safe (deadline : Rat) {records : List Nat}
    (present : AllPresent records w) :
    SafeAmong protocol tid (fun _ _ => True) (retryRecords deadline records) w := by
  induction records generalizing w with
  | nil => trivial
  | cons rec rest ih =>
    refine safe_and_then (keeps_reads stable_all_present (only_remaining deadline) w present) ?_
    intro outcome timed present
    cases outcome with
    | error err => cases err <;> trivial
    | ok left =>
      refine sweep_safe present (retry_record_safe (present rec List.mem_cons_self)) ?_
      intro first later present
      refine safe_and_then (ih present) ?_
      intro interruptions last _
      cases interruptions <;> trivial

theorem count_harmless : Harmless tid (send .pendingCount) :=
  harmless_call fun _ => by trivial

theorem retry_sweep_harmless (timeout : Rat) : Harmless tid (retrySweep timeout) := by
  refine maintains_bind (harmless_reads only_clock) ?_
  intro now w _
  refine safe_then (pending_batch_present w) (fun _ _ _ => trivial) ?_
  intro batch post present
  refine safe_and_then (retry_records_safe _ present) ?_
  intro outcome later _
  cases outcome with
  | error err => trivial
  | ok interruptions =>
    change SafeAmong protocol tid _ (if interruptions ≠ [] then _ else _) later
    split
    · trivial
    · exact count_harmless later trivial

theorem operation_harmless {prog : Program Unit} (op : GuardOperation prog) :
    Harmless tid prog := by
  cases op with
  | install unitName timeout own =>
    exact maintains_bind (install_harmless unitName timeout own) fun _ => maintains_pure
  | release lease timeout own =>
    exact maintains_bind (release_harmless lease timeout own) fun _ => maintains_pure
  | retryPendingCleanup timeout =>
    have validated : Harmless tid (validateTimeout timeout) :=
      harmless_reads (only_validate_timeout timeout)
    have retried := @retry_harmless tid _ _ _ (retry_sweep_harmless timeout) count_harmless
    exact maintains_bind (maintains_bind validated fun _ => retried) fun _ => maintains_pure
  | reconcileStartup timeout =>
    exact maintains_bind (reconcile_startup_harmless timeout) fun _ => maintains_pure

end ProbeConnectGuardManager

def ManagerReaches (st : SystemState Call Answer Failure Unit World) : Prop :=
  SystemReachable machine UnitOperation Fresh st ∨
    SystemReachable machine GuardOperation Fresh st

/-- The call starts the unit of the record, or installs its guard. -/
def Call.Issues (rec : Nat) : Call → Prop
  | .transportCall other _ | .backendInstall other _ => other = rec
  | _ => False

def AtCall (st : SystemState Call Answer Failure Unit World) (tid : Nat) (req : Call) :
    Prop :=
  ∃ next, st.threads tid = some (.call req next)

theorem manager_safe {st : SystemState Call Answer Failure Unit World}
    (reached : ManagerReaches st) : AllSafe protocol st := by
  rcases reached with units | guards
  · refine all_safe_reachable (fun _ => fresh_invariant) ?_ units
    exact fun tid w prog op _ =>
      SystemdProbeManager.operation_harmless op w trivial
  · refine all_safe_reachable (fun _ => fresh_invariant) ?_ guards
    exact fun tid w prog op _ =>
      ProbeConnectGuardManager.operation_harmless op w trivial

theorem tracked_unique {heap : Heap} {first second : Nat} (firstTracked : heap.Tracked first)
    (secondTracked : heap.Tracked second)
    (sameName : (heap.records second).unitName = (heap.records first).unitName) : second = first := by
  unfold Heap.Tracked at firstTracked secondTracked
  rw [sameName] at secondTracked
  exact Option.some.inj (secondTracked.symm.trans firstTracked)

/-- In every state of every run: a resource that was issued and neither rejected nor removed is
tracked by exactly one record under its name; a thread issues a resource only for the tracked record
of its name, which has not been issued and beside which no other record of that name is live; a
tracked record in a transitional state is locked; and a record whose lease its ledger owns is
tracked. -/
theorem managers_lose_nothing (st : SystemState Call Answer Failure Unit World)
    (reached : ManagerReaches st) (rec : Nat) (present : rec < st.world.allocated) :
    ((st.world.records rec).live = true → st.world.Tracked rec ∧
      ∀ other, st.world.Tracked other → (st.world.records other).unitName =
        (st.world.records rec).unitName → other = rec) ∧
    (∀ tid req, AtCall st tid req → req.Issues rec →
      st.world.Tracked rec ∧ (st.world.records rec).issued = false ∧
      ∀ other < st.world.allocated, (st.world.records other).unitName =
        (st.world.records rec).unitName → (st.world.records other).live = false) ∧
    (st.world.Tracked rec → (st.world.records rec).state.transitional = true →
      (st.world.records rec).operationLock ≠ none) ∧
    ((st.world.records rec).owned = true → st.world.Tracked rec) := by
  have safe := manager_safe reached
  have inv : Invariant st.world.toHeap := safe.1
  have sound := inv.records rec present
  refine ⟨?_, ?_, sound.settled, fun isOwned => (sound.owned isOwned).1⟩
  · intro isLive
    have isTracked := (sound.live isLive).1
    exact ⟨isTracked, fun other otherTracked => tracked_unique isTracked otherTracked⟩
  · rintro tid req ⟨next, at_⟩ issues
    have permitted : Locks tid st.world.toHeap rec ∧ st.world.Tracked rec ∧
        (st.world.records rec).state = .starting ∧
        (st.world.records rec).issued = false := by
      have allowed := all_safe_permits safe at_
      cases req with
      | transportCall other timeout =>
        cases issues
        exact allowed
      | backendInstall other timeout =>
        cases issues
        exact allowed
      | _ => cases issues
    obtain ⟨_, isTracked, _, unissued⟩ := permitted
    refine ⟨isTracked, unissued, ?_⟩
    intro other otherPresent sameName
    refine Bool.eq_false_iff.mpr ?_
    intro isLive
    obtain ⟨otherTracked, issued, _⟩ := (inv.records other otherPresent).live isLive
    rw [tracked_unique isTracked otherTracked sameName, unissued] at issued
    cases issued

namespace Sample

def start : World where
  records _ := { unitName := "", operationLock := none }
  allocated := 0
  table := Dict.empty
  cleanupRetryLock := none
  cleanupAttemptSequence := 0
  reconcileInProgress := false
  reconcileReady := false
  attempts := []

theorem start_fresh : Fresh start := ⟨rfl, rfl, rfl, rfl, rfl, rfl⟩

/-- What is chosen for a call: whether a failing ledger took effect, and what is answered. -/
abbrev Chosen (req : Call) : Type := Bool × Except Failure (Answer req)

def wellBehaved : (req : Call) → Chosen req
  | .query .monotonic => (false, .ok (some 0))
  | .query .buildProbeTransientUnit => (false, .ok "rtsp-probe-0.service")
  | .query (.pipeIdentity _ _) => (false, .ok (1, 1))
  | .query .onLinux | .query .responseIsValid => (false, .ok true)
  | .query .handlesException => (false, .ok false)
  | .transportCall _ _ | .publish _ _ => (false, .ok ())
  | _ => (false, .error .exception)

def performChosen (tid : Nat) (w : World) (req : Call) (chosen : Chosen req) :
    Option (Except Failure (Answer req) × World) :=
  match req, chosen with
  | .beginCleanup .., _ => none
  | .beginRelease .., _ => none
  | req, chosen => perform tid w chosen.1 req chosen.2

theorem perform_chosen_executes {tid : Nat} {post : World} {req : Call}
    {chosen : Chosen req} {ans : Except Failure (Answer req)}
    (acted : performChosen tid w req chosen = some (ans, post)) :
    machine.exec tid w req ans post := by
  cases req with
  | beginCleanup => cases acted
  | beginRelease => cases acted
  | _ => exact ⟨trivial, chosen.1, chosen.2, acted⟩

/-- A unit is started and its lease published to a ledger. -/
def ownedRun : List (Move Call Answer Failure Unit Chosen) :=
  [.start 0 (task (SystemdProbeManager.start ⟨3, 4⟩ 5 (some 7))), .advance 0 20 wellBehaved]

theorem owned_run_plays :
    ((play performChosen ownedRun { world := start, threads := fun _ => none }).map fun st =>
      decide (0 < st.world.allocated) && (st.world.records 0).live &&
        (st.world.records 0).owned) = some true := by
  decide +kernel

theorem owned_run_allowed (tid : Nat) (prog : Program Unit)
    (mem : Move.start tid prog ∈ ownedRun) : UnitOperation prog := by
  simp only [ownedRun, List.mem_cons, reduceCtorEq, or_false, List.not_mem_nil,
    Move.start.injEq] at mem
  obtain ⟨_, rfl⟩ := mem
  exact .start _ _ _

end Sample

open Sample

theorem managers_lose_nothing_of_an_owned_unit :
    ∃ st : SystemState Call Answer Failure Unit World, ManagerReaches st ∧
      0 < st.world.allocated ∧ (st.world.records 0).live = true ∧
      (st.world.records 0).owned = true ∧ st.world.Tracked 0 := by
  obtain ⟨st, played, isOwned⟩ := Option.map_eq_some_iff.mp owned_run_plays
  have reached : SystemReachable machine UnitOperation Fresh st :=
    play_reachable perform_chosen_executes owned_run_allowed
      (.initial start_fresh) played
  simp only [Bool.and_eq_true, decide_eq_true_eq] at isOwned
  obtain ⟨⟨present, live⟩, owned⟩ := isOwned
  refine ⟨st, .inl reached, present, live, owned, ?_⟩
  exact ((managers_lose_nothing st (.inl reached) 0 present).1 live).1

/-- No record is forgotten or renamed, and a resource that was issued once is not issued again:
when it is gone, it stays gone. -/
def Lasts (pre post : Heap) : Prop :=
  pre.allocated ≤ post.allocated ∧ ∀ rec < pre.allocated,
    (post.records rec).unitName = (pre.records rec).unitName ∧
      ((pre.records rec).issued = true → (post.records rec).issued = true ∧
        ((post.records rec).live = true → (pre.records rec).live = true))

theorem lasts_same {pre post : Heap} (allocated : post.allocated = pre.allocated)
    (same : post.records = pre.records) : Lasts pre post :=
  ⟨allocated.ge, fun _ _ => by rw [same]; exact ⟨rfl, fun was => ⟨was, id⟩⟩⟩

theorem lasts_trans {first second third : Heap} (former : Lasts first second)
    (latter : Lasts second third) : Lasts first third := by
  refine ⟨former.1.trans latter.1, fun rec present => ?_⟩
  obtain ⟨name, once⟩ := former.2 rec present
  obtain ⟨nameAgain, onceAgain⟩ := latter.2 rec (present.trans_le former.1)
  refine ⟨nameAgain.trans name, fun issued => ?_⟩
  obtain ⟨still, gone⟩ := once issued
  exact ⟨(onceAgain still).1, fun live => gone ((onceAgain still).2 live)⟩

theorem lasts_put {heap : Heap} {rec : Nat} {managed : ManagedRecord}
    (name : managed.unitName = (heap.records rec).unitName)
    (once : (heap.records rec).issued = true → managed.issued = true ∧
      (managed.live = true → (heap.records rec).live = true)) :
    Lasts heap (heap.put rec managed) := by
  refine ⟨le_rfl, fun other _ => ?_⟩
  by_cases isRecord : other = rec
  · rw [isRecord, put_records_self]
    exact ⟨name, once⟩
  · rw [put_records_ne isRecord]
    exact ⟨rfl, fun was => ⟨was, id⟩⟩

theorem step_lasts {tid : Nat} {heap post : Heap} (step : HeapStep tid heap post) :
    Lasts heap post := by
  cases step with
  | create =>
    refine ⟨Nat.le_succ _, fun rec present => ?_⟩
    rw [allocate_old present]
    exact ⟨rfl, fun was => ⟨was, id⟩⟩
  | enter | leave => exact lasts_same rfl rfl
  | lock => exact lasts_put rfl fun was => ⟨was, id⟩
  | change rec _ managed step =>
    refine lasts_put step.same_name fun was => ?_
    cases step with
    | issue _ _ _ first => exact absurd was (by rw [first]; decide)
    | recover => exact ⟨was, fun live => (Bool.and_eq_true_iff.mp live).1⟩
    | _ => exact ⟨was, id⟩

theorem steps_last {tid : Nat} {heap post : Heap} (steps : HeapSteps tid heap post) :
    Lasts heap post := by
  induction steps with
  | refl => exact lasts_same rfl rfl
  | tail _ step ih => exact lasts_trans ih (step_lasts step)

/-- What a manager issued once is gone for good when it is gone, in every later state of every
run; and no step touches a record, or its place in the table, that another thread has locked. -/
theorem issued_resources_stay_gone {starts : Program Unit → Prop}
    {st later : SystemState Call Answer Failure Unit World}
    (ofManager : starts = UnitOperation ∨ starts = GuardOperation)
    (reached : SystemReachable machine starts Fresh st)
    (further : Relation.ReflTransGen (SystemStep machine starts) st later) :
    Lasts st.world.toHeap later.world.toHeap ∧ ∀ tid next,
      ThreadStep machine starts tid later next →
        Effect tid later.world.toHeap next.world.toHeap := by
  have safe {st} (reached : SystemReachable machine starts Fresh st) :
      AllSafe protocol st := by
    rcases ofManager with rfl | rfl
    · exact manager_safe (.inl reached)
    · exact manager_safe (.inr reached)
  have lasts {first last : World} (run : Relation.ReflTransGen
      (fun pre post => ∃ actor, protocol.effect actor pre post) first last) :
      Lasts first.toHeap last.toHeap := by
    induction run with
    | refl => exact lasts_same rfl rfl
    | tail _ effect ih => exact effect.elim fun _ steps => lasts_trans ih (steps_last steps)
  refine ⟨lasts (all_safe_run protocol safe reached further), fun tid next step => ?_⟩
  obtain same | steps := thread_step_effect (safe (reachable_steps reached further)) step
  · rw [same]
    exact effect_refl _
  · exact steps_effect steps

namespace Sample

/-- The unit of a start has been issued, and its record is locked. -/
def issuedRun : List (Move Call Answer Failure Unit Chosen) :=
  [.start 0 (task (SystemdProbeManager.start ⟨3, 4⟩ 5 (some 7))), .advance 0 7 wellBehaved]

/-- Another thread starts a unit, up to its record. -/
def furtherRun : List (Move Call Answer Failure Unit Chosen) :=
  [.start 1 (task (SystemdProbeManager.start ⟨5, 6⟩ 5 none)), .advance 1 4 wellBehaved]

theorem issued_run_plays :
    ((play performChosen issuedRun { world := start, threads := fun _ => none }).bind fun st =>
      (play performChosen furtherRun st).bind fun later =>
        (advance performChosen wellBehaved 1 1 later).map fun next =>
          decide ((st.world.records 0).live = true ∧
            (later.world.records 0).operationLock = some 0 ∧ later.world.allocated = 1 ∧
            next.world.allocated = 2)) = some true := by
  decide +kernel

theorem start_allowed {run : List (Move Call Answer Failure Unit Chosen)}
    (isRun : run = issuedRun ∨ run = furtherRun) (tid : Nat) (prog : Program Unit)
    (mem : Move.start tid prog ∈ run) : UnitOperation prog := by
  rcases isRun with rfl | rfl <;>
    simp only [issuedRun, furtherRun, List.mem_cons, reduceCtorEq, or_false, List.not_mem_nil,
      Move.start.injEq] at mem
  · exact mem.2 ▸ .start _ _ _
  · exact mem.2 ▸ .start _ _ _

end Sample

/-- While the record of an issued unit is locked, another thread makes a record of its own. -/
theorem issued_resources_stay_gone_beside_a_start :
    ∃ st later next : SystemState Call Answer Failure Unit World,
      (st.world.records 0).live = true ∧ (later.world.records 0).operationLock = some 0 ∧
      later.world.allocated = 1 ∧ next.world.allocated = 2 ∧
      Lasts st.world.toHeap later.world.toHeap ∧
      Effect 1 later.world.toHeap next.world.toHeap := by
  obtain ⟨st, played, further⟩ := Option.bind_eq_some_iff.mp issued_run_plays
  obtain ⟨later, furtherPlayed, stepped⟩ := Option.bind_eq_some_iff.mp further
  obtain ⟨next, advanced, isIssued⟩ := Option.map_eq_some_iff.mp stepped
  obtain ⟨live, locked, single, double⟩ := of_decide_eq_true isIssued
  have reached : SystemReachable machine UnitOperation Fresh st :=
    play_reachable perform_chosen_executes (start_allowed (.inl rfl)) (.initial start_fresh) played
  have run : Relation.ReflTransGen (SystemStep machine UnitOperation) st later :=
    play_steps perform_chosen_executes (start_allowed (.inr rfl)) furtherPlayed
  obtain ⟨lasts, steps⟩ := issued_resources_stay_gone (.inl rfl) reached run
  rcases advance_one perform_chosen_executes advanced with same | step
  · rw [same, single] at double
    cases double
  · exact ⟨st, later, next, live, locked, single, double, lasts, steps 1 next step⟩

end RtspProxy.Managers
