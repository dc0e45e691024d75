import RtspProxy.Firewall.Reconcile

/-!
# What a reconciliation leaves installed

Up to its first failure that is not one of a transaction, a run is `Going`: the
table is the one it started with, or the one the policy loads. What ends the run
is `Ended`: if a transaction took effect and the table of the policy is not valid,
the run says whether that table was removed again.
-/

namespace RtspProxy.Firewall

open Lib Lib.Program Lib.Program.Prog List

/-- Whatever was deleted or replaced was in the last inventory, with the marker. -/
def ChangesOwned (st : Ruleset) : Prop :=
  ∀ change ∈ st.changes, ∀ table, change.table = some table →
    change.inventory = some table ∧ hasOwnershipMarker table = true

def OthersApart (st : Ruleset) : Prop :=
  ∀ other ∈ st.others, ¬ (other.family = tableFamily ∧ other.name = tableName)

def loaded (host : Host) : Option Json :=
  match policyContent host.isSpace host.policy with
  | .ok content => host.apply content none
  | .error _ => none

def IsValid (host : Host) (table : Json) : Prop := validateOwnedTable host.floatIs table = .ok ()

def Call.isApply : Call → Bool
  | .apply _ => true
  | _ => false

def applyFailures (trial : NftTrial) : Nat := trial.failures.countP (·.request.isApply)

/-- While a transaction has taken effect and the table is there, nothing but a transaction fails. -/
def OnlyApplyFails (trial : NftTrial) : Prop :=
  ∀ failure ∈ trial.failures, 0 < transactions failure.left → failure.left.table ≠ none →
    failure.request.isApply = true

/-- When an invalid table is removed again: it has the marker, nothing else fails while it is there,
and its validation says that it drifted, unless it is removed after two failed transactions. -/
def IsRemoved (host : Host) (table : Json) (trial : NftTrial) : Prop :=
  hasOwnershipMarker table = true ∧ OnlyApplyFails trial ∧
    ((∃ code, validateOwnedTable host.floatIs table = .error (.reconcileError code)) ∨
      applyFailures trial = 2)

def InstalledValid (host : Host) (st : Ruleset) : Prop :=
  st.table = none ∨ ∃ table, st.table = some table ∧ IsValid host table

section Reconcile

variable {host : Host} {trial : NftTrial}

theorem lists_table_entry (family name : String) (more : Members) :
    listsTable [("table", .obj (("family", .str family) :: ("name", .str name) :: more))] =
      .ok (decide (family = tableFamily ∧ name = tableName)) := by
  simp [listsTable, objectAt, membersOf, textAt, lookup_cons]

/-- Whether an entry that `nft list tables` prints is the table. -/
def isOwnEntry (entry : Json) : Bool :=
  match membersOf entry with
  | none => false
  | some members =>
    match listsTable members with
    | .ok isOwn => isOwn
    | .error _ => false

def IsListEntry (entry : Json) : Prop :=
  ∃ members, entry = .obj members ∧ listsTable members = .ok (isOwnEntry entry)

theorem table_entry_listed (family name : String) (more : Members) :
    IsListEntry (tableEntry family name more) ∧ isOwnEntry (tableEntry family name more) =
        decide (family = tableFamily ∧ name = tableName) := by
  have isOwn : isOwnEntry (tableEntry family name more) =
      decide (family = tableFamily ∧ name = tableName) := by
    simp only [isOwnEntry, tableEntry, membersOf, lists_table_entry]
  refine ⟨⟨_, rfl, ?_⟩, isOwn⟩
  rw [isOwn, lists_table_entry]

theorem version_listed (version : Json) :
    IsListEntry (.obj [("metainfo", version)]) ∧
      isOwnEntry (.obj [("metainfo", version)]) = false := by
  have isNone : listsTable [("metainfo", version)] = .ok false := by
    simp [listsTable, objectAt, lookup_cons]
  have isOther : isOwnEntry (.obj [("metainfo", version)]) = false := by
    simp only [isOwnEntry, membersOf, isNone]
  exact ⟨⟨_, rfl, by rw [isOther, isNone]⟩, isOther⟩

theorem map_listed {entries : List Json} (each : ∀ entry ∈ entries, IsListEntry entry) :
    ∃ found : List Members, entries.mapM membersOf = some found ∧
      found.mapM listsTable = .ok (entries.map isOwnEntry) := by
  induction entries with
  | nil => exact ⟨[], rfl, rfl⟩
  | cons entry rest ih =>
    obtain ⟨members, isObject, isListed⟩ := each entry mem_cons_self
    obtain ⟨found, isFound, listed⟩ := ih fun other mem =>
      each other (mem_cons_of_mem _ mem)
    refine ⟨members :: found, ?_, ?_⟩
    · rw [mapM_cons, isFound, isObject]
      rfl
    · rw [mapM_cons, isListed, listed]
      rfl

variable {st : Ruleset}

variable {version : Json} {more : Members}

theorem listed_entries_listed :
    ∀ entry ∈ Json.obj [("metainfo", version)] :: listedEntries st more, IsListEntry entry := by
  intro entry mem
  rcases mem_cons.mp mem with rfl | mem
  · exact (version_listed version).1
  rcases mem_append.mp mem with own | other
  · obtain ⟨_, _, rfl⟩ := mem_map.mp own
    exact (table_entry_listed _ _ _).1
  · obtain ⟨_, _, rfl⟩ := mem_map.mp other
    exact (table_entry_listed _ _ _).1

theorem listed_entries_own (apart : OthersApart st) :
    ((Json.obj [("metainfo", version)] :: listedEntries st more).map isOwnEntry).count true =
      if st.table = none then 0 else 1 := by
  have others : (st.others.map fun other =>
      tableEntry other.family other.name other.more).countP isOwnEntry = 0 := by
    rw [countP_eq_zero]
    intro entry mem
    obtain ⟨other, isOther, rfl⟩ := mem_map.mp mem
    rw [(table_entry_listed _ _ _).2]
    simpa using apart other isOther
  have counted : ∀ entries : List Json,
      (entries.map isOwnEntry).count true = entries.countP isOwnEntry := by
    intro entries
    rw [count_eq_countP, countP_map]
    congr 1
    funext entry
    simp
  rw [counted, countP_cons_of_neg (by simp [(version_listed version).2]), listedEntries,
    countP_append, others]
  cases st.table with
  | none => rfl
  | some table =>
    have isOwn : isOwnEntry (tableEntry tableFamily tableName more) = true := by
      rw [(table_entry_listed _ _ _).2]
      simp
    simp [isOwn]

theorem table_is_listed_iff {entries : List Json} (apart : OthersApart st)
    (lists : entries.Perm (.obj [("metainfo", version)] :: listedEntries st more)) :
    tableIsListed (.obj [("nftables", .arr entries)]) = .ok st.table.isSome := by
  obtain ⟨found, isFound, listed⟩ := @map_listed entries
    fun entry mem => listed_entries_listed entry (lists.mem_iff.mp mem)
  have own : (entries.map isOwnEntry).count true = if st.table = none then 0 else 1 := by
    rw [(lists.map isOwnEntry).count_eq]
    exact listed_entries_own apart
  have isEntries : inventoryEntries (.obj [("nftables", .arr entries)]) = .ok found := by
    simp [inventoryEntries, isFound]
  simp only [tableIsListed, isEntries, listed, own]
  cases st.table with
  | none => rfl
  | some table => rfl

/-- Nothing but transactions has failed. -/
structure Going (host : Host) (fails few : Nat) (fact : Ruleset → Prop) (trial : NftTrial) :
    Prop where
  applied : ∀ failure ∈ trial.failures, failure.request.isApply = true
  count : trial.failures.length = fails
  owned : ChangesOwned trial.state
  bounded : transactions trial.state ≤ few
  table : transactions trial.state = 0 ∨ trial.state.table = loaded host
  apart : OthersApart trial.state
  fact : fact trial.state

/-- The run raised. If the policy loads an invalid table, the table is gone exactly if it was
removed. -/
structure Ended (host : Host) (trial : NftTrial) : Prop where
  owned : ChangesOwned trial.state
  bounded : transactions trial.state ≤ 2
  settled : transactions trial.state = 0 ∨
    ((trial.state.table = none ∨ trial.state.table = loaded host) ∧
      ∀ table, loaded host = some table → ¬ IsValid host table →
        (trial.state.table = none ↔ IsRemoved host table trial))

variable {fails few : Nat} {fact : Ruleset → Prop}

variable (going : Going host fails few fact trial)

include going

theorem going_weaken {weaker : Ruleset → Prop}
    (weaken : ∀ st, fact st → weaker st) : Going host fails few weaker trial :=
  { going with fact := weaken _ going.fact }

theorem going_only_apply : OnlyApplyFails trial :=
  fun failure mem _ _ => going.applied failure mem

theorem going_apply_failures :
    applyFailures trial = fails := by
  rw [applyFailures, countP_eq_length.mpr going.applied, going.count]

omit going

theorem ended_of_going (within : few ≤ 2) (going : Going host fails few fact trial)
    (stays : ∀ table, trial.state.table = some table → ¬ IsRemoved host table trial) :
    Ended host trial := by
  refine ⟨going.owned, Nat.le_trans going.bounded within, ?_⟩
  rcases going.table with none | isLoaded
  · exact .inl none
  · refine .inr ⟨.inr isLoaded, ?_⟩
    intro table isTable _
    rw [isTable] at isLoaded
    refine iff_of_false ?_ (stays table isLoaded)
    rw [isLoaded]
    exact Option.some_ne_none _

variable {req : Call}

theorem ended_failed {tookEffect : Bool} {left : Ruleset} (within : few ≤ 2)
    (notApply : req.isApply = false) (going : Going host fails few fact trial)
    (table : left.table = trial.state.table) (changes : left.changes = trial.state.changes) :
    Ended host (trial.failed req tookEffect left) := by
  have same : transactions left = transactions trial.state := by
    unfold transactions
    rw [changes]
  refine ⟨?_, ?_, ?_⟩
  · intro change mem
    rw [Trial.failed_state, changes] at mem
    exact going.owned change mem
  · rw [Trial.failed_state, same]
    exact Nat.le_trans going.bounded within
  · rw [Trial.failed_state, same, table]
    by_cases unchanged : transactions trial.state = 0
    · exact .inl unchanged
    have isLoaded := going.table.resolve_left unchanged
    refine .inr ⟨.inr isLoaded, ?_⟩
    intro policy isPolicy _
    have isThere : trial.state.table ≠ none := by
      rw [isLoaded, isPolicy]
      exact Option.some_ne_none _
    refine iff_of_false isThere ?_
    rintro ⟨_, only, _⟩
    have isApply := only ⟨req, tookEffect, left⟩ (mem_append_right _ mem_cons_self)
      (by rw [same]; exact Nat.pos_of_ne_zero unchanged) (by rw [table]; exact isThere)
    rw [notApply] at isApply
    cases isApply

theorem going_attempt (within : few ≤ 2) (notApply : req.isApply = false)
    (next : Answer req → Ruleset → Prop) (going : Going host fails few fact trial)
    (effects : ∀ st ans left, fact st → OthersApart st →
      Effect host st req ans left → left.table = st.table ∧
        left.changes = st.changes ∧ left.others = st.others ∧
        ∃ value, ans = .ok value ∧ next value left) :
    Tries (tools host) (Returns (fun value => Going host fails few (next value))
      fun _ => Ended host) (attempt req) trial := by
  refine tries_ask ?_ ?_ ?_
  · intro ans left effect
    obtain ⟨table, changes, others, value, rfl, holds⟩ :=
      effects _ ans left going.fact going.apart effect
    refine ⟨going.applied, going.count, ?_, ?_, ?_, ?_, holds⟩
    · intro change mem
      rw [Trial.moved_state, changes] at mem
      exact going.owned change mem
    · rw [Trial.moved_state, transactions, changes]
      exact going.bounded
    · rw [Trial.moved_state, transactions, changes, table]
      exact going.table
    · intro other mem
      rw [Trial.moved_state, others] at mem
      exact going.apart other mem
  · intro err _
    exact ended_failed within notApply going rfl rfl
  · intro ans left err effect _
    obtain ⟨table, changes, _⟩ := effects _ ans left going.fact going.apart effect
    exact ended_failed within notApply going table changes

theorem ended_attempt (notApply : req.isApply = false) (ended : Ended host trial)
    (effects : ∀ st ans left, Effect host st req ans left → left = st) :
    Tries (tools host) (fun _ => Ended host) (attempt req) trial := by
  have failed : ∀ tookEffect left, left = trial.state →
      Ended host (trial.failed req tookEffect left) := by
    rintro tookEffect _ rfl
    refine ⟨ended.owned, ended.bounded, ?_⟩
    rcases ended.settled with none | ⟨isTable, settled⟩
    · exact .inl none
    refine .inr ⟨isTable, ?_⟩
    intro table isLoaded invalid
    rw [Trial.failed_state, settled table isLoaded invalid]
    have sameCount : applyFailures (trial.failed req tookEffect trial.state) =
        applyFailures trial := by
      rw [applyFailures, Trial.failed_failures, countP_append, countP_singleton,
        if_neg (by simp [notApply])]
      rfl
    unfold IsRemoved
    rw [sameCount]
    constructor
    · rintro ⟨marked, only, ways⟩
      have isGone : trial.state.table = none :=
        (settled table isLoaded invalid).mpr ⟨marked, only, ways⟩
      refine ⟨marked, ?_, ways⟩
      intro failure mem took isThere
      rcases mem_append.mp mem with pre | isLast
      · exact only failure pre took isThere
      · rw [mem_singleton.mp isLast] at isThere
        exact absurd isGone isThere
    · rintro ⟨marked, only, ways⟩
      exact ⟨marked, fun failure mem => only failure (mem_append_left _ mem), ways⟩
  refine tries_ask ?_ ?_ ?_
  · intro ans left effect
    obtain rfl := effects _ ans left effect
    exact ⟨ended.owned, ended.bounded, ended.settled⟩
  · intro err _
    exact failed _ _ rfl
  · intro ans left err effect _
    exact failed _ _ (effects _ ans left effect)

/-- A call that changes nothing, after which an ended run goes on as it did. -/
theorem ended_ensured {Result : Type} {out : Except Error Result}
    {post : Except Error Result → NftTrial → Prop} (notApply : req.isApply = false)
    (ended : Ended host trial) (effects : ∀ st ans left, Effect host st req ans left → left = st)
    (kept : ∀ last, Ended host last → post out last ∧ ∀ err, post (.error err) last) :
    Tries (tools host) post ((attempt req : NftProg _) >>= fun _ => .done out) trial := by
  refine safe_and_then (ended_attempt notApply ended effects) ?_
  intro asked last ended
  cases asked with
  | ok res => exact (kept last ended).1
  | error err => exact (kept last ended).2 err

theorem decode_going (within : few ≤ 2) (going : Going host fails few fact trial) :
    Tries (tools host) (Returns (fun _ => Going host fails few fact)
      fun err post => err = .unicodeDecodeError ∧ Ended host post)
      (attempt .decodeOutput) trial := by
  refine tries_ask ?_ ?_ ?_
  · rintro _ _ ⟨⟩
    exact { going with }
  · intro err lost
    exact ⟨lost, ended_failed within rfl going rfl rfl⟩
  · rintro _ _ err ⟨⟩ lost
    exact ⟨lost, ended_failed within rfl going rfl rfl⟩

variable {command : NftProg Unit}

theorem run_nft_ended (tries : Tries (tools host) (fun _ => Ended host) command trial) :
    Tries (tools host) (fun _ => Ended host) (runNft command) trial := by
  refine safe_and_then tries ?_
  intro out post ended
  exact ended_ensured rfl ended (by rintro _ _ _ ⟨⟩; rfl) fun _ ended => ⟨ended, fun _ => ended⟩

theorem run_nft_going (within : few ≤ 2) (tries : Tries (tools host)
      (Returns (fun _ => Going host fails few fact) fun _ => Ended host) command trial) :
    Tries (tools host) (Returns (fun _ => Going host fails few fact) fun _ => Ended host)
      (runNft command) trial := by
  refine safe_cases tries ?_ ?_
  · intro res post going
    refine safe_then (decode_going within going) (fun _ _ failed => failed.2) ?_
    exact fun _ _ going => going
  · intro err post ended
    exact ended_ensured rfl ended (by rintro _ _ _ ⟨⟩; rfl) fun _ ended => ⟨ended, fun _ => ended⟩

def Inventoried (found : Option Json) (st : Ruleset) : Prop :=
  st.table = found ∧ st.inventory = found

def InventoriedOwned (found : Option Json) (st : Ruleset) : Prop :=
  Inventoried found st ∧ ∀ table, found = some table → hasOwnershipMarker table = true

theorem inventory_going (within : few ≤ 2) (going : Going host fails few fact trial) :
    Tries (tools host) (Returns (fun found => Going host fails few (Inventoried found))
      fun _ => Ended host) inventory trial := by
  have listed := @going_attempt host trial fails few fact .listTables within rfl
    (fun tables st => tableIsListed tables = .ok st.table.isSome ∧
      (st.table = none → st.inventory = none)) going (by
      intro st ans left _ apart effect
      cases effect with
      | listTables version more lists =>
        refine ⟨rfl, rfl, rfl, _, rfl, table_is_listed_iff apart lists, ?_⟩
        exact fun missing => if_pos missing)
  refine safe_then listed (fun _ _ ended => ended) ?_
  intro tables post going
  obtain ⟨isListed, missing⟩ := going.fact
  rw [isListed]
  cases isTable : post.state.table with
  | none =>
    exact safe_pure { going with fact := ⟨isTable, missing isTable⟩ }
  | some table =>
    have isThere : Going host fails few (fun st => st.table = some table) post :=
      { going with fact := isTable }
    have printed := @going_attempt host post fails few _ .listTable within rfl
      (fun payload => Inventoried (some payload)) isThere (by
        intro st ans left isTable _ effect
        cases effect with
        | listTable present => exact ⟨rfl, rfl, rfl, _, rfl, present, rfl⟩
        | noTable missing =>
          rw [isTable] at missing
          cases missing)
    refine safe_then printed (fun _ _ ended => ended) ?_
    intro payload last going
    exact safe_pure going

theorem require_ownership_marker_going {table : Json} (within : few ≤ 2)
    (going : Going host fails few (Inventoried (some table)) trial) :
    Tries (tools host) (Returns
      (fun _ => Going host fails few (InventoriedOwned (some table))) fun _ => Ended host)
      (requireOwnershipMarker table) trial := by
  unfold requireOwnershipMarker
  split
  · rename_i marked
    refine safe_pure (going_weaken going ?_)
    intro st inventoried
    refine ⟨inventoried, ?_⟩
    rintro _ ⟨⟩
    exact marked
  · rename_i unmarked
    refine safe_raise (ended_of_going within going ?_)
    intro other isTable removed
    rw [going.fact.1] at isTable
    cases isTable
    exact unmarked removed.1

variable {found : Option Json}

theorem require_owned_going (within : few ≤ 2)
    (going : Going host fails few (Inventoried found) trial) :
    Tries (tools host) (Returns (fun _ => Going host fails few (InventoriedOwned found))
      fun _ => Ended host) (requireOwned found) trial := by
  cases found with
  | some table => exact require_ownership_marker_going within going
  | none =>
    refine safe_pure (going_weaken going ?_)
    intro st inventoried
    exact ⟨inventoried, fun _ isTable => nomatch isTable⟩

/-- The transaction replaces what the inventory found by the table of the policy. -/
def IsTransaction (host : Host) (found : Option Json) (transaction : String) : Prop :=
  host.apply transaction found = loaded host

theorem canonical_transaction_going (within : few ≤ 2) (going : Going host fails few fact trial) :
    Tries (tools host) (Returns
      (fun transaction post => Going host fails few fact post ∧
        IsTransaction host found transaction)
      fun _ => Ended host) (canonicalTransaction host found.isSome) trial := by
  have read := @going_attempt host trial fails few fact .readPolicy within rfl
    (fun file st => fact st ∧ file = host.policy) going (by
      rintro st _ _ holds _ ⟨⟩
      exact ⟨rfl, rfl, rfl, _, rfl, holds, rfl⟩)
  refine safe_then read (fun _ _ ended => ended) ?_
  intro file post going
  obtain ⟨holds, rfl⟩ := going.fact
  have isGoing : Going host fails few fact post := { going with fact := holds }
  cases isContent : policyContent host.isSpace host.policy with
  | error err =>
    have nothing : loaded host = none := by
      rw [loaded, isContent]
    change Ended host post
    refine ⟨isGoing.owned, Nat.le_trans isGoing.bounded within, ?_⟩
    rcases isGoing.table with none | isLoaded
    · exact .inl none
    · refine .inr ⟨.inr isLoaded, ?_⟩
      intro table isTable
      rw [nothing] at isTable
      cases isTable
  | ok content =>
    have isLoaded : loaded host = host.apply content none := by
      rw [loaded, isContent]
    refine safe_pure ⟨isGoing, ?_⟩
    unfold IsTransaction
    rw [isLoaded]
    cases found with
    | none => rw [Option.isSome_none, if_neg Bool.false_ne_true, String.empty_append]
    | some table => rw [Option.isSome_some, if_pos rfl, host.apply_deletion]

theorem changes_owned_append {table : Option Json} {isTransaction : Bool}
    (owned : ChangesOwned st) (inventoried : InventoriedOwned found st) :
    ChangesOwned { st with
      table := table
      changes := st.changes ++ [⟨isTransaction, st.table, st.inventory⟩] } := by
  intro change mem
  rcases mem_append.mp mem with pre | isLast
  · exact owned change pre
  · rw [mem_singleton.mp isLast]
    intro present isTable
    obtain ⟨⟨isFound, isInventory⟩, marked⟩ := inventoried
    have same : found = some present := isFound.symm.trans isTable
    exact ⟨isInventory.trans same, marked present same⟩

theorem apply_going {transaction : String} (isTransaction : IsTransaction host found transaction)
    (going : Going host fails few (InventoriedOwned found) trial) :
    Tries (tools host) (Returns (fun _ => Going host fails (few + 1) fun _ => True)
      fun err post => (∃ code, err = .reconcileError code) ∧
        Going host (fails + 1) (few + 1) (fun _ => True) post)
      (attempt (.apply transaction)) trial := by
  have failedApplied : ∀ tookEffect left,
      ∀ failure ∈ (trial.failed (.apply transaction) tookEffect left).failures,
        failure.request.isApply = true := by
    intro tookEffect left failure mem
    rcases mem_append.mp mem with pre | isLast
    · exact going.applied failure pre
    · rw [mem_singleton.mp isLast]
      rfl
  have failedCount : ∀ tookEffect left,
      (trial.failed (.apply transaction) tookEffect left).failures.length = fails + 1 := by
    intro tookEffect left
    rw [Trial.failed_failures, length_append, going.count]
    rfl
  have countAfter : transactions { trial.state with
      table := host.apply transaction trial.state.table
      changes := trial.state.changes ++ [⟨true, trial.state.table, trial.state.inventory⟩] } ≤
        few + 1 := by
    unfold transactions
    rw [countP_append]
    exact Nat.add_le_add_right going.bounded 1
  have isLoaded : host.apply transaction trial.state.table = loaded host := by
    rw [going.fact.1.1]
    exact isTransaction
  refine tries_ask ?_ ?_ ?_
  · rintro _ _ ⟨⟩
    exact ⟨going.applied, going.count, changes_owned_append going.owned going.fact, countAfter,
      .inr isLoaded, going.apart, trivial⟩
  · intro err lost
    exact ⟨⟨_, lost⟩, failedApplied _ _, failedCount _ _, going.owned,
      Nat.le_succ_of_le going.bounded, going.table, going.apart, trivial⟩
  · rintro _ _ err ⟨⟩ lost
    exact ⟨⟨_, lost⟩, failedApplied _ _, failedCount _ _,
      changes_owned_append going.owned going.fact, countAfter, .inr isLoaded, going.apart, trivial⟩

/-- A transaction failed so that the handler runs, or its output could not be decoded. -/
def Applied (host : Host) (fails few : Nat) (err : Error) (trial : NftTrial) : Prop :=
  (∃ code, err = .reconcileError code) ∧ Going host fails few (fun _ => True) trial ∨
    err = .unicodeDecodeError ∧ Ended host trial

theorem run_apply_settled {transaction : String} (within : few + 1 ≤ 2)
    (isTransaction : IsTransaction host found transaction)
    (going : Going host fails few (InventoriedOwned found) trial) :
    Tries (tools host) (Returns (fun _ => Going host fails (few + 1) fun _ => True)
      (Applied host (fails + 1) (few + 1))) (runNft (attempt (.apply transaction))) trial := by
  refine safe_cases (apply_going isTransaction going) ?_ ?_
  · intro res post going
    refine safe_then (decode_going within going) (fun _ _ => .inr) ?_
    exact fun _ _ going => going
  · rintro err post ⟨isCode, going⟩
    refine safe_then (decode_going within going) (fun _ _ => .inr) ?_
    exact fun _ _ going => .inl ⟨isCode, going⟩

theorem delete_table_ended {table : Json} (within : few ≤ 2)
    (ways : (∃ code, validateOwnedTable host.floatIs table = .error (.reconcileError code)) ∨
      fails = 2) (going : Going host fails few (InventoriedOwned (some table)) trial) :
    Tries (tools host) (fun _ => Ended host) (attempt .deleteTable) trial := by
  obtain ⟨⟨isTable, _⟩, marked⟩ := going.fact
  have only := going_only_apply going
  have count := going_apply_failures going
  have deleted : ∀ trialAfter : NftTrial, trialAfter.state = { trial.state with
      table := none
      changes := trial.state.changes ++ [⟨false, trial.state.table, trial.state.inventory⟩] } →
      OnlyApplyFails trialAfter → applyFailures trialAfter = fails → Ended host trialAfter := by
    intro trialAfter isState only count
    have sameCount : transactions trialAfter.state = transactions trial.state := by
      rw [isState, transactions, countP_append]
      rfl
    refine ⟨?_, by rw [sameCount]; exact Nat.le_trans going.bounded within, ?_⟩
    · rw [isState]
      exact changes_owned_append going.owned going.fact
    · rw [sameCount]
      rcases going.table with none | isLoaded
      · exact .inl none
      have isGone : trialAfter.state.table = none := by rw [isState]
      refine .inr ⟨.inl isGone, ?_⟩
      intro policy isPolicy _
      have same : table = policy := by
        rw [isLoaded, isPolicy] at isTable
        exact (Option.some.inj isTable).symm
      refine iff_of_true isGone ⟨same ▸ marked table rfl, only, ?_⟩
      rw [count, ← same]
      exact ways
  refine tries_ask ?_ ?_ ?_
  · intro ans left effect
    cases effect with
    | deleteTable _ =>
      exact deleted _ rfl only count
    | nothingToDelete missing =>
      rw [isTable] at missing
      cases missing
  · intro err _
    exact ended_failed within rfl going rfl rfl
  · intro ans left err effect _
    cases effect with
    | deleteTable _ =>
      refine deleted _ rfl ?_ ?_
      · intro failure mem _ isThere
        rcases mem_append.mp mem with pre | isLast
        · exact going.applied failure pre
        · rw [mem_singleton.mp isLast] at isThere
          exact absurd rfl isThere
      · rw [applyFailures, Trial.failed_failures, countP_append]
        exact count
    | nothingToDelete missing =>
      rw [isTable] at missing
      cases missing

variable {last : Bool}

/-- What the first turn of the loop goes on with, or the second after its handler. -/
theorem after_mutation_error_settled {err : Error} (within : few ≤ 2)
    (twice : last = true → fails = 2) (going : Going host fails few (fun _ => True) trial) :
    Tries (tools host) (Returns
      (fun done post => done = false ∧ last = false ∧ Going host fails few (fun _ => True) post)
      fun _ => Ended host) (afterMutationError last err) trial := by
  refine safe_then (inventory_going within going) (fun _ _ ended => ended) ?_
  intro observed post going
  cases observed with
  | none =>
    change Tries (tools host) _ (if last = true then raise err else pure false) post
    split
    · refine safe_raise (ended_of_going within going ?_)
      intro table isTable
      rw [going.fact.1] at isTable
      cases isTable
    · rename_i notLast
      exact safe_pure ⟨rfl, by simpa using notLast, going_weaken going fun _ _ => trivial⟩
  | some table =>
    cases last with
    | false =>
      change Tries (tools host) _
        ((requireOwnershipMarker table >>= fun _ => pure ()) >>= fun _ => pure false) post
      rw [bind_bind]
      refine safe_then (require_ownership_marker_going within going)
        (fun _ _ ended => ended) ?_
      intro _ checked going
      exact safe_pure ⟨rfl, rfl, going_weaken going fun _ _ => trivial⟩
    | true =>
      change Tries (tools host) _
        ((requireOwnershipMarker table >>= fun _ => runNft (attempt .deleteTable)) >>= fun _ =>
          raise err) post
      rw [bind_bind]
      refine safe_then (require_ownership_marker_going within going)
        (fun _ _ ended => ended) ?_
      intro _ checked going
      refine safe_and_then (run_nft_ended (delete_table_ended within (.inr (twice rfl)) going)) ?_
      intro out deleted ended
      cases out with
      | ok res => exact ended
      | error err => exact ended

theorem apply_transaction_settled {transaction : String} (within : few + 1 ≤ 2)
    (twice : last = true → fails + 1 = 2) (isTransaction : IsTransaction host found transaction)
    (going : Going host fails few (InventoriedOwned found) trial) :
    Tries (tools host) (Returns
      (fun done post =>
        (done = true ∧ Going host fails (few + 1) (fun _ => True) post) ∨
          (done = false ∧ last = false ∧ Going host (fails + 1) (few + 1) (fun _ => True) post))
      fun _ => Ended host) (applyTransaction last transaction) trial := by
  have checked := @going_attempt host trial fails few _ (.check transaction)
    (Nat.le_of_succ_le within) rfl (fun _ => InventoriedOwned found) going (by
      rintro st _ _ holds _ ⟨⟩
      exact ⟨rfl, rfl, rfl, _, rfl, holds⟩)
  refine safe_then (run_nft_going (Nat.le_of_succ_le within) checked) (fun _ _ ended => ended) ?_
  intro _ post going
  have applied : Tries (tools host) (Returns
      (fun done post => done = true ∧ Going host fails (few + 1) (fun _ => True) post)
      (Applied host (fails + 1) (few + 1)))
      (runNft (attempt (.apply transaction)) >>= fun _ => pure true) post := by
    refine safe_then (run_apply_settled within isTransaction going) (fun _ _ failed => failed) ?_
    intro _ applied going
    exact safe_pure ⟨rfl, going⟩
  refine safe_handle (Applied host (fails + 1) (few + 1)) ?_ ?_
  · refine safe_weaken applied ?_
    intro out last holds
    cases out with
    | ok done => exact .inl holds
    | error err => exact holds
  · rintro err failed (⟨⟨code, rfl⟩, going⟩ | ⟨rfl, ended⟩)
    · refine safe_weaken (after_mutation_error_settled within twice going) ?_
      intro out last holds
      cases out with
      | ok done => exact .inr holds
      | error err => exact holds
    · exact safe_raise ended

theorem reconcile_once_settled (within : few + 1 ≤ 2)
    (twice : last = true → fails + 1 = 2) (going : Going host fails few (fun _ => True) trial) :
    Tries (tools host) (Returns
      (fun done post =>
        (done = true ∧ Going host fails (few + 1) (fun _ => True) post) ∨
          (done = false ∧ last = false ∧ Going host (fails + 1) (few + 1) (fun _ => True) post))
      fun _ => Ended host) (reconcileOnce host last) trial := by
  have few_within : few ≤ 2 := Nat.le_of_succ_le within
  refine safe_then (inventory_going few_within going) (fun _ _ ended => ended) ?_
  intro found post going
  refine safe_then (require_owned_going few_within going) (fun _ _ ended => ended) ?_
  intro _ required going
  refine safe_then (canonical_transaction_going few_within going) (fun _ _ ended => ended) ?_
  rintro transaction prepared ⟨going, isTransaction⟩
  have written := @going_attempt host prepared fails few _ (.writeTransaction transaction)
    few_within rfl (fun _ => InventoriedOwned found) going (by
      rintro st _ _ holds _ ⟨⟩
      exact ⟨rfl, rfl, rfl, _, rfl, holds⟩)
  refine safe_then written (fun _ _ ended => ended) ?_
  intro _ ready going
  refine safe_cases (apply_transaction_settled within twice isTransaction going) ?_ ?_
  · rintro done applied (⟨isDone, going⟩ | ⟨notDone, notLast, going⟩)
    · have unlinked := @going_attempt host applied fails (few + 1) _ .unlinkTransaction within rfl
        (fun _ _ => True) going (by
          rintro st _ _ holds _ ⟨⟩
          exact ⟨rfl, rfl, rfl, _, rfl, trivial⟩)
      refine safe_then unlinked (fun _ _ ended => ended) ?_
      intro _ gone going
      exact .inl ⟨isDone, going⟩
    · have unlinked := @going_attempt host applied (fails + 1) (few + 1) _ .unlinkTransaction
        within rfl (fun _ _ => True) going (by
          rintro st _ _ holds _ ⟨⟩
          exact ⟨rfl, rfl, rfl, _, rfl, trivial⟩)
      refine safe_then unlinked (fun _ _ ended => ended) ?_
      intro _ gone going
      exact .inr ⟨notDone, notLast, going⟩
  · intro err applied ended
    exact ended_ensured rfl ended (by rintro _ _ _ ⟨⟩; rfl) fun _ ended => ⟨ended, fun _ => ended⟩

def Installed (host : Host) (st : Ruleset) : Prop :=
  ∃ table, st.table = some table ∧ IsValid host table

theorem verify_installed_settled (within : few ≤ 2) (once : fails ≤ 1)
    (going : Going host fails few (fun _ => True) trial) :
    Tries (tools host) (Returns (fun _ => Going host fails few (Installed host))
      fun _ => Ended host) (verifyInstalled host) trial := by
  refine safe_then (inventory_going within going) (fun _ _ ended => ended) ?_
  intro installed post going
  cases installed with
  | none =>
    refine safe_raise (ended_of_going within going ?_)
    intro table isTable
    rw [going.fact.1] at isTable
    cases isTable
  | some table =>
    have isTable := going.fact.1
    cases isResult : validateOwnedTable host.floatIs table with
    | ok res =>
      change Tries (tools host) _
        ((Prog.done (validateOwnedTable host.floatIs table) : NftProg Unit).handle _) post
      rw [isResult]
      exact { going with fact := ⟨table, isTable, isResult⟩ }
    | error err =>
      change Tries (tools host) _
        ((Prog.done (validateOwnedTable host.floatIs table) : NftProg Unit).handle _) post
      rw [isResult]
      -- Without a deletion the table stays, and the run says so.
      have stays : (hasOwnershipMarker table = false ∨
          ∀ code, err ≠ .reconcileError code) → Ended host post := by
        intro ways
        refine ended_of_going within going ?_
        rintro other isOther ⟨marked, _, removed⟩
        rw [isTable] at isOther
        cases isOther
        rcases removed with ⟨code, isCode⟩ | twice
        · rcases ways with unmarked | other
          · rw [unmarked] at marked
            cases marked
          · rw [isResult] at isCode
            exact other code (Except.error.inj isCode)
        · rw [going_apply_failures going] at twice
          rw [twice] at once
          exact absurd once (by decide)
      cases err with
      | osError | timeoutExpired | typeError | unicodeDecodeError | valueError | recursionError =>
        exact stays (.inr fun _ isCode => nomatch isCode)
      | reconcileError code =>
        change Tries (tools host) _
          ((if hasOwnershipMarker table = true then runNft (attempt .deleteTable) else pure ()) >>=
            fun _ => raise (.reconcileError code)) post
        cases isMarked : hasOwnershipMarker table with
        | false => exact stays (.inl isMarked)
        | true =>
          have owned : Going host fails few (InventoriedOwned (some table)) post := by
            refine going_weaken going ?_
            intro st inventoried
            refine ⟨inventoried, ?_⟩
            rintro _ ⟨⟩
            exact isMarked
          refine safe_and_then (run_nft_ended
            (delete_table_ended within (.inl ⟨code, isResult⟩) owned)) ?_
          intro out deleted ended
          cases out with
          | ok res => exact ended
          | error err => exact ended

def Returned (host : Host) (trial : NftTrial) : Prop :=
  ∃ fails few, few ≤ 2 ∧ Going host fails few (Installed host) trial

theorem reconcile_body_settled (going : Going host 0 0 (fun _ => True) trial) :
    Tries (tools host) (Returns (fun _ => Returned host) fun _ => Ended host)
      (reconcileOnce host false >>= fun done =>
        (if done = true then pure true else reconcileOnce host true) >>= fun _ =>
        verifyInstalled host) trial := by
  refine safe_then (reconcile_once_settled (by decide) (fun impossible => nomatch impossible) going)
    (fun _ _ ended => ended) ?_
  rintro done post (⟨rfl, going⟩ | ⟨rfl, _, going⟩)
  · refine safe_weaken (verify_installed_settled (by decide) (by decide) going) ?_
    intro out last settled
    cases out with
    | ok res => exact ⟨_, _, by decide, settled⟩
    | error err => exact settled
  · have again := @reconcile_once_settled host post 1 1 true (by decide) (fun _ => rfl) going
    refine safe_then again (fun _ _ ended => ended) ?_
    rintro done last (⟨_, going⟩ | ⟨_, impossible, _⟩)
    · refine safe_weaken (verify_installed_settled (Nat.le_refl 2) (by decide) going) ?_
      intro out last settled
      cases out with
      | ok res => exact ⟨_, _, Nat.le_refl 2, settled⟩
      | error err => exact settled
    · cases impossible

theorem closed_settled (ret : Returned host trial) :
    Tries (tools host) (Returns (fun _ => Returned host) fun _ => Ended host)
      (attempt .closeLock) trial := by
  obtain ⟨fails, few, within, going⟩ := ret
  have closed := @going_attempt host trial fails few _ .closeLock within rfl
    (fun _ => Installed host) going (by
      rintro st _ _ holds _ ⟨⟩
      exact ⟨rfl, rfl, rfl, _, rfl, holds⟩)
  refine safe_weaken closed ?_
  intro out post settled
  cases out with
  | ok res => exact ⟨fails, few, within, settled⟩
  | error err => exact settled

theorem reconcile_settled (going : Going host 0 0 (fun _ => True) trial) :
    Tries (tools host) (Returns (fun _ => Returned host) fun _ => Ended host)
      (reconcileNftables host) trial := by
  have opened := @going_attempt host trial 0 0 _ .openLock (by decide) rfl
    (fun _ _ => True) going (by
      rintro st _ _ holds _ ⟨⟩
      exact ⟨rfl, rfl, rfl, _, rfl, trivial⟩)
  refine safe_then (safe_handle (fun _ => Ended host) opened ?_) (fun _ _ ended => ended) ?_
  · intro err post ended
    exact safe_raise ended
  intro _ post going
  have locked : Tries (tools host) (Returns (fun _ => Returned host) fun _ => Ended host)
      (attempt .statLock >>= fun status =>
        (if status.isRegular = false ∨ status.hasOneLink = false ∨ status.isOwned = false ∨
            status.hasMode600 = false then
          raise (.reconcileError "nft_lock_unsafe")
        else attempt .flock) >>= fun _ =>
        (reconcileOnce host false >>= fun done =>
          (if done = true then pure true else reconcileOnce host true) >>= fun _ =>
          verifyInstalled host)) post := by
    have looked := @going_attempt host post 0 0 _ .statLock (by decide) rfl
      (fun _ _ => True) going (by
        rintro st _ _ holds _ ⟨⟩
        exact ⟨rfl, rfl, rfl, _, rfl, trivial⟩)
    refine safe_then looked (fun _ _ ended => ended) ?_
    intro status looked going
    have flocked : Tries (tools host)
        (Returns (fun _ => Going host 0 0 fun _ => True) fun _ => Ended host)
        (if status.isRegular = false ∨ status.hasOneLink = false ∨ status.isOwned = false ∨
            status.hasMode600 = false then
          raise (.reconcileError "nft_lock_unsafe")
        else attempt .flock) looked := by
      split
      · refine safe_raise ⟨going.owned, Nat.le_trans going.bounded (by decide), .inl ?_⟩
        exact Nat.le_zero.mp going.bounded
      · refine going_attempt (by decide) rfl (fun _ _ => True) going ?_
        rintro st _ _ holds _ ⟨⟩
        exact ⟨rfl, rfl, rfl, _, rfl, trivial⟩
    refine safe_then flocked (fun _ _ ended => ended) ?_
    intro _ held going
    exact reconcile_body_settled going
  have handled : Tries (tools host) (Returns (fun _ => Returned host) fun _ => Ended host)
      ((attempt .statLock >>= fun status =>
        (if status.isRegular = false ∨ status.hasOneLink = false ∨ status.isOwned = false ∨
            status.hasMode600 = false then
          raise (.reconcileError "nft_lock_unsafe")
        else attempt .flock) >>= fun _ =>
        (reconcileOnce host false >>= fun done =>
          (if done = true then pure true else reconcileOnce host true) >>= fun _ =>
          verifyInstalled host)).handle fun err => raise (lockError err)) post := by
    refine safe_handle (fun _ => Ended host) locked ?_
    intro err failed ended
    exact safe_raise ended
  refine safe_cases handled ?_ ?_
  · intro res body ret
    refine safe_then (closed_settled ret) (fun _ _ ended => ended) ?_
    exact fun _ _ ret => ret
  · intro err body ended
    exact ended_ensured rfl ended (by rintro _ _ _ ⟨⟩; rfl) fun _ ended => ⟨ended, fun _ => ended⟩

/-- Only tables with the marker are changed, by at most two transactions, and a reconciliation that
returns has installed a valid table. One that raises after a transaction took effect leaves a valid
table or none, exactly if an invalid table of the policy is removed again. -/
theorem reconcile_owned_and_verified {start : Ruleset} {out : Except Error Unit}
    {post : NftTrial} (unchanged : start.changes = []) (apart : OthersApart start)
    (runs : Runs (attempting (tools host)) 0 (reconcileNftables host) (.start start) out post) :
    ChangesOwned post.state ∧ transactions post.state ≤ 2 ∧
      (out = .ok () → Installed host post.state) ∧
      ((∀ err, out = .error err → 0 < transactions post.state →
          InstalledValid host post.state) ↔
        ∀ table, loaded host = some table → ¬ IsValid host table →
          0 < transactions post.state → IsRemoved host table post) := by
  have none : transactions start = 0 := by
    rw [transactions, unchanged]
    rfl
  have going : Going host 0 0 (fun _ => True) (.start start) := by
    refine ⟨fun _ mem => (nomatch mem), rfl, ?_, Nat.le_of_eq none, .inl none, apart, trivial⟩
    intro change mem
    rw [show (Trial.start start : NftTrial).state.changes = [] from unchanged] at mem
    cases mem
  have settled := runs_ensured (reconcile_settled going) runs
  cases out with
  | ok res =>
    obtain ⟨fails, few, within, going⟩ := settled
    obtain ⟨table, isTable, valid⟩ := going.fact
    refine ⟨going.owned, Nat.le_trans going.bounded within, fun _ => going.fact, ?_⟩
    refine iff_of_true (fun _ isError => nomatch isError) ?_
    intro policy isPolicy invalid took
    have isLoaded := going.table.resolve_left (Nat.pos_iff_ne_zero.mp took)
    rw [isTable, isPolicy] at isLoaded
    exact absurd (Option.some.inj isLoaded ▸ valid) invalid
  | error err =>
    have ended : Ended host post := settled
    refine ⟨ended.owned, ended.bounded, fun isOk => (nomatch isOk), ?_⟩
    constructor
    · intro holds table isPolicy invalid took
      rcases ended.settled with unchanged | ⟨isTable, removed⟩
      · exact absurd unchanged (Nat.pos_iff_ne_zero.mp took)
      refine (removed table isPolicy invalid).mp ?_
      rcases holds err rfl took with isGone | ⟨other, isOther, valid⟩
      · exact isGone
      · rcases isTable with isGone | isLoaded
        · exact isGone
        · rw [isOther, isPolicy] at isLoaded
          exact absurd (Option.some.inj isLoaded ▸ valid) invalid
    · intro cond _ _ took
      rcases ended.settled with unchanged | ⟨isTable, removed⟩
      · exact absurd unchanged (Nat.pos_iff_ne_zero.mp took)
      rcases isTable with isGone | isLoaded
      · exact .inl isGone
      cases isPolicy : loaded host with
      | none => exact .inl (isLoaded.trans isPolicy)
      | some table =>
        by_cases valid : IsValid host table
        · exact .inr ⟨table, isLoaded.trans isPolicy, valid⟩
        · exact .inl ((removed table isPolicy valid).mpr
            (cond table isPolicy valid took))

end Reconcile

namespace Sample

def host (table : Json) : Host where
  isSpace char := char = ' ' || char = '\n'
  floatIs _ _ := false
  policy :=
    { isRegular := true
      hasOneLink := true
      isOwned := true
      hasMode644 := true
      size := 60
      readSize := 60
      content := some
        "table inet rtsp_proxy \x7b\n  comment \"rtsp-proxy-owned:v1\"\n\x7d\n" }
  apply _ _ := some table
  apply_deletion _ _ := rfl

def header : Json :=
  .obj [("table", .obj [("family", .str "inet"), ("name", .str "rtsp_proxy"),
    ("comment", .str "rtsp-proxy-owned:v1")])]

def entry (kind : String) (more : Members) : Json :=
  .obj [(kind, .obj (("family", .str "inet") :: ("table", .str "rtsp_proxy") :: more))]

def setEntry (want : String × List String × List String) : Json :=
  entry "set"
    [("name", .str want.1), ("type", match want.2.1 with
        | [single] => .str single
        | several => .arr (several.map .str)),
      ("flags", .arr (want.2.2.map .str))]

def validTable : Json :=
  .obj [("nftables", .arr (header :: expectedSetContract.map setEntry ++
    entry "chain" [("name", .str "input"), ("type", .str "filter"), ("hook", .str "input"),
      ("prio", .int (-5)), ("policy", .str "accept")] ::
    requiredRuleComments.flatMap fun required =>
      replicate required.2 (entry "rule" [("comment", .str required.1)])))]

def driftedTable : Json := .obj [("nftables", .arr [header])]

def bare : Ruleset := ⟨none, [⟨"ip", "nat", []⟩], none, []⟩

def act (host : Host) (st : Ruleset) :
    (req : Call) → Except Error (Answer req) × Ruleset
  | .openLock => (.ok (), st)
  | .statLock => (.ok ⟨true, true, true, true⟩, st)
  | .flock => (.ok (), st)
  | .closeLock => (.ok (), st)
  | .readPolicy => (.ok host.policy, st)
  | .writeTransaction _ => (.ok (), st)
  | .unlinkTransaction => (.ok (), st)
  | .decodeOutput => (.ok (), st)
  | .listTables => (.ok (.obj [("nftables", .arr (.obj [("metainfo", .null)] ::
        listedEntries st []))]),
      { st with inventory := match st.table with
        | none => none
        | some _ => st.inventory })
  | .listTable =>
    match st.table with
    | some table => (.ok table, { st with inventory := some table })
    | none => (.error (.reconcileError "nft_inventory_failed"), st)
  | .check _ => (.ok (), st)
  | .apply transaction => (.ok (),
      { st with
        table := host.apply transaction st.table
        changes := st.changes ++ [⟨true, st.table, st.inventory⟩] })
  | .deleteTable =>
    match st.table with
    | some _ => (.ok (),
        { st with
          table := none
          changes := st.changes ++ [⟨false, st.table, st.inventory⟩] })
    | none => (.error (.reconcileError "nft_mutation_failed"), st)

theorem act_effect (host : Host) (st : Ruleset) (req : Call) :
    Effect host st req (act host st req).1 (act host st req).2 := by
  cases req with
  | listTables =>
    have answers := @Effect.listTables host st _ .null [] (Perm.refl _)
    cases st with
    | mk table others inventory changes =>
      cases table with
      | none => exact answers
      | some table => exact answers
  | listTable =>
    cases isTable : st.table with
    | some table =>
      have listed := @Effect.listTable host st table isTable
      simp only [act, isTable]
      rw [isTable] at listed
      exact listed
    | none =>
      simp only [act, isTable]
      exact .noTable isTable
  | deleteTable =>
    cases isTable : st.table with
    | some table =>
      have deleted := @Effect.deleteTable host st (by rw [isTable]; rfl)
      rw [isTable] at deleted
      simp only [act, isTable]
      exact deleted
    | none =>
      simp only [act, isTable]
      exact .nothingToDelete isTable
  | _ => constructor

def failing : Call → Error
  | .readPolicy => .reconcileError "nft_policy_invalid"
  | .writeTransaction _ => .reconcileError "nft_transaction_write_failed"
  | .listTables | .listTable => .reconcileError "nft_inventory_failed"
  | .check _ | .apply _ | .deleteTable => .reconcileError "nft_mutation_failed"
  | .decodeOutput => .unicodeDecodeError
  | _ => .osError

theorem failing_lost (req : Call) : Lost req (failing req) := by
  cases req with
  | listTables => exact .inl rfl
  | listTable => exact .inl rfl
  | _ => rfl

def run (table : Json) (script : List (Option Bool)) : Except Error Unit × NftTrial :=
  execute (act (host table)) failing (reconcileNftables (host table)) script (.start bare)

theorem run_runs (table : Json) (script : List (Option Bool)) :
    Runs (attempting (tools (host table))) 0 (reconcileNftables (host table)) (.start bare)
      (run table script).1 (run table script).2 :=
  execute_runs (act_effect _) failing_lost _ _ _

def uninspected : List (Option Bool) := replicate 11 none ++ [some false]

theorem bare_apart : OthersApart bare := by
  intro other mem
  rw [mem_singleton.mp mem]
  decide

end Sample

open Sample

/-- The invalid table stays although the reconciliation raised. -/
theorem uninspected_table_stays :
    ∃ (out : Except Error Unit) (post : NftTrial), Runs (attempting (tools (host driftedTable))) 0
        (reconcileNftables (host driftedTable)) (.start bare) out post ∧
      out = .error (.reconcileError "nft_inventory_failed") ∧
      0 < transactions post.state ∧
      ¬ InstalledValid (host driftedTable) post.state := by
  obtain ⟨isOutcome, took⟩ :
      (run driftedTable uninspected).1 = .error (.reconcileError "nft_inventory_failed") ∧
        0 < transactions (run driftedTable uninspected).2.state := by
    decide +kernel
  have isTable : (run driftedTable uninspected).2.state.table = some driftedTable := by
    rfl
  refine ⟨_, _, run_runs driftedTable uninspected, isOutcome, took, ?_⟩
  rintro (isGone | ⟨table, isOther, valid⟩)
  · rw [isTable] at isGone
    cases isGone
  · rw [isTable] at isOther
    rw [← Option.some.inj isOther, IsValid] at valid
    revert valid
    decide +kernel

theorem reconcile_owned_and_verified_installed :
    (run validTable []).1 = .ok () ∧ ChangesOwned (run validTable []).2.state ∧
      transactions (run validTable []).2.state ≤ 2 ∧
      ((run validTable []).1 = .ok () → Installed (host validTable) (run validTable []).2.state) ∧
      ((∀ err, (run validTable []).1 = .error err →
          0 < transactions (run validTable []).2.state →
          InstalledValid (host validTable)
            (run validTable []).2.state) ↔
        ∀ table, loaded (host validTable) = some table → ¬ IsValid (host validTable) table →
          0 < transactions (run validTable []).2.state →
          IsRemoved (host validTable) table (run validTable []).2) :=
  ⟨by decide +kernel, reconcile_owned_and_verified rfl bare_apart
    (run_runs validTable [])⟩

end RtspProxy.Firewall
