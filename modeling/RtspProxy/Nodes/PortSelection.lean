import RtspProxy.Nodes.Validation

/-!
# Selecting a port among candidates that may be taken

What `select_port_with_bounded_recheck` does without a preferred port, for every
selector that answers with a candidate and every bind check, both of which may
change from call to call.
-/

namespace RtspProxy.Nodes

open Lib.Raising List

/-- The ports that `selectPortRounds` hands to the bind check, in this order. -/
def checkedPorts (preferredPort : Option Int) (choosePort : Nat → List Int → Int)
    (isPortBindable : Nat → Int → Bool) : Nat → Nat → List Int → List Int
  | 0, _, _ => []
  | rounds + 1, attempt, cands =>
    let selected := preferredPort.getD (choosePort attempt cands)
    if selected ∉ cands then []
    else if isPortBindable attempt selected = true ∨ preferredPort.isSome = true then [selected]
    else selected :: checkedPorts preferredPort choosePort isPortBindable rounds (attempt + 1)
      (cands.erase selected)

variable {choosePort : Nat → List Int → Int} {isPortBindable : Nat → Int → Bool}

def SelectsCandidates (choosePort : Nat → List Int → Int) : Prop :=
  ∀ attempt cands, cands ≠ [] → choosePort attempt cands ∈ cands

/-- A round finds its port bindable and ends, or drops it and goes on without it. -/
theorem round_cases (selects : SelectsCandidates choosePort) (isPortBindable : Nat → Int → Bool)
    (rounds attempt : Nat) {cands : List Int} (some : cands ≠ []) :
    ∃ port ∈ cands, (isPortBindable attempt port = true ∧
        selectPortRounds none choosePort isPortBindable (rounds + 1) attempt cands = .ok port ∧
        checkedPorts none choosePort isPortBindable (rounds + 1) attempt cands = [port]) ∨
      (isPortBindable attempt port = false ∧
        selectPortRounds none choosePort isPortBindable (rounds + 1) attempt cands =
          selectPortRounds none choosePort isPortBindable rounds (attempt + 1)
            (cands.erase port) ∧
        checkedPorts none choosePort isPortBindable (rounds + 1) attempt cands =
          port :: checkedPorts none choosePort isPortBindable rounds (attempt + 1)
            (cands.erase port)) := by
  have mem := selects attempt cands some
  refine ⟨choosePort attempt cands, mem, ?_⟩
  simp only [selectPortRounds, checkedPorts, Option.getD_none, Option.isSome_none]
  rw [check_passes (not_not.mpr mem), if_neg (not_not.mpr mem)]
  cases bindable : isPortBindable attempt (choosePort attempt cands) with
  | true => exact .inl ⟨rfl, rfl, rfl⟩
  | false => exact .inr ⟨rfl, rfl, rfl⟩

/-- What the checks, the first of which is number `attempt`, say of the result. -/
structure Bounded (isPortBindable : Nat → Int → Bool) (attempt : Nat) (cands checks : List Int)
    (res : Except NodeError Int) : Prop where
  once : checks.Nodup
  candidate : checks ⊆ cands
  selected : ∀ port, res = .ok port →
    ∃ index, checks[index]? = some port ∧ isPortBindable (attempt + index) port = true
  exhausted : ∀ error, res = .error error →
    error = .nodePortRangeExhausted "node_port_range_exhausted" ∧ checks ~ cands ∧
      ∀ index port, checks[index]? = some port → isPortBindable (attempt + index) port = false

theorem rounds_bounded (selects : SelectsCandidates choosePort) (rounds attempt : Nat)
    {cands : List Int} (isLength : cands.length = rounds) (distinct : cands.Nodup) :
    Bounded isPortBindable attempt cands
      (checkedPorts none choosePort isPortBindable rounds attempt cands)
      (selectPortRounds none choosePort isPortBindable rounds attempt cands) := by
  induction rounds generalizing attempt cands with
  | zero =>
    obtain rfl := length_eq_zero_iff.mp isLength
    exact ⟨nodup_nil, Subset.refl _, fun _ isOk => (by cases isOk),
      fun _ isError => ⟨(Except.error.inj isError).symm, .refl _, fun _ _ found => (by cases found)⟩⟩
  | succ rounds ih =>
    have some : cands ≠ [] := ne_nil_of_length_eq_add_one isLength
    obtain ⟨port, mem, ⟨bindable, res, checks⟩ | ⟨bindable, res, checks⟩⟩ :=
      round_cases selects isPortBindable rounds attempt some
    · rw [res, checks]
      refine ⟨nodup_singleton port, cons_subset.mpr ⟨mem, nil_subset _⟩, fun chosen isOk => ?_,
        fun _ isError => (by cases isError)⟩
      exact ⟨0, congrArg Option.some (Except.ok.inj isOk), Except.ok.inj isOk ▸ bindable⟩
    · rw [res, checks]
      have shorter : (cands.erase port).length = rounds := by
        rw [length_erase_of_mem mem, isLength, Nat.add_sub_cancel]
      have rest := ih (attempt + 1) shorter (distinct.erase port)
      have fresh : port ∉ checkedPorts none choosePort isPortBindable rounds (attempt + 1)
          (cands.erase port) :=
        fun again => distinct.not_mem_erase (rest.candidate again)
      refine ⟨nodup_cons.mpr ⟨fresh, rest.once⟩, ?_, fun chosen isOk => ?_, fun error isError => ?_⟩
      · exact cons_subset.mpr ⟨mem, fun other isOther => mem_of_mem_erase (rest.candidate isOther)⟩
      · obtain ⟨index, isIndex, passed⟩ := rest.selected chosen isOk
        exact ⟨index + 1, isIndex, by rwa [← Nat.add_assoc, Nat.add_right_comm]⟩
      · obtain ⟨isExhausted, every, failed⟩ := rest.exhausted error isError
        refine ⟨isExhausted, (every.cons port).trans (perm_cons_erase mem).symm, ?_⟩
        intro index other found
        cases index with
        | zero => exact Option.some.inj found ▸ bindable
        | succ index =>
          rw [← Nat.add_assoc, Nat.add_right_comm]
          exact failed index other found

/-- The loop checks no candidate twice and nothing else, answers with a port that passed its check,
and gives up only when each candidate has failed its check. -/
theorem port_selection_bounded (available : List Int) (distinct : available.Nodup)
    (selects : SelectsCandidates choosePort) :
    Bounded isPortBindable 0 available
      (checkedPorts none choosePort isPortBindable available.length 0 available)
      (selectPortWithBoundedRecheck available none choosePort isPortBindable) :=
  rounds_bounded selects available.length 0 rfl distinct

theorem port_selection_bounded_sample :
    Bounded (fun attempt _ => attempt == 1) 0 [8554, 8555]
      (checkedPorts none (fun _ cands => cands.headD 0) (fun attempt _ => attempt == 1) 2 0
        [8554, 8555])
      (selectPortWithBoundedRecheck [8554, 8555] none (fun _ cands => cands.headD 0)
        fun attempt _ => attempt == 1) :=
  port_selection_bounded [8554, 8555] (by decide) fun _ cands some => by
    cases cands with
    | nil => exact absurd rfl some
    | cons first rest => exact mem_cons_self

end RtspProxy.Nodes
