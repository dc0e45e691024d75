import RtspProxy.Lib.RecordTable

/-!
# Statements on tables of rows

A table is a list of rows; nothing below depends on their order except through
an explicit `ORDER BY`. `update` is `UPDATE .. SET .. WHERE ..`, `firstBy` is
`ORDER BY .. LIMIT 1`. A unique constraint is a check before the row goes in. On
a table whose key is unique, updating the row with a key is the `replace` of
`RecordTable`.
-/

namespace RtspProxy.Lib.Sql

open List

variable {Row : Type*}

/-- `UPDATE table SET .. WHERE ..`. -/
def update (cond : Row → Bool) (assign : Row → Row) (rows : List Row) : List Row :=
  rows.map fun row => if cond row then assign row else row

/-- `SELECT .. ORDER BY .. LIMIT 1`, where `pre` compares two rows strictly. -/
def firstBy (pre : Row → Row → Bool) : List Row → Option Row
  | [] => none
  | row :: rest =>
    match firstBy pre rest with
    | none => some row
    | some best => if pre best row then some best else some row

variable {rows : List Row}

variable {assign : Row → Row}

theorem update_none {cond : Row → Bool}
    (noRow : ∀ row ∈ rows, cond row = false) : update cond assign rows = rows := by
  unfold update
  conv_rhs => rw [← map_id rows]
  apply map_congr_left
  intro row mem
  rw [noRow row mem]
  rfl

variable {pre : Row → Row → Bool}

theorem first_by_mem {first : Row} (found : firstBy pre rows = some first) : first ∈ rows := by
  induction rows generalizing first with
  | nil => cases found
  | cons row rest ih =>
    unfold firstBy at found
    cases best : firstBy pre rest with
    | none =>
      rw [best] at found
      simp only [Option.some.injEq] at found
      rw [found]
      exact mem_cons_self
    | some other =>
      rw [best] at found
      dsimp only at found
      split_ifs at found with earlier
      · exact mem_cons_of_mem _ (ih (best.trans found))
      · rw [Option.some.inj found]
        exact mem_cons_self

theorem first_by_nil_iff :
    firstBy pre rows = none ↔ rows = [] := by
  cases rows with
  | nil => simp [firstBy]
  | cons row rest =>
    unfold firstBy
    cases firstBy pre rest with
    | none => simp
    | some best =>
      dsimp only
      split_ifs <;> simp

/-- A truth value; `none` is unknown. `NULL` in a column is `none` as well. -/
abbrev Truth := Option Bool

def conjunction : Truth → Truth → Truth
  | some false, _ | _, some false => some false
  | some true, some true => some true
  | _, _ => none

def allOf (conditions : List Truth) : Truth := conditions.foldr conjunction (some true)

def compare {Left Right : Type*} (holds : Left → Right → Bool) (left : Option Left)
    (right : Option Right) : Truth :=
  left.bind fun leftValue => right.map (holds leftValue)

/-- `IS true` and `IS false`. -/
def isTruth (want : Bool) (value : Option Bool) : Truth := some (value = some want)

/-- `NOT IN (SELECT ..)`. -/
def notIn {Value : Type*} [DecidableEq Value] (value : Option Value)
    (members : List (Option Value)) : Truth :=
  allOf (members.map (compare (fun left right => left ≠ right) value))

/-- `SELECT .. WHERE ..` takes the rows whose condition is true. -/
def «where» (cond : Row → Truth) (rows : List Row) : List Row :=
  rows.filter fun row => cond row = some true

/-- What `ORDER BY` may make of the rows, with `pre` comparing two of them strictly. -/
def IsOrdered (pre : Row → Row → Bool) (rows res : List Row) : Prop :=
  res.Perm rows ∧ res.Pairwise fun earlier later => pre later earlier = false

theorem conjunction_true_iff {left right : Truth} :
    conjunction left right = some true ↔ left = some true ∧ right = some true := by
  rcases left with _ | _ | _ <;> rcases right with _ | _ | _ <;> simp [conjunction]

@[simp]
theorem all_of_true_iff {conditions : List Truth} :
    allOf conditions = some true ↔ ∀ cond ∈ conditions, cond = some true := by
  induction conditions with
  | nil => simp [allOf]
  | cons cond rest ih =>
    rw [forall_mem_cons, ← ih]
    exact conjunction_true_iff

@[simp]
theorem compare_true_iff {Left Right : Type*} {holds : Left → Right → Bool} {left : Option Left}
    {right : Option Right} : compare holds left right = some true ↔
      ∃ leftValue ∈ left, ∃ rightValue ∈ right, holds leftValue rightValue = true := by
  cases left <;> cases right <;> simp [compare]

@[simp]
theorem is_truth_true_iff {want : Bool} {value : Option Bool} :
    isTruth want value = some true ↔ value = some want := by
  simp [isTruth]

@[simp]
theorem not_in_true_iff {Value : Type*} [DecidableEq Value] {value : Value}
    {members : List Value} : notIn (some value) (members.map some) = some true ↔
      value ∉ members := by
  simp only [notIn, all_of_true_iff, map_map, mem_map, Function.comp]
  constructor
  · intro differs mem
    simpa using differs _ ⟨value, mem, rfl⟩
  · rintro absent _ ⟨other, mem, rfl⟩
    simpa using fun same : value = other => absent (same ▸ mem)

theorem first_by_eq {first : Row} (mem : first ∈ rows)
    (least : ∀ row ∈ rows, row = first ∨ pre first row = true ∧ pre row first = false) :
    firstBy pre rows = some first := by
  induction rows with
  | nil => cases mem
  | cons row rest ih =>
    unfold firstBy
    have restLeast : ∀ other ∈ rest,
        other = first ∨ pre first other = true ∧ pre other first = false := by
      intro other inRest
      exact least other (mem_cons_of_mem _ inRest)
    by_cases inRest : first ∈ rest
    · rw [ih inRest restLeast]
      dsimp only
      rcases least row mem_cons_self with same | ⟨earlier, _⟩
      · rw [same]
        simp
      · rw [if_pos earlier]
    · have isHead : first = row := by
        rcases mem_cons.mp mem with isHead | inTail
        · exact isHead
        · exact absurd inTail inRest
      subst isHead
      cases best : firstBy pre rest with
      | none => rfl
      | some other =>
        dsimp only
        have otherMember := first_by_mem best
        rcases restLeast other otherMember with same | ⟨_, later⟩
        · rw [same] at otherMember
          exact absurd otherMember inRest
        · rw [later]
          rfl

/-- Two tables that look alike through two views look alike through all views that the first ones
determine. -/
theorem map_eq_of_views {Other First Second : Type*} {others : List Other} {view : Row → First}
    {otherView : Other → First} {second : Row → Second} {otherSecond : Other → Second}
    (same : rows.map view = others.map otherView)
    (determined : ∀ row ∈ rows, ∀ other ∈ others, view row = otherView other →
      second row = otherSecond other) : rows.map second = others.map otherSecond := by
  induction rows generalizing others with
  | nil =>
    cases others with
    | nil => rfl
    | cons other rest => cases same
  | cons row rest ih =>
    cases others with
    | nil => cases same
    | cons other otherRest =>
      simp only [map_cons, cons.injEq] at same ⊢
      constructor
      · exact determined row mem_cons_self other mem_cons_self same.1
      · apply ih same.2
        intro inner innerMember outer outerMember
        exact determined inner (mem_cons_of_mem _ innerMember) outer
          (mem_cons_of_mem _ outerMember)

variable {Key : Type*} [DecidableEq Key] {key : Row → Key}

theorem update_middle {pre rest : List Row} {row : Row}
    (distinct : RecordTable.DistinctKeys key (pre ++ row :: rest)) :
    update (fun other => decide (key other = key row)) assign (pre ++ row :: rest) =
      pre ++ assign row :: rest := by
  unfold RecordTable.DistinctKeys at distinct
  rw [map_append, map_cons, nodup_append] at distinct
  have beforeUnchanged : update (fun other => decide (key other = key row)) assign pre = pre := by
    apply update_none
    intro other mem
    have differ := distinct.2.2 (key other) (mem_map_of_mem mem) (key row) mem_cons_self
    simp [differ]
  have restUnchanged : update (fun other => decide (key other = key row)) assign rest = rest := by
    apply update_none
    intro other mem
    have differ : key row ≠ key other := by
      intro same
      apply (nodup_cons.mp distinct.2.1).1
      rw [same]
      exact mem_map_of_mem mem
    simp [Ne.symm differ]
  unfold update at beforeUnchanged restUnchanged ⊢
  rw [map_append, map_cons, beforeUnchanged, restUnchanged]
  simp

theorem update_eq_replace {old : Row} {wanted : Key} (distinct : RecordTable.DistinctKeys key rows)
    (found : RecordTable.lookup key wanted rows = some old) (keeps : key (assign old) = key old) :
    update (fun row => decide (key row = wanted)) assign rows =
      RecordTable.replace key (assign old) rows := by
  have isWanted := RecordTable.lookup_key found
  induction rows with
  | nil => rfl
  | cons row rest ih =>
    rcases RecordTable.distinct_cons.mp distinct with ⟨others, restDistinct⟩
    by_cases isRow : key row = wanted
    · have sameRow : row = old := by
        simp only [RecordTable.lookup, find?_cons, isRow, decide_true, Option.some.injEq] at found
        exact found
      subst sameRow
      have restUnchanged : update (fun other => decide (key other = wanted)) assign rest = rest := by
        apply update_none
        intro other mem
        have differ := others other mem
        rw [isRow] at differ
        simp [differ]
      simp only [update, map_cons, isRow, decide_true, if_true, RecordTable.replace]
      rw [if_pos (by rw [keeps, isRow])]
      rw [← update, restUnchanged]
    · have inRest : RecordTable.lookup key wanted rest = some old := by
        simpa [RecordTable.lookup, find?_cons, isRow] using found
      have notUpdated : ¬key row = key (assign old) := by
        rw [keeps, isWanted]
        exact isRow
      simp only [update, map_cons, isRow, decide_false, RecordTable.replace]
      rw [if_neg notUpdated]
      exact congrArg _ (ih restDistinct inRest)

end RtspProxy.Lib.Sql
