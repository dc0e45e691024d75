import Mathlib
import RtspProxy.Lib.Dict
import RtspProxy.Lib.Raising

/-!
# Counters that start anew

A counter is read in snapshots, under a tag, and starts at zero again whenever a
snapshot misses it or reads it under another tag. What it counted in all is the
sum of the last values of its runs. A history has the newest snapshot first.
-/

namespace RtspProxy.Lib.Tally

open Raising List

variable {Tag Error : Type} [DecidableEq Tag]

/-- The last values of the runs, summed: a value counts unless the snapshot after it, which read the
tag `newer`, continues its run. -/
def runsTotal : Option Tag → List (Option (Tag × Nat)) → Nat
  | _, [] => 0
  | _, none :: older => runsTotal none older
  | newer, some (tag, val) :: older =>
    (if newer = some tag then 0 else val) + runsTotal (some tag) older

/-- The last value read, and the total. -/
def tallyOf (seen : List (Option (Tag × Nat))) : Option (Nat × Nat) :=
  seen.reduceOption.head?.map fun last => (last.2, runsTotal none seen)

/-- The tally after one more reading. -/
def advance (tally : Option (Nat × Nat)) (continued : Bool) (val : Nat) (reset : Error) :
    Except Error (Nat × Nat) :=
  match tally with
  | none => .ok (val, val)
  | some (previous, total) =>
    if continued = false then .ok (val, total + val)
    else if val < previous then .error reset
    else .ok (val, total + val - previous)

/-- What a snapshot adds to the one before it. -/
def increase (older newer : Option (Tag × Nat)) : Nat :=
  match older, newer with
  | _, none => 0
  | none, some (_, val) => val
  | some (pre, previous), some (tag, val) => if pre = tag then val - previous else val

variable {tag : Tag} {seen : List (Option (Tag × Nat))} {val : Nat} {reset : Error}
  {tally : Nat × Nat}

theorem runs_total_none (never : seen.reduceOption = []) (newer : Option Tag) :
    runsTotal newer seen = 0 := by
  induction seen generalizing newer with
  | nil => rfl
  | cons first older ih =>
    cases first with
    | none => exact ih never none
    | some reading => simp at never

theorem runs_total_apart (apart : (seen.head?.join.map Prod.fst) ≠ some tag) :
    runsTotal (some tag) seen = runsTotal none seen := by
  cases seen with
  | nil => rfl
  | cons first older =>
    cases first with
    | none => rfl
    | some reading =>
      have differ : some tag ≠ some reading.1 := fun same => apart same.symm
      simp [runsTotal, differ]

theorem advance_tally {continued : Bool}
    (isContinued : continued = decide (seen.head?.join.map Prod.fst = some tag))
    (advanced : advance (tallyOf seen) continued val reset = .ok tally) :
    tallyOf (some (tag, val) :: seen) = some tally ∧ runsTotal none (some (tag, val) :: seen) =
        runsTotal none seen + increase seen.head?.join (some (tag, val)) := by
  have total : runsTotal none (some (tag, val) :: seen) = val + runsTotal (some tag) seen := by
    simp [runsTotal]
  have newTally : tallyOf (some (tag, val) :: seen) =
      some (val, val + runsTotal (some tag) seen) := by
    rw [← total]
    rfl
  rw [newTally, total]
  by_cases same : seen.head?.join.map Prod.fst = some tag
  · rw [decide_eq_true same] at isContinued
    subst isContinued
    obtain ⟨⟨pre, previous⟩, isLast, rfl⟩ := Option.map_eq_some_iff.mp same
    obtain ⟨older, rfl⟩ : ∃ older, seen = some (pre, previous) :: older := by
      cases seen with
      | nil => cases isLast
      | cons first older => exact ⟨older, congrArg (· :: older) isLast⟩
    have known : tallyOf (some (pre, previous) :: older) =
        some (previous, previous + runsTotal (some pre) older) := by
      simp [tallyOf, runsTotal]
    have joined : runsTotal (some pre) (some (pre, previous) :: older) =
        runsTotal (some pre) older := by
      simp [runsTotal]
    have apart : runsTotal none (some (pre, previous) :: older) =
        previous + runsTotal (some pre) older := by
      simp [runsTotal]
    have added : increase (some (pre, previous) :: older).head?.join (some (pre, val)) =
        val - previous := by
      simp [increase]
    rw [known, advance, if_neg Bool.noConfusion] at advanced
    split_ifs at advanced with fell
    obtain rfl := Except.ok.inj advanced
    rw [joined, apart, added]
    exact ⟨congrArg (fun total => some (val, total)) (by omega), by omega⟩
  · rw [runs_total_apart same]
    rw [decide_eq_false same] at isContinued
    subst isContinued
    have added : increase seen.head?.join (some (tag, val)) = val := by
      cases last : seen.head?.join with
      | none => rfl
      | some reading =>
        have differ : reading.1 ≠ tag := fun eq => same (by rw [last, ← eq]; rfl)
        simp [increase, differ]
    refine ⟨?_, by omega⟩
    cases known : tallyOf seen with
    | none =>
      have never := head?_eq_none_iff.mp (Option.map_eq_none_iff.mp known)
      rw [known] at advanced
      cases advanced
      rw [runs_total_none never]
      rfl
    | some pre =>
      obtain ⟨last, isLast, rfl⟩ := Option.map_eq_some_iff.mp known
      rw [known] at advanced
      cases advanced
      rw [Nat.add_comm]

/-- A reading of a counter, and the error if it fell behind the reading it continues. -/
structure Reading (Key Error : Type) where
  key : Key
  continued : Bool
  value : Nat
  reset : Error

variable {Key : Type} [DecidableEq Key]

def account (tallies : Dict Key (Nat × Nat)) (reading : Reading Key Error) :
    Except Error (Dict Key (Nat × Nat)) := do
  let tally ← advance (tallies.get reading.key) reading.continued reading.value reading.reset
  return tallies.set reading.key tally

omit [DecidableEq Tag] in
theorem account_all {readings : List (Reading Key Error)} {tallies post : Dict Key (Nat × Nat)}
    (distinct : (readings.map (·.key)).Nodup)
    (accounted : readings.foldlM account tallies = .ok post) :
    (∀ key ∉ readings.map (·.key), post.get key = tallies.get key) ∧
      ∀ reading ∈ readings, ∃ tally, advance (tallies.get reading.key) reading.continued
        reading.value reading.reset = .ok tally ∧ post.get reading.key = some tally := by
  induction readings generalizing tallies with
  | nil => exact ⟨fun _ _ => congrArg (Dict.get · _) (Except.ok.inj accounted).symm,
      fun _ mem => (by cases mem)⟩
  | cons first rest ih =>
    rw [foldlM_cons] at accounted
    obtain ⟨next, one, others⟩ := bind_ok.mp accounted
    obtain ⟨tally, advanced, isNext⟩ := bind_ok.mp one
    obtain rfl := Except.ok.inj isNext
    obtain ⟨fresh, distinct⟩ := nodup_cons.mp distinct
    obtain ⟨kept, read⟩ := ih distinct others
    refine ⟨fun key absent => ?_, fun reading mem => ?_⟩
    · obtain ⟨differ, absent⟩ := not_or.mp (mt mem_cons.mpr absent)
      rw [kept key absent, Dict.get_set_ne differ]
    · rcases mem_cons.mp mem with rfl | mem
      · exact ⟨tally, advanced, by rw [kept _ fresh, Dict.get_set_self]⟩
      · have differ : reading.key ≠ first.key :=
          fun same => fresh (mem_map.mpr ⟨reading, mem, same⟩)
        obtain ⟨tally, advanced, isTally⟩ := read reading mem
        exact ⟨tally, by rwa [Dict.get_set_ne differ] at advanced, isTally⟩

/-- The total over the keys that are of interest. -/
def total (tallies : Dict Key (Nat × Nat)) (isOfInterest : Key → Bool) : Nat :=
  ((tallies.items.filter fun item => isOfInterest item.1).map fun item => item.2.2).sum

omit [DecidableEq Key] in
theorem sum_filter {keys : List Key} {keeps : Key → Bool} {read : Key → Nat}
    (nothing : ∀ key ∈ keys, keeps key = false → read key = 0) :
    ((keys.filter keeps).map read).sum = (keys.map read).sum := by
  induction keys with
  | nil => rfl
  | cons key rest ih =>
    have others := ih fun other mem => nothing other (mem_cons_of_mem _ mem)
    cases kept : keeps key with
    | true => rw [filter_cons_of_pos kept, map_cons, map_cons, sum_cons, sum_cons, others]
    | false =>
      rw [filter_cons_of_neg (Bool.eq_false_iff.mp kept), map_cons, sum_cons, others,
        nothing key mem_cons_self kept, Nat.zero_add]

theorem total_of_keys {tallies : Dict Key (Nat × Nat)} {isOfInterest : Key → Bool}
    {keys : List Key} (distinct : keys.Nodup) (wanted : ∀ key ∈ keys, isOfInterest key = true)
    (covers : ∀ key, isOfInterest key = true → tallies.get key ≠ none → key ∈ keys) :
    total tallies isOfInterest =
      (keys.map fun key => ((tallies.get key).map Prod.snd).getD 0).sum := by
  let items := tallies.items.filter fun item => isOfInterest item.1
  have read : items.map (fun item => item.2.2) =
      (items.map Prod.fst).map fun key => ((tallies.get key).map Prod.snd).getD 0 := by
    rw [map_map]
    refine map_congr_left fun item mem => ?_
    simp only [Function.comp_apply]
    rw [Dict.get_eq_some.mpr (mem_of_mem_filter mem)]
    rfl
  have known : items.map Prod.fst ~ keys.filter tallies.contains := by
    refine (perm_ext_iff_of_nodup (tallies.distinct.sublist (filter_sublist.map _))
      (distinct.filter _)).mpr fun key => ?_
    rw [mem_filter, Dict.contains, Option.isSome_iff_ne_none]
    constructor
    · intro mem
      obtain ⟨item, isItem, rfl⟩ := mem_map.mp mem
      have present : tallies.get item.1 ≠ none := by
        rw [Dict.get_eq_some.mpr (mem_of_mem_filter isItem)]
        exact Option.some_ne_none _
      exact ⟨covers _ (mem_filter.mp isItem).2 present, present⟩
    · rintro ⟨mem, present⟩
      obtain ⟨tally, found⟩ := Option.ne_none_iff_exists'.mp present
      exact mem_map.mpr ⟨(key, tally), mem_filter.mpr ⟨Dict.get_eq_some.mp found, wanted key mem⟩, rfl⟩
  rw [total, read, (known.map _).sum_nat, sum_filter]
  intro key mem absent
  rw [Dict.contains, Option.isSome_eq_false_iff, Option.isNone_iff_eq_none] at absent
  rw [absent]
  rfl

end RtspProxy.Lib.Tally
