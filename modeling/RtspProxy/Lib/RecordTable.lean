import Mathlib.Data.List.Nodup
import Mathlib.Data.List.Count

/-!
# Lists of records with a key

A table is a plain list; every record carries its own key. `lookup` returns
the first record with a key, `replace` overwrites the first record that has
the key of the new one. Tables whose keys are distinct behave as finite maps,
and the counting lemma below is what a denormalised counter has to track.
-/

namespace RtspProxy.Lib.RecordTable

open List

variable {Record Key : Type*} [DecidableEq Key] (key : Record → Key)

def lookup (wanted : Key) (records : List Record) : Option Record :=
  records.find? fun rec => decide (key rec = wanted)

/-- Overwrite the first record that has the key of `upd`. -/
def replace (upd : Record) : List Record → List Record
  | [] => []
  | rec :: rest =>
    if key rec = key upd then upd :: rest
    else rec :: replace upd rest

def DistinctKeys (records : List Record) : Prop := (records.map key).Nodup

instance (records : List Record) : Decidable (DistinctKeys key records) :=
  inferInstanceAs (Decidable (records.map key).Nodup)

variable {key}

variable {wanted : Key} {records : List Record} {rec : Record}

theorem lookup_key (found : lookup key wanted records = some rec) : key rec = wanted := by
  simpa using find?_some found

theorem lookup_mem (found : lookup key wanted records = some rec) : rec ∈ records :=
  mem_of_find?_eq_some found

theorem lookup_eq_none :
    lookup key wanted records = none ↔ ∀ rec ∈ records, key rec ≠ wanted := by
  simp [lookup]

omit [DecidableEq Key] in
theorem distinct_cons {rest : List Record} :
    DistinctKeys key (rec :: rest) ↔
      (∀ other ∈ rest, key other ≠ key rec) ∧ DistinctKeys key rest := by
  simp only [DistinctKeys, map_cons, nodup_cons, mem_map, not_exists, not_and]

omit [DecidableEq Key] in
theorem distinct_eq (distinct : DistinctKeys key records) {left right : Record}
    (leftMem : left ∈ records) (rightMem : right ∈ records) (same : key left = key right) :
    left = right :=
  inj_on_of_nodup_map distinct leftMem rightMem same

theorem lookup_of_mem (distinct : DistinctKeys key records) (mem : rec ∈ records) :
    lookup key (key rec) records = some rec := by
  cases found : lookup key (key rec) records with
  | none => exact absurd rfl (lookup_eq_none.mp found rec mem)
  | some other =>
    exact congrArg some (distinct_eq distinct (lookup_mem found) mem (lookup_key found))

omit [DecidableEq Key] in
theorem distinct_append_singleton (distinct : DistinctKeys key records)
    (fresh : ∀ other ∈ records, key other ≠ key rec) :
    DistinctKeys key (records ++ [rec]) := by
  simp only [DistinctKeys, map_append, map_cons, map_nil]
  refine List.Nodup.append distinct (nodup_singleton _) ?_
  intro shared inLeft inRight
  obtain ⟨other, mem, same⟩ := mem_map.mp inLeft
  exact fresh other mem (same.trans (mem_singleton.mp inRight))

omit [DecidableEq Key] in
theorem distinct_filter (keep : Record → Bool) (distinct : DistinctKeys key records) :
    DistinctKeys key (records.filter keep) :=
  List.Nodup.sublist (List.Sublist.map key filter_sublist) distinct

variable {upd : Record}

@[simp] theorem map_key_replace (upd : Record) (records : List Record) :
    (replace key upd records).map key = records.map key := by
  induction records with
  | nil => rfl
  | cons rec rest ih =>
    simp only [replace]
    split_ifs with same
    · simp [same]
    · simp [ih]

theorem distinct_replace :
    DistinctKeys key (replace key upd records) ↔ DistinctKeys key records := by
  simp [DistinctKeys]

theorem mem_of_mem_replace (mem : rec ∈ replace key upd records) :
    rec = upd ∨ rec ∈ records := by
  induction records with
  | nil => simp [replace] at mem
  | cons head rest ih =>
    simp only [replace] at mem
    split_ifs at mem with same
    · rcases mem_cons.mp mem with rfl | inRest
      · exact .inl rfl
      · exact .inr (mem_cons_of_mem _ inRest)
    · rcases mem_cons.mp mem with rfl | inRest
      · exact .inr mem_cons_self
      · exact (ih inRest).imp id (mem_cons_of_mem _)

variable {old : Record}

theorem updated_mem_replace (present : old ∈ records) (same : key old = key upd) :
    upd ∈ replace key upd records := by
  induction records with
  | nil => cases present
  | cons head rest ih =>
    simp only [replace]
    split_ifs with headSame
    · exact mem_cons_self
    · refine mem_cons_of_mem _ (ih ?_)
      rcases mem_cons.mp present with rfl | inRest
      · exact absurd same headSame
      · exact inRest

theorem mem_replace_of_ne (mem : rec ∈ records) (other : key rec ≠ key upd) :
    rec ∈ replace key upd records := by
  induction records with
  | nil => cases mem
  | cons head rest ih =>
    simp only [replace]
    split_ifs with same
    · rcases mem_cons.mp mem with rfl | inRest
      · exact absurd same other
      · exact mem_cons_of_mem _ inRest
    · rcases mem_cons.mp mem with rfl | inRest
      · exact mem_cons_self
      · exact mem_cons_of_mem _ (ih inRest)

theorem mem_replace (distinct : DistinctKeys key records) (present : old ∈ records)
    (same : key old = key upd) :
    rec ∈ replace key upd records ↔ rec = upd ∨ rec ∈ records ∧ key rec ≠ key upd := by
  constructor
  · intro mem
    rcases mem_of_mem_replace mem with rfl | inRecords
    · exact .inl rfl
    · by_cases sameKey : key rec = key upd
      · exact .inl (distinct_eq (distinct_replace.mpr distinct) mem
          (updated_mem_replace present same) sameKey)
      · exact .inr ⟨inRecords, sameKey⟩
  · rintro (rfl | ⟨mem, other⟩)
    · exact updated_mem_replace present same
    · exact mem_replace_of_ne mem other

theorem lookup_replace_self (present : old ∈ records) (same : key old = key upd) :
    lookup key (key upd) (replace key upd records) = some upd := by
  induction records with
  | nil => cases present
  | cons head rest ih =>
    simp only [replace]
    split_ifs with headSame
    · simp [lookup]
    · have inRest : old ∈ rest := by
        rcases mem_cons.mp present with rfl | inRest
        · exact absurd same headSame
        · exact inRest
      simpa [lookup, headSame] using ih inRest

theorem lookup_append_new (isWanted : key rec = wanted)
    (absent : ∀ other ∈ records, key other ≠ wanted) :
    lookup key wanted (records ++ [rec]) = some rec := by
  have notFound : lookup key wanted records = none := lookup_eq_none.mpr absent
  unfold lookup at notFound ⊢
  rw [find?_append, notFound]
  simp [isWanted]

theorem lookup_append_ne (other : key rec ≠ wanted) :
    lookup key wanted (records ++ [rec]) = lookup key wanted records := by
  unfold lookup
  rw [find?_append]
  simp [other]

theorem replace_same (found : lookup key (key rec) records = some rec) :
    replace key rec records = records := by
  induction records with
  | nil => rfl
  | cons head rest ih =>
    simp only [replace]
    split_ifs with headSame
    · simp only [lookup, find?_cons, headSame, decide_true, Option.some.injEq] at found
      rw [found]
    · simp only [lookup, find?_cons, headSame, decide_false] at found
      rw [ih found]

theorem map_replace {Image : Type*} {project : Record → Image}
    (found : lookup key (key upd) records = some old) (same : project upd = project old) :
    (replace key upd records).map project = records.map project := by
  induction records with
  | nil => rfl
  | cons head rest ih =>
    simp only [replace]
    by_cases headSame : key head = key upd
    · simp only [lookup, find?_cons, headSame, decide_true, Option.some.injEq] at found
      rw [if_pos headSame, map_cons, map_cons, same, found]
    · simp only [lookup, find?_cons, headSame, decide_false] at found
      rw [if_neg headSame, map_cons, map_cons, ih found]

theorem replace_replace {first second : Record} (same : key first = key second) :
    replace key second (replace key first records) = replace key second records := by
  induction records with
  | nil => rfl
  | cons head rest ih =>
    by_cases headSame : key head = key first
    · simp [replace, headSame, same]
    · have headOther : key head ≠ key second := same ▸ headSame
      simp [replace, headSame, headOther, ih]

theorem lookup_replace_ne (other : wanted ≠ key upd) :
    lookup key wanted (replace key upd records) = lookup key wanted records := by
  induction records with
  | nil => rfl
  | cons head rest ih =>
    simp only [replace]
    split_ifs with same
    · simp [lookup, same, Ne.symm other]
    · simp only [lookup, find?_cons] at ih ⊢
      rw [ih]

theorem countP_replace (distinct : DistinctKeys key records) (present : old ∈ records)
    (same : key old = key upd) (counted : Record → Bool) :
    (replace key upd records).countP counted + (if counted old then 1 else 0) =
      records.countP counted + (if counted upd then 1 else 0) := by
  induction records with
  | nil => cases present
  | cons head rest ih =>
    by_cases headSame : key head = key upd
    · have oldHead : old = head :=
        distinct_eq distinct present mem_cons_self (same.trans headSame.symm)
      subst oldHead
      simp only [replace, if_pos headSame, countP_cons]
      omega
    · have inRest : old ∈ rest := by
        rcases mem_cons.mp present with rfl | inRest
        · exact absurd same headSame
        · exact inRest
      have restCount := ih (distinct_cons.mp distinct).2 inRest
      simp only [replace, if_neg headSame, countP_cons]
      omega

end RtspProxy.Lib.RecordTable
