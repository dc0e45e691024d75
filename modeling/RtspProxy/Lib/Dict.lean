import RtspProxy.Lib.RecordTable

/-!
# Insertion-ordered dictionaries

A dictionary keeps its items in the order in which their keys first came in:
`set` overwrites in place or appends, `pop` removes. The items carry their
distinct keys, so a dictionary is determined by `get` up to order and its length
counts keys.
-/

namespace RtspProxy.Lib

open RecordTable

/-- The items of a dictionary, oldest key first. -/
structure Dict (Key Value : Type*) where
  items : List (Key × Value)
  distinct : RecordTable.DistinctKeys Prod.fst items
  deriving DecidableEq

namespace Dict

variable {Key Value : Type*} [DecidableEq Key]

def empty : Dict Key Value := ⟨[], List.nodup_nil⟩

def get (dict : Dict Key Value) (key : Key) : Option Value :=
  (lookup Prod.fst key dict.items).map Prod.snd

def contains (dict : Dict Key Value) (key : Key) : Bool := (dict.get key).isSome

def values (dict : Dict Key Value) : List Value := dict.items.map Prod.snd

def length (dict : Dict Key Value) : Nat := dict.items.length

variable {dict : Dict Key Value} {key : Key}

theorem get_eq_none : dict.get key = none ↔ ∀ item ∈ dict.items, item.1 ≠ key := by
  unfold get
  rw [Option.map_eq_none_iff]
  exact lookup_eq_none

variable {val : Value}

theorem get_eq_some : dict.get key = some val ↔ (key, val) ∈ dict.items := by
  unfold get
  constructor
  · intro found
    rcases Option.map_eq_some_iff.mp found with ⟨item, looked, isValue⟩
    have isKey : item.1 = key := lookup_key looked
    have mem := lookup_mem looked
    rw [← isKey, ← isValue]
    exact mem
  · intro mem
    rw [lookup_of_mem dict.distinct mem]
    rfl

def set (dict : Dict Key Value) (key : Key) (val : Value) : Dict Key Value :=
  if absent : dict.get key = none then
    ⟨dict.items ++ [(key, val)], distinct_append_singleton dict.distinct (get_eq_none.mp absent)⟩
  else
    ⟨replace Prod.fst (key, val) dict.items, distinct_replace.mpr dict.distinct⟩

/-- `d.pop(key, None)`. -/
def pop (dict : Dict Key Value) (key : Key) : Dict Key Value :=
  ⟨dict.items.filter fun item => decide (item.1 ≠ key), distinct_filter _ dict.distinct⟩

@[simp] theorem get_empty (key : Key) : (empty : Dict Key Value).get key = none := rfl

omit [DecidableEq Key] in
@[simp] theorem values_empty : (empty : Dict Key Value).values = [] := rfl

omit [DecidableEq Key] in
@[simp] theorem length_empty : (empty : Dict Key Value).length = 0 := rfl

theorem items_set_of_absent (absent : dict.get key = none) :
    (dict.set key val).items = dict.items ++ [(key, val)] := by
  unfold set
  rw [dif_pos absent]

theorem items_set_of_present (present : dict.get key ≠ none) :
    (dict.set key val).items = replace Prod.fst (key, val) dict.items := by
  unfold set
  rw [dif_neg present]

@[simp] theorem get_set_self (dict : Dict Key Value) (key : Key) (val : Value) :
    (dict.set key val).get key = some val := by
  by_cases absent : dict.get key = none
  · rw [get_eq_some, items_set_of_absent absent]
    simp
  · rcases Option.ne_none_iff_exists'.mp absent with ⟨old, found⟩
    rw [get_eq_some, items_set_of_present absent]
    exact updated_mem_replace (get_eq_some.mp found) rfl

theorem get_set_ne {other : Key} (differ : other ≠ key) :
    (dict.set key val).get other = dict.get other := by
  unfold get
  by_cases absent : dict.get key = none
  · rw [items_set_of_absent absent, lookup_append_ne]
    exact differ.symm
  · rw [items_set_of_present absent, lookup_replace_ne]
    exact differ

theorem get_set (dict : Dict Key Value) (key other : Key) (val : Value) :
    (dict.set key val).get other = if other = key then some val else dict.get other := by
  split_ifs with same
  · rw [same]
    exact get_set_self dict key val
  · exact get_set_ne same

theorem get_pop (dict : Dict Key Value) (key other : Key) :
    (dict.pop key).get other = if other = key then none else dict.get other := by
  split_ifs with same
  · rw [get_eq_none]
    intro item mem
    rw [same]
    simpa using (List.mem_filter.mp mem).2
  · apply Option.ext
    intro val
    rw [get_eq_some, get_eq_some]
    simp [pop, same]

@[simp] theorem get_pop_self (dict : Dict Key Value) (key : Key) : (dict.pop key).get key = none := by
  rw [get_pop, if_pos rfl]

theorem mem_values : val ∈ dict.values ↔ ∃ key, dict.get key = some val := by
  simp [values, get_eq_some]

theorem values_set_of_absent (absent : dict.get key = none) :
    (dict.set key val).values = dict.values ++ [val] := by
  unfold values
  rw [items_set_of_absent absent]
  simp

theorem values_pop_sublist (dict : Dict Key Value) (key : Key) :
    (dict.pop key).values.Sublist dict.values :=
  List.filter_sublist.map Prod.snd

omit [DecidableEq Key] in
theorem length_values (dict : Dict Key Value) : dict.values.length = dict.length := by
  simp [values, length]

theorem length_set_of_absent (absent : dict.get key = none) :
    (dict.set key val).length = dict.length + 1 := by
  unfold length
  rw [items_set_of_absent absent]
  simp

theorem keys_set_of_present (present : dict.get key ≠ none) :
    (dict.set key val).items.map Prod.fst = dict.items.map Prod.fst := by
  rw [items_set_of_present present]
  exact map_key_replace _ _

theorem length_set_of_present (present : dict.get key ≠ none) :
    (dict.set key val).length = dict.length := by
  unfold length
  rw [← List.length_map Prod.fst, keys_set_of_present present, List.length_map]

theorem keyed_set {read : Value → Key}
    (keyed : ∀ key val, dict.get key = some val → read val = key) (isKey : read val = key) :
    ∀ other stored, (dict.set key val).get other = some stored → read stored = other := by
  intro other stored found
  rw [get_set] at found
  split_ifs at found with same
  · cases found
    rw [isKey, same]
  · exact keyed other stored found

theorem keyed_values_nodup {read : Value → Key}
    (keyed : ∀ key val, dict.get key = some val → read val = key) :
    (dict.values.map read).Nodup := by
  have sameKeys : dict.values.map read = dict.items.map Prod.fst := by
    unfold values
    rw [List.map_map]
    apply List.map_congr_left
    intro item mem
    exact keyed item.1 item.2 (get_eq_some.mpr mem)
  rw [sameKeys]
  exact dict.distinct

theorem length_set_le (dict : Dict Key Value) (key : Key) (val : Value) :
    (dict.set key val).length ≤ dict.length + 1 := by
  by_cases absent : dict.get key = none
  · exact Nat.le_of_eq (length_set_of_absent absent)
  · exact Nat.le_succ_of_le (Nat.le_of_eq (length_set_of_present absent))

theorem length_pop_lt (found : dict.get key = some val) :
    (dict.pop key).length < dict.length := by
  refine List.length_filter_lt_length_iff_exists.mpr ⟨_, get_eq_some.mp found, ?_⟩
  simp

theorem length_pop_le (dict : Dict Key Value) (key : Key) : (dict.pop key).length ≤ dict.length :=
  List.length_filter_le _ _

end Dict

end RtspProxy.Lib
