import RtspProxy.Lib.Json

/-!
# Strict schemas for JSON documents

A reader accepts a document and returns its value. Nothing is converted, and an
object may hold no key that its schema does not name. What a reader makes of a
document does not depend on the order of the keys, so that it undoes a writer that
sorts them.
-/

namespace RtspProxy.Lib.Schema

open List

abbrev Reader (Value : Type) := Json → Option Value

section Readers

variable {Value : Type}

def boolean : Reader Bool
  | .bool val => some val
  | _ => none

def integer : Reader Int
  | .int val => some val
  | _ => none

def text : Reader String
  | .str val => some val
  | _ => none

def nullable (read : Reader Value) : Reader (Option Value)
  | .null => some none
  | json => (read json).map some

def list (read : Reader Value) : Reader (List Value)
  | .arr items => items.mapM read
  | _ => none

def satisfying (holds : Value → Prop) [DecidablePred holds] (read : Reader Value) : Reader Value :=
  fun json => (read json).filter holds

/-- The members of an object that has no other keys than these. -/
def fieldsOf (keys : List String) : Json → Option Members
  | .obj members => if ∀ mem ∈ members, mem.1 ∈ keys then some members else none
  | _ => none

def required (read : Reader Value) (members : Members) (key : String) : Option Value :=
  (members.lookup key).bind read

def defaulted (read : Reader Value) (default : Value) (members : Members) (key : String) :
    Option Value :=
  match members.lookup key with
  | some json => read json
  | none => some default

variable {read : Reader Value} {val : Value}

theorem satisfying_some {holds : Value → Prop} [DecidablePred holds] {json : Json} :
    satisfying holds read json = some val ↔ read json = some val ∧ holds val := by
  simp [satisfying, Option.filter_eq_some_iff]

theorem required_some {members : Members} {key : String} :
    required read members key = some val ↔
      ∃ json, members.lookup key = some json ∧ read json = some val := Option.bind_eq_some_iff

theorem nullable_some {json : Json}
    (isRead : nullable read json = some (some val)) : read json = some val := by
  cases json with
  | null => cases isRead
  | _ =>
    obtain ⟨found, isFound, same⟩ := Option.map_eq_some_iff.mp isRead
    rw [isFound, Option.some.inj same]

theorem defaulted_nullable_some {members : Members} {key : String}
    (isRead : defaulted (nullable read) none members key = some (some val)) :
    ∃ json, read json = some val := by
  unfold defaulted at isRead
  split at isRead
  · exact ⟨_, nullable_some isRead⟩
  · cases isRead

end Readers

section Sorted

variable {Value : Type}

def sortedMembers (members : Members) : Members :=
  (Json.sortMembers members).insertionSort fun left right => left.1 ≤ right.1

variable {members : Members} {key : String}

theorem mem_of_lookup {val : Json}
    (found : members.lookup key = some val) : (key, val) ∈ members := by
  induction members with
  | nil => cases found
  | cons mem rest ih =>
    obtain ⟨name, other⟩ := mem
    by_cases isKey : key = name
    · rw [lookup_cons, isKey, beq_self_eq_true] at found
      rw [isKey, Option.some.inj found]
      exact mem_cons_self
    · rw [lookup_cons, beq_false_of_ne isKey] at found
      exact mem_cons_of_mem _ (ih found)

theorem lookup_of_mem {val : Json}
    (distinct : (members.map Prod.fst).Nodup) (mem : (key, val) ∈ members) :
    members.lookup key = some val := by
  induction members with
  | nil => cases mem
  | cons first rest ih =>
    rw [map_cons, nodup_cons] at distinct
    rcases mem_cons.mp mem with rfl | later
    · rw [lookup_cons, beq_self_eq_true]
    · have other : key ≠ first.1 := by
        rintro rfl
        exact distinct.1 (mem_map.mpr ⟨_, later, rfl⟩)
      rw [lookup_cons, beq_false_of_ne other]
      exact ih distinct.2 later

theorem sort_members_map (members : Members) :
    Json.sortMembers members = members.map fun mem => (mem.1, mem.2.sortKeys) := by
  induction members with
  | nil => rfl
  | cons mem rest ih => rw [Json.sortMembers, ih, map_cons]

theorem sort_items_map (items : List Json) : Json.sortItems items = items.map Json.sortKeys := by
  induction items with
  | nil => rfl
  | cons item rest ih => rw [Json.sortItems, ih, map_cons]

theorem sorted_keys (members : Members) :
    ((sortedMembers members).map Prod.fst).Perm (members.map Prod.fst) := by
  refine ((perm_insertionSort _ _).map Prod.fst).trans ?_
  rw [sort_members_map, map_map]
  exact List.Perm.refl _

variable {json : Json}

theorem lookup_sorted
    (distinct : (members.map Prod.fst).Nodup) (found : members.lookup key = some json) :
    (sortedMembers members).lookup key = some json.sortKeys := by
  refine lookup_of_mem ((sorted_keys members).nodup_iff.mpr distinct) ?_
  rw [sortedMembers, mem_insertionSort, sort_members_map]
  exact mem_map_of_mem (mem_of_lookup found)

theorem lookup_sorted_none
    (missing : key ∉ members.map Prod.fst) : (sortedMembers members).lookup key = none := by
  rw [lookup_eq_none_iff]
  intro mem inSorted
  refine bne_iff_ne.mpr ?_
  rintro rfl
  exact missing ((sorted_keys members).mem_iff.mp (mem_map_of_mem inSorted))

theorem fields_of_sorted {keys : List String} (within : ∀ key ∈ members.map Prod.fst, key ∈ keys) :
    fieldsOf keys (Json.sortKeys (.obj members)) = some (sortedMembers members) := by
  refine if_pos ?_
  intro mem inSorted
  exact within _ ((sorted_keys members).mem_iff.mp (mem_map_of_mem inSorted))

variable {read : Reader Value}

theorem required_sorted
    (distinct : (members.map Prod.fst).Nodup) (found : members.lookup key = some json) :
    required read (sortedMembers members) key = read json.sortKeys := by
  rw [required, lookup_sorted distinct found, Option.bind_some]

theorem defaulted_sorted {default : Value} (distinct : (members.map Prod.fst).Nodup)
    (found : members.lookup key = some json) :
    defaulted read default (sortedMembers members) key = read json.sortKeys := by
  rw [defaulted, lookup_sorted distinct found]

theorem defaulted_missing {default : Value} (missing : key ∉ members.map Prod.fst) :
    defaulted read default (sortedMembers members) key = some default := by
  rw [defaulted, lookup_sorted_none missing]

theorem list_sorted {Item : Type} {write : Item → Json} {valueOf : Item → Value} {items : List Item}
    (reads : ∀ item ∈ items, read (write item).sortKeys = some (valueOf item)) :
    list read (Json.sortKeys (.arr (items.map write))) = some (items.map valueOf) := by
  rw [Json.sortKeys, sort_items_map, list]
  induction items with
  | nil => rfl
  | cons item rest ih =>
    rw [map_cons, map_cons, mapM_cons, reads item mem_cons_self,
      ih fun other mem => reads other (mem_cons_of_mem _ mem)]
    rfl

theorem satisfying_of {holds : Value → Prop} [DecidablePred holds] {val : Value}
    (isRead : read json = some val) (isHeld : holds val) :
    satisfying holds read json = some val := satisfying_some.mpr ⟨isRead, isHeld⟩

theorem nullable_object {val : Value}
    (isRead : read (Json.sortKeys (.obj members)) = some val) :
    nullable read (Json.sortKeys (.obj members)) = some (some val) := by
  change (read (Json.sortKeys (.obj members))).map some = some (some val)
  rw [isRead, Option.map_some]

end Sorted

end RtspProxy.Lib.Schema
