import Mathlib.Logic.Function.Basic
import Mathlib.Data.List.Nodup
import Mathlib.Tactic.Common

/-!
# Ledgers of requests

Requests carry a key and a content. For each key the ledger holds the content the
key was first used with and, once it was made, the record that stands for it. A
step takes a key that is unused, or makes the record of a key that is still
open; it also notes what it made. However long a ledger is used, no key is ever
given two records, and neither its content nor its record changes again.
-/

namespace RtspProxy.Lib

open Function

structure LedgerEntry (Content Id : Type) where
  content : Content
  target : Option Id

structure Ledger (Key Content Id : Type) where
  entry : Key → Option (LedgerEntry Content Id)
  /-- The records made so far, the newest first. -/
  made : List (Key × Id)

namespace Ledger

variable {Key Content Id : Type} [DecidableEq Key]

inductive Step (ledger : Ledger Key Content Id) : Ledger Key Content Id → Prop
  | skip : Step ledger ledger
  | reserve (key : Key) (content : Content) (unused : ledger.entry key = none) :
      Step ledger { ledger with
        entry := update ledger.entry key (some ⟨content, none⟩) }
  | complete (key : Key) (content : Content) (id : Id)
      (isOpen : ledger.entry key = none ∨ ledger.entry key = some ⟨content, none⟩) :
      Step ledger
        { entry := update ledger.entry key (some ⟨content, some id⟩)
          made := (key, id) :: ledger.made }

/-- The ledger knows exactly the records that were made, one for a key. -/
structure Consistent (ledger : Ledger Key Content Id) : Prop where
  once : (ledger.made.map Prod.fst).Nodup
  recorded : ∀ key id, (key, id) ∈ ledger.made ↔
    ∃ content, ledger.entry key = some ⟨content, some id⟩

def Held (ledger : Ledger Key Content Id) (key : Key) (content : Content) : Prop :=
  ∃ target, ledger.entry key = some ⟨content, target⟩

def Settled (ledger : Ledger Key Content Id) (key : Key) (content : Content) (id : Id) : Prop :=
  ledger.entry key = some ⟨content, some id⟩

structure Extends (pre post : Ledger Key Content Id) : Prop where
  held : ∀ key content, pre.Held key content → post.Held key content
  settled : ∀ key content id, pre.Settled key content id → post.Settled key content id

variable {pre post : Ledger Key Content Id}

theorem step_extends (step : Step pre post) : Extends pre post := by
  cases step with
  | skip => exact ⟨fun _ _ held => held, fun _ _ _ settled => settled⟩
  | reserve key content unused =>
    refine ⟨?_, ?_⟩
    · rintro other held ⟨target, found⟩
      by_cases same : other = key
      · rw [same, unused] at found
        cases found
      · exact ⟨target, (update_of_ne same _ _).trans found⟩
    · intro other held id found
      by_cases same : other = key
      · rw [Settled, same, unused] at found
        cases found
      · exact (update_of_ne same _ _).trans found
  | complete key content id isOpen =>
    refine ⟨?_, ?_⟩
    · rintro other held ⟨target, found⟩
      by_cases same : other = key
      · subst same
        refine ⟨some id, ?_⟩
        rw [found] at isOpen
        rcases isOpen with ⟨⟨⟩⟩ | ⟨⟨⟩⟩
        exact update_self _ _ _
      · exact ⟨target, (update_of_ne same _ _).trans found⟩
    · intro other held made found
      by_cases same : other = key
      · rw [Settled, same] at found
        rw [found] at isOpen
        rcases isOpen with ⟨⟨⟩⟩ | ⟨⟨⟩⟩
      · exact (update_of_ne same _ _).trans found

omit [DecidableEq Key] in
theorem open_not_made (consistent : Consistent pre) {key : Key} {content : Content}
    (isOpen : pre.entry key = none ∨ pre.entry key = some ⟨content, none⟩) :
    key ∉ pre.made.map Prod.fst := by
  intro mem
  obtain ⟨⟨_, id⟩, made, rfl⟩ := List.mem_map.mp mem
  obtain ⟨recorded, found⟩ := (consistent.recorded _ id).mp made
  rw [found] at isOpen
  rcases isOpen with ⟨⟨⟩⟩ | ⟨⟨⟩⟩

theorem step_consistent (consistent : Consistent pre) (step : Step pre post) :
    Consistent post := by
  cases step with
  | skip => exact consistent
  | reserve key content unused =>
    refine ⟨consistent.once, ?_⟩
    intro other id
    rw [consistent.recorded]
    by_cases same : other = key
    · subst same
      simp only [unused, update_self, reduceCtorEq, Option.some.injEq,
        LedgerEntry.mk.injEq, and_false]
    · simp only [update_of_ne same]
  | complete key content id isOpen =>
    have absent := open_not_made consistent isOpen
    refine ⟨List.nodup_cons.mpr ⟨absent, consistent.once⟩, ?_⟩
    intro other made
    rw [List.mem_cons, Prod.mk.injEq]
    by_cases same : other = key
    · subst same
      have notMade : (other, made) ∉ pre.made :=
        fun mem => absent (List.mem_map.mpr ⟨_, mem, rfl⟩)
      simp only [true_and, notMade, or_false, update_self, Option.some.injEq,
        LedgerEntry.mk.injEq, exists_eq_left', eq_comm]
    · simp only [same, false_and, false_or, update_of_ne same]
      exact consistent.recorded other made

end Ledger

end RtspProxy.Lib
