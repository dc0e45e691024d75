import Mathlib.Data.List.Basic
import Mathlib.Tactic.Common

/-!
# Following a feed of numbered entries

A reader collects entries of a feed and, when it lost the connection, resumes
after the number of the last one it has. Some entries show the whole state, some
ask the reader to start over. A log is covered when it has the latest state or was
asked to start over and has seen no state since; it resumes well when every prefix
of it that ends at or past the latest state is covered.
-/

namespace RtspProxy.Lib

open List

/-- What a reader looks at in an entry. -/
structure Feed (Entry : Type) where
  number : Entry → Option Nat
  isState : Entry → Prop
  startsOver : Entry → Prop

namespace Feed

variable {Entry : Type} (feed : Feed Entry)

def lastNumber (log : List Entry) : Option Nat := (log.filterMap feed.number).getLast?

/-- The reader was asked to start over and has seen no state since. -/
def Behind (log : List Entry) : Prop :=
  ∃ pre req post, log = pre ++ req :: post ∧ feed.startsOver req ∧
    ∀ entry ∈ post, ¬ feed.isState entry

def Covered (log : List Entry) (latest : Entry) : Prop := latest ∈ log ∨ feed.Behind log

/-- Wherever the reader stops, it is covered if what it has reaches the latest state. -/
def Resumes (log : List Entry) (latest : Entry) (latestNumber : Nat) : Prop :=
  ∀ read, read <+: log → ∀ number, feed.lastNumber read = some number → latestNumber ≤ number →
    feed.Covered read latest

def missed (number : Entry → Option Nat) (hist : List Entry) (post : Nat) : List Entry :=
  hist.filter fun entry => (number entry).any fun found => decide (post < found)

variable {feed} {log more : List Entry} {latest entry : Entry} {latestNumber : Nat}

theorem last_number_mem {number : Nat} (isLast : feed.lastNumber log = some number) :
    ∃ found ∈ log, feed.number found = some number :=
  mem_filterMap.mp (mem_of_getLast? isLast)

theorem last_number_append (log more : List Entry) :
    feed.lastNumber (log ++ more) = (feed.lastNumber more).or (feed.lastNumber log) := by
  simp [lastNumber, filterMap_append, getLast?_append]

theorem behind_append (behind : feed.Behind log) (noState : ∀ entry ∈ more, ¬ feed.isState entry) :
    feed.Behind (log ++ more) := by
  obtain ⟨pre, req, post, rfl, startsOver, none⟩ := behind
  refine ⟨pre, req, post ++ more, by simp, startsOver, ?_⟩
  intro entry mem
  rcases mem_append.mp mem with inAfter | inMore
  · exact none entry inAfter
  · exact noState entry inMore

theorem behind_of_request (startsOver : feed.startsOver entry) : feed.Behind (log ++ [entry]) :=
  ⟨log, entry, [], rfl, startsOver, fun _ mem => nomatch mem⟩

theorem covered_append (covered : feed.Covered log latest)
    (onlyLatest : ∀ entry ∈ more, feed.isState entry → entry = latest) :
    feed.Covered (log ++ more) latest := by
  by_cases shown : latest ∈ more
  · exact .inl (mem_append_right _ shown)
  rcases covered with mem | behind
  · exact .inl (mem_append_left _ mem)
  · refine .inr (behind_append behind fun entry mem isState => shown ?_)
    exact onlyLatest entry mem isState ▸ mem

theorem resumes_prefix {shorter : List Entry} (resumes : feed.Resumes log latest latestNumber)
    (isPrefix : shorter <+: log) : feed.Resumes shorter latest latestNumber :=
  fun read isRead => resumes read (isRead.trans isPrefix)

theorem resumes_earlier
    (earlier : ∀ entry ∈ log, ∀ number, feed.number entry = some number → number < latestNumber) :
    feed.Resumes log latest latestNumber := by
  intro read isPrefix number isLast reaches
  obtain ⟨found, mem, isNumber⟩ := last_number_mem isLast
  exact absurd (earlier found (isPrefix.subset mem) number isNumber) (Nat.not_lt.mpr reaches)

theorem resumes_append (resumes : feed.Resumes log latest latestNumber)
    (covered : feed.Covered (log ++ [entry]) latest) :
    feed.Resumes (log ++ [entry]) latest latestNumber := by
  intro read isPrefix number isLast reaches
  rcases prefix_concat_iff.mp isPrefix with isAll | isShorter
  · rw [isAll]
    exact covered
  · exact resumes read isShorter number isLast reaches

theorem missed_latest {hist : List Entry} {last : Nat}
    (isNumber : feed.number latest = some latestNumber)
    (kept : latest ∈ hist ∨ ∀ entry ∈ hist, ∀ number, feed.number entry = some number →
      latestNumber < number)
    (inRange : ∃ first ∈ hist, ∃ number, feed.number first = some number ∧ number ≤ last)
    (pre : last < latestNumber) : latest ∈ missed feed.number hist last := by
  rcases kept with mem | allLater
  · exact mem_filter.mpr ⟨mem, by simp [isNumber, pre]⟩
  · obtain ⟨first, mem, number, isFirst, low⟩ := inRange
    have := allLater first mem number isFirst
    omega

theorem missed_no_state {hist : List Entry} {last : Nat}
    (noLaterState : ∀ entry ∈ hist, feed.isState entry → ∀ number,
      feed.number entry = some number → number ≤ latestNumber) (reaches : latestNumber ≤ last) :
    ∀ entry ∈ missed feed.number hist last, ¬ feed.isState entry := by
  intro entry mem isState
  obtain ⟨inHistory, later⟩ := mem_filter.mp mem
  obtain ⟨number, numbered, post⟩ := (Option.any_eq_true _ _).mp later
  have := noLaterState entry inHistory isState number numbered
  have := of_decide_eq_true post
  omega

theorem resumes_missed {more : List Entry} (isNumber : feed.number latest = some latestNumber)
    (resumes : feed.Resumes log latest latestNumber)
    (numbered : ∀ entry ∈ more, ∃ number, feed.number entry = some number)
    (increasing : more.Pairwise fun earlier later => ∀ first second,
      feed.number earlier = some first → feed.number later = some second → first < second)
    (mem : latest ∈ more) : feed.Resumes (log ++ more) latest latestNumber := by
  intro read isPrefix number isLast reaches
  rcases prefix_or_prefix_of_prefix isPrefix (prefix_append log more) with
    isShorter | ⟨taken, rfl⟩
  · exact resumes read isShorter number isLast reaches
  obtain ⟨rest, rfl⟩ := (prefix_append_right_inj log).mp isPrefix
  rcases mem_append.mp mem with inTaken | inRest
  · exact .inl (mem_append_right _ inTaken)
  cases isTaken : feed.lastNumber taken with
  | none =>
    have isEmpty : taken = [] := by
      refine eq_nil_iff_forall_not_mem.mpr fun entry inTaken => ?_
      obtain ⟨found, isFound⟩ := numbered entry (mem_append_left _ inTaken)
      have nothing := getLast?_eq_none_iff.mp isTaken
      have inNumbers : found ∈ taken.filterMap feed.number :=
        mem_filterMap.mpr ⟨entry, inTaken, isFound⟩
      rw [nothing] at inNumbers
      cases inNumbers
    rw [isEmpty, append_nil] at isLast ⊢
    exact resumes log (prefix_refl _) number isLast reaches
  | some found =>
    obtain ⟨entry, inTaken, isFound⟩ := last_number_mem isTaken
    rw [last_number_append, isTaken] at isLast
    obtain rfl : found = number := Option.some.inj isLast
    have pre := (pairwise_append.mp increasing).2.2 entry inTaken latest inRest found
      latestNumber isFound isNumber
    omega

theorem resumes_quiet (more : List Entry) (resumes : feed.Resumes log latest latestNumber)
    (covered : feed.Covered log latest)
    (onlyLatest : ∀ entry ∈ more, feed.isState entry → entry = latest) :
    feed.Resumes (log ++ more) latest latestNumber := by
  intro read isPrefix number isLast reaches
  rcases prefix_or_prefix_of_prefix isPrefix (prefix_append log more) with
    isShorter | ⟨taken, rfl⟩
  · exact resumes read isShorter number isLast reaches
  obtain ⟨rest, rfl⟩ := (prefix_append_right_inj log).mp isPrefix
  exact covered_append covered fun entry inTaken =>
    onlyLatest entry (mem_append_left _ inTaken)

end Feed

end RtspProxy.Lib
