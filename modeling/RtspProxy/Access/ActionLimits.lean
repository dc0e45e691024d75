import Mathlib.Algebra.Order.Ring.Int
import Mathlib.Data.List.Count
import Mathlib.Logic.Function.Basic
import RtspProxy.Nodes.Records

/-!
# The rate limit of operator actions

`PostgresOperatorSessionStore.claim_operator_action` for one account, one bucket,
one limit and one window. A call is a transaction: it reads the clock, tries to
insert the row and, where there is one, locks it before it reads it, so the
clock readings reach the row in any order. A transaction may end without effect
at every point. Times and spans are in microseconds.

Answers are recorded with the window start the row had afterwards. By `Accounted`
windows are at least one length apart, and a window accepts no more calls than the
row has counted.
-/

namespace RtspProxy.Access.ActionLimits

open Nodes Function List

/-- A row of `operator_action_rate_limits`. -/
structure ActionLimit where
  windowStartedAt : Int
  used : Int

/-- `math.ceil(delta.total_seconds())`, of microseconds. -/
def ceilSeconds (delta : Int) : Int := -(-delta / 1000000)

/-- The arguments for which `claim_operator_action` does not raise a `ValueError`. -/
def validArguments (limit windowSeconds : Int) : Bool :=
  !(limit < 1 || !(1 ≤ windowSeconds && windowSeconds ≤ 3600))

/-- What is done with the locked row: the result, and the row afterwards. -/
def claimLocked (limit window : Int) (now : Int) (row : ActionLimit) : Int × ActionLimit :=
  if now ≥ row.windowStartedAt + window then (0, { windowStartedAt := now, used := 1 })
  else if row.used ≥ limit then (max 1 (ceilSeconds (row.windowStartedAt + window - now)), row)
  else (0, { row with used := row.used + 1 })

/-- How far a transaction has come, with the values it has read. -/
inductive Progress
  -- after `SELECT clock_timestamp()`
  | timed (now : Int)
  -- after the `INSERT` that returned a row
  | inserted (now : Int)
  -- after the `INSERT` that found a conflict
  | conflicted (now : Int)
  -- after `SELECT .. FOR UPDATE`
  | locked (now : Int) (row : ActionLimit)

/-- A committed call: its clock reading, its result, and the window of the row afterwards. -/
structure Answer where
  now : Int
  result : Int
  windowStartedAt : Int

def Answer.accepted (ans : Answer) : Bool := ans.result = 0

structure World where
  row : Option ActionLimit := none
  /-- The transaction that has inserted or locked the row. -/
  holder : Option Nat := none
  calls : Nat → Option Progress := fun _ => none
  answers : List Answer := []

namespace World

variable {limit window : Int} {w after : World}

def advance (w : World) (call : Nat) (progress : Progress) : World :=
  { w with calls := update w.calls call (some progress) }

def commit (w : World) (call : Nat) (now : Int) (out : Int × ActionLimit) : World :=
  { row := some out.2
    holder := none
    calls := update w.calls call none
    answers := w.answers ++
      [{ now, result := out.1, windowStartedAt := out.2.windowStartedAt }] }

inductive Step (limit window : Int) (w : World) : World → Prop
  | readClock (call : Nat) (now : Int) (idle : w.calls call = none) :
      Step limit window w (w.advance call (.timed now))
  | insert (call : Nat) (now : Int) (timed : w.calls call = some (.timed now))
      (absent : w.row = none) (free : w.holder = none) :
      Step limit window w { w.advance call (.inserted now) with holder := some call }
  | conflict (call : Nat) (now : Int) (timed : w.calls call = some (.timed now))
      (present : w.row ≠ none) :
      Step limit window w (w.advance call (.conflicted now))
  | lock (call : Nat) (now : Int) (row : ActionLimit)
      (conflicted : w.calls call = some (.conflicted now))
      (present : w.row = some row) (free : w.holder = none) :
      Step limit window w { w.advance call (.locked now row) with holder := some call }
  | commitInsert (call : Nat) (now : Int)
      (inserted : w.calls call = some (.inserted now)) :
      Step limit window w
        (w.commit call now (0, { windowStartedAt := now, used := 1 }))
  | commitLocked (call : Nat) (now : Int) (row : ActionLimit)
      (locked : w.calls call = some (.locked now row)) :
      Step limit window w (w.commit call now (claimLocked limit window now row))
  | rollback (call : Nat) :
      Step limit window w
        { w with
          holder := if w.holder = some call then none else w.holder
          calls := update w.calls call none }

inductive Reaches (limit window : Int) (start : World) : World → Prop
  | refl : Reaches limit window start start
  | step {w after : World} (reached : Reaches limit window start w)
      (next : Step limit window w after) : Reaches limit window start after

/-- An open insertion or lock is that of the holder, and the row has not changed since. -/
structure Locked (w : World) : Prop where
  inserted : ∀ call now, w.calls call = some (.inserted now) → w.holder = some call ∧ w.row = none
  locked : ∀ call now row, w.calls call = some (.locked now row) →
    w.holder = some call ∧ w.row = some row

variable {answers : List Answer} {row : Option ActionLimit}

theorem Locked.update (locks : Locked w) {call : Nat} {progress : Option Progress}
    {holder : Option Nat}
    (others : ∀ other, other ≠ call → w.holder = some other → holder = some other ∧ row = w.row)
    (inserted : ∀ now, progress = some (.inserted now) → holder = some call ∧ row = none)
    (locked : ∀ now seen, progress = some (.locked now seen) →
      holder = some call ∧ row = some seen) :
    Locked { row, holder, calls := update w.calls call progress, answers } := by
  constructor
  · intro other now found
    dsimp only at found
    by_cases same : other = call
    · rw [same, update_self] at found
      rw [same]
      exact inserted now found
    · rw [update_of_ne same] at found
      obtain ⟨held, unset⟩ := locks.inserted other now found
      obtain ⟨stillHeld, sameRow⟩ := others other same held
      exact ⟨stillHeld, sameRow.trans unset⟩
  · intro other now seen found
    dsimp only at found
    by_cases same : other = call
    · rw [same, update_self] at found
      rw [same]
      exact locked now seen found
    · rw [update_of_ne same] at found
      obtain ⟨held, isRow⟩ := locks.locked other now seen found
      obtain ⟨stillHeld, sameRow⟩ := others other same held
      exact ⟨stillHeld, sameRow.trans isRow⟩

theorem Locked.step (locks : Locked w) (next : Step limit window w after) :
    Locked after := by
  have alone {call : Nat} (held : w.holder = some call) {row : Option ActionLimit} :
      ∀ other, other ≠ call → w.holder = some other →
        (none : Option Nat) = some other ∧ row = w.row := by
    intro other differ heldToo
    exact absurd (Option.some.inj (heldToo.symm.trans held)) differ
  have nobody {call : Nat} (free : w.holder = none) :
      ∀ other, other ≠ call → w.holder = some other → some call = some other ∧ w.row = w.row := by
    intro other _ held
    rw [free] at held
    cases held
  cases next with
  | readClock call now idle =>
    exact locks.update (fun _ _ held => ⟨held, rfl⟩) (by simp) (by simp)
  | insert call now timed absent free =>
    exact locks.update (nobody free) (fun _ _ => ⟨rfl, absent⟩) (by simp)
  | conflict call now timed present =>
    exact locks.update (fun _ _ held => ⟨held, rfl⟩) (by simp) (by simp)
  | lock call now row conflicted present free =>
    refine locks.update (nobody free) (by simp) ?_
    intro _ seen isLocked
    cases isLocked
    exact ⟨rfl, present⟩
  | commitInsert call now inserted =>
    exact locks.update (alone (locks.inserted call now inserted).1) (by simp) (by simp)
  | commitLocked call now row locked =>
    exact locks.update (alone (locks.locked call now row locked).1) (by simp) (by simp)
  | rollback call =>
    refine locks.update ?_ (by simp) (by simp)
    intro other differ held
    rw [held, if_neg fun same => differ (Option.some.inj same)]
    exact ⟨rfl, rfl⟩

theorem step_effect (locks : Locked w) (next : Step limit window w after) :
    (after.row = w.row ∧ after.answers = w.answers) ∨
    ∃ now out, after.row = some out.2 ∧
      after.answers = w.answers ++ [⟨now, out.1, out.2.windowStartedAt⟩] ∧
      ((w.row = none ∧ out = (0, ⟨now, 1⟩)) ∨
        ∃ row, w.row = some row ∧ out = claimLocked limit window now row) := by
  cases next with
  | readClock | insert | conflict | lock | rollback => exact .inl ⟨rfl, rfl⟩
  | commitInsert call now inserted =>
    exact .inr ⟨now, _, rfl, rfl, .inl ⟨(locks.inserted call now inserted).2, rfl⟩⟩
  | commitLocked call now row locked =>
    exact .inr ⟨now, _, rfl, rfl, .inr ⟨row, (locks.locked call now row locked).2, rfl⟩⟩

def inWindow (start : Int) (answers : List Answer) : Nat :=
  answers.countP fun ans => ans.accepted && decide (ans.windowStartedAt = start)

structure Accounted (limit window : Int) (row : Option ActionLimit) (answers : List Answer) :
    Prop where
  fresh : row = none → answers = []
  within : ∀ start, (inWindow start answers : Int) ≤ limit
  counted : ∀ cur ∈ row, (inWindow cur.windowStartedAt answers : Int) = cur.used
  apart : ∀ one ∈ answers, ∀ other ∈ answers, one.windowStartedAt = other.windowStartedAt ∨
    one.windowStartedAt + window ≤ other.windowStartedAt ∨
    other.windowStartedAt + window ≤ one.windowStartedAt
  latest : ∀ cur ∈ row, ∀ ans ∈ answers,
    ans.windowStartedAt = cur.windowStartedAt ∨ ans.windowStartedAt + window ≤ cur.windowStartedAt
  early : ∀ ans ∈ answers, ans.accepted = true → ans.now < ans.windowStartedAt + window
  promised : ∀ earlier refused, answers = earlier ++ [refused] → refused.accepted = false →
    ∀ cur ∈ row, cur.windowStartedAt + window ≤ refused.now + refused.result * 1000000
  kept : ∀ earlier refused next later, answers = earlier ++ refused :: next :: later →
    refused.accepted = false → refused.now + refused.result * 1000000 ≤ next.now →
    next.accepted = true

theorem split_last {earlier later : List Answer} {last refused next : Answer}
    (shape : answers ++ [last] = earlier ++ refused :: next :: later) :
    (later = [] ∧ next = last ∧ answers = earlier ++ [refused]) ∨
      ∃ rest, answers = earlier ++ refused :: next :: rest := by
  rcases eq_nil_or_concat later with rfl | ⟨rest, final, rfl⟩
  · have same : answers ++ [last] = (earlier ++ [refused]) ++ [next] := by simpa using shape
    obtain ⟨pre, isLast⟩ := append_inj' same rfl
    exact .inl ⟨rfl, (cons.inj isLast).1.symm, pre⟩
  · have same : answers ++ [last] = (earlier ++ refused :: next :: rest) ++ [final] := by
      simpa using shape
    exact .inr ⟨rest, (append_inj' same rfl).1⟩

theorem in_window_append (start : Int) (answers : List Answer) (ans : Answer) :
    inWindow start (answers ++ [ans]) = inWindow start answers +
        if ans.accepted = true ∧ ans.windowStartedAt = start then 1 else 0 := by
  simp [inWindow, countP_append, countP_singleton]

/-- What an answer must respect to be recorded, and the row it is recorded with. -/
structure Follows (limit window : Int) (row : Option ActionLimit) (answers : List Answer)
    (ans : Answer) (cur : ActionLimit) : Prop where
  start : ans.windowStartedAt = cur.windowStartedAt
  within : cur.used ≤ limit
  counted : (inWindow cur.windowStartedAt answers : Int) +
    (if ans.accepted = true then 1 else 0) = cur.used
  latest : ∀ other ∈ answers, other.windowStartedAt = cur.windowStartedAt ∨
    other.windowStartedAt + window ≤ cur.windowStartedAt
  early : ans.accepted = true → ans.now < cur.windowStartedAt + window
  promised : ans.accepted = false → cur.windowStartedAt + window ≤ ans.now + ans.result * 1000000
  kept : ∀ earlier refused, answers = earlier ++ [refused] → refused.accepted = false →
    refused.now + refused.result * 1000000 ≤ ans.now → ans.accepted = true

theorem Accounted.append {ans : Answer}
    {cur : ActionLimit} (accounted : Accounted limit window row answers)
    (follows : Follows limit window row answers ans cur) :
    Accounted limit window (some cur) (answers ++ [ans]) where
  fresh := by simp
  within := by
    intro start
    rw [in_window_append, follows.start]
    have others := accounted.within start
    by_cases own : cur.windowStartedAt = start
    · subst own
      have counted := follows.counted
      have within := follows.within
      split_ifs at counted ⊢ <;> simp_all
    · simpa [own] using others
  counted := by
    intro found isFound
    cases isFound
    rw [in_window_append, follows.start, ← follows.counted]
    cases ans.accepted <;> simp
  apart := by
    intro one oneMember other otherMember
    simp only [mem_append, mem_singleton] at oneMember otherMember
    rcases oneMember with oneBefore | rfl <;> rcases otherMember with otherBefore | rfl
    · exact accounted.apart one oneBefore other otherBefore
    · rw [follows.start]
      exact (follows.latest one oneBefore).imp_right .inl
    · rw [follows.start]
      exact (follows.latest other otherBefore).imp Eq.symm .inr
    · exact .inl rfl
  latest := by
    intro found isFound other mem
    cases isFound
    rcases mem_append.mp mem with pre | isLast
    · exact follows.latest other pre
    · rw [mem_singleton.mp isLast]
      exact .inl follows.start
  early := by
    intro other mem isAccepted
    rcases mem_append.mp mem with pre | isLast
    · exact accounted.early other pre isAccepted
    · rw [mem_singleton.mp isLast] at isAccepted ⊢
      rw [follows.start]
      exact follows.early isAccepted
  promised := by
    intro earlier refused shape isRefused found isFound
    cases isFound
    obtain ⟨_, isLast⟩ := append_inj' shape rfl
    rw [← (cons.inj isLast).1] at isRefused ⊢
    exact follows.promised isRefused
  kept := by
    intro earlier refused next later shape isRefused waited
    rcases split_last shape with ⟨_, rfl, pre⟩ | ⟨rest, pre⟩
    · exact follows.kept earlier refused pre isRefused waited
    · exact accounted.kept earlier refused next rest pre isRefused waited

theorem insert_follows (pos : 1 ≤ limit) (windowPositive : 0 < window) (now : Int) :
    Follows limit window none [] ⟨now, 0, now⟩ ⟨now, 1⟩ := by
  refine ⟨rfl, pos, by simp [inWindow, Answer.accepted], by simp,
    fun _ => Int.lt_add_of_pos_right now windowPositive, by simp [Answer.accepted], ?_⟩
  intro earlier refused shape
  simp at shape

/-- Whatever the clock reading, what is done with the locked row respects the record. -/
theorem claim_locked_follows {row : ActionLimit}
    (accounted : Accounted limit window (some row) answers) (pos : 1 ≤ limit)
    (windowPositive : 0 < window) (now : Int) :
    Follows limit window (some row) answers
      ⟨now, (claimLocked limit window now row).1,
        (claimLocked limit window now row).2.windowStartedAt⟩
      (claimLocked limit window now row).2 := by
  have latest := accounted.latest row rfl
  have counted := accounted.counted row rfl
  unfold claimLocked
  split_ifs with passed full
  · -- a new window: no answer stands for it yet
    have unused : inWindow now answers = 0 := by
      rw [inWindow, countP_eq_zero]
      intro ans mem isCounted
      simp only [Bool.and_eq_true, decide_eq_true_eq] at isCounted
      rcases latest ans mem with same | pre <;> omega
    refine ⟨rfl, pos, by simp [unused, Answer.accepted], ?_,
      fun _ => Int.lt_add_of_pos_right now windowPositive, by simp [Answer.accepted],
      by simp [Answer.accepted]⟩
    intro ans mem
    right
    rcases latest ans mem with same | pre <;> dsimp only <;> omega
  · -- refused: the promise covers the rest of the window
    have refused : max 1 (ceilSeconds (row.windowStartedAt + window - now)) ≠ 0 := by omega
    have isRefused : (⟨now, max 1 (ceilSeconds (row.windowStartedAt + window - now)),
        row.windowStartedAt⟩ : Answer).accepted = false := by
      simpa [Answer.accepted] using refused
    refine ⟨rfl, ?_, by simpa [isRefused] using counted, latest, ?_, ?_, ?_⟩
    · rw [← counted]
      exact accounted.within row.windowStartedAt
    · rw [isRefused]
      simp
    · intro _
      dsimp only
      unfold ceilSeconds
      omega
    · intro earlier pre shape beforeRefused waited
      have promised := accounted.promised earlier pre shape beforeRefused row rfl
      exact absurd (promised.trans waited) passed
  · refine ⟨rfl, by dsimp only; omega, by simp [Answer.accepted, counted], latest,
      fun _ => not_le.mp passed, by simp [Answer.accepted], by simp [Answer.accepted]⟩

theorem Accounted.step (accounted : Accounted limit window w.row w.answers)
    (locks : Locked w) (pos : 1 ≤ limit) (windowPositive : 0 < window)
    (next : Step limit window w after) : Accounted limit window after.row after.answers := by
  rcases step_effect locks next with ⟨sameRow, sameAnswers⟩ |
    ⟨now, out, isRow, isAnswers, ⟨absent, isInsert⟩ | ⟨row, present, isClaim⟩⟩
  · rw [sameRow, sameAnswers]
    exact accounted
  · rw [isRow, isAnswers, isInsert]
    have none := accounted.fresh absent
    rw [none, absent] at accounted
    rw [none]
    exact accounted.append (insert_follows pos windowPositive now)
  · rw [isRow, isAnswers, isClaim]
    rw [present] at accounted
    exact accounted.append (claim_locked_follows accounted pos windowPositive now)

theorem step_forward (locks : Locked w) (windowPositive : 0 < window)
    (next : Step limit window w after) :
    ∀ row ∈ w.row, ∃ later ∈ after.row, row.windowStartedAt ≤ later.windowStartedAt := by
  intro row present
  rcases step_effect locks next with ⟨sameRow, _⟩ |
    ⟨now, out, isRow, _, ⟨absent, _⟩ | ⟨cur, isCurrent, isClaim⟩⟩
  · exact ⟨row, sameRow ▸ present, le_rfl⟩
  · rw [absent] at present
    cases present
  · rw [isCurrent] at present
    cases present
    refine ⟨out.2, isRow, ?_⟩
    rw [isClaim]
    unfold claimLocked
    split_ifs with passed
    · exact (Int.le_add_of_nonneg_right windowPositive.le).trans passed
    · exact le_rfl
    · exact le_rfl

theorem locked_initial : Locked {} := ⟨by simp, by simp⟩

theorem accounted_initial (pos : 1 ≤ limit) :
    Accounted limit window ({} : World).row ({} : World).answers := by
  refine ⟨fun _ => rfl, ?_, by simp, by simp, by simp, by simp, by simp, by simp⟩
  intro start
  simp only [inWindow, countP_nil]
  omega

theorem reaches_accounted (pos : 1 ≤ limit) (windowPositive : 0 < window)
    (reached : Reaches limit window {} w) :
    Locked w ∧ Accounted limit window w.row w.answers := by
  induction reached with
  | refl => exact ⟨locked_initial, accounted_initial pos⟩
  | step _ next ih => exact ⟨ih.1.step next, ih.2.step ih.1 pos windowPositive next⟩

theorem reaches_forward (windowPositive : 0 < window) (locks : Locked w)
    (reached : Reaches limit window w after) :
    Locked after ∧
      ∀ row ∈ w.row, ∃ later ∈ after.row, row.windowStartedAt ≤ later.windowStartedAt := by
  induction reached with
  | refl => exact ⟨locks, fun row present => ⟨row, present, le_rfl⟩⟩
  | step _ next ih =>
    refine ⟨ih.1.step next, fun row present => ?_⟩
    obtain ⟨middle, isMiddle, forward⟩ := ih.2 row present
    obtain ⟨later, isLater, onward⟩ := step_forward ih.1 windowPositive next middle isMiddle
    exact ⟨later, isLater, forward.trans onward⟩

/-- The accepted calls whose clock reading lies in the window length from `start` on. -/
def acceptedFrom (start : Int) (window : Int) (answers : List Answer) : List Answer :=
  answers.filter fun ans =>
    ans.accepted && decide (start ≤ ans.now ∧ ans.now < start + window)

theorem one_window {chosen : List Answer}
    (accounted : Accounted limit window row answers) (sublist : chosen.Sublist answers)
    (accepted : ∀ ans ∈ chosen, ans.accepted = true)
    (same : ∀ one ∈ chosen, ∀ other ∈ chosen, one.windowStartedAt = other.windowStartedAt)
    (pos : 1 ≤ limit) : (chosen.length : Int) ≤ limit := by
  cases chosen with
  | nil => simp; omega
  | cons head rest =>
    have all : ((head :: rest).countP fun ans =>
        ans.accepted && decide (ans.windowStartedAt = head.windowStartedAt)) =
          (head :: rest).length := by
      rw [countP_eq_length]
      intro ans mem
      simp [accepted ans mem, same ans mem head mem_cons_self]
    rw [← all]
    exact (Int.ofNat_le.mpr sublist.countP_le).trans (accounted.within head.windowStartedAt)

/-- An interval of one window length meets two windows, as far as calls were not overtaken by a
reset: one that started up to its beginning, and one that started in it. -/
theorem two_windows
    (accounted : Accounted limit window row answers) (pos : 1 ≤ limit) (start : Int) :
    (((acceptedFrom start window answers).filter
      fun ans => decide (ans.windowStartedAt ≤ ans.now)).length : Int) ≤ 2 * limit := by
  let started : Answer → Bool := fun ans => decide (ans.windowStartedAt ≤ start)
  let inOrder := (acceptedFrom start window answers).filter
    fun ans => decide (ans.windowStartedAt ≤ ans.now)
  have sublist : inOrder.Sublist answers := filter_sublist.trans filter_sublist
  have bounds : ∀ ans ∈ inOrder, ans ∈ answers ∧ ans.accepted = true ∧
      start ≤ ans.now ∧ ans.now < start + window ∧
      ans.windowStartedAt ≤ ans.now ∧ ans.now < ans.windowStartedAt + window := by
    intro ans mem
    obtain ⟨inInterval, ordered⟩ := mem_filter.mp mem
    obtain ⟨isAnswer, isAccepted⟩ := mem_filter.mp inInterval
    simp only [Bool.and_eq_true, decide_eq_true_eq] at isAccepted ordered
    exact ⟨isAnswer, isAccepted.1, isAccepted.2.1, isAccepted.2.2, ordered,
      accounted.early ans isAnswer isAccepted.1⟩
  -- answers with window starts less than a window length apart stand for one window
  have part : ∀ chosen : Answer → Bool,
      (∀ one ∈ inOrder, ∀ other ∈ inOrder, chosen one = true → chosen other = true →
        one.windowStartedAt < other.windowStartedAt + window) →
      ((inOrder.filter chosen).length : Int) ≤ limit := by
    intro chosen near
    refine one_window accounted (filter_sublist.trans sublist)
      (fun ans mem => (bounds ans (mem_filter.mp mem).1).2.1) ?_ pos
    intro one oneMember other otherMember
    obtain ⟨oneIn, oneChosen⟩ := mem_filter.mp oneMember
    obtain ⟨otherIn, otherChosen⟩ := mem_filter.mp otherMember
    have oneNear := near one oneIn other otherIn oneChosen otherChosen
    have otherNear := near other otherIn one oneIn otherChosen oneChosen
    rcases accounted.apart one (bounds one oneIn).1 other (bounds other otherIn).1 with
      same | pre | pre
    · exact same
    · omega
    · omega
  have older := part started fun one oneIn other otherIn oneStarted otherStarted => by
    have oneBounds := bounds one oneIn
    have otherBounds := bounds other otherIn
    simp only [started, decide_eq_true_eq] at oneStarted otherStarted
    omega
  have newer := part (fun ans => !started ans)
    fun one oneIn other otherIn oneStarted otherStarted => by
      have oneBounds := bounds one oneIn
      have otherBounds := bounds other otherIn
      simp only [started, Bool.not_eq_true', decide_eq_false_iff_not] at oneStarted otherStarted
      omega
  have parts := length_eq_length_filter_add (l := inOrder) started
  change (inOrder.length : Int) ≤ 2 * limit
  omega

theorem since_reset {cur : ActionLimit}
    (accounted : Accounted limit window (some cur) answers) (pos : 1 ≤ limit)
    (start : Int) (follows : cur.windowStartedAt ≤ start) :
    ((acceptedFrom start window answers).length : Int) ≤ limit := by
  have own : ∀ ans ∈ acceptedFrom start window answers,
      ans.accepted = true ∧ ans.windowStartedAt = cur.windowStartedAt := by
    intro ans mem
    obtain ⟨isAnswer, isAccepted⟩ := mem_filter.mp mem
    simp only [Bool.and_eq_true, decide_eq_true_eq] at isAccepted
    have early := accounted.early ans isAnswer isAccepted.1
    rcases accounted.latest cur rfl ans isAnswer with same | pre
    · exact ⟨isAccepted.1, same⟩
    · omega
  refine one_window accounted filter_sublist (fun ans mem => (own ans mem).1) ?_ pos
  intro one oneMember other otherMember
  rw [(own one oneMember).2, (own other otherMember).2]

/-- In every interleaving: the window start does not move backwards, no window accepts more
calls than the limit, an interval of one window length has twice as many accepted readings at
most (readings that follow the reset their own call saw; and all readings, when the interval
follows the last reset of all), and whoever waits as long as a refusal says, with no other call
in between, is accepted. -/
theorem action_limit_holds {windowSeconds : Int} {w : World}
    (valid : validArguments limit windowSeconds = true)
    (reached : Reaches limit (timedeltaSeconds windowSeconds) {} w) :
    (∀ after, Reaches limit (timedeltaSeconds windowSeconds) w after →
      ∀ row ∈ w.row, ∃ later ∈ after.row, row.windowStartedAt ≤ later.windowStartedAt) ∧
    (∀ start, (inWindow start w.answers : Int) ≤ limit) ∧
    (∀ start, (((acceptedFrom start (timedeltaSeconds windowSeconds) w.answers).filter
      fun ans => decide (ans.windowStartedAt ≤ ans.now)).length : Int) ≤ 2 * limit) ∧
    (∀ cur ∈ w.row, ∀ start, cur.windowStartedAt ≤ start →
      ((acceptedFrom start (timedeltaSeconds windowSeconds) w.answers).length : Int) ≤ 2 * limit) ∧
    ∀ earlier refused next later, w.answers = earlier ++ refused :: next :: later →
      refused.accepted = false → refused.now + timedeltaSeconds refused.result ≤ next.now →
      next.accepted = true := by
  simp only [validArguments, Bool.not_eq_true', Bool.or_eq_false_iff, Bool.not_eq_false',
    Bool.and_eq_true, decide_eq_false_iff_not, decide_eq_true_eq, not_lt] at valid
  obtain ⟨positive, windowSecondsPositive, _⟩ := valid
  have windowPositive : 0 < timedeltaSeconds windowSeconds := by
    unfold timedeltaSeconds
    omega
  obtain ⟨locks, accounted⟩ := reaches_accounted positive windowPositive reached
  refine ⟨fun after onward => (reaches_forward windowPositive locks onward).2, accounted.within,
    two_windows accounted positive, ?_, accounted.kept⟩
  intro cur isCurrent start follows
  rw [Option.mem_def.mp isCurrent] at accounted
  exact (since_reset accounted positive start follows).trans (by omega)

structure Quiet (w : World) : Prop where
  free : w.holder = none
  idle : ∀ call, w.calls call = none

theorem reaches_claim {start : World} (reached : Reaches limit window start w)
    (quiet : Quiet w) {row : ActionLimit} (present : w.row = some row) (now : Int) :
    ∃ after, Reaches limit window start after ∧ Quiet after ∧
      after.row = some (claimLocked limit window now row).2 ∧
      after.answers = w.answers ++ [⟨now, (claimLocked limit window now row).1,
        (claimLocked limit window now row).2.windowStartedAt⟩] := by
  refine ⟨_, (((reached.step (.readClock 0 now (quiet.idle 0))).step
    (.conflict 0 now (by simp [advance]) (by simp [advance, present]))).step
    (.lock 0 now row (by simp [advance]) present quiet.free)).step
    (.commitLocked 0 now row (by simp [advance])), ⟨rfl, ?_⟩, rfl, rfl⟩
  intro call
  by_cases same : call = 0 <;> simp [commit, advance, same, quiet.idle call]

/-- With one call a second: one is accepted, one refused for a second, one accepted after it. -/
theorem action_limit_holds_waited :
    ∃ w : World, w.answers.map (fun ans => (ans.now, ans.result)) =
        [(0, 0), (500000, 1), (1500000, 0)] ∧
      (inWindow 0 w.answers : Int) ≤ 1 := by
  have inserted : Reaches 1 (timedeltaSeconds 1) {} _ :=
    ((Reaches.refl.step (.readClock 0 0 rfl)).step
      (.insert 0 0 (by simp [advance]) rfl rfl)).step (.commitInsert 0 0 (by simp [advance]))
  obtain ⟨refused, reachedRefused, quietRefused, rowRefused, answersRefused⟩ :=
    reaches_claim inserted ⟨rfl, fun call => by
      by_cases same : call = 0 <;> simp [commit, advance, same]⟩ rfl 500000
  obtain ⟨accepted, reachedAccepted, _, _, answersAccepted⟩ :=
    reaches_claim reachedRefused quietRefused rowRefused 1500000
  refine ⟨accepted, ?_, (action_limit_holds (by decide) reachedAccepted).2.1 0⟩
  rw [answersAccepted, answersRefused]
  decide

end World

end RtspProxy.Access.ActionLimits
