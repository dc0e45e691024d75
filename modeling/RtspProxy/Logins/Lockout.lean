import Mathlib.Algebra.Order.Ring.Int
import Mathlib.Data.List.Chain
import Mathlib.Data.List.Induction
import Mathlib.Tactic.Linarith
import RtspProxy.Nodes.Records

/-!
# Progressive failures and the lock of an attempt key

`operator_login_attempts` with `_record_progressive_failure`, the check for a lock
and the clearing after a success, under the advisory lock of the key. A statement
reads the clock once. The failures of a local or a break-glass login are one
`failure` for each of its keys. The world keeps what no code reads: the failures
recorded for a key since its last success, latest first.
-/

namespace RtspProxy.Logins

open Nodes Function List Option

def attemptWindow : Int := timedeltaSeconds 900

def attemptRetention : Int := timedeltaSeconds 86400

structure LoginAttempt where
  failureCount : Nat
  firstAttemptAt : Datetime
  lastAttemptAt : Datetime
  lockedUntil : Option Datetime
  deriving DecidableEq

abbrev AttemptTable := String → Option LoginAttempt

def LoginAttempt.isLocked (row : LoginAttempt) (now : Datetime) : Bool :=
  row.lockedUntil.any fun lockedUntil => decide (now < lockedUntil)

/-- `ck_operator_login_attempt_state`. -/
def LoginAttempt.isAccepted (row : LoginAttempt) : Bool :=
  decide (1 ≤ row.failureCount ∧ row.failureCount ≤ 1000000) &&
    decide (row.firstAttemptAt ≤ row.lastAttemptAt) &&
    row.lockedUntil.all fun lockedUntil => decide (row.lastAttemptAt < lockedUntil)

/-- The row that `_record_progressive_failure` inserts or updates. -/
def progressiveFailure (now : Datetime) : Option LoginAttempt → LoginAttempt
  | none => ⟨1, now, now, none⟩
  | some row =>
    { failureCount := if row.lastAttemptAt < now - attemptWindow then 1 else row.failureCount + 1
      firstAttemptAt :=
        if row.lastAttemptAt < now - attemptWindow then now else row.firstAttemptAt
      lastAttemptAt := now
      lockedUntil :=
        if row.isLocked now = true then row.lockedUntil
        -- The counter before the window is taken into account.
        else if 5 ≤ row.failureCount + 1 then some (now + attemptWindow)
        else none }

/-- `_record_progressive_failure`; a row that violates the check is not written. -/
def recordProgressiveFailure (now : Datetime) (key : String) (table : AttemptTable) :
    Option AttemptTable :=
  let row := progressiveFailure now (table key)
  if row.isAccepted = true then some (update table key (some row)) else none

def purgeAttempts (now : Datetime) (table : AttemptTable) : AttemptTable :=
  fun key => (table key).filter fun row => !decide (row.lastAttemptAt < now - attemptRetention)

/-- `_local_attempt_is_locked` and `_break_glass_attempt_is_locked`. -/
def attemptIsLocked (now : Datetime) (keys : List String) (table : AttemptTable) :
    Bool × AttemptTable :=
  let kept := purgeAttempts now table
  (keys.any fun key => (kept key).any (·.isLocked now), kept)

/-- `_clear_local_attempts` and `_clear_break_glass_attempts`. -/
def clearAttempts (keys : List String) (table : AttemptTable) : AttemptTable :=
  fun key => if key ∈ keys then none else table key

structure AttemptWorld where
  clock : Datetime
  table : AttemptTable := fun _ => none
  failures : String → List Datetime := fun _ => []

inductive AttemptMove
  | elapse (microseconds : Nat)
  | failure (key : String)
  | success (keys : List String)
  | check (keys : List String)

namespace AttemptWorld

def next (w : AttemptWorld) : AttemptMove → AttemptWorld
  | .elapse microseconds => { w with clock := w.clock + microseconds }
  | .failure key =>
    match recordProgressiveFailure w.clock key w.table with
    | none => w
    | some table =>
      { w with
        table
        failures := update w.failures key (w.clock :: w.failures key) }
  | .success keys =>
    { w with
      table := clearAttempts keys w.table
      failures := fun key => if key ∈ keys then [] else w.failures key }
  | .check keys => { w with table := (attemptIsLocked w.clock keys w.table).2 }

/-- The world after a history that began on an empty table. -/
def after (began : Datetime) (moves : List AttemptMove) : AttemptWorld :=
  moves.foldl next { clock := began }

theorem after_append (began : Datetime) (moves : List AttemptMove) (move : AttemptMove) :
    after began (moves ++ [move]) = (after began moves).next move := by
  unfold after
  rw [foldl_append]
  rfl

end AttemptWorld

/-- The latest failures, with no gap of more than 15 minutes between two of them. -/
def IsStreak (failures streak : List Datetime) : Prop :=
  streak <+: failures ∧ streak.IsChain fun later earlier => later - earlier ≤ attemptWindow

def streakLength : List Datetime → Nat
  | [] => 0
  | [_] => 1
  | later :: earlier :: rest =>
    if later - earlier ≤ attemptWindow then streakLength (earlier :: rest) + 1 else 1

variable {failures : List Datetime}

theorem streak_length_le {streak : List Datetime} (isStreak : IsStreak failures streak) :
    streak.length ≤ streakLength failures := by
  obtain ⟨isPrefix, chained⟩ := isStreak
  induction failures generalizing streak with
  | nil => rw [prefix_nil.mp isPrefix]; exact le_refl _
  | cons later rest ih =>
    cases streak with
    | nil => exact Nat.zero_le _
    | cons first more =>
      obtain ⟨rfl, isMore⟩ := cons_prefix_cons.mp isPrefix
      cases rest with
      | nil => rw [prefix_nil.mp isMore]; exact le_refl _
      | cons earlier rest =>
        rw [streakLength]
        cases more with
        | nil => split_ifs <;> simp
        | cons second more =>
          obtain ⟨rfl, _⟩ := cons_prefix_cons.mp isMore
          rw [isChain_cons_cons] at chained
          rw [if_pos chained.1]
          exact Nat.succ_le_succ (ih isMore chained.2)

theorem longest_streak (failures : List Datetime) :
    ∃ streak, IsStreak failures streak ∧ streak.length = streakLength failures ∧
      streak.head? = failures.head? := by
  induction failures with
  | nil => exact ⟨[], ⟨prefix_refl _, .nil⟩, rfl, rfl⟩
  | cons later rest ih =>
    obtain ⟨streak, ⟨isPrefix, chained⟩, isLength, isHead⟩ := ih
    cases rest with
    | nil => exact ⟨[later], ⟨prefix_refl _, .singleton _⟩, rfl, rfl⟩
    | cons earlier rest =>
      rw [streakLength]
      by_cases near : later - earlier ≤ attemptWindow
      · refine ⟨later :: streak, ⟨cons_prefix_cons.mpr ⟨rfl, isPrefix⟩, ?_⟩, ?_, rfl⟩
        · rw [isChain_cons]
          refine ⟨fun first isFirst => ?_, chained⟩
          rw [isHead] at isFirst
          cases isFirst
          exact near
        · rw [if_pos near, length_cons, isLength]
      · refine ⟨[later], ⟨⟨earlier :: rest, rfl⟩, .singleton _⟩, ?_, rfl⟩
        rw [if_neg near]
        rfl

/-- The row of a key summarises the failures of the key. -/
structure Summarises (failures : List Datetime) (row : LoginAttempt) : Prop where
  last : failures.head? = some row.lastAttemptAt
  count : row.failureCount = streakLength failures
  ordered : row.firstAttemptAt ≤ row.lastAttemptAt
  lockEnds : ∀ lockedUntil ∈ row.lockedUntil,
    row.lastAttemptAt < lockedUntil ∧ lockedUntil ≤ row.lastAttemptAt + attemptWindow
  locks : 5 ≤ row.failureCount → row.lockedUntil ≠ none

/-- A failure after a pause comes on top of four of the last streak. -/
def Lapsed (now : Datetime) (row : LoginAttempt) : Prop :=
  row.lastAttemptAt < now - attemptWindow ∧ 4 ≤ row.failureCount

variable {now : Datetime}

theorem summarises_first (past : ∀ last ∈ failures.head?, last < now - attemptRetention) :
    Summarises (now :: failures) (progressiveFailure now none) where
  last := rfl
  count := by
    cases failures with
    | nil => rfl
    | cons last rest =>
      have gap : ¬now - last ≤ attemptWindow := by
        have isPast := past last rfl
        have longer : attemptWindow < attemptRetention := by decide
        linarith
      rw [streakLength, if_neg gap]
      rfl
  ordered := le_refl _
  lockEnds _ isLock := (nomatch isLock)
  locks five := absurd five (by simp [progressiveFailure])

variable {row : LoginAttempt}

variable (summary : Summarises failures row)

include summary

theorem summarises_next (past : row.lastAttemptAt ≤ now) :
    Summarises (now :: failures) (progressiveFailure now (some row)) where
  last := rfl
  count := by
    obtain ⟨last, isHead⟩ : ∃ last, failures.head? = some last := ⟨_, summary.last⟩
    cases failures with
    | nil => cases isHead
    | cons first rest =>
      have isFirst : first = row.lastAttemptAt := some.inj summary.last
      have isCount := summary.count
      subst isFirst
      rw [streakLength]
      dsimp only [progressiveFailure]
      split_ifs with isOld near near
      · linarith
      · rfl
      · rw [isCount]
      · linarith
  ordered := by
    have pre := summary.ordered
    dsimp only [progressiveFailure]
    split_ifs
    · exact le_refl _
    · exact pre.trans past
  lockEnds lockedUntil isLock := by
    dsimp only [progressiveFailure] at isLock ⊢
    split_ifs at isLock with isLocked five
    · have ends := summary.lockEnds lockedUntil isLock
      rw [LoginAttempt.isLocked, show row.lockedUntil = some lockedUntil from isLock] at isLocked
      exact ⟨of_decide_eq_true isLocked, by linarith⟩
    · cases isLock
      constructor
      · exact lt_add_of_pos_right now (by decide)
      · exact le_refl _
    · cases isLock
  locks five := by
    dsimp only [progressiveFailure] at five ⊢
    split_ifs with isLocked enough
    · intro isNone
      rw [LoginAttempt.isLocked, isNone] at isLocked
      cases isLocked
    · exact some_ne_none _
    · split_ifs at five
      · omega
      · omega

theorem counted_next
    (counted : row.lockedUntil ≠ none → 5 ≤ row.failureCount) (continues : ¬Lapsed now row)
    (locked : (progressiveFailure now (some row)).lockedUntil ≠ none) :
    5 ≤ (progressiveFailure now (some row)).failureCount := by
  dsimp only [progressiveFailure] at locked ⊢
  split_ifs at locked with isLocked five
  · have enough := counted locked
    cases isLock : row.lockedUntil with
    | none => exact (locked isLock).elim
    | some lockedUntil =>
      have ends := summary.lockEnds lockedUntil isLock
      rw [LoginAttempt.isLocked, isLock] at isLocked
      have later : now < lockedUntil := of_decide_eq_true isLocked
      rw [if_neg (by linarith)]
      exact enough.trans (Nat.le_succ _)
  · have recent : ¬row.lastAttemptAt < now - attemptWindow := fun isOld =>
      continues ⟨isOld, by omega⟩
    rw [if_neg recent]
    exact five
  · exact (locked rfl).elim

theorem lapsed_failure (lapsed : Lapsed now row) :
    progressiveFailure now (some row) = ⟨1, now, now, some (now + attemptWindow)⟩ := by
  have unlocked : ¬row.isLocked now = true := by
    intro isLocked
    cases isLock : row.lockedUntil with
    | none => simp [LoginAttempt.isLocked, isLock] at isLocked
    | some lockedUntil =>
      have ends := summary.lockEnds lockedUntil isLock
      rw [LoginAttempt.isLocked, isLock] at isLocked
      have later : now < lockedUntil := of_decide_eq_true isLocked
      have isOld := lapsed.1
      linarith
  have five : 5 ≤ row.failureCount + 1 := Nat.succ_le_succ lapsed.2
  rw [progressiveFailure, if_pos lapsed.1, if_pos lapsed.1, if_neg unlocked, if_pos five]

omit summary

namespace AttemptWorld

variable {w : AttemptWorld} {key : String}

structure Tracks (w : AttemptWorld) (key : String) : Prop where
  row : ∀ row, w.table key = some row →
    Summarises (w.failures key) row ∧ row.lastAttemptAt ≤ w.clock
  cleared : w.table key = none → ∀ last ∈ (w.failures key).head?, last < w.clock - attemptRetention

def Counted (w : AttemptWorld) (key : String) : Prop :=
  ∀ row, w.table key = some row → row.lockedUntil ≠ none → 5 ≤ row.failureCount

def Lapses (w : AttemptWorld) (key : String) (move : AttemptMove) : Prop :=
  move = .failure key ∧ ∃ row, w.table key = some row ∧ Lapsed w.clock row

theorem tracks_started (began : Datetime) : Tracks { clock := began } key where
  row _ found := (nomatch found)
  cleared _ _ isLast := (nomatch isLast)

theorem next_failure (w : AttemptWorld) (key : String) :
    w.next (.failure key) = w ∨ w.next (.failure key) = { w with
          table := update w.table key
            (some (progressiveFailure w.clock (w.table key)))
          failures := update w.failures key
            (w.clock :: w.failures key) } := by
  unfold next recordProgressiveFailure
  dsimp only
  split
  · exact .inl rfl
  · rename_i table isRecorded
    split_ifs at isRecorded
    cases isRecorded
    exact .inr rfl

theorem tracks_failure (tracks : w.Tracks key) :
    Summarises (w.clock :: w.failures key)
      (progressiveFailure w.clock (w.table key)) := by
  cases found : w.table key with
  | none => exact summarises_first (tracks.cleared found)
  | some row =>
    obtain ⟨summary, past⟩ := tracks.row row found
    exact summarises_next summary past

theorem tracks_next (tracks : w.Tracks key) (move : AttemptMove) :
    (w.next move).Tracks key := by
  cases move with
  | elapse microseconds =>
    refine ⟨fun row found => ?_, fun isNone last isLast => ?_⟩
    · obtain ⟨summary, past⟩ := tracks.row row found
      exact ⟨summary, past.trans (Int.le_add_of_nonneg_right (Int.natCast_nonneg _))⟩
    · have isPast := tracks.cleared isNone last isLast
      change last < w.clock + microseconds - attemptRetention
      have elapsed := Int.natCast_nonneg microseconds
      linarith
  | failure other =>
    rcases next_failure w other with same | recorded
    · rw [same]
      exact tracks
    rw [recorded]
    by_cases isKey : key = other
    · subst isKey
      refine ⟨fun row found => ?_, fun isNone => ?_⟩
      · dsimp only at found ⊢
        rw [update_self] at found ⊢
        cases found
        have summary := tracks_failure tracks
        refine ⟨summary, ?_⟩
        rw [← some.inj summary.last]
      · dsimp only at isNone
        rw [update_self] at isNone
        cases isNone
    · constructor
      · dsimp only
        rw [update_of_ne isKey, update_of_ne isKey]
        exact tracks.row
      · dsimp only
        rw [update_of_ne isKey, update_of_ne isKey]
        exact tracks.cleared
  | success keys =>
    constructor
    · intro row found
      dsimp only [next, clearAttempts] at found ⊢
      split_ifs at found with isCleared
      rw [if_neg isCleared]
      exact tracks.row row found
    · intro isNone last isLast
      dsimp only [next, clearAttempts] at isNone isLast
      split_ifs at isNone isLast
      · cases isLast
      · exact tracks.cleared isNone last isLast
  | check keys =>
    constructor
    · intro row found
      exact tracks.row row (filter_eq_some_iff.mp found).1
    · intro isNone last isLast
      cases found : w.table key with
      | none => exact tracks.cleared found last isLast
      | some row =>
        dsimp only [next, attemptIsLocked, purgeAttempts] at isNone isLast ⊢
        rw [found] at isNone
        obtain ⟨summary, _⟩ := tracks.row row found
        rw [summary.last] at isLast
        cases isLast
        by_contra recent
        simp only [Option.filter, recent, decide_false, Bool.not_false, if_true] at isNone
        cases isNone

theorem counted_next_move {move : AttemptMove} (tracks : w.Tracks key)
    (counted : w.Counted key) (continues : ¬w.Lapses key move) :
    (w.next move).Counted key := by
  cases move with
  | elapse => exact counted
  | failure other =>
    rcases next_failure w other with same | recorded
    · rw [same]
      exact counted
    rw [recorded]
    intro row found locked
    dsimp only at found
    by_cases isKey : key = other
    · subst isKey
      rw [update_self] at found
      cases found
      cases pre : w.table key with
      | none =>
        rw [pre] at locked
        exact (locked rfl).elim
      | some row =>
        rw [pre] at locked
        exact counted_next (tracks.row row pre).1 (counted row pre)
          (fun lapsed => continues ⟨rfl, row, pre, lapsed⟩) locked
    · rw [update_of_ne isKey] at found
      exact counted row found locked
  | success keys =>
    intro row found
    dsimp only [next, clearAttempts] at found
    split_ifs at found
    exact counted row found
  | check keys =>
    intro row found
    exact counted row (filter_eq_some_iff.mp found).1

theorem tracks_after (began : Datetime) (moves : List AttemptMove) :
    (after began moves).Tracks key := by
  induction moves using reverseRecOn with
  | nil => exact tracks_started began
  | append_singleton moves move ih =>
    rw [after_append]
    exact tracks_next ih move

def IsLockedAt (w : AttemptWorld) (key : String) (now : Datetime) : Prop :=
  (attemptIsLocked now [key] w.table).1 = true

structure Lawful (w : AttemptWorld) (key : String) : Prop where
  onlyAfterFive : ∀ now, w.clock ≤ now → w.IsLockedAt key now →
    ∃ streak last, IsStreak (w.failures key) streak ∧ 5 ≤ streak.length ∧
      streak.head? = some last ∧ now - last < attemptWindow
  alwaysAfterFive : ∀ streak, IsStreak (w.failures key) streak → 5 ≤ streak.length →
    streak.head? = some w.clock → w.IsLockedAt key w.clock
  counted : ∀ row, w.table key = some row → row.isLocked w.clock = true → 5 ≤ row.failureCount

theorem locked_at_row (locked : w.IsLockedAt key now) :
    ∃ row, w.table key = some row ∧ row.isLocked now = true := by
  simp only [IsLockedAt, attemptIsLocked, any_cons, any_nil, Bool.or_false,
    Option.any_eq_true] at locked
  obtain ⟨row, kept, isLocked⟩ := locked
  exact ⟨row, (filter_eq_some_iff.mp kept).1, isLocked⟩

theorem locked_at_of_row (tracks : w.Tracks key) (found : w.table key = some row)
    (locked : row.isLocked now = true) : w.IsLockedAt key now := by
  have recent : ¬row.lastAttemptAt < now - attemptRetention := by
    obtain ⟨lockedUntil, isLock, later⟩ := (any_eq_true _ _).mp locked
    have ends := (tracks.row row found).1.lockEnds lockedUntil isLock
    have isLater := of_decide_eq_true later
    have longer : attemptWindow < attemptRetention := by decide
    linarith
  have kept : purgeAttempts now w.table key = some row := by
    rw [purgeAttempts, found, Option.filter, if_pos (by simpa using recent)]
  simp only [IsLockedAt, attemptIsLocked, any_cons, any_nil, Bool.or_false, kept]
  exact locked

theorem lawful_of_counted (tracks : w.Tracks key) (counted : w.Counted key) :
    w.Lawful key where
  onlyAfterFive now _ locked := by
    obtain ⟨row, found, isLocked⟩ := locked_at_row locked
    obtain ⟨lockedUntil, isLock, later⟩ := (any_eq_true _ _).mp isLocked
    obtain ⟨summary, _⟩ := tracks.row row found
    have ends := summary.lockEnds lockedUntil isLock
    have five : 5 ≤ row.failureCount :=
      counted row found fun isNone => some_ne_none _ (isLock.symm.trans isNone)
    obtain ⟨streak, isStreak, isLength, isHead⟩ := longest_streak (w.failures key)
    refine ⟨streak, row.lastAttemptAt, isStreak, ?_, isHead.trans summary.last, ?_⟩
    · rw [isLength, ← summary.count]
      exact five
    · have isLater := of_decide_eq_true later
      linarith
  alwaysAfterFive streak isStreak five isHead := by
    have long := streak_length_le isStreak
    have isLast : (w.failures key).head? = some w.clock := by
      obtain ⟨rest, isFailures⟩ := isStreak.1
      rw [← isFailures, head?_append, isHead]
      rfl
    cases found : w.table key with
    | none =>
      have isPast := tracks.cleared found w.clock isLast
      have positive : 0 < attemptRetention := by decide
      linarith
    | some row =>
      obtain ⟨summary, _⟩ := tracks.row row found
      have locks := summary.locks (by rw [summary.count]; exact five.trans long)
      obtain ⟨lockedUntil, isLock⟩ := ne_none_iff_exists'.mp locks
      have ends := summary.lockEnds lockedUntil isLock
      have sameTime : row.lastAttemptAt = w.clock :=
        some.inj (summary.last.symm.trans isLast)
      refine locked_at_of_row tracks found ?_
      rw [LoginAttempt.isLocked, isLock]
      exact decide_eq_true (sameTime ▸ ends.1)
  counted row found locked := by
    obtain ⟨lockedUntil, isLock, _⟩ := (any_eq_true _ _).mp locked
    exact counted row found fun isNone => some_ne_none _ (isLock.symm.trans isNone)

theorem lapse_unlawful {move : AttemptMove} (tracks : w.Tracks key)
    (lapses : w.Lapses key move) : ¬(w.next move).Lawful key := by
  obtain ⟨rfl, row, found, lapsed⟩ := lapses
  have isRow := lapsed_failure (tracks.row row found).1 lapsed
  have later : w.clock < w.clock + attemptWindow :=
    Int.lt_add_of_pos_right _ (by decide)
  have recorded : recordProgressiveFailure w.clock key w.table = some
      (update w.table key
        (some ⟨1, w.clock, w.clock, some (w.clock + attemptWindow)⟩)) := by
    unfold recordProgressiveFailure
    rw [found, isRow]
    exact if_pos (by simp [LoginAttempt.isAccepted, later])
  intro lawful
  have isKey : (w.next (.failure key)).table key =
      some ⟨1, w.clock, w.clock, some (w.clock + attemptWindow)⟩ := by
    simp only [next, recorded, update_self]
  have sameClock : (w.next (.failure key)).clock = w.clock := by
    simp only [next, recorded]
  have five : 5 ≤ 1 := lawful.counted _ isKey (by rw [sameClock]; exact decide_eq_true later)
  exact absurd five (by decide)

theorem counted_after {began : Datetime} (moves : List AttemptMove)
    (continues : ∀ pre move, pre ++ [move] <+: moves →
      ¬(after began pre).Lapses key move) : (after began moves).Counted key := by
  induction moves using reverseRecOn with
  | nil => exact fun row found => (nomatch found)
  | append_singleton moves move ih =>
    rw [after_append]
    refine counted_next_move (tracks_after began moves) (ih fun pre last isPrefix => ?_)
      (continues moves move (prefix_refl _))
    exact continues pre last (isPrefix.trans (prefix_append moves [move]))

/-- The law holds throughout a history if and only if no failure of the key comes more than 15
minutes after a streak of four. -/
theorem lockout_law (began : Datetime) (key : String) (moves : List AttemptMove) :
    (∀ pre, pre <+: moves → (after began pre).Lawful key) ↔
      ∀ pre move, pre ++ [move] <+: moves → ¬(after began pre).Lapses key move := by
  constructor
  · intro lawful pre move isPrefix lapses
    have isLawful := lawful (pre ++ [move]) isPrefix
    rw [after_append] at isLawful
    exact lapse_unlawful (tracks_after began pre) lapses isLawful
  · intro continues pre isPrefix
    refine lawful_of_counted (tracks_after began pre) (counted_after pre ?_)
    exact fun earlier move inside => continues earlier move (inside.trans isPrefix)

def pausedMoves : List AttemptMove :=
  [.failure "key", .failure "key", .failure "key", .failure "key", .elapse 960000000,
    .failure "key"]

/-- One failure within the window locks the key. -/
theorem fifth_failure_after_pause_locks :
    ¬∀ (began : Datetime) (key : String) (moves : List AttemptMove),
      (after began moves).Lawful key := by
  intro lawful
  have isRow : (after 0 pausedMoves).table "key" =
      some ⟨1, 960000000, 960000000, some 1860000000⟩ := by
    decide +kernel
  have five := (lawful 0 "key" pausedMoves).counted _ isRow (by decide +kernel)
  exact absurd five (by decide)

end AttemptWorld

end RtspProxy.Logins
