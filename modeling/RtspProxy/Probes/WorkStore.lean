import RtspProxy.Probes.Routine
import Mathlib.Data.Prod.Lex

/-!
# The scan for routine work

`PostgresProbeWorkStore` pages through the eligible profiles in the order of
their last attempt and keeps the key of the last row as its cursor; `mark_attempt`
moves a profile to the end of that order. The scan starts over only when nothing
is left beyond its cursor. A profile that was returned but not attempted stays
behind the cursor, and one that was attempted comes up ahead of it again.
-/

namespace RtspProxy.Probes

open Nodes Lib Lib.Raising Lib.Keyset List

inductive ProbeWorkerError
  | valueError (code : String)
  | probeWorkerUnavailable (code : String)
  deriving DecidableEq

/-- A row of `camera_probe_profiles`, which `_profile_row` reads whole. -/
structure ProfileRow where
  cameraId : UUID
  revision : Int
  profile : CameraProbeProfile
  updatedAt : Datetime
  lastAttemptAt : Option Datetime
  deriving DecidableEq

namespace ProfileRow

/-- `COALESCE(profile.last_attempt_at, profile.updated_at)`. -/
def scanTime (row : ProfileRow) : Datetime := row.lastAttemptAt.getD row.updatedAt

/-- The columns of `ORDER BY scan_time, profile.camera_id`. -/
def scanKey (row : ProfileRow) : Datetime ×ₗ Nat := toLex (row.scanTime, row.cameraId.int)

end ProfileRow

open ProfileRow (scanKey)

/-- The tables the store reads, whether it still owns the advisory lock, and its cursor. -/
structure PostgresProbeWorkStore where
  profiles : List ProfileRow
  cameras : List CameraPlacement
  nodes : List MediaNode
  owned : Bool
  cursor : Option (Datetime ×ₗ Nat)
  distinct : (profiles.map ProfileRow.cameraId).Nodup

namespace PostgresProbeWorkStore

variable (store : PostgresProbeWorkStore)

def assertOwned : Except ProbeWorkerError Unit :=
  raiseIf (store.owned = false) (.probeWorkerUnavailable "probe_worker_ownership_lost")

/-- The conditions of the page's `WHERE` and joins but the one on the cursor. -/
def eligible (row : ProfileRow) : Bool :=
  row.profile.enabled && decide (1 < row.profile.maxSourceSessions) &&
    store.cameras.any fun cam =>
      decide (cam.id = row.cameraId) && decide (cam.state = .enabled) &&
        store.nodes.any fun node =>
          decide (node.id = cam.nodeId) && decide (node.state = .running) && !node.maintenance

def eligibleProfiles : List ProfileRow := store.profiles.filter store.eligible

def profilePage (limit : Nat) (cursor : Option (Datetime ×ₗ Nat)) : List ProfileRow :=
  (inOrder scanKey (store.profiles.filter fun row =>
    store.eligible row && decide (After cursor row.scanKey))).take limit

def activeProfiles (limit : Int) :
    Except ProbeWorkerError (List ProfileRow × PostgresProbeWorkStore) := do
  raiseIf (¬(1 ≤ limit ∧ limit ≤ 256)) (.valueError "probe_worker_batch_invalid")
  store.assertOwned
  let rows := store.profilePage limit.toNat store.cursor
  let wraps := rows = [] ∧ store.cursor ≠ none
  let cursor := if wraps then none else store.cursor
  let rows := if wraps then store.profilePage limit.toNat none else rows
  let cursor := match rows.getLast? with
    | some last => some last.scanKey
    | none => cursor
  return (rows, { store with cursor })

def attempted (cameraId : UUID) (revision : Int) (moment : Datetime) (row : ProfileRow) :
    ProfileRow :=
  if row.cameraId = cameraId ∧ row.revision = revision then
    { row with lastAttemptAt := some moment }
  else row

theorem attempted_camera (cameraId : UUID) (revision : Int) (moment : Datetime)
    (row : ProfileRow) : (attempted cameraId revision moment row).cameraId = row.cameraId := by
  unfold attempted
  split_ifs <;> rfl

/-- `mark_attempt` while `clock_timestamp()` is `moment`. -/
def markAttempt (cameraId : UUID) (revision : Int) (moment : Datetime) :
    Except ProbeWorkerError PostgresProbeWorkStore := do
  store.assertOwned
  return { store with
    profiles := store.profiles.map (attempted cameraId revision moment)
    distinct := by
      rw [map_map]
      have same : ProfileRow.cameraId ∘ attempted cameraId revision moment =
          ProfileRow.cameraId := by
        funext row
        exact attempted_camera cameraId revision moment row
      rw [same]
      exact store.distinct }

/-- One `mark_attempt`, with what the database clock reads. -/
structure Attempt where
  cameraId : UUID
  revision : Int
  moment : Datetime

def markAttempts : List Attempt → PostgresProbeWorkStore →
    Except ProbeWorkerError PostgresProbeWorkStore
  | [], store => .ok store
  | attempt :: rest, store => do
      let marked ← store.markAttempt attempt.cameraId attempt.revision attempt.moment
      markAttempts rest marked

/-- A call, the page it returned and the attempts marked before the next call. -/
structure Round where
  page : List ProfileRow
  attempts : List Attempt

/-- Consecutive calls of `active_profiles`; between two of them the attempts of a round are marked.
`allowed` says what a round may mark in the store the call left. -/
inductive Scans (limit : Int)
    (allowed : PostgresProbeWorkStore → Round → PostgresProbeWorkStore → Prop) :
    PostgresProbeWorkStore → List Round → PostgresProbeWorkStore → Prop
  | nil (store : PostgresProbeWorkStore) : Scans limit allowed store [] store
  | cons {store reached marked post : PostgresProbeWorkStore} {round : Round}
      {rounds : List Round} (called : store.activeProfiles limit = .ok (round.page, reached))
      (attempted : markAttempts round.attempts reached = .ok marked)
      (isAllowed : allowed reached round marked) (rest : Scans limit allowed marked rounds post) :
      Scans limit allowed store (round :: rounds) post

/-- Only profiles that the call returned are attempted, as `run_once` leases only cameras of the
page it loaded, and the database clock has moved on since every recorded time. -/
def AttemptsReturned (reached : PostgresProbeWorkStore) (round : Round)
    (_ : PostgresProbeWorkStore) : Prop :=
  ∀ attempt ∈ round.attempts,
    (∃ row ∈ round.page, row.cameraId = attempt.cameraId ∧ row.revision = attempt.revision) ∧
      ∀ row ∈ reached.profiles, row.scanTime < attempt.moment

/-- A round without attempts, or one that leaves no eligible profile at or behind the cursor. -/
def LeavesNoneBehind (_ : PostgresProbeWorkStore) (round : Round)
    (marked : PostgresProbeWorkStore) : Prop :=
  round.attempts = [] ∨ ∀ row ∈ marked.eligibleProfiles, After marked.cursor row.scanKey

theorem profile_page_eq (limit : Nat) (cursor : Option (Datetime ×ₗ Nat)) :
    store.profilePage limit cursor = (beyond scanKey cursor store.eligibleProfiles).take limit := by
  unfold profilePage beyond eligibleProfiles
  rw [filter_filter]
  simp only [Bool.and_comm]

variable {reached : PostgresProbeWorkStore}

theorem active_profiles_ok {limit : Int} {page : List ProfileRow}
    (called : store.activeProfiles limit = .ok (page, reached)) :
    1 ≤ limit ∧
      (page, reached.cursor) = nextPage scanKey limit.toNat store.cursor store.eligibleProfiles ∧
      reached.profiles = store.profiles ∧ reached.cameras = store.cameras ∧
      reached.nodes = store.nodes ∧ reached.owned = store.owned := by
  simp only [activeProfiles, bind_ok, raise_if_ok, not_not, pure_ok, Prod.mk.injEq] at called
  obtain ⟨_, bounds, _, _, isPage, rfl⟩ := called
  refine ⟨bounds.1, ?_, rfl, rfl, rfl, rfl⟩
  rw [← isPage, profile_page_eq, profile_page_eq]
  unfold nextPage
  by_cases empty : (beyond scanKey store.cursor store.eligibleProfiles).take
      limit.toNat = []
  · by_cases noCursor : store.cursor = none
    · rw [noCursor] at empty ⊢
      simp [empty]
    · simp only [empty, noCursor, ne_eq, not_false_eq_true, and_self, if_true]
      cases ((beyond scanKey none store.eligibleProfiles).take limit.toNat).getLast?
      · rfl
      · rfl
  · simp only [empty, false_and, if_false]
    cases ((beyond scanKey store.cursor store.eligibleProfiles).take
      limit.toNat).getLast?
    · rfl
    · rfl

def remark (attempts : List Attempt) (row : ProfileRow) : ProfileRow :=
  attempts.foldl (fun row attempt =>
    attempted attempt.cameraId attempt.revision attempt.moment row) row

variable {marked : PostgresProbeWorkStore}

theorem mark_attempts_ok {attempts : List Attempt}
    (ran : markAttempts attempts store = .ok marked) :
    marked.profiles = store.profiles.map (remark attempts) ∧ marked.cameras = store.cameras ∧
      marked.nodes = store.nodes ∧ marked.cursor = store.cursor := by
  induction attempts generalizing store with
  | nil =>
    cases ran
    refine ⟨?_, rfl, rfl, rfl⟩
    exact (map_id _).symm
  | cons attempt rest ih =>
    simp only [markAttempts, markAttempt, bind_ok, pure_ok] at ran
    obtain ⟨_, ⟨_, _, rfl⟩, ran⟩ := ran
    obtain ⟨profiles, cameras, nodes, cursor⟩ := ih _ ran
    refine ⟨?_, cameras, nodes, cursor⟩
    rw [profiles, map_map]
    rfl

theorem attempted_cases (cameraId : UUID) (revision : Int) (moment : Datetime) (row : ProfileRow) :
    attempted cameraId revision moment row = row ∨
      row.cameraId = cameraId ∧ row.revision = revision ∧
        attempted cameraId revision moment row = { row with lastAttemptAt := some moment } := by
  unfold attempted
  split_ifs with isRow
  · exact .inr ⟨isRow.1, isRow.2, rfl⟩
  · exact .inl rfl

/-- A row keeps everything but the time of its last attempt, and that comes from an attempt at it. -/
theorem remark_cases (attempts : List Attempt) (row : ProfileRow) :
    remark attempts row = row ∨
      ∃ attempt ∈ attempts, row.cameraId = attempt.cameraId ∧ row.revision = attempt.revision ∧
        remark attempts row = { row with lastAttemptAt := some attempt.moment } := by
  induction attempts generalizing row with
  | nil => exact .inl rfl
  | cons attempt rest ih =>
    have unfolded : remark (attempt :: rest) row =
        remark rest (attempted attempt.cameraId attempt.revision attempt.moment row) := rfl
    rw [unfolded]
    rcases attempted_cases attempt.cameraId attempt.revision attempt.moment row with
      same | ⟨isCamera, isRevision, isMarked⟩
    · rw [same]
      rcases ih row with still | ⟨later, mem, found⟩
      · exact .inl still
      · exact .inr ⟨later, mem_cons_of_mem _ mem, found⟩
    · rw [isMarked]
      right
      rcases ih { row with lastAttemptAt := some attempt.moment } with
        still | ⟨later, mem, isLaterCamera, isLaterRevision, isLater⟩
      · exact ⟨attempt, mem_cons_self, isCamera, isRevision, still⟩
      · exact ⟨later, mem_cons_of_mem _ mem, isLaterCamera, isLaterRevision, isLater⟩

theorem remark_camera (attempts : List Attempt) (row : ProfileRow) :
    (remark attempts row).cameraId = row.cameraId ∧
      (remark attempts row).profile = row.profile := by
  rcases remark_cases attempts row with same | ⟨_, _, _, _, isMarked⟩
  · rw [same]
    exact ⟨rfl, rfl⟩
  · rw [isMarked]
    exact ⟨rfl, rfl⟩

theorem mark_attempts_eligible {attempts : List Attempt}
    (ran : markAttempts attempts store = .ok marked) :
    marked.eligibleProfiles = store.eligibleProfiles.map (remark attempts) := by
  obtain ⟨profiles, cameras, nodes, _⟩ := store.mark_attempts_ok ran
  unfold eligibleProfiles
  rw [profiles, filter_map]
  congr 1
  apply filter_congr
  intro row _
  obtain ⟨sameCamera, sameProfile⟩ := remark_camera attempts row
  rw [Function.comp_apply]
  unfold eligible
  rw [sameCamera, sameProfile, cameras, nodes]

theorem scan_keys_distinct : (store.eligibleProfiles.map scanKey).Nodup := by
  have cameras : (store.eligibleProfiles.map ProfileRow.cameraId).Nodup :=
    store.distinct.sublist (filter_sublist.map _)
  rw [Nodup, pairwise_map] at cameras ⊢
  apply cameras.imp
  intro left right differ same
  apply differ
  have sameInt : left.cameraId.int = right.cameraId.int :=
    congrArg (fun key => (ofLex key).2) same
  exact BitVec.eq_of_toNat_eq sameInt

theorem active_profiles_eligible {limit : Int} {page : List ProfileRow}
    (called : store.activeProfiles limit = .ok (page, reached)) :
    reached.eligibleProfiles = store.eligibleProfiles := by
  obtain ⟨_, _, profiles, cameras, nodes, _⟩ := store.active_profiles_ok called
  unfold eligibleProfiles eligible
  rw [profiles, cameras, nodes]

variable {store} {reached marked post : PostgresProbeWorkStore} {limit : Int} {round : Round}

theorem remark_moves (called : store.activeProfiles limit = .ok (round.page, reached))
    (ret : AttemptsReturned reached round marked) {row : ProfileRow}
    (mem : row ∈ store.eligibleProfiles) :
    remark round.attempts row = row ∨ ¬After reached.cursor row.scanKey ∧
        ∀ other ∈ store.eligibleProfiles, other.scanKey < (remark round.attempts row).scanKey := by
  obtain ⟨positive, isNext, profiles, _⟩ := store.active_profiles_ok called
  rcases remark_cases round.attempts row with same | ⟨attempt, isAttempt, isCamera, _, isMarked⟩
  · exact .inl same
  right
  obtain ⟨⟨listed, onPage, sameCamera, _⟩, clock⟩ := ret attempt isAttempt
  rw [profiles] at clock
  have isPage : round.page = (nextPage scanKey limit.toNat store.cursor
      store.eligibleProfiles).1 := congrArg Prod.fst isNext
  have isCursor : reached.cursor = (nextPage scanKey limit.toNat store.cursor
      store.eligibleProfiles).2 := congrArg Prod.snd isNext
  rw [isPage] at onPage
  have isEligible := mem_of_mem_page onPage
  have isRow : listed = row := by
    apply RecordTable.distinct_eq store.distinct
    · exact mem_of_mem_filter isEligible
    · exact mem_of_mem_filter mem
    · rw [sameCamera, isCamera]
  constructor
  · rw [isCursor, ← isRow]
    exact page_passed (by omega) store.scan_keys_distinct onPage
  · intro other isOther
    rw [isMarked]
    apply Prod.Lex.toLex_lt_toLex.mpr
    left
    exact clock other (mem_of_mem_filter isOther)

theorem round_due {pages : Nat} {wanted : ProfileRow}
    (called : store.activeProfiles limit = .ok (round.page, reached))
    (ran : markAttempts round.attempts reached = .ok marked)
    (ret : AttemptsReturned reached round marked) (calm : LeavesNoneBehind reached round marked)
    (mem : wanted ∈ store.eligibleProfiles)
    (due : Due scanKey limit.toNat (pages + 1) store.cursor store.eligibleProfiles
      wanted) :
    wanted ∈ round.page ∨ Due scanKey limit.toNat pages marked.cursor marked.eligibleProfiles
        (remark round.attempts wanted) := by
  obtain ⟨positive, isNext, _⟩ := store.active_profiles_ok called
  obtain ⟨_, _, _, sameCursor⟩ := reached.mark_attempts_ok ran
  have isPage : round.page = (nextPage scanKey limit.toNat store.cursor
      store.eligibleProfiles).1 := congrArg Prod.fst isNext
  have isCursor : reached.cursor = (nextPage scanKey limit.toNat store.cursor
      store.eligibleProfiles).2 := congrArg Prod.snd isNext
  have isEligible := reached.mark_attempts_eligible ran
  rw [store.active_profiles_eligible called] at isEligible
  rcases due_next (by omega) store.scan_keys_distinct mem due with onPage | nearer
  · left
    rw [isPage]
    exact onPage
  · right
    rw [← isCursor] at nearer
    rw [sameCursor, isEligible]
    apply due_moved mem (fun row isRow => remark_moves called ret isRow) ?_ nearer
    rcases calm with noAttempts | noneLeft
    · left
      intro row _
      rw [noAttempts]
      rfl
    · right
      intro row isRow
      rw [← sameCursor]
      apply noneLeft
      rw [isEligible]
      exact mem_map_of_mem isRow

/-- The rounds of a scan that keep to the condition. -/
abbrev Careful (reached : PostgresProbeWorkStore) (round : Round)
    (marked : PostgresProbeWorkStore) : Prop :=
  AttemptsReturned reached round marked ∧ LeavesNoneBehind reached round marked

theorem due_returned {rounds : List Round} {wanted : ProfileRow}
    (scans : Scans limit Careful store rounds post) (mem : wanted ∈ store.eligibleProfiles)
    (due : Due scanKey limit.toNat rounds.length store.cursor store.eligibleProfiles
      wanted) :
    ∃ round ∈ rounds, ∃ row ∈ round.page, row.cameraId = wanted.cameraId := by
  induction scans generalizing wanted with
  | nil store => exact (not_due_zero mem due).elim
  | cons called ran careful _ ih =>
    rename_i pre reached marked last round rounds _
    rcases round_due called ran careful.1 careful.2 mem due with onPage | nearer
    · exact ⟨round, mem_cons_self, wanted, onPage, rfl⟩
    · have still : remark round.attempts wanted ∈ marked.eligibleProfiles := by
        rw [reached.mark_attempts_eligible ran, pre.active_profiles_eligible called]
        exact mem_map_of_mem mem
      obtain ⟨found, isRound, row, onPage, isCamera⟩ := ih still nearer
      refine ⟨found, mem_cons_of_mem _ isRound, row, onPage, ?_⟩
      rw [isCamera]
      exact (remark_camera round.attempts wanted).1

variable {allowed : PostgresProbeWorkStore → Round → PostgresProbeWorkStore → Prop}

theorem scans_append
    {first second : List Round} (scans : Scans limit allowed store (first ++ second) post) :
    ∃ middle, Scans limit allowed store first middle ∧ Scans limit allowed middle second post := by
  induction first generalizing store with
  | nil => exact ⟨store, .nil store, scans⟩
  | cons round rest ih =>
    cases scans with
    | cons called ran isAllowed further =>
      obtain ⟨middle, pre, behind⟩ := ih further
      exact ⟨middle, .cons called ran isAllowed pre, behind⟩

theorem scans_cameras {rounds : List Round} (scans : Scans limit allowed store rounds post) :
    post.eligibleProfiles.map ProfileRow.cameraId =
      store.eligibleProfiles.map ProfileRow.cameraId := by
  induction scans with
  | nil store => rfl
  | cons called ran _ _ ih =>
    rename_i pre reached marked last round rounds _ _
    rw [ih, reached.mark_attempts_eligible ran, pre.active_profiles_eligible called, map_map]
    apply map_congr_left
    intro row _
    exact (remark_camera round.attempts row).1

/-- The pages of one whole scan of the eligible profiles. -/
def pagesOf (limit : Int) (store : PostgresProbeWorkStore) : Nat :=
  (store.eligibleProfiles.length + limit.toNat - 1) / limit.toNat

theorem pages_enough (positive : 1 ≤ limit) :
    store.eligibleProfiles.length ≤ pagesOf limit store * limit.toNat := by
  unfold pagesOf
  have isPositive : 0 < limit.toNat := by omega
  have division := Nat.div_add_mod (store.eligibleProfiles.length + limit.toNat - 1) limit.toNat
  have remainder := Nat.mod_lt (store.eligibleProfiles.length + limit.toNat - 1) isPositive
  rw [Nat.mul_comm] at division
  omega

/-- In a scan none of whose attempts leaves a profile behind the cursor, any twice as many
consecutive calls as a whole scan has pages return every eligible profile. -/
theorem active_profiles_reach_every {earlier window later : List Round} {wanted : ProfileRow}
    (positive : 1 ≤ limit) (scans : Scans limit Careful store (earlier ++ (window ++ later)) post)
    (enough : window.length = 2 * pagesOf limit store) (mem : wanted ∈ store.eligibleProfiles) :
    ∃ round ∈ window, ∃ row ∈ round.page, row.cameraId = wanted.cameraId := by
  obtain ⟨start, pre, further⟩ := scans_append scans
  obtain ⟨stop, inWindow, _⟩ := scans_append further
  have cameras := scans_cameras pre
  have isCamera : wanted.cameraId ∈ start.eligibleProfiles.map ProfileRow.cameraId := by
    rw [cameras]
    exact mem_map_of_mem mem
  obtain ⟨current, isCurrent, sameCamera⟩ := mem_map.mp isCamera
  have sameLength : start.eligibleProfiles.length = store.eligibleProfiles.length := by
    rw [← length_map ProfileRow.cameraId, cameras, length_map]
  have samePages : pagesOf limit start = pagesOf limit store := by
    unfold pagesOf
    rw [sameLength]
  have due : Due scanKey limit.toNat window.length start.cursor start.eligibleProfiles
      current := by
    rw [enough, ← samePages]
    exact due_twice isCurrent (pages_enough positive)
  rw [← sameCamera]
  exact due_returned inWindow isCurrent due

theorem exists_later (rows : List ProfileRow) :
    ∃ moment : Datetime, ∀ row ∈ rows, row.scanTime < moment := by
  induction rows with
  | nil => exact ⟨0, fun row mem => absurd mem not_mem_nil⟩
  | cons row rest ih =>
    obtain ⟨moment, later⟩ := ih
    refine ⟨max moment (row.scanTime + 1), ?_⟩
    intro other mem
    rcases mem_cons.mp mem with isRow | inRest
    · rw [isRow]
      exact lt_of_lt_of_le (Int.lt_succ _) (le_max_right _ _)
    · exact lt_of_lt_of_le (later other inRest) (le_max_left _ _)

theorem active_profiles_answers (bounds : 1 ≤ limit ∧ limit ≤ 256) (owned : store.owned = true) :
    ∃ page reached, store.activeProfiles limit = .ok (page, reached) := by
  unfold activeProfiles assertOwned
  rw [check_passes (not_not.mpr bounds), check_passes (by rw [owned]; decide)]
  exact ⟨_, _, rfl⟩

theorem mark_attempt_answers (owned : store.owned = true) (attempt : Attempt) :
    ∃ marked, markAttempts [attempt] store = .ok marked ∧ marked.owned = true := by
  simp only [markAttempts, markAttempt, assertOwned]
  rw [check_passes (by rw [owned]; decide)]
  exact ⟨_, rfl, owned⟩

/-- One more round that attempts the last profile of its page: what was left behind the cursor is
not returned and stays behind, and again something is ahead. -/
theorem round_leaves_behind {left : ProfileRow} (bounds : 1 ≤ limit ∧ limit ≤ 256)
    (owned : store.owned = true) (isLeft : left ∈ store.eligibleProfiles)
    (behind : ¬After store.cursor left.scanKey)
    (some : beyond scanKey store.cursor store.eligibleProfiles ≠ []) :
    ∃ round reached marked, store.activeProfiles limit = .ok (round.page, reached) ∧
      markAttempts round.attempts reached = .ok marked ∧ AttemptsReturned reached round marked ∧
      (∀ row ∈ round.page, row.cameraId ≠ left.cameraId) ∧ marked.owned = true ∧
      left ∈ marked.eligibleProfiles ∧ ¬After marked.cursor left.scanKey ∧
      beyond scanKey marked.cursor marked.eligibleProfiles ≠ [] := by
  obtain ⟨page, reached, called⟩ := active_profiles_answers bounds owned
  obtain ⟨positive, isNext, profiles, _, _, sameOwned⟩ := store.active_profiles_ok called
  have isPositive : 0 < limit.toNat := by omega
  obtain ⟨last, isLast, isPage⟩ := next_page_some isPositive some
  rw [isPage, Prod.mk.injEq] at isNext
  obtain ⟨rfl, isCursor⟩ := isNext
  have lastBeyond : last ∈ beyond scanKey store.cursor store.eligibleProfiles :=
    mem_of_mem_take (mem_of_getLast? isLast)
  obtain ⟨lastEligible, lastAfter⟩ := mem_beyond.mp lastBeyond
  obtain ⟨moment, later⟩ := exists_later reached.profiles
  obtain ⟨marked, ran, isOwned⟩ := mark_attempt_answers (sameOwned.trans owned)
    ⟨last.cameraId, last.revision, moment⟩
  have notOnPage : ∀ row ∈ (beyond scanKey store.cursor store.eligibleProfiles).take
      limit.toNat, row.cameraId ≠ left.cameraId := by
    intro row onPage same
    obtain ⟨isEligible, isAfter⟩ := mem_beyond.mp (mem_of_mem_take onPage)
    have isRow : row = left := RecordTable.distinct_eq store.distinct
      (mem_of_mem_filter isEligible) (mem_of_mem_filter isLeft) same
    exact behind (isRow ▸ isAfter)
  obtain ⟨_, _, _, sameCursor⟩ := reached.mark_attempts_ok ran
  have isEligible := reached.mark_attempts_eligible ran
  rw [store.active_profiles_eligible called] at isEligible
  have leftStays : remark [⟨last.cameraId, last.revision, moment⟩] left = left := by
    rcases remark_cases [⟨last.cameraId, last.revision, moment⟩] left with
      same | ⟨attempt, isAttempt, isCamera, _⟩
    · exact same
    · rw [mem_singleton.mp isAttempt] at isCamera
      exact (notOnPage last (mem_of_getLast? isLast) isCamera.symm).elim
  have lastMoves : remark [⟨last.cameraId, last.revision, moment⟩] last =
      { last with lastAttemptAt := .some moment } := by
    simp [remark, attempted]
  refine ⟨⟨_, [⟨last.cameraId, last.revision, moment⟩]⟩, reached, marked, called, ran, ?_,
    notOnPage, isOwned, ?_, ?_, ?_⟩
  · intro attempt isAttempt
    rw [mem_singleton.mp isAttempt]
    exact ⟨⟨last, mem_of_getLast? isLast, rfl, rfl⟩, later⟩
  · rw [isEligible, ← leftStays]
    exact mem_map_of_mem isLeft
  · rw [sameCursor, isCursor]
    intro isAfter
    apply behind
    intro passed isPassed
    exact (lastAfter passed isPassed).trans (isAfter _ rfl)
  · apply ne_nil_of_mem (a := remark [⟨last.cameraId, last.revision, moment⟩] last)
    rw [mem_beyond, sameCursor, isCursor, isEligible]
    refine ⟨mem_map_of_mem lastEligible, ?_⟩
    intro passed isPassed
    cases isPassed
    rw [lastMoves]
    apply Prod.Lex.toLex_lt_toLex.mpr
    left
    rw [profiles] at later
    exact later last (mem_of_mem_filter lastEligible)

/-- Once an attempt has left a profile behind the cursor, attempts can keep it from ever being
returned. -/
theorem left_behind_never_returned {left : ProfileRow} (bounds : 1 ≤ limit ∧ limit ≤ 256)
    (owned : store.owned = true) (isLeft : left ∈ store.eligibleProfiles)
    (behind : ¬After store.cursor left.scanKey)
    (some : beyond scanKey store.cursor store.eligibleProfiles ≠ []) (count : Nat) :
    ∃ rounds post, rounds.length = count ∧ Scans limit AttemptsReturned store rounds post ∧
      ∀ round ∈ rounds, ∀ row ∈ round.page, row.cameraId ≠ left.cameraId := by
  induction count generalizing store with
  | zero => exact ⟨[], store, rfl, .nil store, fun round mem => absurd mem not_mem_nil⟩
  | succ count ih =>
    obtain ⟨round, reached, marked, called, ran, ret, notOnPage, stillOwned, stillLeft,
      stillBehind, stillSome⟩ := round_leaves_behind bounds owned isLeft behind some
    obtain ⟨rounds, post, isLength, scans, never⟩ :=
      ih stillOwned stillLeft stillBehind stillSome
    refine ⟨round :: rounds, post, congrArg (· + 1) isLength, .cons called ran ret scans, ?_⟩
    intro other mem
    rcases mem_cons.mp mem with isRound | inRest
    · rw [isRound]
      exact notOnPage
    · exact never other inRest

def sampleProfile : CameraProbeProfile where
  enabled := true
  maxSourceSessions := 2
  sessionsValid := sampleTarget.sessionLimitValid
  mediaValid := by decide
  routineValid := by decide
  confirmationValid := by decide
  timeoutValid := by decide

def sampleRow (cameraId : UUID) (updatedAt : Datetime) (lastAttemptAt : Option Datetime) :
    ProfileRow where
  cameraId := cameraId
  revision := 1
  profile := sampleProfile
  updatedAt := updatedAt
  lastAttemptAt := lastAttemptAt

def samplePlacement (cameraId : UUID) : CameraPlacement where
  id := cameraId
  name := "camera"
  sourceUrl := "rtsp://camera.example/live"
  publicId := sampleTarget.publicId
  nodeId := 0x40008000000000000009
  nodePort := 8554
  placementMode := .automatic

def sampleNode : MediaNode where
  id := 0x40008000000000000009
  name := "node"
  externalPort := 8554
  state := .running

def firstCamera : UUID := 0x40008000000000000001

def secondCamera : UUID := 0x40008000000000000002

/-- Two eligible profiles; the times are those of their last attempts. -/
def sampleStore (first second : Option Datetime) (cursor : Option (Datetime ×ₗ Nat)) :
    PostgresProbeWorkStore where
  profiles := [sampleRow firstCamera 1 first, sampleRow secondCamera 2 second]
  cameras := [samplePlacement firstCamera, samplePlacement secondCamera]
  nodes := [sampleNode]
  owned := true
  cursor := cursor
  distinct := by
    change [firstCamera, secondCamera].Nodup
    decide

/-- The first profile has been returned and not attempted. -/
def passedFirst : PostgresProbeWorkStore :=
  sampleStore none none (some (toLex (1, firstCamera.int)))

/-- Pages of one profile: the second is attempted after every call, the first never comes up. -/
theorem attempted_profile_starves_other :
    sampleRow firstCamera 1 none ∈ passedFirst.eligibleProfiles ∧
      ∃ rounds post, rounds.length = 2 * pagesOf 1 passedFirst ∧
        Scans 1 AttemptsReturned passedFirst rounds post ∧
        ∀ round ∈ rounds, ∀ row ∈ round.page, row.cameraId ≠ firstCamera := by
  have isLeft : sampleRow firstCamera 1 none ∈ passedFirst.eligibleProfiles := by
    decide +kernel
  have behind : ¬After passedFirst.cursor (sampleRow firstCamera 1 none).scanKey := by
    decide +kernel
  have some : beyond scanKey passedFirst.cursor passedFirst.eligibleProfiles ≠ [] := by
    decide +kernel
  have bounds : (1 : Int) ≤ 1 ∧ (1 : Int) ≤ 256 := by decide
  obtain ⟨rounds, post, isLength, scans, never⟩ :=
    left_behind_never_returned bounds rfl isLeft behind some 4
  exact ⟨isLeft, rounds, post, isLength, scans, never⟩

/-- Both profiles are returned, attempted and returned again. -/
def sampleRounds : List Round :=
  [⟨[sampleRow firstCamera 1 none, sampleRow secondCamera 2 none],
      [⟨firstCamera, 1, 10⟩, ⟨secondCamera, 1, 11⟩]⟩,
    ⟨[sampleRow firstCamera 1 (some 10), sampleRow secondCamera 2 (some 11)], []⟩]

theorem sample_scans : Scans 2 Careful (sampleStore none none none) sampleRounds
    (sampleStore (some 10) (some 11) (some (toLex (11, secondCamera.int)))) := by
  have firstCall : (sampleStore none none none).activeProfiles 2 =
      .ok ([sampleRow firstCamera 1 none, sampleRow secondCamera 2 none],
        sampleStore none none (some (toLex (2, secondCamera.int)))) := rfl
  have marks : markAttempts [⟨firstCamera, 1, 10⟩, ⟨secondCamera, 1, 11⟩]
      (sampleStore none none (some (toLex (2, secondCamera.int)))) =
        .ok (sampleStore (some 10) (some 11) (some (toLex (2, secondCamera.int)))) := rfl
  have secondCall : (sampleStore (some 10) (some 11)
      (some (toLex (2, secondCamera.int)))).activeProfiles 2 =
        .ok ([sampleRow firstCamera 1 (some 10), sampleRow secondCamera 2 (some 11)],
          sampleStore (some 10) (some 11) (some (toLex (11, secondCamera.int)))) := rfl
  refine .cons firstCall marks ⟨?_, .inr ?_⟩ (.cons secondCall rfl ⟨?_, .inl rfl⟩ (.nil _))
  · unfold AttemptsReturned
    decide +kernel
  · decide +kernel
  · intro attempt mem
    cases mem

theorem active_profiles_reach_every_sample :
    ∃ round ∈ sampleRounds, ∃ row ∈ round.page, row.cameraId = secondCamera := by
  have mem : sampleRow secondCamera 2 none ∈ (sampleStore none none none).eligibleProfiles := by
    decide +kernel
  have scans : Scans 2 Careful (sampleStore none none none) ([] ++ (sampleRounds ++ [])) _ :=
    sample_scans
  exact active_profiles_reach_every (by decide) scans rfl mem

end PostgresProbeWorkStore

end RtspProxy.Probes
