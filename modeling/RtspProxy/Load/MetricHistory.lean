import Mathlib
import RtspProxy.Lib.Tally

/-!
# Counters of the system under test

`_MetricHistory` with its `update`, and what `summarize_sut_capacity` makes of the
counters. A counter of a session and one of a path are told apart by `CounterField`,
so that one table holds what the source keeps in `_session_last`, `_session_totals`,
`_path_last` and `_path_totals`, whose entries for a key are written together.
-/

namespace RtspProxy.Load

open Lib Lib.Raising Lib.Tally List RecordTable
open Option (map_some map_eq_some_iff)

inductive SessionCounterField
  | inboundRtcpPacketsInError | inboundRtpPackets | inboundRtpPacketsInError
  | inboundRtpPacketsLost | outboundRtpPackets | outboundRtpPacketsDiscarded
  | outboundRtpPacketsReportedLost | rtcpPacketsInError | rtpPacketsInError | rtpPacketsLost
  deriving DecidableEq

open SessionCounterField in
def sessionCounterFields : List SessionCounterField :=
  [inboundRtcpPacketsInError, inboundRtpPackets, inboundRtpPacketsInError, inboundRtpPacketsLost,
    outboundRtpPackets, outboundRtpPacketsDiscarded, outboundRtpPacketsReportedLost,
    rtcpPacketsInError, rtpPacketsInError, rtpPacketsLost]

inductive CounterField
  | session (field : SessionCounterField)
  | pathInboundFramesInError
  deriving DecidableEq

inductive PathState
  | notReady | ready
  deriving DecidableEq

structure SessionMetricSnapshot where
  identitySha256 : String
  observedCounterFields : List SessionCounterField
  counters : SessionCounterField → Nat
  complete : ∀ field, field ∈ observedCounterFields

structure PathMetricSnapshot where
  identitySha256 : String
  state : PathState
  inboundFramesInError : Nat

/-- The arguments of `update`. `SutObservation` and `read_mediamtx_metrics` see to it that no identity
stands in them twice. -/
structure Snapshots where
  sessions : List SessionMetricSnapshot
  paths : List PathMetricSnapshot
  distinctSessions : RecordTable.DistinctKeys (·.identitySha256) sessions
  distinctPaths : RecordTable.DistinctKeys (·.identitySha256) paths

abbrev CounterKey := CounterField × String

structure MetricHistory where
  tallies : Dict CounterKey (Nat × Nat) := .empty
  activeSessions : List String := []
  pathStates : Dict String PathState := .empty
  activePaths : List String := []

namespace MetricHistory

/-- What the two loops of `update` go through. No identity comes twice, so that the states of the
paths may be looked up beforehand. -/
def readings (hist : MetricHistory) (snapshots : Snapshots) : List (Reading CounterKey String) :=
  (snapshots.sessions.flatMap fun session =>
    (sessionCounterFields.filter (· ∈ session.observedCounterFields)).map fun field =>
      { key := (.session field, session.identitySha256)
        continued := session.identitySha256 ∈ hist.activeSessions
        value := session.counters field
        reset := "sut_session_counter_reset_while_active" }) ++
  snapshots.paths.map fun path =>
    { key := (.pathInboundFramesInError, path.identitySha256)
      continued := path.identitySha256 ∈ hist.activePaths ∧
        hist.pathStates.get path.identitySha256 = some path.state
      value := path.inboundFramesInError
      reset := "sut_path_counter_reset_while_active" }

def totals (hist : MetricHistory) (field : CounterField) : Nat :=
  total hist.tallies (·.1 = field)

def update (hist : MetricHistory) (snapshots : Snapshots) :
    Except String ((CounterField → Nat) × MetricHistory) := do
  let tallies ← (hist.readings snapshots).foldlM account hist.tallies
  let next : MetricHistory :=
    { tallies
      activeSessions := snapshots.sessions.map (·.identitySha256)
      pathStates := snapshots.paths.foldl
        (fun states path => states.set path.identitySha256 path.state) hist.pathStates
      activePaths := snapshots.paths.map (·.identitySha256) }
  return (next.totals, next)

end MetricHistory

/-- What the snapshots read of a counter of an identity, and the state it is tied to. -/
def seen (key : CounterKey) (snapshots : Snapshots) : Option (Option PathState × Nat) :=
  match key.1 with
  | .session field =>
    (lookup (·.identitySha256) key.2 snapshots.sessions).map fun session =>
      (none, session.counters field)
  | .pathInboundFramesInError =>
    (lookup (·.identitySha256) key.2 snapshots.paths).map fun path =>
      (some path.state, path.inboundFramesInError)

/-- The history after the updates, the newest first. -/
structure Follows (updates : List Snapshots) (history : MetricHistory) : Prop where
  tallies : ∀ key, history.tallies.get key = tallyOf (updates.map (seen key))
  sessions : history.activeSessions = (updates.head?.map (·.sessions.map (·.identitySha256))).getD []
  paths : history.activePaths = (updates.head?.map (·.paths.map (·.identitySha256))).getD []
  states : ∀ latest ∈ updates.head?, ∀ path ∈ latest.paths,
    history.pathStates.get path.identitySha256 = some path.state

variable {hist : MetricHistory} {updates : List Snapshots} {snapshots : Snapshots}
  {reading : Reading CounterKey String}

/-- A reading is what the snapshots show of its counter, and continues what the last ones showed. -/
structure Reads (updates : List Snapshots) (snapshots : Snapshots)
    (reading : Reading CounterKey String) (tag : Option PathState) : Prop where
  shown : seen reading.key snapshots = some (tag, reading.value)
  continued : reading.continued =
    decide ((updates.map (seen reading.key)).head?.join.map Prod.fst = some tag)

theorem session_fields_complete (field : SessionCounterField) : field ∈ sessionCounterFields := by
  cases field <;> decide

theorem seen_session {session : SessionMetricSnapshot} (mem : session ∈ snapshots.sessions)
    (field : SessionCounterField) :
    seen (.session field, session.identitySha256) snapshots = some (none, session.counters field) := by
  simp only [seen, lookup_of_mem snapshots.distinctSessions mem, map_some]

theorem seen_path {path : PathMetricSnapshot} (mem : path ∈ snapshots.paths) :
    seen (.pathInboundFramesInError, path.identitySha256) snapshots =
      some (some path.state, path.inboundFramesInError) := by
  simp only [seen, lookup_of_mem snapshots.distinctPaths mem, map_some]

theorem session_seen_iff {field : SessionCounterField} {identity : String} :
    (seen (.session field, identity) snapshots).map Prod.fst = some none ↔
      identity ∈ snapshots.sessions.map (·.identitySha256) := by
  constructor
  · intro shown
    obtain ⟨reading, found, -⟩ := map_eq_some_iff.mp shown
    obtain ⟨session, found, -⟩ := map_eq_some_iff.mp found
    exact mem_map.mpr ⟨session, lookup_mem found, lookup_key found⟩
  · intro mem
    obtain ⟨session, isSession, rfl⟩ := mem_map.mp mem
    rw [seen_session isSession, map_some]

theorem path_seen_iff {state : PathState} {identity : String} :
    (seen (.pathInboundFramesInError, identity) snapshots).map Prod.fst = some (some state) ↔
      ∃ path ∈ snapshots.paths, path.identitySha256 = identity ∧ path.state = state := by
  constructor
  · intro shown
    obtain ⟨reading, found, isState⟩ := map_eq_some_iff.mp shown
    obtain ⟨path, isPath, rfl⟩ := map_eq_some_iff.mp found
    exact ⟨path, lookup_mem isPath, lookup_key isPath, Option.some.inj isState⟩
  · rintro ⟨path, mem, rfl, rfl⟩
    rw [seen_path mem, map_some]

theorem session_continued (follows : Follows updates hist) (field : SessionCounterField)
    (identity : String) : identity ∈ hist.activeSessions ↔
      (updates.map (seen (.session field, identity))).head?.join.map Prod.fst = some none := by
  rw [follows.sessions]
  cases updates with
  | nil => simp
  | cons latest older => exact session_seen_iff.symm

theorem path_continued (follows : Follows updates hist) (state : PathState) (identity : String) :
    identity ∈ hist.activePaths ∧ hist.pathStates.get identity = some state ↔
      (updates.map (seen (.pathInboundFramesInError, identity))).head?.join.map Prod.fst =
        some (some state) := by
  rw [follows.paths]
  cases updates with
  | nil => simp
  | cons latest older =>
    refine Iff.trans ?_ path_seen_iff.symm
    constructor
    · rintro ⟨mem, isState⟩
      obtain ⟨path, isPath, rfl⟩ := mem_map.mp mem
      rw [follows.states latest rfl path isPath] at isState
      exact ⟨path, isPath, rfl, Option.some.inj isState⟩
    · rintro ⟨path, mem, rfl, rfl⟩
      exact ⟨mem_map_of_mem mem, follows.states latest rfl path mem⟩

theorem readings_read (follows : Follows updates hist)
    (mem : reading ∈ hist.readings snapshots) : ∃ tag, Reads updates snapshots reading tag := by
  rcases mem_append.mp mem with ofSession | ofPath
  · obtain ⟨session, isSession, isReading⟩ := mem_flatMap.mp ofSession
    obtain ⟨field, -, rfl⟩ := mem_map.mp isReading
    exact ⟨none, seen_session isSession field, decide_eq_decide.mpr (session_continued follows _ _)⟩
  · obtain ⟨path, isPath, rfl⟩ := mem_map.mp ofPath
    exact ⟨some path.state, seen_path isPath, decide_eq_decide.mpr (path_continued follows _ _)⟩

theorem readings_distinct (hist : MetricHistory) (snapshots : Snapshots) :
    ((hist.readings snapshots).map (·.key)).Nodup := by
  simp only [MetricHistory.readings, map_append, map_flatMap, map_map]
  refine Nodup.append (nodup_flatMap.mpr ⟨fun session _ => ?_, ?_⟩) ?_ ?_
  · refine Nodup.map (fun one other same => ?_) ((by decide : sessionCounterFields.Nodup).filter _)
    injection congrArg Prod.fst same
  · refine (pairwise_map.mp snapshots.distinctSessions).imp fun differ key inOne inOther => ?_
    obtain ⟨_, -, rfl⟩ := mem_map.mp inOne
    obtain ⟨_, -, same⟩ := mem_map.mp inOther
    exact differ (congrArg Prod.snd same).symm
  · refine Nodup.of_map Prod.snd ?_
    rw [map_map]
    exact snapshots.distinctPaths
  · intro key ofSession ofPath
    obtain ⟨_, -, isKey⟩ := mem_flatMap.mp ofSession
    obtain ⟨_, -, rfl⟩ := mem_map.mp isKey
    obtain ⟨_, -, same⟩ := mem_map.mp ofPath
    cases congrArg Prod.fst same

theorem readings_complete (hist : MetricHistory) {key : CounterKey}
    (shown : seen key snapshots ≠ none) : key ∈ (hist.readings snapshots).map (·.key) := by
  obtain ⟨shownReading, found⟩ := Option.ne_none_iff_exists'.mp shown
  obtain ⟨field, identity⟩ := key
  cases field with
  | session field =>
    obtain ⟨session, found, -⟩ := map_eq_some_iff.mp found
    obtain rfl := lookup_key found
    have observed : field ∈ sessionCounterFields.filter (· ∈ session.observedCounterFields) :=
      mem_filter.mpr ⟨session_fields_complete field, decide_eq_true (session.complete field)⟩
    exact mem_map.mpr ⟨_, mem_append_left _ (mem_flatMap.mpr ⟨session, lookup_mem found,
      mem_map_of_mem observed⟩), rfl⟩
  | pathInboundFramesInError =>
    obtain ⟨path, found, -⟩ := map_eq_some_iff.mp found
    obtain rfl := lookup_key found
    exact mem_map.mpr ⟨_, mem_append_right _ (mem_map_of_mem (lookup_mem found)), rfl⟩

theorem states_set {paths : List PathMetricSnapshot}
    (distinct : RecordTable.DistinctKeys (·.identitySha256) paths) (states : Dict String PathState) :
    (∀ identity ∉ paths.map (·.identitySha256), (paths.foldl (fun states path =>
        states.set path.identitySha256 path.state) states).get identity = states.get identity) ∧
      ∀ path ∈ paths, (paths.foldl (fun states path =>
        states.set path.identitySha256 path.state) states).get path.identitySha256 =
          some path.state := by
  induction paths generalizing states with
  | nil => exact ⟨fun _ _ => rfl, fun _ mem => (by cases mem)⟩
  | cons first rest ih =>
    obtain ⟨fresh, distinct⟩ := nodup_cons.mp distinct
    obtain ⟨kept, set⟩ := ih distinct (states.set first.identitySha256 first.state)
    refine ⟨fun identity absent => ?_, fun path mem => ?_⟩
    · obtain ⟨differ, absent⟩ := not_or.mp (mt mem_cons.mpr absent)
      exact (kept identity absent).trans (Dict.get_set_ne differ)
    · rcases mem_cons.mp mem with rfl | mem
      · exact (kept _ fresh).trans (Dict.get_set_self _ _ _)
      · exact set path mem

/-- What `update` does to the history of each counter, and what it adds to it. -/
theorem update_follows {totals : CounterField → Nat} {next : MetricHistory}
    (follows : Follows updates hist) (accepted : hist.update snapshots = .ok (totals, next)) :
    Follows (snapshots :: updates) next ∧ totals = next.totals ∧
      ∀ key, runsTotal none ((snapshots :: updates).map (seen key)) =
        runsTotal none (updates.map (seen key)) +
          increase (updates.map (seen key)).head?.join (seen key snapshots) := by
  obtain ⟨tallies, accounted, isNext⟩ := bind_ok.mp accepted
  obtain ⟨rfl, rfl⟩ := Prod.mk.inj (Except.ok.inj isNext)
  obtain ⟨kept, read⟩ := account_all (readings_distinct hist snapshots) accounted
  have each (key : CounterKey) : tallies.get key = tallyOf ((snapshots :: updates).map (seen key)) ∧
      runsTotal none ((snapshots :: updates).map (seen key)) =
        runsTotal none (updates.map (seen key)) +
          increase (updates.map (seen key)).head?.join (seen key snapshots) := by
    rw [map_cons]
    by_cases isRead : key ∈ (hist.readings snapshots).map (·.key)
    · obtain ⟨reading, mem, rfl⟩ := mem_map.mp isRead
      obtain ⟨tag, shown, continued⟩ := readings_read follows mem
      obtain ⟨tally, advanced, isTally⟩ := read reading mem
      rw [follows.tallies] at advanced
      obtain ⟨isNew, grown⟩ := advance_tally continued advanced
      rw [shown, isTally]
      exact ⟨isNew.symm, grown⟩
    · have unseen : seen key snapshots = none :=
        by_contra fun shown => isRead (readings_complete hist shown)
      rw [unseen, kept key isRead, follows.tallies]
      exact ⟨rfl, rfl⟩
  refine ⟨⟨fun key => (each key).1, rfl, rfl, ?_⟩, rfl, fun key => (each key).2⟩
  rintro latest ⟨⟩ path mem
  exact (states_set snapshots.distinctPaths hist.pathStates).2 path mem

/-- The identities, none twice, are all that the snapshots show. -/
structure Covers (identities : List String) (updates : List Snapshots) : Prop where
  distinct : identities.Nodup
  all : ∀ snapshots ∈ updates, ∀ key, seen key snapshots ≠ none → key.2 ∈ identities

/-- The last values of all the runs of a counter, with the newest snapshots first. -/
def runTotals (ids : List String) (field : CounterField) (updates : List Snapshots) : Nat :=
  (ids.map fun identity => runsTotal none (updates.map (seen (field, identity)))).sum

/-- What the snapshots add to a counter, each compared with the one before it. -/
def increases (ids : List String) (field : CounterField) :
    Option Snapshots → List Snapshots → Nat
  | _, [] => 0
  | older, snapshots :: rest =>
    (ids.map fun identity =>
      increase (older.bind (seen (field, identity))) (seen (field, identity) snapshots)).sum +
      increases ids field (some snapshots) rest

theorem Covers.among {ids : List String} {others : List Snapshots}
    (covers : Covers ids others) (among : updates ⊆ others) : Covers ids updates :=
  ⟨covers.distinct, fun snapshots mem => covers.all snapshots (among mem)⟩

theorem covers_exist (updates : List Snapshots) : ∃ ids, Covers ids updates := by
  refine ⟨(updates.flatMap fun snapshots => snapshots.sessions.map (·.identitySha256) ++
    snapshots.paths.map (·.identitySha256)).dedup, nodup_dedup _, fun snapshots mem key shown => ?_⟩
  refine mem_dedup.mpr (mem_flatMap.mpr ⟨snapshots, mem, ?_⟩)
  obtain ⟨reading, found⟩ := Option.ne_none_iff_exists'.mp shown
  obtain ⟨field, identity⟩ := key
  cases field with
  | session field =>
    obtain ⟨session, found, -⟩ := map_eq_some_iff.mp found
    exact mem_append_left _ (mem_map.mpr ⟨session, lookup_mem found, lookup_key found⟩)
  | pathInboundFramesInError =>
    obtain ⟨path, found, -⟩ := map_eq_some_iff.mp found
    exact mem_append_right _ (mem_map.mpr ⟨path, lookup_mem found, lookup_key found⟩)

variable {ids : List String} {next : MetricHistory}

theorem totals_of_runs (follows : Follows updates hist) (covers : Covers ids updates)
    (field : CounterField) : hist.totals field = runTotals ids field updates := by
  have distinct : (ids.map (field, ·)).Nodup :=
    covers.distinct.map fun _ _ same => (Prod.mk.inj same).2
  rw [MetricHistory.totals, total_of_keys distinct (by simp), map_map, runTotals]
  · refine congrArg sum (map_congr_left fun identity _ => ?_)
    simp only [Function.comp_apply]
    rw [follows.tallies]
    cases known : tallyOf (updates.map (seen (field, identity))) with
    | none =>
      exact (runs_total_none (head?_eq_none_iff.mp (Option.map_eq_none_iff.mp known)) none).symm
    | some tally =>
      obtain ⟨_, _, rfl⟩ := map_eq_some_iff.mp known
      rfl
  · rintro ⟨_, identity⟩ isField present
    obtain rfl := of_decide_eq_true isField
    rw [follows.tallies] at present
    obtain ⟨tally, known⟩ := Option.ne_none_iff_exists'.mp present
    obtain ⟨last, isLast, -⟩ := map_eq_some_iff.mp known
    obtain ⟨snapshots, mem, shown⟩ :=
      mem_map.mp (reduceOption_mem_iff.mp (mem_of_head? isLast))
    have present : seen (_, identity) snapshots ≠ none := shown ▸ Option.some_ne_none last
    exact mem_map_of_mem (covers.all snapshots mem _ present)

def rec (hist : MetricHistory) : List Snapshots →
    Except String (List (CounterField → Nat) × MetricHistory)
  | [] => .ok ([], hist)
  | snapshots :: rest => do
    let (totals, next) ← hist.update snapshots
    let (later, last) ← rec next rest
    return (totals :: later, last)

variable {totals : List (CounterField → Nat)}

variable {last : MetricHistory}

theorem record_cons {rest : List Snapshots}
    (ran : rec hist (snapshots :: rest) = .ok (totals, last)) :
    ∃ next later, hist.update snapshots = .ok (next.totals, next) ∧
      rec next rest = .ok (later, last) ∧ totals = next.totals :: later := by
  obtain ⟨⟨_, next⟩, upd, ran⟩ := bind_ok.mp ran
  obtain ⟨⟨later, _⟩, others, done⟩ := bind_ok.mp ran
  obtain ⟨rfl, rfl⟩ := Prod.mk.inj (Except.ok.inj done)
  obtain ⟨_, accounted, isNext⟩ := bind_ok.mp upd
  obtain ⟨rfl, rfl⟩ := Prod.mk.inj (Except.ok.inj isNext)
  exact ⟨_, later, upd, others, rfl⟩

theorem record_append {earlier later : List Snapshots}
    (ran : rec hist (earlier ++ later) = .ok (totals, last)) :
    ∃ next, rec hist earlier = .ok (totals.take earlier.length, next) ∧
      rec next later = .ok (totals.drop earlier.length, last) := by
  induction earlier generalizing hist totals with
  | nil => exact ⟨hist, rfl, ran⟩
  | cons snapshots rest ih =>
    obtain ⟨next, _, upd, others, rfl⟩ := record_cons ran
    obtain ⟨middle, first, second⟩ := ih others
    refine ⟨middle, ?_, second⟩
    rw [rec, bind_of_ok upd]
    dsimp only
    rw [bind_of_ok first]
    rfl

theorem run_totals_cons (ids : List String) (field : CounterField)
    (grown : ∀ key, runsTotal none ((snapshots :: updates).map (seen key)) =
      runsTotal none (updates.map (seen key)) +
        increase (updates.map (seen key)).head?.join (seen key snapshots)) :
    runTotals ids field (snapshots :: updates) = runTotals ids field updates +
      (ids.map fun identity => increase (updates.head?.bind (seen (field, identity)))
        (seen (field, identity) snapshots)).sum := by
  have last (key : CounterKey) :
      (updates.map (seen key)).head?.join = updates.head?.bind (seen key) := by
    cases updates <;> rfl
  simp only [runTotals, grown, last]
  exact sum_map_add

theorem record_follows {past : List Snapshots} (follows : Follows past hist)
    (ran : rec hist updates = .ok (totals, last)) :
    Follows (updates.reverse ++ past) last ∧
      (∀ ids field, runTotals ids field (updates.reverse ++ past) =
        runTotals ids field past + increases ids field past.head? updates) ∧
      (totals.getLast?.getD hist.totals = last.totals) := by
  induction updates generalizing hist totals past with
  | nil =>
    obtain ⟨rfl, rfl⟩ := Prod.mk.inj (Except.ok.inj ran)
    exact ⟨follows, fun _ _ => rfl, rfl⟩
  | cons snapshots rest ih =>
    obtain ⟨next, later, upd, others, rfl⟩ := record_cons ran
    obtain ⟨followed, -, grown⟩ := update_follows follows upd
    obtain ⟨isLast, sums, final⟩ := ih followed others
    rw [reverse_cons, append_assoc, singleton_append]
    refine ⟨isLast, fun ids field => ?_, ?_⟩
    · rw [sums, run_totals_cons ids field grown, increases, Nat.add_assoc]
      rfl
    · rw [getLast?_cons, ← final]
      rfl

theorem record_grows {past : List Snapshots} (follows : Follows past hist)
    (ran : rec hist updates = .ok (totals, last)) (field : CounterField) :
    hist.totals field ≤ last.totals field ∧ ∀ ret ∈ totals, ret field ≤ last.totals field := by
  have grows {start : MetricHistory} {past updates : List Snapshots} (follows : Follows past start)
      {totals : List (CounterField → Nat)} (ran : rec start updates = .ok (totals, last)) :
      start.totals field ≤ last.totals field := by
    obtain ⟨followed, sums, -⟩ := record_follows follows ran
    obtain ⟨ids, covers⟩ := covers_exist (updates.reverse ++ past)
    have coversPast : Covers ids past := covers.among (subset_append_right _ _)
    rw [totals_of_runs follows coversPast, totals_of_runs followed covers, sums]
    exact Nat.le_add_right _ _
  refine ⟨grows follows ran, fun ret mem => ?_⟩
  induction updates generalizing hist totals past with
  | nil =>
    obtain ⟨rfl, -⟩ := Prod.mk.inj (Except.ok.inj ran)
    cases mem
  | cons snapshots rest ih =>
    obtain ⟨next, later, upd, others, rfl⟩ := record_cons ran
    have followed := (update_follows follows upd).1
    rcases mem_cons.mp mem with rfl | mem
    · exact grows followed others
    · exact ih followed others mem

theorem start_follows : Follows [] {} :=
  ⟨fun _ => rfl, rfl, rfl, fun _ mem => (by cases mem)⟩

/-- `SutObservation` with the fields that the counters need; an instant is in seconds. -/
structure SutObservation where
  timestamp : Rat
  intervalSeconds : Rat
  snapshots : Snapshots
  cumulative : CounterField → Nat

/-- `int(seconds * 1000)`, however the doubles are rounded. -/
class UnixTime where
  unixMs : Rat → Int
  mono : Monotone unixMs

section Summaries

open UnixTime

variable [UnixTime]

def window (typed : List SutObservation) (startMs endMs : Int) : List SutObservation :=
  typed.filter fun item => startMs < unixMs item.timestamp ∧
    unixMs (item.timestamp - item.intervalSeconds) < endMs

/-- Of `gated_timestamps`: no two observations have the same. -/
def isGated (typed : List SutObservation) (measurementStartMs measurementEndMs soakEndMs : Int)
    (item : SutObservation) : Bool :=
  item.timestamp ∈ (window typed measurementStartMs measurementEndMs ++
    if measurementEndMs < soakEndMs then window typed measurementEndMs soakEndMs else []).map
      (·.timestamp)

def counterFields : List CounterField :=
  .pathInboundFramesInError :: sessionCounterFields.map .session

def reproduce (hist : MetricHistory) : List SutObservation → Except String Unit
  | [] => .ok ()
  | item :: rest => do
    let (recomputed, next) ← hist.update item.snapshots
    raiseIf (∃ field ∈ counterFields, recomputed field ≠ item.cumulative field)
      "sut_cumulative_counter_not_reproducible"
    reproduce next rest

/-- The deltas of `summarize_sut_capacity`, with the checks of `summarize_generator_headroom` on the
windows and the timestamps. -/
def counterDeltas (typed : List SutObservation) (measurementStartMs measurementEndMs soakEndMs : Int) :
    Except String (CounterField → Int) := do
  raiseIf (measurementEndMs ≤ measurementStartMs ∨ soakEndMs < measurementEndMs)
    "generator_observations_empty"
  raiseIf (¬ typed.Pairwise (·.timestamp < ·.timestamp))
    "generator_observation_timestamps_not_monotonic"
  let gated := typed.filter (isGated typed measurementStartMs measurementEndMs soakEndMs)
  raiseIf (gated = []) "sut_measurement_observations_empty"
  reproduce {} typed
  let baseline ← orRaise (typed.filter (unixMs ·.timestamp ≤ measurementStartMs)).getLast?
    "sut_counter_baseline_missing"
  return fun field =>
    ((gated.map (·.cumulative field)).max?.getD 0 : Nat) - (baseline.cumulative field : Int)

variable {typed : List SutObservation} {item : SutObservation}

omit [UnixTime] in
theorem counter_fields_complete (field : CounterField) : field ∈ counterFields := by
  cases field with
  | session field => exact mem_cons_of_mem _ (mem_map_of_mem (session_fields_complete field))
  | pathInboundFramesInError => exact mem_cons_self

omit [UnixTime] in
theorem reproduce_record (reproduced : reproduce hist typed = .ok ()) :
    ∃ last, rec hist (typed.map (·.snapshots)) = .ok (typed.map (·.cumulative), last) := by
  induction typed generalizing hist with
  | nil => exact ⟨hist, rfl⟩
  | cons item rest ih =>
    obtain ⟨⟨recomputed, next⟩, upd, reproduced⟩ := bind_ok.mp reproduced
    obtain ⟨_, same, others⟩ := bind_ok.mp reproduced
    obtain ⟨last, ran⟩ := ih others
    have isSame : recomputed = item.cumulative := by
      funext field
      by_contra differ
      exact raise_if_ok.mp same ⟨field, counter_fields_complete field, differ⟩
    refine ⟨last, ?_⟩
    rw [map_cons, rec, bind_of_ok upd]
    dsimp only
    rw [bind_of_ok ran, isSame]
    rfl

variable {measurementStartMs measurementEndMs soakEndMs : Int}

theorem gated_after_start (order : measurementStartMs < measurementEndMs)
    (gated : isGated typed measurementStartMs measurementEndMs soakEndMs item = true) :
    measurementStartMs < unixMs item.timestamp := by
  obtain ⟨inside, mem, same⟩ := mem_map.mp (of_decide_eq_true gated)
  rw [← same]
  rcases mem_append.mp mem with mem | mem
  · exact (of_decide_eq_true (mem_filter.mp mem).2).1
  · split_ifs at mem
    · exact Int.lt_trans order (of_decide_eq_true (mem_filter.mp mem).2).1
    · cases mem

theorem split_at_start (measurementStartMs : Int)
    (increasing : typed.Pairwise (·.timestamp < ·.timestamp)) :
    ∃ earlier rest, typed = earlier ++ rest ∧
      (∀ item ∈ earlier, unixMs item.timestamp ≤ measurementStartMs) ∧
      ∀ item ∈ rest, measurementStartMs < unixMs item.timestamp := by
  induction typed with
  | nil => exact ⟨[], [], rfl, by simp, by simp⟩
  | cons item others ih =>
    obtain ⟨first, increasing⟩ := pairwise_cons.mp increasing
    by_cases early : unixMs item.timestamp ≤ measurementStartMs
    · obtain ⟨earlier, rest, rfl, isEarly, isLate⟩ := ih increasing
      exact ⟨item :: earlier, rest, rfl, forall_mem_cons.mpr ⟨early, isEarly⟩, isLate⟩
    · refine ⟨[], item :: others, rfl, by simp, forall_mem_cons.mpr ⟨not_le.mp early, ?_⟩⟩
      exact fun other mem => (not_le.mp early).trans_le (mono (first other mem).le)

omit [UnixTime] in
theorem split_at_last {gate : SutObservation → Bool} (some : typed.filter gate ≠ []) :
    ∃ between last later, typed = between ++ [last] ++ later ∧ gate last = true ∧
      ∀ item ∈ later, gate item = false := by
  obtain ⟨init, last, isLast⟩ := (eq_nil_or_concat _).resolve_left some
  rw [concat_eq_append] at isLast
  obtain ⟨front, back, rfl, -, isBack⟩ := filter_eq_append_iff.mp isLast
  obtain ⟨middle, later, rfl, -, isGate, done⟩ := filter_eq_cons_iff.mp isBack
  exact ⟨front ++ middle, last, later, by simp, isGate,
    fun item mem => Bool.eq_false_iff.mpr (filter_eq_nil_iff.mp done item mem)⟩

omit [UnixTime] in
/-- From one observation to a later one a counter grows by what the snapshots in between add. -/
theorem cumulative_grows {earlier between later : List SutObservation} {baseline last : SutObservation}
    (reproduced : reproduce {} (earlier ++ (between ++ [last] ++ later)) = .ok ())
    (isBaseline : earlier.getLast? = some baseline) (field : CounterField) :
    (∀ ids, Covers ids
      ((earlier ++ (between ++ [last] ++ later)).map (·.snapshots)) →
        last.cumulative field = baseline.cumulative field + increases ids field
          (some baseline.snapshots) ((between ++ [last]).map (·.snapshots))) ∧
      ∀ item ∈ between ++ [last], item.cumulative field ≤ last.cumulative field := by
  obtain ⟨final, ran⟩ := reproduce_record reproduced
  have inParts : rec {} (earlier.map (·.snapshots) ++ ((between ++ [last]).map (·.snapshots) ++
      later.map (·.snapshots))) = .ok (earlier.map (·.cumulative) ++
        ((between ++ [last]).map (·.cumulative) ++ later.map (·.cumulative)), final) := by
    simpa only [map_append] using ran
  obtain ⟨atBaseline, first, inParts⟩ := record_append inParts
  rw [drop_left' (by simp)] at inParts
  obtain ⟨atLast, second, -⟩ := record_append inParts
  rw [take_left' (by simp)] at first second
  obtain ⟨followed, -, isAtBaseline⟩ := record_follows start_follows first
  obtain ⟨followedLast, sums, isAtLast⟩ := record_follows followed second
  rw [getLast?_map, isBaseline] at isAtBaseline
  rw [map_append, map_singleton, getLast?_concat] at isAtLast
  have isAtBaseline : baseline.cumulative = atBaseline.totals := isAtBaseline
  have isAtLast : last.cumulative = atLast.totals := isAtLast
  rw [isAtBaseline, isAtLast]
  refine ⟨fun ids covers => ?_, fun item mem => ?_⟩
  · rw [append_nil] at followed followedLast sums
    rw [map_append, map_append] at covers
    have covered : Covers ids (earlier.map (·.snapshots)).reverse :=
      covers.among fun _ mem => mem_append_left _ (mem_reverse.mp mem)
    have coveredLast := covers.among fun _ mem => (mem_append.mp mem).elim
      (fun mem => mem_append_right _ (mem_append_left _ (mem_reverse.mp mem)))
      fun mem => mem_append_left _ (mem_reverse.mp mem)
    rw [totals_of_runs followed covered, totals_of_runs followedLast coveredLast, sums,
      head?_reverse, getLast?_map, isBaseline]
    rfl
  · exact (record_grows followed second field).2 _ (mem_map_of_mem mem)

/-- The deltas are what the snapshots after the last observation of the start, up to the last gated
one, add to the counters. -/
def ExactDeltas (typed : List SutObservation) (measurementStartMs measurementEndMs soakEndMs : Int)
    (deltas : CounterField → Int) : Prop :=
  ∃ earlier baseline between last later, typed = earlier ++ (between ++ [last] ++ later) ∧
    earlier.getLast? = some baseline ∧
    (∀ item ∈ earlier, unixMs item.timestamp ≤ measurementStartMs) ∧
    (∀ item ∈ between ++ [last] ++ later, measurementStartMs < unixMs item.timestamp) ∧
    isGated typed measurementStartMs measurementEndMs soakEndMs last = true ∧
    (∀ item ∈ later, isGated typed measurementStartMs measurementEndMs soakEndMs item = false) ∧
    ∀ field, 0 ≤ deltas field ∧ ∀ ids, Covers ids (typed.map (·.snapshots)) →
      deltas field = increases ids field (some baseline.snapshots)
        ((between ++ [last]).map (·.snapshots))

theorem deltas_exact {deltas : CounterField → Int}
    (ran : counterDeltas typed measurementStartMs measurementEndMs soakEndMs = .ok deltas) :
    ExactDeltas typed measurementStartMs measurementEndMs soakEndMs deltas := by
  obtain ⟨_, order, ran⟩ := bind_ok.mp ran
  obtain ⟨_, sorted, ran⟩ := bind_ok.mp ran
  obtain ⟨_, measured, ran⟩ := bind_ok.mp ran
  obtain ⟨_, reproduced, ran⟩ := bind_ok.mp ran
  obtain ⟨baseline, isBaseline, isDeltas⟩ := bind_ok.mp ran
  obtain rfl := Except.ok.inj isDeltas
  have order := not_le.mp (not_or.mp (raise_if_ok.mp order)).1
  obtain ⟨earlier, rest, isTyped, isEarly, isLate⟩ :=
    split_at_start measurementStartMs (not_not.mp (raise_if_ok.mp sorted))
  have isBaseline : earlier.getLast? = some baseline := by
    rw [← or_raise_ok.mp isBaseline, isTyped, filter_append,
      filter_eq_self.mpr fun item mem => decide_eq_true (isEarly item mem),
      filter_eq_nil_iff.mpr fun item mem early =>
        (of_decide_eq_true early).not_gt (isLate item mem), append_nil]
  have gated : typed.filter (isGated typed measurementStartMs measurementEndMs soakEndMs) =
      rest.filter (isGated typed measurementStartMs measurementEndMs soakEndMs) := by
    conv_lhs => arg 2; rw [isTyped]
    rw [filter_append, filter_eq_nil_iff.mpr fun item mem isIn =>
      (isEarly item mem).not_gt (gated_after_start order isIn), nil_append]
  have measured := raise_if_ok.mp measured
  rw [gated] at measured ⊢
  obtain ⟨between, last, later, rfl, lastGated, done⟩ := split_at_last measured
  refine ⟨earlier, baseline, between, last, later, isTyped, isBaseline, isEarly, isLate, lastGated,
    done, fun field => ?_⟩
  rw [isTyped] at reproduced
  obtain ⟨grown, highest⟩ := cumulative_grows reproduced isBaseline field
  have isMax : (((between ++ [last] ++ later).filter (isGated typed measurementStartMs
      measurementEndMs soakEndMs)).map (·.cumulative field)).max? = some (last.cumulative field) := by
    refine max?_eq_some_iff.mpr ⟨mem_map_of_mem (mem_filter.mpr ⟨by simp, lastGated⟩), ?_⟩
    intro count mem
    obtain ⟨item, isIn, rfl⟩ := mem_map.mp mem
    rcases mem_append.mp (mem_of_mem_filter isIn) with mem | mem
    · exact highest item mem
    · exact absurd (done item mem) (Bool.not_eq_false _ ▸ (mem_filter.mp isIn).2)
  dsimp only
  rw [isMax, Option.getD_some]
  rw [← isTyped] at grown
  refine ⟨?_, fun ids covers => ?_⟩
  · obtain ⟨ids, covers⟩ := covers_exist (typed.map (·.snapshots))
    have sum := grown ids covers
    omega
  · have sum := grown ids covers
    omega

/-- After any accepted snapshots the returned total of a counter is the sum of the last values of its
runs, no total returned before was higher, and a summary counts each increase once. -/
theorem sut_counters_exact :
    (∀ earlier later totals last, rec {} (earlier ++ later) = .ok (totals, last) →
      ∀ ids, Covers ids earlier → ∀ field,
        ((totals.take earlier.length).getLast?.map (· field)).getD 0 =
            runTotals ids field earlier.reverse ∧
          ∀ ret ∈ totals.take earlier.length, ret field ≤ runTotals ids field earlier.reverse) ∧
      ∀ typed measurementStartMs measurementEndMs soakEndMs deltas,
        counterDeltas typed measurementStartMs measurementEndMs soakEndMs = .ok deltas →
          ExactDeltas typed measurementStartMs measurementEndMs soakEndMs deltas := by
  refine ⟨fun earlier later totals last ran ids covers field => ?_,
    fun _ _ _ _ _ ran => deltas_exact ran⟩
  obtain ⟨next, first, -⟩ := record_append ran
  obtain ⟨followed, -, isLast⟩ := record_follows start_follows first
  rw [append_nil] at followed
  rw [← totals_of_runs followed (covers.among (reverse_subset.mpr (Subset.refl _))), ← isLast]
  refine ⟨?_, fun ret mem => isLast ▸ (record_grows start_follows first field).2 ret mem⟩
  cases (totals.take earlier.length).getLast? <;> rfl

end Summaries

local instance : UnixTime where
  unixMs seconds := (seconds * 1000).floor
  mono _ _ le := Rat.floor_monotone (mul_le_mul_of_nonneg_right le (by decide))

def sampleObservation (timestamp : Rat) (errors : Nat) : SutObservation where
  timestamp
  intervalSeconds := 1
  snapshots := ⟨[], [⟨"path", .ready, errors⟩], .nil, nodup_singleton _⟩
  cumulative
    | .session _ => 0
    | .pathInboundFramesInError => errors

def sampleSnapshots (errors : Nat) : Snapshots := (sampleObservation 0 errors).snapshots

theorem sample_covered : Covers ["path"] [sampleSnapshots 10, sampleSnapshots 12] := by
  have shows (errors : Nat) (key : CounterKey) (shown : seen key (sampleSnapshots errors) ≠ none) :
      key.2 ∈ ["path"] := by
    obtain ⟨field, identity⟩ := key
    cases field with
    | session field => exact absurd rfl shown
    | pathInboundFramesInError =>
      obtain ⟨_, found⟩ := Option.ne_none_iff_exists'.mp shown
      obtain ⟨path, found, -⟩ := map_eq_some_iff.mp found
      rw [← lookup_key found]
      exact mem_map_of_mem (lookup_mem found)
  refine ⟨nodup_singleton _, fun snapshots mem key shown => ?_⟩
  rcases mem_cons.mp mem with rfl | mem
  · exact shows 10 key shown
  · rw [mem_singleton.mp mem] at shown
    exact shows 12 key shown

/-- The increase of the counter of a path is in its runs and in the deltas. -/
theorem sut_counters_exact_sample :
    (∃ totals last, rec {} ([sampleSnapshots 10, sampleSnapshots 12] ++ []) = .ok (totals, last) ∧
      ((totals.take 2).getLast?.map (· .pathInboundFramesInError)).getD 0 = 12 ∧
      runTotals ["path"] .pathInboundFramesInError [sampleSnapshots 12, sampleSnapshots 10] = 12) ∧
    ∃ deltas, counterDeltas [sampleObservation 1 10, sampleObservation 2 12] 1000 5000 5000 =
        .ok deltas ∧
      ExactDeltas [sampleObservation 1 10, sampleObservation 2 12] 1000 5000 5000 deltas := by
  constructor
  · have recorded : ((rec {} ([sampleSnapshots 10, sampleSnapshots 12] ++ [])).toOption.map
        fun ran => ((ran.1.take 2).getLast?.map (· .pathInboundFramesInError)).getD 0) =
          some 12 := by decide +kernel
    cases ran : rec {} ([sampleSnapshots 10, sampleSnapshots 12] ++ []) with
    | error error => rw [ran] at recorded; cases recorded
    | ok recording =>
      rw [ran] at recorded
      have isTotal := (sut_counters_exact.1 _ _ _ _ ran ["path"] sample_covered
        .pathInboundFramesInError).1
      exact ⟨_, _, rfl, Option.some.inj recorded, isTotal.symm.trans (Option.some.inj recorded)⟩
  · have summarized : (counterDeltas [sampleObservation 1 10, sampleObservation 2 12]
        1000 5000 5000).isOk = true := by decide +kernel
    cases res : counterDeltas [sampleObservation 1 10, sampleObservation 2 12] 1000 5000 5000 with
    | error error => rw [res] at summarized; cases summarized
    | ok deltas => exact ⟨deltas, rfl, sut_counters_exact.2 _ _ _ _ _ res⟩

end RtspProxy.Load
