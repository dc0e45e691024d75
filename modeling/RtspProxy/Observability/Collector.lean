import Mathlib.Algebra.Order.Ring.Rat
import RtspProxy.Media.Records

/-!
# Bit rates of a node and its paths

`FleetCollector._collect_node` for one node, no two calls of which run at a time, with
`_path_counters_reset` and `_with_path_metric_rates`. Clock readings and rates are
rational. `taken` has every sample that was written to `_metric_history`, of which
the code keeps the last. What `replace` checks again is met: a rate is never
negative, and none stands beside a flag.
-/

namespace RtspProxy.Observability.Collector

open Nodes Media Lib.Raising List Option

inductive Direction
  | received
  | sent

def Direction.ofPath : Direction → PathMetricCounters → Int
  | received => (·.receivedBytesTotal)
  | sent => (·.sentBytesTotal)

def Direction.ofSample : Direction → NodeMetricSample → Int
  | received => (·.receivedBytesTotal)
  | sent => (·.sentBytesTotal)

structure RatedCounters where
  counter : PathMetricCounters
  bitrateBps : Direction → Option Rat
  countersReset : Bool
  metricGap : Bool

structure RatedSample where
  sample : NodeMetricSample
  paths : List RatedCounters

def processGeneration (node : MediaNode) :=
  (node.processId, node.processStartTicks, node.processBootId, node.observedReleaseId)

def pathOf (publicId : String) (sample : NodeMetricSample) : Option PathMetricCounters :=
  Lib.RecordTable.lookup (·.publicId) publicId sample.pathCounters

def decreased (prior counter : PathMetricCounters) : Bool :=
  counter.receivedBytesTotal < prior.receivedBytesTotal ∨ counter.sentBytesTotal < prior.sentBytesTotal

def pathIds (sample : NodeMetricSample) : List String := sample.pathCounters.map (·.publicId)

def pathCountersReset (prev cur : NodeMetricSample) : Bool :=
  if prev.pathCounters ≠ [] ∨ cur.pathCounters ≠ [] then
    ¬(pathIds prev ⊆ pathIds cur ∧ pathIds cur ⊆ pathIds prev) ∨
      ∃ prior ∈ prev.pathCounters, ∃ counter ∈ pathOf prior.publicId cur,
        decreased prior counter = true
  else
    cur.receivedBytesTotal < prev.receivedBytesTotal ∨ cur.sentBytesTotal < prev.sentBytesTotal

def bitrate (pre post : Int) (elapsed : Rat) : Rat := (post - pre : Int) * 8 / elapsed

/-- `_with_path_metric_rates`; a previous sample comes with the time since it. -/
def withPathMetricRates (cur : NodeMetricSample) (prev : Option (NodeMetricSample × Rat))
    (processReset metricGap : Bool) : RatedSample where
  sample := cur
  paths := cur.pathCounters.map fun counter =>
    let prior := prev.bind fun prev => pathOf counter.publicId prev.1
    let countersReset := processReset || prior.any (decreased · counter)
    { counter, countersReset, metricGap
      bitrateBps := fun direction => do
        let prior ← prior
        let (_, elapsed) ← prev
        if 0 < elapsed ∧ countersReset = false ∧ metricGap = false then
          some (bitrate (direction.ofPath prior) (direction.ofPath counter) elapsed)
        else none }

structure Taken where
  generation : Option Int × Option Int × Option UUID × Option String
  monotonic : Rat
  observedAt : Datetime
  metrics : RatedSample

inductive NodeScrapeStatus
  | fresh | idle | stale | unavailable

/-- `NodeSnapshot`, with the node whose columns it copies. -/
structure NodeSnapshot where
  node : MediaNode
  scrapeStatus : NodeScrapeStatus
  scrapeReason : Option String
  metrics : Option RatedSample
  metricObservedAt : Option Datetime := none
  bitrateBps : Direction → Option Rat := fun _ => none
  countersReset : Bool := false

def unavailableSnapshot (node : MediaNode) (reason : String) : NodeSnapshot :=
  { node, scrapeStatus := .unavailable, scrapeReason := some reason, metrics := none }

/-- The part of `_collect_node` that follows a scrape. -/
def takeSample (interval : Rat) (hist : Option Taken) (node : MediaNode)
    (sample : NodeMetricSample) (observedAt : Datetime) (monotonic : Rat) : NodeSnapshot × Taken :=
  let generation := processGeneration node
  let prev := hist.map fun last => (last.metrics.sample, monotonic - last.monotonic)
  let processReset := hist.any (·.generation ≠ generation)
  let countersReset := processReset || prev.any (pathCountersReset ·.1 sample)
  let metricGap := prev.any (interval * 2 < ·.2)
  let metrics := withPathMetricRates sample prev processReset metricGap
  let taken := { generation, monotonic, observedAt, metrics }
  (if metricGap = true then
    { node, scrapeStatus := .stale, scrapeReason := some "node_metrics_gap", metrics := some metrics
      metricObservedAt := some observedAt, countersReset }
  else
    { node, scrapeReason := none, metrics := some metrics, metricObservedAt := some observedAt
      scrapeStatus := if sample.activeSources = 0 ∧ sample.occupiedStreams = 0 then .idle else .fresh
      bitrateBps := fun direction => do
        let (last, elapsed) ← prev
        if 0 < elapsed ∧ countersReset = false then
          some (bitrate (direction.ofSample last) (direction.ofSample sample) elapsed)
        else none
      countersReset }, taken)

inductive Scrape
  | observation (observed : NodeMetricObservation)
  | sample (sample : NodeMetricSample)
  | raises

/-- What a call of `_collect_node` meets: whether each of its three looks at the deadline and at the
cancellation ends it, and what the others answer. -/
structure Cycle where
  catalogNode : MediaNode
  stopped : Bool × Bool × Bool
  runtime : Option (Option MediaNode)
  incidentsRaise : Bool
  scrape : Scrape
  observedAt : Datetime
  monotonic : Rat

/-- The snapshot of the node, and the sample that was taken. An exception of `_collect_node` ends in a
snapshot as well, in `run_once`. -/
def collectNode (interval : Rat) (hist : Option Taken) (cycle : Cycle) :
    NodeSnapshot × Option Taken :=
  if cycle.stopped.1 = true then
    (unavailableSnapshot cycle.catalogNode "node_collection_cancelled", none)
  else
    match cycle.runtime.getD (some cycle.catalogNode) with
    | none => (unavailableSnapshot cycle.catalogNode "node_runtime_unavailable", none)
    | some node =>
      let take sample :=
        if cycle.stopped.2.2 = true then (unavailableSnapshot node "node_collection_deadline", none)
        else
          let (snap, taken) :=
            takeSample interval hist node sample cycle.observedAt cycle.monotonic
          (snap, some taken)
      if cycle.stopped.2.1 = true then (unavailableSnapshot node "node_collection_cancelled", none)
      else if cycle.incidentsRaise = true then
        (unavailableSnapshot cycle.catalogNode "node_collection_failed", none)
      else
        match cycle.scrape, hist with
        | .observation ⟨sample, process, _⟩, _ =>
          if processGeneration node ≠ (some process.processId, some process.processStartTicks,
              some process.processBootId, some process.releaseId) then
            (unavailableSnapshot node "node_metric_generation_mismatch", none)
          else take sample
        | .sample sample, _ => take sample
        | .raises, none => (unavailableSnapshot node "node_metrics_unavailable", none)
        | .raises, some last =>
          ({ node, scrapeStatus := .stale, scrapeReason := some "node_metrics_stale"
             metrics := some last.metrics, metricObservedAt := some last.observedAt }, none)

structure World where
  taken : List Taken := []
  reports : List NodeSnapshot := []

def World.collect (interval : Rat) (w : World) (cycle : Cycle) : World :=
  let (snap, taken) := collectNode interval w.taken.getLast? cycle
  { taken := w.taken ++ taken.toList, reports := w.reports ++ [snap] }

theorem sum_le_of_keys {α : Type} {key : α → String} {value : α → Int} {pre post : List α}
    (keys : pre.map key ~ post.map key)
    (grows : ∀ first ∈ pre, ∀ second ∈ post, key first = key second → value first ≤ value second) :
    (pre.map value).sum ≤ (post.map value).sum := by
  induction pre generalizing post with
  | nil => simp [map_eq_nil_iff.mp keys.nil_eq.symm]
  | cons first rest ih =>
    obtain ⟨second, mem, same⟩ := mem_map.mp (keys.subset mem_cons_self)
    obtain ⟨left, right, rfl⟩ := append_of_mem mem
    have others := keys.trans (perm_middle.map key)
    rw [map_cons, map_cons, same] at others
    have others := ih others.cons_inv fun one isOne two isTwo =>
      grows one (mem_cons_of_mem _ isOne) two (perm_middle.mem_iff.mpr (mem_cons_of_mem _ isTwo))
    have own := grows first mem_cons_self second mem same.symm
    simp only [map_append, map_cons, sum_append, sum_cons] at others ⊢
    omega

variable {interval : Rat} {prev cur sample : NodeMetricSample} {direction : Direction}

theorem sample_distinct (sample : NodeMetricSample) : (pathIds sample).Nodup ∧
    (sample.pathCounters ≠ [] → ∀ direction : Direction,
      (sample.pathCounters.map direction.ofPath).sum = direction.ofSample sample) := by
  have valid := sample.valid
  unfold SampleFields.check at valid
  obtain ⟨_, _, rest⟩ := bind_ok.mp valid
  obtain ⟨_, _, rest⟩ := bind_ok.mp rest
  obtain ⟨_, _, rest⟩ := bind_ok.mp rest
  obtain ⟨_, _, rest⟩ := bind_ok.mp rest
  obtain ⟨_, distinct, rest⟩ := bind_ok.mp rest
  obtain ⟨_, _, rest⟩ := bind_ok.mp rest
  obtain ⟨_, summed, _⟩ := bind_ok.mp rest
  refine ⟨not_not.mp (raise_if_ok.mp distinct), fun some direction => ?_⟩
  have sums := raise_if_ok.mp summed
  cases direction <;> simp only [Direction.ofPath, Direction.ofSample] <;> tauto

/-- No path appeared, disappeared or fell back, and no total did. -/
structure Continues (prev cur : NodeMetricSample) : Prop where
  paths : pathIds prev ~ pathIds cur
  counters : ∀ prior ∈ prev.pathCounters, ∀ counter ∈ cur.pathCounters,
    prior.publicId = counter.publicId → decreased prior counter = false
  totals : ∀ direction : Direction, direction.ofSample prev ≤ direction.ofSample cur

theorem continues_of_kept (kept : pathCountersReset prev cur = false) :
    Continues prev cur := by
  have counted := sample_distinct prev
  have recounted := sample_distinct cur
  unfold pathCountersReset at kept
  split_ifs at kept with some
  · simp only [decide_eq_false_iff_not, not_or, not_not] at kept
    have ids := (perm_ext_iff_of_nodup counted.1 recounted.1).mpr
      fun id => ⟨(kept.1.1 ·), (kept.1.2 ·)⟩
    have grows : ∀ prior ∈ prev.pathCounters, ∀ counter ∈ cur.pathCounters,
        prior.publicId = counter.publicId → decreased prior counter = false := by
      intro prior isPrior counter mem same
      refine Bool.eq_false_iff.mpr fun fell => kept.2 ⟨prior, isPrior, counter, ?_, fell⟩
      rw [pathOf, same]
      exact Lib.RecordTable.lookup_of_mem recounted.1 mem
    refine ⟨ids, grows, fun direction => ?_⟩
    have both := ids.length_eq
    simp only [pathIds, length_map] at both
    have here : prev.pathCounters ≠ [] ∧ cur.pathCounters ≠ [] := by
      simp only [← length_pos_iff] at some ⊢
      omega
    rw [← counted.2 here.1, ← recounted.2 here.2]
    refine sum_le_of_keys ids fun prior isPrior counter mem same => ?_
    have grown := grows prior isPrior counter mem same
    unfold decreased at grown
    cases direction <;> simp [Direction.ofPath] at grown ⊢ <;> omega
  · obtain ⟨none, absent⟩ := not_or.mp some
    rw [not_not] at none absent
    refine ⟨by simp [pathIds, none, absent], by simp [none], fun direction => ?_⟩
    simp only [decide_eq_false_iff_not, not_or, not_lt] at kept
    cases direction
    · exact kept.1
    · exact kept.2

theorem bitrate_nonneg {pre post : Int} {elapsed : Rat} (grown : pre ≤ post)
    (forward : 0 < elapsed) : 0 ≤ bitrate pre post elapsed :=
  div_nonneg (mul_nonneg (Rat.intCast_nonneg.mpr (Int.sub_nonneg.mpr grown)) (by decide)) forward.le

/-- Two samples of one process, taken in a row and not too far apart. -/
structure Neighbours (interval : Rat) (taken : List Taken) (prior last : Taken) : Prop where
  inRow : [prior, last] <:+: taken
  sameProcess : prior.generation = last.generation
  forward : 0 < last.monotonic - prior.monotonic
  close : last.monotonic - prior.monotonic ≤ interval * 2

def NodeRate (interval : Rat) (taken : List Taken) (metrics : RatedSample) (direction : Direction)
    (rate : Rat) : Prop :=
  ∃ prior last, Neighbours interval taken prior last ∧ last.metrics = metrics ∧
    Continues prior.metrics.sample metrics.sample ∧ 0 ≤ rate ∧
    rate = bitrate (direction.ofSample prior.metrics.sample) (direction.ofSample metrics.sample)
      (last.monotonic - prior.monotonic)

def PathRate (interval : Rat) (taken : List Taken) (metrics : RatedSample) (path : RatedCounters)
    (direction : Direction) (rate : Rat) : Prop :=
  ∃ prior last, Neighbours interval taken prior last ∧ last.metrics = metrics ∧
    path.counter ∈ metrics.sample.pathCounters ∧
    ∃ counter ∈ prior.metrics.sample.pathCounters, counter.publicId = path.counter.publicId ∧
      decreased counter path.counter = false ∧ 0 ≤ rate ∧
      rate = bitrate (direction.ofPath counter) (direction.ofPath path.counter)
        (last.monotonic - prior.monotonic)

def PathsRated (interval : Rat) (taken : List Taken) (metrics : RatedSample) : Prop :=
  ∀ path ∈ metrics.paths, ∀ direction rate, path.bitrateBps direction = some rate →
    PathRate interval taken metrics path direction rate

/-- A report without a sample has no rate of the node. -/
structure Rated (interval : Rat) (taken : List Taken) (snap : NodeSnapshot) : Prop where
  node : ∀ direction rate, snap.bitrateBps direction = some rate →
    ∃ metrics, snap.metrics = some metrics ∧ NodeRate interval taken metrics direction rate
  paths : ∀ metrics ∈ snap.metrics, PathsRated interval taken metrics

variable {taken : List Taken} {node : MediaNode} {observedAt : Datetime} {monotonic : Rat}

theorem PathsRated.append {metrics : RatedSample} (rated : PathsRated interval taken metrics)
    (more : List Taken) : PathsRated interval (taken ++ more) metrics := by
  intro path mem direction rate reported
  obtain ⟨prior, last, ⟨inRow, same, forward, close⟩, rest⟩ := rated path mem direction rate reported
  exact ⟨prior, last, ⟨inRow.trans (prefix_append taken more).isInfix, same, forward, close⟩, rest⟩

theorem Rated.append {snap : NodeSnapshot} (rated : Rated interval taken snap)
    (more : List Taken) : Rated interval (taken ++ more) snap := by
  refine ⟨fun direction rate reported => ?_, fun metrics isMetrics =>
    (rated.paths metrics isMetrics).append more⟩
  obtain ⟨metrics, isMetrics, prior, last, ⟨inRow, same, forward, close⟩, rest⟩ :=
    rated.node direction rate reported
  exact ⟨metrics, isMetrics, prior, last,
    ⟨inRow.trans (prefix_append taken more).isInfix, same, forward, close⟩, rest⟩

theorem in_row_of_last {last : Taken} (new : Taken) (isLast : taken.getLast? = some last) :
    [last, new] <:+: taken ++ [new] := by
  obtain ⟨earlier, rfl⟩ := getLast?_eq_some_iff.mp isLast
  exact ⟨earlier, [], by simp⟩

theorem take_paths_rated : PathsRated interval
    (taken ++ [(takeSample interval taken.getLast? node sample observedAt monotonic).2])
    (takeSample interval taken.getLast? node sample observedAt monotonic).2.metrics := by
  intro path mem direction rate reported
  cases isLast : taken.getLast? with
  | none =>
    rw [isLast] at mem
    obtain ⟨counter, -, rfl⟩ := mem_map.mp mem
    cases reported
  | some last =>
    rw [isLast] at mem
    obtain ⟨counter, isCounter, rfl⟩ := mem_map.mp mem
    simp only [map_some, bind_some, any_some] at reported
    cases found : pathOf counter.publicId last.metrics.sample with
    | none => simp [found] at reported
    | some prior =>
      simp only [found, bind, bind_some, any_some, Bool.or_eq_false_iff,
        ite_none_right_eq_some, some.injEq, decide_eq_false_iff_not, not_not,
        not_lt] at reported
      obtain ⟨⟨forward, ⟨same, kept⟩, close⟩, rfl⟩ := reported
      have grown := kept
      simp only [decreased, decide_eq_false_iff_not, not_or, not_lt] at grown
      have risen : direction.ofPath prior ≤ direction.ofPath counter := by
        cases direction
        · exact grown.1
        · exact grown.2
      exact ⟨last, _, ⟨in_row_of_last _ isLast, same, forward, close⟩, rfl, isCounter, prior,
        Lib.RecordTable.lookup_mem found, Lib.RecordTable.lookup_key found, kept,
        bitrate_nonneg risen forward, rfl⟩

theorem take_rated : Rated interval
    (taken ++ [(takeSample interval taken.getLast? node sample observedAt monotonic).2])
    (takeSample interval taken.getLast? node sample observedAt monotonic).1 := by
  refine ⟨fun direction rate reported => ?_, fun metrics isMetrics => ?_⟩
  · cases isLast : taken.getLast? with
    | none =>
      rw [isLast] at reported
      cases reported
    | some last =>
      simp only [isLast, takeSample, map_some, any_some, decide_eq_true_eq] at reported
      by_cases gap : interval * 2 < monotonic - last.monotonic
      · rw [if_pos gap] at reported
        cases reported
      rw [if_neg gap] at reported
      simp only [bind, bind_some, Bool.or_eq_false_iff, ite_none_right_eq_some,
        some.injEq, decide_eq_false_iff_not, not_not] at reported
      obtain ⟨⟨forward, same, kept⟩, rfl⟩ := reported
      have continues := continues_of_kept kept
      refine ⟨_, ?_, last, _, ⟨in_row_of_last _ isLast, same, forward, not_lt.mp gap⟩, rfl,
        continues, bitrate_nonneg (continues.totals direction) forward, rfl⟩
      simp [takeSample, gap]
  · have paths : PathsRated interval
        (taken ++ [(takeSample interval taken.getLast? node sample observedAt monotonic).2]) _ :=
      take_paths_rated
    unfold takeSample at isMetrics
    dsimp only at isMetrics
    split_ifs at isMetrics <;> cases isMetrics <;> exact paths

/-- What has been reported is rated, and so is what a stale report will repeat. -/
structure AllRated (interval : Rat) (w : World) : Prop where
  reports : ∀ snap ∈ w.reports, Rated interval w.taken snap
  taken : ∀ last ∈ w.taken, PathsRated interval w.taken last.metrics

theorem rated_of_silent {snap : NodeSnapshot} (silent : snap.bitrateBps = fun _ => none)
    (paths : ∀ metrics ∈ snap.metrics, PathsRated interval taken metrics) :
    Rated interval taken snap := by
  refine ⟨fun direction rate reported => ?_, paths⟩
  rw [silent] at reported
  cases reported

def AnswerRated (interval : Rat) (taken : List Taken) (answer : NodeSnapshot × Option Taken) :
    Prop :=
  Rated interval (taken ++ answer.2.toList) answer.1 ∧
    ∀ new ∈ answer.2, PathsRated interval (taken ++ answer.2.toList) new.metrics

theorem collect_node_rated (rated : ∀ last ∈ taken, PathsRated interval taken last.metrics)
    (cycle : Cycle) : AnswerRated interval taken (collectNode interval taken.getLast? cycle) := by
  have unavailable (node : MediaNode) (reason : String) :
      AnswerRated interval taken (unavailableSnapshot node reason, none) :=
    ⟨rated_of_silent rfl fun _ isMetrics => (by cases isMetrics), fun _ mem => (by cases mem)⟩
  have took (node : MediaNode) (sample : NodeMetricSample) :
      AnswerRated interval taken ((takeSample interval taken.getLast? node sample cycle.observedAt
        cycle.monotonic).1, some (takeSample interval taken.getLast? node sample cycle.observedAt
        cycle.monotonic).2) :=
    ⟨take_rated, fun new isNew => some.inj isNew ▸ take_paths_rated⟩
  unfold collectNode
  dsimp only
  repeat' split
  any_goals exact unavailable _ _
  any_goals exact took _ _
  rename_i last _ isLast
  refine ⟨rated_of_silent rfl fun metrics isMetrics => ?_, fun _ mem => (by cases mem)⟩
  obtain rfl := some.inj isMetrics
  exact (rated last (mem_of_getLast? isLast)).append []

theorem collect_rated {w : World} (rated : AllRated interval w) (cycle : Cycle) :
    AllRated interval (w.collect interval cycle) := by
  obtain ⟨report, new⟩ := collect_node_rated rated.taken cycle
  refine ⟨fun snap mem => ?_, fun last mem => ?_⟩
  · rcases mem_append.mp mem with earlier | now
    · exact (rated.reports snap earlier).append _
    · exact eq_of_mem_singleton now ▸ report
  · rcases mem_append.mp mem with earlier | now
    · exact (rated.taken last earlier).append _
    · exact new last (mem_toList.mp now)

/-- Every rate in every report is eight times the growth of its counter over the time between two
samples of one process that were taken in a row, no further apart than two intervals, and neither
that counter nor, for a rate of the node, the set of paths or any other counter fell in between. -/
theorem fleet_rates (interval : Rat) (cycles : List Cycle) :
    ∀ snap ∈ (cycles.foldl (World.collect interval) {}).reports,
      Rated interval (cycles.foldl (World.collect interval) {}).taken snap := by
  have start : AllRated interval {} :=
    ⟨fun _ mem => (by cases mem), fun _ mem => (by cases mem)⟩
  exact (foldlRecOn cycles _ start fun _ rated cycle _ => collect_rated rated cycle).reports

theorem sample_public_id : isCanonicalPublicId "aaaaaaaaaaaaaaaaaaaaaaaaaa" = true := by
  decide +kernel

def sampleCounter (receivedBytesTotal : Int) (counted : 0 ≤ receivedBytesTotal) :
    PathMetricCounters where
  publicId := "aaaaaaaaaaaaaaaaaaaaaaaaaa"
  receivedBytesTotal
  sentBytesTotal := 0
  ready := some true
  canonical := sample_public_id
  counted := ⟨counted, by decide⟩

def sampleCycle (later : Bool) : Cycle where
  catalogNode := { id := 1, name := "edge", externalPort := 8554 }
  stopped := (false, false, false)
  runtime := none
  incidentsRaise := false
  scrape := .sample
    { activeSources := 1, occupiedStreams := 0, receivedBytesTotal := if later then 1000 else 0
      sentBytesTotal := 0, occupiedPublicIds := none
      pathCounters := [sampleCounter (if later then 1000 else 0) (by cases later <;> decide)]
      valid := by cases later <;> decide +kernel }
  observedAt := 0
  monotonic := if later then 4 else 0

/-- The node and its one path each have a rate. -/
theorem fleet_rates_sample :
    ∃ snap ∈ ([false, true].map sampleCycle |>.foldl (World.collect 5) {}).reports,
      snap.bitrateBps .received = some 2000 ∧
      (snap.metrics.map fun metrics => metrics.paths.map (·.bitrateBps .received)) =
        some [some 2000] ∧
      Rated 5 ([false, true].map sampleCycle |>.foldl (World.collect 5) {}).taken snap :=
  ⟨_, .tail _ (.head _), by decide +kernel, by decide +kernel,
    fleet_rates 5 _ _ (.tail _ (.head _))⟩

end RtspProxy.Observability.Collector
