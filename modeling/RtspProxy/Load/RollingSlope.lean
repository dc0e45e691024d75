import Mathlib.Algebra.Order.BigOperators.Group.List
import Mathlib.Algebra.Order.Field.Rat
import Mathlib.Data.List.MinMax
import Mathlib.Tactic.FieldSimp
import Mathlib.Tactic.Linarith
import Mathlib.Tactic.Ring

/-!
# The steepest growth of memory

`_maximum_rolling_rss_slope_percent_per_hour` in exact arithmetic, and the naive
maximum over windows that it replaces by one sweep over prefix sums.
-/

namespace RtspProxy.Load.RollingSlope

open List

/-- The fields of a `SutObservation` that the slope is computed from, the time in seconds. -/
structure Observation where
  timestamp : Rat
  mediamtxRssBytes : Nat

/-- A pair of `x_values` and `y_values`: hours since the first observation, and bytes. -/
abbrev Point := Rat × Rat

def pointsOf (observations : List Observation) : List Point :=
  observations.map fun item =>
    ((item.timestamp - (observations.head?.map (·.timestamp)).getD 0) / 3600, item.mediamtxRssBytes)

def hours (points : List Point) (index : Nat) : Rat := (points.getD index (0, 0)).1

/-- The local `prefix`. -/
def prefixSums : Rat → List Rat → List Rat
  | sum, [] => [sum]
  | sum, value :: rest => sum :: prefixSums (sum + value) rest

def between (values : List Rat) (start finish : Nat) : Rat :=
  (prefixSums 0 values).getD (finish + 1) 0 - (prefixSums 0 values).getD start 0

/-- The local `slope`. -/
def slope (points : List Point) (start finish : Nat) : Option Rat :=
  let count : Rat := (finish - start + 1 : Nat)
  let sx := between (points.map (·.1)) start finish
  let sy := between (points.map (·.2)) start finish
  let sxx := between (points.map fun point => point.1 * point.1) start finish
  let sxy := between (points.map fun point => point.1 * point.2) start finish
  let denominator := count * sxx - sx * sx
  let baseline := (points.getD start (0, 0)).2
  if denominator ≤ 0 ∨ baseline ≤ 0 then none
  else some ((count * sxy - sx * sy) / denominator / baseline * 100)

/-- The inner loop. -/
def advance (points : List Point) (width : Rat) (finish start : Nat) : Nat :=
  if start + 1 < finish ∧ width ≤ hours points finish - hours points (start + 1) then
    advance points width finish (start + 1)
  else start
termination_by finish - start

/-- The outer loop, from an end on. -/
def sweep (points : List Point) (width : Rat) : Nat → Nat → Nat → List Rat
  | 0, _, _ => []
  | rounds + 1, finish, start =>
    let start := advance points width finish start
    (if width ≤ hours points finish - hours points start then
      (slope points start finish).toList else []) ++
      sweep points width rounds (finish + 1) start

def span (observations : List Observation) : Rat :=
  (observations.getLast?.map (·.timestamp)).getD 0 - (observations.head?.map (·.timestamp)).getD 0

def maximumRollingRssSlopePercentPerHour (observations : List Observation) (width : Rat) :
    Option Rat :=
  if observations.length < 2 then none
  else if span observations < width * 3600 then none
  else
    let points := pointsOf observations
    (sweep points width (points.length - 1) 1 0 ++
      (slope points 0 (points.length - 1)).toList).max?

/-- The least-squares slope through the points of a window, in percent of its first value, where the
points do not stand at one time and the first value is positive. -/
def relativeSlope (window : List Point) : Option Rat :=
  let count : Rat := window.length
  let meanX := (window.map (·.1)).sum / count
  let meanY := (window.map (·.2)).sum / count
  let variance := (window.map fun point => (point.1 - meanX) * (point.1 - meanX)).sum
  let covariance := (window.map fun point => (point.1 - meanX) * (point.2 - meanY)).sum
  let baseline := (window.head?.map (·.2)).getD 0
  if variance = 0 ∨ baseline ≤ 0 then none
  else some (covariance / variance / baseline * 100)

def window (points : List Point) (start finish : Nat) : List Point :=
  (points.drop start).take (finish + 1 - start)

/-- The last index below a bound that has the property. -/
def lastBelow (holds : Nat → Bool) : Nat → Option Nat
  | 0 => none
  | bound + 1 => if holds bound = true then some bound else lastBelow holds bound

/-- The slope of the shortest window up to `finish` that spans `windowHours`. -/
def shortestSlope (points : List Point) (width : Rat) (finish : Nat) : Option Rat := do
  let start ← lastBelow (width ≤ hours points finish - hours points ·) (finish + 1)
  relativeSlope (window points start finish)

def naiveSlopes (points : List Point) (width : Rat) : List Rat :=
  ((range points.length).filterMap (shortestSlope points width)) ++
    (relativeSlope points).toList

theorem prefix_sums_get (values : List Rat) {index : Nat} (inside : index ≤ values.length)
    (sum : Rat) : (prefixSums sum values).getD index 0 = sum + (values.take index).sum := by
  induction values generalizing index sum with
  | nil =>
    obtain rfl := Nat.le_zero.mp inside
    simp [prefixSums]
  | cons value rest ih =>
    cases index with
    | zero => simp [prefixSums]
    | succ index =>
      rw [prefixSums, getD_cons_succ, ih (Nat.le_of_succ_le_succ inside), take_succ_cons, sum_cons,
        add_assoc]

theorem between_eq_sum {values : List Rat} {start finish : Nat} (order : start ≤ finish)
    (inside : finish < values.length) :
    between values start finish = ((values.drop start).take (finish + 1 - start)).sum := by
  have whole : values.take (finish + 1) =
      values.take start ++ (values.drop start).take (finish + 1 - start) := by
    rw [← take_add, Nat.add_sub_cancel' (Nat.le_succ_of_le order)]
  rw [between, prefix_sums_get values inside, prefix_sums_get values (by omega), whole, sum_append]
  ring

theorem centered_sum (window : List Point) (left right : Point → Rat) (meanX meanY : Rat) :
    (window.map fun point => (left point - meanX) * (right point - meanY)).sum =
      (window.map fun point => left point * right point).sum - meanY * (window.map left).sum -
        meanX * (window.map right).sum + window.length * meanX * meanY := by
  induction window with
  | nil => simp
  | cons point rest ih =>
    simp only [map_cons, sum_cons, ih, length_cons, Nat.cast_add, Nat.cast_one]
    ring

theorem centered_mean {window : List Point} (some : window ≠ []) (left right : Point → Rat) :
    window.length * (window.map fun point => (left point - (window.map left).sum / window.length) *
      (right point - (window.map right).sum / window.length)).sum =
        window.length * (window.map fun point => left point * right point).sum -
          (window.map left).sum * (window.map right).sum := by
  have size : (window.length : Rat) ≠ 0 := Nat.cast_ne_zero.mpr (length_eq_zero_iff.not.mpr some)
  rw [centered_sum]
  field_simp
  ring

theorem slope_eq {points : List Point} {start finish : Nat} (order : start ≤ finish)
    (inside : finish < points.length) :
    slope points start finish = relativeSlope (window points start finish) := by
  have summed (read : Point → Rat) : between (points.map read) start finish =
      ((window points start finish).map read).sum := by
    rw [between_eq_sum order (by rwa [length_map]), window, map_take, map_drop]
  have size : finish - start + 1 = (window points start finish).length := by
    simp only [window, length_take, length_drop]
    omega
  have first : ((window points start finish).head?.map (·.2)).getD 0 =
      (points.getD start (0, 0)).2 := by
    have here : start < points.length := order.trans_lt inside
    rw [window, head?_take, if_neg (by omega), head?_drop, getElem?_eq_getElem here,
      getD_eq_getElem?_getD, getElem?_eq_getElem here]
    rfl
  have some : window points start finish ≠ [] := ne_nil_of_length_pos (by omega)
  have positive : (0 : Rat) < (window points start finish).length := Nat.cast_pos.mpr (by omega)
  unfold slope relativeSlope
  simp only [summed, size, first, ← centered_mean some]
  rw [mul_div_mul_left _ _ positive.ne']
  refine if_congr (or_congr_left ?_) rfl rfl
  have nonneg : 0 ≤ ((window points start finish).map fun point =>
      (point.1 - ((window points start finish).map (·.1)).sum / (window points start finish).length) *
        (point.1 - ((window points start finish).map (·.1)).sum /
          (window points start finish).length)).sum := by
    refine sum_nonneg fun square mem => ?_
    obtain ⟨point, -, rfl⟩ := mem_map.mp mem
    exact mul_self_nonneg _
  refine ⟨fun nonpos => ?_, fun zero => (mul_eq_zero_of_right _ zero).le⟩
  by_contra differ
  exact (mul_pos positive (lt_of_le_of_ne nonneg (Ne.symm differ))).not_ge nonpos

variable {points : List Point} {width : Rat} {start finish : Nat}

def Increasing (points : List Point) : Prop :=
  ∀ one other, one < other → other < points.length → hours points one < hours points other

/-- The inner loop stops at a start that spans the window, or where it started, and the next one, if
it is before the end, does not. -/
structure StopsAt (points : List Point) (width : Rat) (finish start stop : Nat) : Prop where
  before : stop < finish
  spans : stop = start ∨ width ≤ hours points finish - hours points stop
  missed : stop + 1 < finish → hours points finish - hours points (stop + 1) < width

theorem advance_stops (points : List Point) (width : Rat) (finish start : Nat)
    (before : start < finish) :
    StopsAt points width finish start (advance points width finish start) := by
  induction start using advance.induct points width finish with
  | case1 start goes ih =>
    rw [advance, if_pos goes]
    obtain ⟨inside, spans, missed⟩ := ih goes.1
    refine ⟨inside, .inr ?_, missed⟩
    rcases spans with same | spans
    · exact same.symm ▸ goes.2
    · exact spans
  | case2 start stops =>
    rw [advance, if_neg stops]
    exact ⟨before, .inl rfl, fun inside => not_le.mp fun spans => stops ⟨inside, spans⟩⟩

theorem last_below_some {holds : Nat → Bool} {bound last : Nat} (below : last < bound)
    (isLast : holds last = true) (others : ∀ later < bound, last < later → holds later = false) :
    lastBelow holds bound = some last := by
  induction bound with
  | zero => exact absurd below (Nat.not_lt_zero _)
  | succ bound ih =>
    rcases Nat.lt_succ_iff_lt_or_eq.mp below with below | rfl
    · rw [lastBelow, others bound (Nat.lt_succ_self _) below, if_neg Bool.noConfusion]
      exact ih below fun later inside => others later (Nat.lt_succ_of_lt inside)
    · rw [lastBelow, if_pos isLast]

theorem last_below_none {holds : Nat → Bool} {bound : Nat}
    (never : ∀ index < bound, holds index = false) : lastBelow holds bound = none := by
  induction bound with
  | zero => rfl
  | succ bound ih =>
    rw [lastBelow, never bound (Nat.lt_succ_self _), if_neg Bool.noConfusion]
    exact ih fun index inside => never index (Nat.lt_succ_of_lt inside)

/-- Where the sweep stands before it looks at an end. -/
structure Stands (points : List Point) (width : Rat) (finish start : Nat) : Prop where
  before : start < finish
  spans : start = 0 ∨ width ≤ hours points finish - hours points start

theorem stop_finds {stop : Nat} (increasing : Increasing points) (positive : 0 < width)
    (inside : finish < points.length) (stands : Stands points width finish start)
    (stops : StopsAt points width finish start stop) :
    (if width ≤ hours points finish - hours points stop then slope points stop finish
      else none) = shortestSlope points width finish ∧
      (finish + 1 < points.length → Stands points width (finish + 1) stop) := by
  obtain ⟨before, spans, missed⟩ := stops
  have monotone {one other : Nat} (order : one ≤ other) (within : other ≤ finish) :
      hours points one ≤ hours points other := by
    rcases order.eq_or_lt with rfl | order
    · exact le_rfl
    · exact (increasing one other order (within.trans_lt inside)).le
  have later : ∀ index < finish + 1, stop < index →
      hours points finish - hours points index < width := by
    intro index below beyond
    by_cases more : stop + 1 < finish
    · have reached := monotone beyond (Nat.le_of_lt_succ below)
      have short := missed more
      linarith
    · have isEnd : index = finish := by omega
      rw [isEnd, sub_self]
      exact positive
  refine ⟨?_, fun next => ⟨before.trans (Nat.lt_succ_self _), ?_⟩⟩
  · by_cases enough : width ≤ hours points finish - hours points stop
    · rw [if_pos enough, slope_eq before.le inside, shortestSlope, last_below_some
        (before.trans (Nat.lt_succ_self _)) (decide_eq_true enough) fun index below beyond =>
          decide_eq_false (later index below beyond).not_ge]
      rfl
    · have same := spans.resolve_right enough
      have isFirst : start = 0 := stands.spans.resolve_right (same ▸ enough)
      rw [if_neg enough, shortestSlope, last_below_none]
      · rfl
      · intro index below
        refine decide_eq_false fun covers => ?_
        by_cases beyond : stop < index
        · exact (later index below beyond).not_ge covers
        · have isIndex : index = stop := by omega
          exact enough (isIndex ▸ covers)
  · have grows := increasing finish (finish + 1) (Nat.lt_succ_self _) next
    rcases spans with same | spans
    · rw [same]
      exact stands.spans.imp_right fun spans => by linarith
    · exact .inr (by linarith)

theorem sweep_eq (increasing : Increasing points) (positive : 0 < width) (rounds : Nat)
    (inside : finish + rounds ≤ points.length)
    (stands : rounds ≠ 0 → Stands points width finish start) :
    sweep points width rounds finish start =
      (range' finish rounds).filterMap (shortestSlope points width) := by
  induction rounds generalizing finish start with
  | zero => rfl
  | succ rounds ih =>
    have here := stands (Nat.succ_ne_zero rounds)
    obtain ⟨found, next⟩ := stop_finds increasing positive (by omega) here
      (advance_stops points width finish start here.before)
    rw [sweep, range'_succ, filterMap_cons, ← found, ih (by omega) fun more => next (by omega)]
    split_ifs
    · cases slope points (advance points width finish start) finish <;> rfl
    · rfl

variable {observations : List Observation}

theorem points_increasing (increasing : observations.Pairwise (·.timestamp < ·.timestamp)) :
    Increasing (pointsOf observations) := by
  intro one other order inside
  have within : other < observations.length := by rwa [pointsOf, length_map] at inside
  have later := pairwise_iff_getElem.mp increasing one other (order.trans within) within order
  simp only [hours, pointsOf, getD_eq_getElem?_getD, getElem?_map,
    getElem?_eq_getElem (order.trans within), getElem?_eq_getElem within, Option.map_some,
    Option.getD_some]
  linarith

theorem naive_slopes_eq (increasing : Increasing points) (positive : 0 < width)
    (many : 2 ≤ points.length) : naiveSlopes points width =
      sweep points width (points.length - 1) 1 0 ++
        (slope points 0 (points.length - 1)).toList := by
  have first : shortestSlope points width 0 = none := by
    rw [shortestSlope, last_below_none]
    · rfl
    · intro index below
      obtain rfl := Nat.lt_one_iff.mp below
      exact decide_eq_false (by rwa [sub_self, not_le])
  have ends : range points.length = 0 :: range' 1 (points.length - 1) := by
    have size : points.length = points.length - 1 + 1 := by omega
    rw [range_eq_range', size, range'_succ]
    rfl
  have whole : window points 0 (points.length - 1) = points := by
    rw [window, drop_zero, Nat.sub_zero, Nat.sub_add_cancel (by omega), take_length]
  rw [naiveSlopes, ends, filterMap_cons, first, sweep_eq increasing positive _ (by omega)
    fun _ => ⟨Nat.one_pos, .inl rfl⟩, slope_eq (Nat.zero_le _) (by omega), whole]

/-- The sweep finds the greatest of the slopes through all observations and, for each end, through
the shortest window up to it that is long enough. -/
theorem rolling_slope_exact (observations : List Observation) (width : Rat)
    (increasing : observations.Pairwise (·.timestamp < ·.timestamp)) (positive : 0 < width) :
    maximumRollingRssSlopePercentPerHour observations width =
        (if span observations < width * 3600 then none
        else (naiveSlopes (pointsOf observations) width).max?) ∧
      (maximumRollingRssSlopePercentPerHour observations width = none ↔
        span observations < width * 3600 ∨ naiveSlopes (pointsOf observations) width = []) := by
  have isMaximum : maximumRollingRssSlopePercentPerHour observations width =
      if span observations < width * 3600 then none
      else (naiveSlopes (pointsOf observations) width).max? := by
    unfold maximumRollingRssSlopePercentPerHour
    split_ifs with few short
    · rfl
    · have spans : span observations = 0 := by
        match observations, few with
        | [], _ => exact sub_self _
        | [only], _ => exact sub_self _
      rw [spans] at short
      exact absurd (mul_pos positive (by norm_num)) short
    · rfl
    · have many : 2 ≤ (pointsOf observations).length := by
        rw [pointsOf, length_map]
        omega
      rw [naive_slopes_eq (points_increasing increasing) positive many]
  refine ⟨isMaximum, ?_⟩
  rw [isMaximum]
  split_ifs with short
  · exact ⟨fun _ => .inl short, fun _ => rfl⟩
  · rw [max?_eq_none_iff]
    exact ⟨.inr, fun none => none.resolve_left short⟩

/-- The steepest window is the last one, that the start moves on to. -/
theorem rolling_slope_exact_sample :
    maximumRollingRssSlopePercentPerHour
        [⟨0, 200⟩, ⟨1800, 180⟩, ⟨3600, 150⟩, ⟨7200, 225⟩] 1 = some 50 ∧
      (naiveSlopes (pointsOf [⟨0, 200⟩, ⟨1800, 180⟩, ⟨3600, 150⟩, ⟨7200, 225⟩]) 1).max? =
        some 50 := by
  have steepest : (naiveSlopes (pointsOf
      [⟨0, 200⟩, ⟨1800, 180⟩, ⟨3600, 150⟩, ⟨7200, 225⟩]) 1).max? = some 50 := by
    decide +kernel
  have isMaximum := (rolling_slope_exact
    [⟨0, 200⟩, ⟨1800, 180⟩, ⟨3600, 150⟩, ⟨7200, 225⟩] 1 (by decide +kernel) one_pos).1
  rw [if_neg (by decide +kernel)] at isMaximum
  exact ⟨isMaximum.trans steepest, steepest⟩

end RtspProxy.Load.RollingSlope
