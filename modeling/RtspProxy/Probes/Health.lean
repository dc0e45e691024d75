import Mathlib.Data.List.Induction
import RtspProxy.Probes.Records

/-!
# Health of a camera under deep probes

`ProbeHealthRecord` of `probes.py`: a summary of the observations of one camera
and one method. `forCurrentTarget` is applied to the record before each
observation, as the observation store does when it advances the stored row; an
observation that raises leaves the row as it was.

The summary keeps two counters and the last conclusive observation. What it
stands for is recovered by the invariant `Summarises`: the observation that last
wrote the record is in the history, and nothing conclusive came after it.
-/

namespace RtspProxy.Probes

open Nodes Lib Lib.Raising

inductive ProbeHealthState
  | unknown | healthy | suspect | unhealthy | recovering
  deriving DecidableEq

structure ProbeHealthRecord where
  target : ProbeTarget
  method : ProbeMethod
  healthState : ProbeHealthState
  consecutiveFailures : Int
  consecutiveSuccesses : Int
  lastObservationId : Option UUID
  lastDeepAt : Option Datetime
  lastSuccessAt : Option Datetime
  countersValid : (0 ≤ consecutiveFailures ∧ consecutiveFailures ≤ 2) ∧
    0 ≤ consecutiveSuccesses ∧ consecutiveSuccesses ≤ 2
  timesValid : ∀ success ∈ lastSuccessAt, ∀ deep ∈ lastDeepAt, success ≤ deep
  identityValid : lastObservationId = none ↔ lastDeepAt = none
  deriving DecidableEq

namespace ProbeHealthRecord

/-- The constructor call, with the checks of `__post_init__`. -/
def build (target : ProbeTarget) (method : ProbeMethod) (healthState : ProbeHealthState)
    (consecutiveFailures consecutiveSuccesses : Int) (lastObservationId : Option UUID)
    (lastDeepAt lastSuccessAt : Option Datetime) : Except ProbeError ProbeHealthRecord :=
  if valid : ((0 ≤ consecutiveFailures ∧ consecutiveFailures ≤ 2) ∧
        0 ≤ consecutiveSuccesses ∧ consecutiveSuccesses ≤ 2) ∧
      (∀ success ∈ lastSuccessAt, ∀ deep ∈ lastDeepAt, success ≤ deep) ∧
      (lastObservationId = none ↔ lastDeepAt = none) then
    .ok { target, method, healthState, consecutiveFailures, consecutiveSuccesses
          lastObservationId, lastDeepAt, lastSuccessAt
          countersValid := valid.1, timesValid := valid.2.1, identityValid := valid.2.2 }
  else .error (.valueError "probe_health_record_invalid")

def forTarget (target : ProbeTarget) (method : ProbeMethod) : ProbeHealthRecord :=
  { target, method, healthState := .unknown, consecutiveFailures := 0, consecutiveSuccesses := 0
    lastObservationId := none, lastDeepAt := none, lastSuccessAt := none
    countersValid := by decide, timesValid := by simp, identityValid := by simp }

def forCurrentTarget (rec : ProbeHealthRecord) (target : ProbeTarget) : ProbeHealthRecord :=
  if sameHealthGeneration rec.target target rec.method then { rec with target }
  else forTarget target rec.method

/-- `self.last_deep_at is None or observation.completed_at - self.last_deep_at >= spacing`. -/
def spaced (rec : ProbeHealthRecord) (completedAt : Datetime) (confirmationSpacing : Int) : Bool :=
  match rec.lastDeepAt with
  | none => true
  | some lastDeepAt => decide (completedAt - lastDeepAt ≥ confirmationSpacing)

/-- `self.health_state in {UNHEALTHY, RECOVERING}`. -/
def isDown (rec : ProbeHealthRecord) : Bool :=
  rec.healthState = .unhealthy ∨ rec.healthState = .recovering

def observeDeep (rec : ProbeHealthRecord) (obs : ProbeObservation)
    (confirmationSpacing : Int) : Except ProbeError ProbeHealthRecord := do
  raiseIf (¬(timedeltaSeconds 1 ≤ confirmationSpacing ∧
      confirmationSpacing ≤ timedeltaSeconds 3600))
    (.valueError "probe_confirmation_spacing_invalid")
  raiseIf (sameHealthGeneration rec.target obs.target rec.method = false ∨
      obs.method ≠ rec.method ∨
      (∃ lastDeepAt ∈ rec.lastDeepAt, obs.completedAt ≤ lastDeepAt) ∨
      some obs.observationId = rec.lastObservationId)
    (.valueError "probe_health_observation_invalid")
  let spaced : Int := if rec.spaced obs.completedAt confirmationSpacing then 1 else 0
  match obs.outcome with
  | .inconclusive => return rec
  | .unhealthy =>
    let failures := min 2 (rec.consecutiveFailures + spaced)
    let st : ProbeHealthState :=
      if rec.isDown ∨ failures ≥ 2 then .unhealthy else .suspect
    build obs.target rec.method st failures 0
      (some obs.observationId) (some obs.completedAt) rec.lastSuccessAt
  | .healthy =>
    let successes := min 2 (rec.consecutiveSuccesses + spaced)
    if rec.isDown then
      let st : ProbeHealthState :=
        if rec.healthState = .recovering ∧ successes ≥ 2 then .healthy else .recovering
      build obs.target rec.method st 0 successes
        (some obs.observationId) (some obs.completedAt)
        (some obs.completedAt)
    else
      build obs.target rec.method .healthy 0 (max 1 successes)
        (some obs.observationId) (some obs.completedAt)
        (some obs.completedAt)

/-- One observation, as `_advance_health` applies it to the stored record. -/
def evaluate (confirmationSpacing : Int) (rec : ProbeHealthRecord)
    (obs : ProbeObservation) : Except ProbeError ProbeHealthRecord :=
  (rec.forCurrentTarget obs.target).observeDeep obs confirmationSpacing

/-- A sequence of observations; one that raises changes nothing. -/
def observeAll (confirmationSpacing : Int) (rec : ProbeHealthRecord)
    (obss : List ProbeObservation) : ProbeHealthRecord :=
  obss.foldl
    (fun cur obs =>
      match evaluate confirmationSpacing cur obs with
      | .ok next => next
      | .error _ => cur)
    rec

variable {target : ProbeTarget} {rec : ProbeHealthRecord}

variable {method : ProbeMethod}

theorem build_ok {st : ProbeHealthState} {failures successes : Int}
    {observationId : Option UUID} {deepAt successAt : Option Datetime}
    (built : build target method st failures successes observationId deepAt successAt =
      .ok rec) :
    rec.target = target ∧ rec.method = method ∧ rec.healthState = st ∧
      rec.consecutiveFailures = failures ∧ rec.consecutiveSuccesses = successes ∧
      rec.lastObservationId = observationId ∧ rec.lastDeepAt = deepAt := by
  unfold build at built
  split_ifs at built with valid
  cases built
  simp

/-- What an accepted conclusive observation writes besides state and counters. -/
structure Recorded (rec next : ProbeHealthRecord) (obs : ProbeObservation) : Prop where
  target : next.target = obs.target
  method : next.method = rec.method
  observationId : next.lastObservationId = some obs.observationId
  deepAt : next.lastDeepAt = some obs.completedAt

/-- The counter of failures after a failure, and of successes after a success. -/
def advanced (counter : Int) (spaced : Bool) : Int := min 2 (counter + if spaced then 1 else 0)

variable {next : ProbeHealthRecord} {obs : ProbeObservation} {spacing : Int}

theorem observe_deep_ok (seen : rec.observeDeep obs spacing = .ok next) :
    obs.method = rec.method ∧
    (∀ lastDeepAt ∈ rec.lastDeepAt, lastDeepAt < obs.completedAt) ∧
    some obs.observationId ≠ rec.lastObservationId ∧
    ((obs.outcome = .inconclusive ∧ next = rec) ∨
      (obs.outcome = .unhealthy ∧ Recorded rec next obs ∧ next.consecutiveSuccesses = 0 ∧
        next.consecutiveFailures =
          advanced rec.consecutiveFailures (rec.spaced obs.completedAt spacing) ∧
        next.healthState =
          if rec.isDown ∨ next.consecutiveFailures ≥ 2 then .unhealthy else .suspect) ∨
      (obs.outcome = .healthy ∧ Recorded rec next obs ∧ next.consecutiveFailures = 0 ∧
        (rec.isDown = true ∧ next.consecutiveSuccesses =
            advanced rec.consecutiveSuccesses (rec.spaced obs.completedAt spacing) ∧
          next.healthState =
            (if rec.healthState = .recovering ∧ next.consecutiveSuccesses ≥ 2 then .healthy
              else .recovering) ∨
        rec.isDown = false ∧ next.healthState = .healthy))) := by
  unfold observeDeep at seen
  simp only [bind_ok, raise_if_ok] at seen
  rcases seen with ⟨_, _, _, accepted, out⟩
  push Not at accepted
  rcases accepted with ⟨_, sameMethod, later, newId⟩
  refine ⟨sameMethod, later, newId, ?_⟩
  cases kind : obs.outcome with
  | inconclusive =>
    rw [kind] at out
    exact .inl ⟨rfl, (pure_ok.mp out).symm⟩
  | unhealthy =>
    rw [kind] at out
    rcases build_ok out with ⟨target, method, st, failures, successes, id, deepAt⟩
    refine .inr (.inl ⟨rfl, ⟨target, method, id, deepAt⟩, successes, failures, ?_⟩)
    rw [st, failures]
  | healthy =>
    rw [kind] at out
    by_cases down : rec.isDown = true
    · rw [if_pos down] at out
      rcases build_ok out with ⟨target, method, st, failures, successes, id, deepAt⟩
      refine .inr (.inr ⟨rfl, ⟨target, method, id, deepAt⟩, failures, .inl ⟨down, successes, ?_⟩⟩)
      rw [st, successes]
    · rw [if_neg down] at out
      rcases build_ok out with ⟨target, method, st, failures, successes, id, deepAt⟩
      exact .inr (.inr ⟨rfl, ⟨target, method, id, deepAt⟩, failures,
        .inr ⟨Bool.eq_false_iff.mpr down, st⟩⟩)

theorem same_health_generation_refl (target : ProbeTarget) (method : ProbeMethod) :
    sameHealthGeneration target target method = true := by
  simp [sameHealthGeneration]

theorem same_health_generation_symm {first second : ProbeTarget}
    (same : sameHealthGeneration first second method = true) :
    sameHealthGeneration second first method = true := by
  simp only [sameHealthGeneration, decide_eq_true_eq] at same ⊢
  exact same.symm

theorem same_health_generation_trans {first second third : ProbeTarget}
    (left : sameHealthGeneration first second method = true)
    (right : sameHealthGeneration second third method = true) :
    sameHealthGeneration first third method = true := by
  simp only [sameHealthGeneration, decide_eq_true_eq] at left right ⊢
  exact left.trans right

theorem for_current_target_same
    (same : sameHealthGeneration rec.target target rec.method = true) :
    rec.forCurrentTarget target = { rec with target } := by
  unfold forCurrentTarget
  rw [if_pos same]

theorem for_current_target_new
    (changed : sameHealthGeneration rec.target target rec.method = false) :
    rec.forCurrentTarget target = forTarget target rec.method := by
  unfold forCurrentTarget
  rw [if_neg (Bool.eq_false_iff.mp changed)]

@[simp] theorem for_target_target (target : ProbeTarget) (method : ProbeMethod) :
    (forTarget target method).target = target := rfl

@[simp] theorem for_target_method (target : ProbeTarget) (method : ProbeMethod) :
    (forTarget target method).method = method := rfl

theorem for_current_target_blank (target : ProbeTarget) (method : ProbeMethod) :
    (forTarget target method).forCurrentTarget target = forTarget target method := by
  unfold forCurrentTarget
  rw [for_target_target, for_target_method, if_pos (same_health_generation_refl target method)]
  rfl

@[simp] theorem for_current_target_method (rec : ProbeHealthRecord) (target : ProbeTarget) :
    (rec.forCurrentTarget target).method = rec.method := by
  unfold forCurrentTarget
  split_ifs <;> rfl

@[simp] theorem for_current_target_target (rec : ProbeHealthRecord) (target : ProbeTarget) :
    (rec.forCurrentTarget target).target = target := by
  unfold forCurrentTarget
  split_ifs <;> rfl

/-- A conclusive observation of the same method, newer than `first`. -/
def Overtakes (first other : ProbeObservation) : Prop :=
  other.method = first.method ∧ other.outcome ≠ .inconclusive ∧
    first.completedAt < other.completedAt ∧ other.observationId ≠ first.observationId

/-- `first` is in the history and no conclusive observation overtook it. -/
def LastConclusive (hist : List ProbeObservation) (first : ProbeObservation) : Prop :=
  ∃ earlier between, hist = earlier ++ first :: between ∧ ∀ other ∈ between, ¬Overtakes first other

variable {hist : List ProbeObservation}

theorem LastConclusive.append {first next : ProbeObservation} (last : LastConclusive hist first)
    (kept : ¬Overtakes first next) : LastConclusive (hist ++ [next]) first := by
  rcases last with ⟨earlier, between, shape, none⟩
  refine ⟨earlier, between ++ [next], by simp [shape], ?_⟩
  intro other mem
  rcases List.mem_append.mp mem with inside | isNext
  · exact none other inside
  · rw [List.mem_singleton.mp isNext]
    exact kept

theorem last_conclusive_self (hist : List ProbeObservation) (next : ProbeObservation) :
    LastConclusive (hist ++ [next]) next :=
  ⟨hist, [], rfl, by simp⟩

/-- What a record says about the observations it was folded from. -/
structure Summarises (hist : List ProbeObservation) (rec : ProbeHealthRecord) : Prop where
  unobserved : rec.lastDeepAt = none →
    rec.healthState = .unknown ∧ rec.consecutiveFailures = 0 ∧
      rec.consecutiveSuccesses = 0 ∧ rec.lastSuccessAt = none
  observed : ∀ deepAt ∈ rec.lastDeepAt, ∃ first,
    LastConclusive hist first ∧ first.completedAt = deepAt ∧
    rec.lastObservationId = some first.observationId ∧ first.method = rec.method ∧
    sameHealthGeneration first.target rec.target rec.method = true ∧
    (first.outcome = .unhealthy ∧ rec.consecutiveSuccesses = 0 ∧
        (rec.healthState = .suspect ∨ rec.healthState = .unhealthy) ∨
      first.outcome = .healthy ∧ rec.consecutiveFailures = 0 ∧
        (rec.healthState = .healthy ∨ rec.healthState = .recovering))
  confirmed : rec.consecutiveFailures = 2 → rec.healthState = .unhealthy
  recovering : rec.healthState = .recovering → rec.consecutiveSuccesses ≤ 1

theorem summarises_for_target (hist : List ProbeObservation) (target : ProbeTarget)
    (method : ProbeMethod) : Summarises hist (forTarget target method) where
  unobserved := fun _ => ⟨rfl, rfl, rfl, rfl⟩
  observed := by simp [forTarget]
  confirmed := by simp [forTarget]
  recovering := by simp [forTarget]

theorem Summarises.for_current_target (summary : Summarises hist rec) (target : ProbeTarget) :
    Summarises hist (rec.forCurrentTarget target) := by
  cases same : sameHealthGeneration rec.target target rec.method with
  | false =>
    rw [for_current_target_new same]
    exact summarises_for_target hist target rec.method
  | true =>
    rw [for_current_target_same same]
    refine ⟨summary.unobserved, ?_, summary.confirmed, summary.recovering⟩
    intro deepAt isDeepAt
    rcases summary.observed deepAt isDeepAt with
      ⟨first, last, completedAt, id, method, gen, out⟩
    exact ⟨first, last, completedAt, id, method, same_health_generation_trans gen same, out⟩

theorem Summarises.append {hist : List ProbeObservation} {rec : ProbeHealthRecord}
    {next : ProbeObservation} (summary : Summarises hist rec)
    (kept : ∀ first, first.method = rec.method → rec.lastDeepAt = some first.completedAt →
      rec.lastObservationId = some first.observationId → ¬Overtakes first next) :
    Summarises (hist ++ [next]) rec := by
  refine ⟨summary.unobserved, ?_, summary.confirmed, summary.recovering⟩
  intro deepAt isDeepAt
  rcases summary.observed deepAt isDeepAt with ⟨first, last, completedAt, id, method, rest⟩
  have notOvertaken : ¬Overtakes first next := by
    apply kept first method _ id
    rw [completedAt]
    exact isDeepAt
  exact ⟨first, last.append notOvertaken, completedAt, id, method, rest⟩

theorem Summarises.observed_of_state (summary : Summarises hist rec)
    (known : rec.healthState ≠ .unknown) : ∃ deepAt, rec.lastDeepAt = some deepAt := by
  cases deep : rec.lastDeepAt with
  | none => exact absurd (summary.unobserved deep).1 known
  | some deepAt => exact ⟨deepAt, rfl⟩

theorem Summarises.successes_of_unhealthy (summary : Summarises hist rec)
    (unhealthy : rec.healthState = .unhealthy) : rec.consecutiveSuccesses = 0 := by
  rcases summary.observed_of_state (by rw [unhealthy]; decide) with ⟨deepAt, isDeepAt⟩
  rcases summary.observed deepAt isDeepAt with ⟨_, _, _, _, _, _, failed | succeeded⟩
  · exact failed.2.1
  · rcases succeeded.2.2 with isHealthy | isRecovering
    · rw [unhealthy] at isHealthy
      cases isHealthy
    · rw [unhealthy] at isRecovering
      cases isRecovering

theorem advanced_le (counter : Int) (spaced : Bool) : advanced counter spaced ≤ counter + 1 := by
  unfold advanced
  cases spaced <;> simp

theorem Summarises.observe (summary : Summarises hist rec)
    (seen : rec.observeDeep obs spacing = .ok next) :
    Summarises (hist ++ [obs]) next := by
  rcases observe_deep_ok seen with ⟨sameMethod, _, _, inconclusive | failure | success⟩
  · rcases inconclusive with ⟨out, rfl⟩
    apply summary.append
    intro first _ _ _ overtaken
    exact overtaken.2.1 out
  · rcases failure with ⟨out, recorded, successes, failures, st⟩
    constructor
    · intro noDeep
      rw [recorded.deepAt] at noDeep
      cases noDeep
    · intro deepAt isDeepAt
      rw [recorded.deepAt] at isDeepAt
      refine ⟨obs, last_conclusive_self hist obs, Option.some.inj isDeepAt,
        recorded.observationId, sameMethod.trans recorded.method.symm, ?_, ?_⟩
      · rw [recorded.target]
        exact same_health_generation_refl _ _
      · left
        refine ⟨out, successes, ?_⟩
        rw [st]
        split_ifs
        · exact .inr rfl
        · exact .inl rfl
    · intro both
      rw [st, if_pos]
      right
      omega
    · intro isRecovering
      rw [st] at isRecovering
      split_ifs at isRecovering
  · rcases success with ⟨out, recorded, failures, st⟩
    constructor
    · intro noDeep
      rw [recorded.deepAt] at noDeep
      cases noDeep
    · intro deepAt isDeepAt
      rw [recorded.deepAt] at isDeepAt
      refine ⟨obs, last_conclusive_self hist obs, Option.some.inj isDeepAt,
        recorded.observationId, sameMethod.trans recorded.method.symm, ?_, ?_⟩
      · rw [recorded.target]
        exact same_health_generation_refl _ _
      · right
        refine ⟨out, failures, ?_⟩
        rcases st with ⟨_, _, st⟩ | ⟨_, st⟩
        · rw [st]
          split_ifs
          · exact .inl rfl
          · exact .inr rfl
        · exact .inl st
    · intro both
      omega
    · intro isRecovering
      rcases st with ⟨down, successes, st⟩ | ⟨_, st⟩
      · by_cases wasRecovering : rec.healthState = .recovering
        · by_contra many
          rw [st, if_pos ⟨wasRecovering, by omega⟩] at isRecovering
          cases isRecovering
        · -- from `unhealthy` the first success starts counting at zero
          have wasUnhealthy : rec.healthState = .unhealthy := by
            simp only [isDown, decide_eq_true_eq] at down
            exact down.resolve_right wasRecovering
          have zero := summary.successes_of_unhealthy wasUnhealthy
          have bound := advanced_le rec.consecutiveSuccesses
            (rec.spaced obs.completedAt spacing)
          omega
      · rw [isRecovering] at st
        cases st

theorem build_accepts {st : ProbeHealthState} {failures successes : Int}
    {observationId : UUID} {deepAt : Datetime} {successAt : Option Datetime}
    (failuresValid : 0 ≤ failures ∧ failures ≤ 2) (successesValid : 0 ≤ successes ∧ successes ≤ 2)
    (ordered : ∀ success ∈ successAt, success ≤ deepAt) :
    ∃ rec, build target method st failures successes (some observationId) (some deepAt)
      successAt = .ok rec := by
  unfold build
  rw [dif_pos ⟨⟨failuresValid, successesValid⟩, by simpa using ordered, by simp⟩]
  exact ⟨_, rfl⟩

theorem advanced_valid {counter : Int} (nonneg : 0 ≤ counter) (spaced : Bool) :
    0 ≤ advanced counter spaced ∧ advanced counter spaced ≤ 2 := by
  unfold advanced
  cases spaced <;> simp <;> omega

theorem observe_deep_accepts
    (spacingValid : timedeltaSeconds 1 ≤ spacing ∧ spacing ≤ timedeltaSeconds 3600)
    (gen : sameHealthGeneration rec.target obs.target rec.method = true)
    (sameMethod : obs.method = rec.method)
    (later : ∀ lastDeepAt ∈ rec.lastDeepAt, lastDeepAt < obs.completedAt)
    (newId : some obs.observationId ≠ rec.lastObservationId)
    (unobserved : rec.lastDeepAt = none → rec.lastSuccessAt = none) :
    ∃ next, rec.observeDeep obs spacing = .ok next := by
  have accepted : ¬(sameHealthGeneration rec.target obs.target rec.method = false ∨
      obs.method ≠ rec.method ∨
      (∃ lastDeepAt ∈ rec.lastDeepAt, obs.completedAt ≤ lastDeepAt) ∨
      some obs.observationId = rec.lastObservationId) := by
    push Not
    exact ⟨by simp [gen], sameMethod, later, newId⟩
  have ordered : ∀ success ∈ rec.lastSuccessAt, success ≤ obs.completedAt := by
    intro success isSuccess
    cases deep : rec.lastDeepAt with
    | none =>
      rw [unobserved deep] at isSuccess
      cases isSuccess
    | some deepAt =>
      have pre := rec.timesValid success isSuccess deepAt deep
      exact pre.trans (later deepAt deep).le
  have failuresValid := advanced_valid rec.countersValid.1.1
    (rec.spaced obs.completedAt spacing)
  have successesValid := advanced_valid rec.countersValid.2.1
    (rec.spaced obs.completedAt spacing)
  unfold observeDeep
  rw [check_passes (not_not_intro spacingValid), check_passes accepted]
  cases obs.outcome with
  | inconclusive => exact ⟨rec, rfl⟩
  | unhealthy => exact build_accepts failuresValid (by decide) ordered
  | healthy =>
    dsimp only
    by_cases down : rec.isDown = true
    · rw [if_pos down]
      exact build_accepts (by decide) successesValid (by simp)
    · rw [if_neg down]
      apply build_accepts (by decide) _ (by simp)
      unfold advanced at successesValid
      omega

theorem Summarises.rejected {err : ProbeError}
    (spacingValid : timedeltaSeconds 1 ≤ spacing ∧ spacing ≤ timedeltaSeconds 3600)
    (summary : Summarises hist rec) (raised : evaluate spacing rec obs = .error err) :
    Summarises (hist ++ [obs]) rec := by
  apply summary.append
  intro first sameMethod deepAt id overtaken
  rcases overtaken with ⟨method, _, later, newId⟩
  have cur := summary.for_current_target obs.target
  have accepted : ∃ next, evaluate spacing rec obs = .ok next := by
    apply observe_deep_accepts spacingValid
    · rw [for_current_target_target]
      exact same_health_generation_refl _ _
    · rw [for_current_target_method, method, sameMethod]
    · intro lastDeepAt isLast
      cases same : sameHealthGeneration rec.target obs.target rec.method with
      | false =>
        rw [for_current_target_new same] at isLast
        cases isLast
      | true =>
        rw [for_current_target_same same] at isLast
        rw [← Option.some.inj (deepAt.symm.trans isLast)]
        exact later
    · cases same : sameHealthGeneration rec.target obs.target rec.method with
      | false =>
        rw [for_current_target_new same]
        simp [forTarget]
      | true =>
        rw [for_current_target_same same]
        intro repeated
        exact newId (Option.some.inj (repeated.trans id))
    · intro noDeep
      exact (cur.unobserved noDeep).2.2.2
  rcases accepted with ⟨next, ok⟩
  rw [ok] at raised
  cases raised

theorem observe_all_append (spacing : Int) (rec : ProbeHealthRecord)
    (hist : List ProbeObservation) (obs : ProbeObservation) :
    observeAll spacing rec (hist ++ [obs]) =
      match evaluate spacing (observeAll spacing rec hist) obs with
      | .ok next => next
      | .error _ => observeAll spacing rec hist := by
  simp [observeAll]

/-- The invariant of the fold. -/
theorem observe_all_summarises
    (spacingValid : timedeltaSeconds 1 ≤ spacing ∧ spacing ≤ timedeltaSeconds 3600)
    (target : ProbeTarget) (method : ProbeMethod) (hist : List ProbeObservation) :
    Summarises hist (observeAll spacing (forTarget target method) hist) := by
  induction hist using List.reverseRecOn with
  | nil => exact summarises_for_target [] target method
  | append_singleton hist obs ih =>
    rw [observe_all_append]
    cases res : evaluate spacing (observeAll spacing (forTarget target method) hist) obs with
    | ok next => exact (ih.for_current_target obs.target).observe res
    | error err => exact ih.rejected spacingValid res

@[simp] theorem observe_all_method (spacing : Int) (rec : ProbeHealthRecord)
    (hist : List ProbeObservation) :
    (observeAll spacing rec hist).method = rec.method := by
  induction hist using List.reverseRecOn with
  | nil => rfl
  | append_singleton hist obs ih =>
    rw [observe_all_append]
    cases res : evaluate spacing (observeAll spacing rec hist) obs with
    | error err => exact ih
    | ok next =>
      have cur := for_current_target_method (observeAll spacing rec hist) obs.target
      rcases observe_deep_ok res with ⟨_, _, _, kept | failure | success⟩
      · rw [kept.2, cur, ih]
      · rw [failure.2.1.method, cur, ih]
      · rw [success.2.1.method, cur, ih]

theorem spacing_of_ok (seen : rec.observeDeep obs spacing = .ok next) :
    timedeltaSeconds 1 ≤ spacing ∧ spacing ≤ timedeltaSeconds 3600 := by
  unfold observeDeep at seen
  simp only [bind_ok, raise_if_ok, not_not] at seen
  rcases seen with ⟨_, valid, _⟩
  exact valid

theorem advanced_to_two {counter : Int} {spaced : Bool} (below : counter ≤ 1)
    (reached : advanced counter spaced ≥ 2) : counter = 1 ∧ spaced = true := by
  unfold advanced at reached
  cases spaced with
  | false =>
    simp at reached
    omega
  | true =>
    simp at reached
    exact ⟨by omega, rfl⟩

theorem spaced_from {completedAt deepAt : Datetime} (isDeepAt : rec.lastDeepAt = some deepAt)
    (spaced : rec.spaced completedAt spacing = true) : spacing ≤ completedAt - deepAt := by
  unfold ProbeHealthRecord.spaced at spaced
  rw [isDeepAt] at spaced
  simpa using spaced

/-- Two observations of one outcome in one generation, far enough apart, with no conclusive
observation of the camera between them. -/
def Confirms (out : ProbeOutcome) (spacing : Int) (hist : List ProbeObservation)
    (second : ProbeObservation) : Prop :=
  second.outcome = out ∧ ∃ earlier first between,
    hist = earlier ++ first :: between ∧ first.outcome = out ∧
    first.method = second.method ∧
    sameHealthGeneration first.target second.target second.method = true ∧
    spacing ≤ second.completedAt - first.completedAt ∧ ∀ other ∈ between, ¬Overtakes first other

theorem confirms_of_last {out : ProbeOutcome} {first second : ProbeObservation}
    (last : LastConclusive hist first) (firstOutcome : first.outcome = out)
    (secondOutcome : second.outcome = out) (method : first.method = second.method)
    (gen : sameHealthGeneration first.target second.target second.method = true)
    (apart : spacing ≤ second.completedAt - first.completedAt) :
    Confirms out spacing hist second := by
  rcases last with ⟨earlier, between, shape, none⟩
  exact ⟨secondOutcome, earlier, first, between, shape, firstOutcome, method, gen, apart, none⟩

theorem Summarises.confirms_failure (summary : Summarises hist rec)
    (target : rec.target = obs.target) (up : rec.isDown = false)
    (seen : rec.observeDeep obs spacing = .ok next) (unhealthy : next.healthState = .unhealthy) :
    Confirms .unhealthy spacing hist obs := by
  have notUnhealthy : rec.healthState ≠ .unhealthy := by
    intro isUnhealthy
    simp [isDown, isUnhealthy] at up
  rcases observe_deep_ok seen with ⟨sameMethod, _, _, kept | failure | success⟩
  · rw [kept.2] at unhealthy
    exact absurd unhealthy notUnhealthy
  · rcases failure with ⟨out, _, _, failures, st⟩
    rw [unhealthy] at st
    have reached : next.consecutiveFailures ≥ 2 := by
      by_contra few
      rw [if_neg (by simp [up]; omega)] at st
      cases st
    have below : rec.consecutiveFailures ≤ 1 := by
      have bound := rec.countersValid.1.2
      by_contra two
      exact notUnhealthy (summary.confirmed (by omega))
    rw [failures] at reached
    rcases advanced_to_two below reached with ⟨one, spaced⟩
    cases deep : rec.lastDeepAt with
    | none =>
      have zero := (summary.unobserved deep).2.1
      omega
    | some deepAt =>
      rcases summary.observed deepAt deep with
        ⟨first, last, completedAt, _, method, gen, failed | succeeded⟩
      · apply confirms_of_last last failed.1 out (method.trans sameMethod.symm)
        · rw [sameMethod, ← target]
          exact gen
        · rw [completedAt]
          exact spaced_from deep spaced
      · have zero := succeeded.2.1
        omega
  · rcases success with ⟨_, _, _, ⟨_, _, st⟩ | ⟨_, st⟩⟩
    · rw [unhealthy] at st
      split_ifs at st
    · rw [unhealthy] at st
      cases st

theorem Summarises.confirms_success (summary : Summarises hist rec)
    (target : rec.target = obs.target) (down : rec.isDown = true)
    (seen : rec.observeDeep obs spacing = .ok next)
    (healthy : next.healthState = .healthy) : Confirms .healthy spacing hist obs := by
  rcases observe_deep_ok seen with ⟨sameMethod, _, _, kept | failure | success⟩
  · rw [kept.2] at healthy
    simp [isDown, healthy] at down
  · rcases failure with ⟨_, _, _, _, st⟩
    rw [healthy] at st
    split_ifs at st
  · rcases success with ⟨out, _, _, ⟨_, successes, st⟩ | ⟨up, _⟩⟩
    · rw [healthy] at st
      have reached : rec.healthState = .recovering ∧ next.consecutiveSuccesses ≥ 2 := by
        by_contra few
        rw [if_neg few] at st
        cases st
      rw [successes] at reached
      rcases advanced_to_two (summary.recovering reached.1) reached.2 with ⟨one, spaced⟩
      rcases summary.observed_of_state (by rw [reached.1]; decide) with ⟨deepAt, deep⟩
      rcases summary.observed deepAt deep with
        ⟨first, last, completedAt, _, method, gen, failed | succeeded⟩
      · have zero := failed.2.1
        omega
      · apply confirms_of_last last succeeded.1 out (method.trans sameMethod.symm)
        · rw [sameMethod, ← target]
          exact gen
        · rw [completedAt]
          exact spaced_from deep spaced
    · rw [down] at up
      cases up

theorem is_down_of_unknown (unknown : rec.healthState = .unknown) : rec.isDown = false := by
  simp [isDown, unknown]

theorem is_down_for_current_target (up : rec.isDown = false) (target : ProbeTarget) :
    (rec.forCurrentTarget target).isDown = false := by
  cases same : sameHealthGeneration rec.target target rec.method with
  | false =>
    rw [for_current_target_new same]
    exact is_down_of_unknown rfl
  | true =>
    rw [for_current_target_same same]
    exact up

theorem evaluate_new_generation
    (changed : sameHealthGeneration rec.target obs.target rec.method = false) :
    evaluate spacing rec obs = evaluate spacing (forTarget obs.target rec.method) obs := by
  unfold evaluate
  rw [for_current_target_blank, for_current_target_new changed]

theorem evaluate_new_accepts
    (spacingValid : timedeltaSeconds 1 ≤ spacing ∧ spacing ≤ timedeltaSeconds 3600)
    (changed : sameHealthGeneration rec.target obs.target rec.method = false)
    (sameMethod : obs.method = rec.method) :
    ∃ next, evaluate spacing rec obs = .ok next := by
  unfold evaluate
  rw [for_current_target_new changed]
  apply observe_deep_accepts spacingValid
  · rw [for_target_target]
    exact same_health_generation_refl _ _
  · exact sameMethod
  · simp [forTarget]
  · simp [forTarget]
  · intro _
    rfl

theorem observe_all_cons {later : List ProbeObservation}
    (accepted : evaluate spacing rec obs = .ok next) :
    observeAll spacing rec (obs :: later) = observeAll spacing next later := by
  unfold observeAll
  rw [List.foldl_cons, accepted]

theorem observe_deep_inconclusive (inconclusive : obs.outcome = .inconclusive)
    (seen : rec.observeDeep obs spacing = .ok next) : next = rec := by
  rcases observe_deep_ok seen with ⟨_, _, _, kept | failure | success⟩
  · exact kept.2
  · rw [inconclusive] at failure
    cases failure.1
  · rw [inconclusive] at success
    cases success.1

/-- Health changes with hysteresis along every sequence of observations. `unhealthy` is entered
only on a confirmed failure, left for `healthy` within a generation only on a confirmed success,
inconclusive observations keep state and progress, and the first observation of a new generation
starts from a blank record. -/
theorem health_hysteresis (spacing : Int) (target : ProbeTarget) (method : ProbeMethod)
    (hist : List ProbeObservation) (obs : ProbeObservation) :
    let prev := observeAll spacing (forTarget target method) hist
    let next := observeAll spacing (forTarget target method) (hist ++ [obs])
    let sameGeneration := sameHealthGeneration prev.target obs.target method
    (prev.isDown = false → next.healthState = .unhealthy → Confirms .unhealthy spacing hist obs) ∧
    (prev.isDown = true → next.healthState = .healthy → sameGeneration = true →
      Confirms .healthy spacing hist obs) ∧
    (obs.outcome = .inconclusive → sameGeneration = true → next.healthState = prev.healthState ∧
      next.consecutiveFailures = prev.consecutiveFailures ∧
      next.consecutiveSuccesses = prev.consecutiveSuccesses ∧
      next.lastDeepAt = prev.lastDeepAt) ∧
    (sameGeneration = false → obs.method = method →
      (timedeltaSeconds 1 ≤ spacing ∧ spacing ≤ timedeltaSeconds 3600) →
      ∀ later, observeAll spacing prev (obs :: later) =
        observeAll spacing (forTarget obs.target method) (obs :: later)) := by
  rw [observe_all_append]
  have isMethod := observe_all_method spacing (forTarget target method) hist
  have summarised : timedeltaSeconds 1 ≤ spacing ∧ spacing ≤ timedeltaSeconds 3600 →
      Summarises hist (observeAll spacing (forTarget target method) hist) := by
    intro valid
    exact observe_all_summarises valid target method hist
  generalize observeAll spacing (forTarget target method) hist = prev at *
  have methodEq : prev.method = method := isMethod
  subst methodEq
  refine ⟨?_, ?_, ?_, ?_⟩
  · intro up unhealthy
    cases res : evaluate spacing prev obs with
    | error err =>
      rw [res] at unhealthy
      simp [isDown, unhealthy] at up
    | ok next =>
      rw [res] at unhealthy
      have summary := (summarised (spacing_of_ok res)).for_current_target obs.target
      exact summary.confirms_failure (for_current_target_target _ _)
        (is_down_for_current_target up _) res unhealthy
  · intro down healthy same
    cases res : evaluate spacing prev obs with
    | error err =>
      rw [res] at healthy
      simp [isDown, healthy] at down
    | ok next =>
      rw [res] at healthy
      have summary := (summarised (spacing_of_ok res)).for_current_target obs.target
      apply summary.confirms_success (for_current_target_target _ _) _ res healthy
      rw [for_current_target_same same]
      exact down
  · intro inconclusive same
    cases res : evaluate spacing prev obs with
    | error err => exact ⟨rfl, rfl, rfl, rfl⟩
    | ok next =>
      have kept : next = prev.forCurrentTarget obs.target :=
        observe_deep_inconclusive inconclusive res
      rw [kept, for_current_target_same same]
      exact ⟨rfl, rfl, rfl, rfl⟩
  · intro changed sameMethod valid later
    rcases evaluate_new_accepts valid changed sameMethod with ⟨next, accepted⟩
    rw [observe_all_cons accepted]
    rw [evaluate_new_generation changed] at accepted
    rw [observe_all_cons accepted]

/-- A source probe of the sample camera that took no time. -/
def sampleObservation (serial : UUID) (failed : Bool) (completedAt : Datetime)
    (version : serial.isVersion4 = true) : ProbeObservation where
  observationId := serial
  requestId := serial
  target := sampleTarget
  method := .source
  priority := .routine
  outcome := if failed then .unhealthy else .healthy
  startedAt := completedAt
  completedAt
  attempt := 1
  failureClass := if failed then some .transport else none
  videoCodec := if failed then none else some "h264"
  valid := by simp [version, timedeltaSeconds]
  contract := by
    unfold resultContract
    cases failed <;> decide +kernel

def sampleHistory : List ProbeObservation :=
  [sampleObservation 0x00000000000040008000000000000011 true 0 (by decide +kernel),
    sampleObservation 0x00000000000040008000000000000012 true 30000000 (by decide +kernel),
    sampleObservation 0x00000000000040008000000000000013 false 60000000 (by decide +kernel),
    sampleObservation 0x00000000000040008000000000000014 false 90000000 (by decide +kernel)]

example :
    [1, 2, 3, 4].map (fun count =>
      (observeAll 30000000 (forTarget sampleTarget .source) (sampleHistory.take count)).healthState) =
      [.suspect, .unhealthy, .recovering, .healthy] := by
  decide +kernel

end ProbeHealthRecord

end RtspProxy.Probes
