import RtspProxy.Probes.Health

/-!
# How a lasting failure is reported

A run of failures of one generation, after any history. A failure counts when it
is spaced from the conclusive observation just before it, and the record goes to
`unhealthy` with the second one that counts. Every failure moves `last_deep_at`,
so failures that follow each other closely do not count, however long they last.
-/

namespace RtspProxy.Probes.ProbeHealthRecord

open Nodes Lib

variable {spacing : Int} {rec next : ProbeHealthRecord} {target : ProbeTarget}
  {method : ProbeMethod} {failures : List ProbeObservation}

/-- Failures of one generation, each newer than the one before and than `lastDeepAt`. -/
def FailureRun (target : ProbeTarget) (method : ProbeMethod) :
    Option Datetime → Option UUID → List ProbeObservation → Prop
  | _, _, [] => True
  | lastDeepAt, lastObservationId, failure :: rest =>
    failure.outcome = .unhealthy ∧ failure.method = method ∧
    sameHealthGeneration target failure.target method = true ∧
    (∀ deepAt ∈ lastDeepAt, deepAt < failure.completedAt) ∧
    some failure.observationId ≠ lastObservationId ∧
    FailureRun target method (some failure.completedAt) (some failure.observationId) rest

/-- The failures may follow the last conclusive observation of the record. -/
def Fails (rec : ProbeHealthRecord) (failures : List ProbeObservation) : Prop :=
  FailureRun rec.target rec.method rec.lastDeepAt rec.lastObservationId failures

def spacedFrom (spacing : Int) (lastDeepAt : Option Datetime) (completedAt : Datetime) : Bool :=
  match lastDeepAt with
  | none => true
  | some lastDeepAt => decide (completedAt - lastDeepAt ≥ spacing)

/-- How many of the failures are spaced from the conclusive observation before them. -/
def spacedFailures (spacing : Int) : Option Datetime → List ProbeObservation → Int
  | _, [] => 0
  | lastDeepAt, failure :: rest =>
    (if spacedFrom spacing lastDeepAt failure.completedAt then 1 else 0) +
      spacedFailures spacing (some failure.completedAt) rest

theorem spaced_failures_nonneg (spacing : Int) (lastDeepAt : Option Datetime)
    (failures : List ProbeObservation) : 0 ≤ spacedFailures spacing lastDeepAt failures := by
  induction failures generalizing lastDeepAt with
  | nil => exact le_rfl
  | cons failure rest ih =>
    have others := ih (some failure.completedAt)
    unfold spacedFailures
    split <;> omega

theorem FailureRun.transport {other : ProbeTarget} {lastDeepAt : Option Datetime}
    {lastObservationId : Option UUID} (same : sameHealthGeneration target other method = true)
    (failing : FailureRun target method lastDeepAt lastObservationId failures) :
    FailureRun other method lastDeepAt lastObservationId failures := by
  induction failures generalizing lastDeepAt lastObservationId with
  | nil => trivial
  | cons failure rest ih =>
    obtain ⟨outcome, sameMethod, gen, later, newId, others⟩ := failing
    exact ⟨outcome, sameMethod,
      same_health_generation_trans (same_health_generation_symm same) gen, later, newId,
      ih others⟩

theorem failure_step {failure : ProbeObservation} {rest : List ProbeObservation}
    (spacingValid : timedeltaSeconds 1 ≤ spacing ∧ spacing ≤ timedeltaSeconds 3600)
    (unobserved : rec.lastDeepAt = none → rec.lastSuccessAt = none)
    (fails : rec.Fails (failure :: rest)) :
    ∃ next, evaluate spacing rec failure = .ok next ∧ next.Fails rest ∧
      next.lastDeepAt = some failure.completedAt ∧
      next.consecutiveFailures = advanced rec.consecutiveFailures
        (spacedFrom spacing rec.lastDeepAt failure.completedAt) ∧
      (next.isDown = true ↔ rec.isDown = true ∨ 2 ≤ next.consecutiveFailures) ∧
      (next.healthState = .unhealthy ↔ next.isDown = true) := by
  obtain ⟨outcome, sameMethod, gen, later, newId, others⟩ := fails
  have cur := for_current_target_same gen
  obtain ⟨next, seen⟩ : ∃ next, evaluate spacing rec failure = .ok next := by
    unfold evaluate
    rw [cur]
    exact observe_deep_accepts spacingValid (same_health_generation_refl _ _) sameMethod later
      newId unobserved
  refine ⟨next, seen, ?_⟩
  unfold evaluate at seen
  rw [cur] at seen
  obtain ⟨_, _, _, inconclusive | failed | succeeded⟩ := observe_deep_ok seen
  · rw [outcome] at inconclusive
    cases inconclusive.1
  · obtain ⟨_, recorded, _, counted, st⟩ := failed
    have down : next.isDown = true ↔ rec.isDown = true ∨ 2 ≤ next.consecutiveFailures := by
      have isState : next.isDown = true ↔ next.healthState = .unhealthy ∨
          next.healthState = .recovering := by
        simp [isDown]
      rw [isState, st]
      change _ ↔ (({ rec with target := failure.target } : ProbeHealthRecord).isDown = true ∨ _)
      split_ifs with worse
      · exact ⟨fun _ => worse, fun _ => .inl rfl⟩
      · simp only [or_self, false_iff]
        exact worse
    refine ⟨?_, recorded.deepAt, counted, down, ?_⟩
    · unfold Fails
      rw [recorded.target, recorded.method, recorded.deepAt, recorded.observationId]
      exact others.transport gen
    · rw [down, st]
      split_ifs with worse
      · exact ⟨fun _ => worse, fun _ => rfl⟩
      · simp only [false_iff]
        exact worse
  · rw [outcome] at succeeded
    cases succeeded.1

theorem failures_run (spacingValid : timedeltaSeconds 1 ≤ spacing ∧ spacing ≤ timedeltaSeconds 3600)
    (unobserved : rec.lastDeepAt = none → rec.lastSuccessAt = none)
    (fails : rec.Fails failures) (some : failures ≠ []) :
    (observeAll spacing rec failures).healthState = .unhealthy ↔ rec.isDown = true ∨
      2 ≤ rec.consecutiveFailures + spacedFailures spacing rec.lastDeepAt failures := by
  induction failures generalizing rec with
  | nil => exact absurd rfl some
  | cons failure rest ih =>
    obtain ⟨next, seen, followed, deepAt, counted, down, st⟩ :=
      failure_step spacingValid unobserved fails
    rw [observe_all_cons seen]
    have others := spaced_failures_nonneg spacing next.lastDeepAt rest
    unfold spacedFailures
    rw [← deepAt]
    unfold advanced at counted
    have bounds := rec.countersValid
    by_cases wasDown : rec.isDown = true
    · by_cases isLast : rest = []
      · subst isLast
        exact iff_of_true (st.mpr (down.mpr (.inl wasDown))) (.inl wasDown)
      · exact iff_of_true ((ih (by simp [deepAt]) followed isLast).mpr
          (.inl (down.mpr (.inl wasDown)))) (.inl wasDown)
    · simp only [wasDown, Bool.false_eq_true, false_or] at down ⊢
      by_cases isLast : rest = []
      · subst isLast
        rw [observeAll, List.foldl_nil, st, down, counted, spacedFailures]
        split_ifs <;> omega
      · rw [ih (by simp [deepAt]) followed isLast, down, counted]
        split_ifs <;> omega

theorem for_current_target_again {first second : ProbeTarget}
    (same : sameHealthGeneration first second rec.method = true) :
    (rec.forCurrentTarget first).forCurrentTarget second = rec.forCurrentTarget second := by
  have again : sameHealthGeneration (rec.forCurrentTarget first).target second
      (rec.forCurrentTarget first).method = true := by
    rwa [for_current_target_target, for_current_target_method]
  rw [for_current_target_same again]
  cases gen : sameHealthGeneration rec.target first rec.method with
  | true =>
    rw [for_current_target_same gen,
      for_current_target_same (same_health_generation_trans gen same)]
  | false =>
    have changed : sameHealthGeneration rec.target second rec.method = false := by
      rw [← Bool.not_eq_true] at gen ⊢
      intro kept
      exact gen
        (same_health_generation_trans kept (same_health_generation_symm same))
    rw [for_current_target_new gen, for_current_target_new changed]
    rfl

/-- After any history, a run of failures of one generation leaves the camera `unhealthy` exactly
when it was down before or the second of the failures that count is among them. -/
theorem lasting_failure_reported (spacing : Int) (registered target : ProbeTarget)
    (method : ProbeMethod) (earlier failures : List ProbeObservation)
    (spacingValid : timedeltaSeconds 1 ≤ spacing ∧ spacing ≤ timedeltaSeconds 3600)
    (fails : ((observeAll spacing (forTarget registered method) earlier).forCurrentTarget
      target).Fails failures) (some : failures ≠ []) :
    let pre := (observeAll spacing (forTarget registered method) earlier).forCurrentTarget target
    (observeAll spacing (forTarget registered method) (earlier ++ failures)).healthState =
        .unhealthy ↔
      pre.isDown = true ∨
        2 ≤ pre.consecutiveFailures + spacedFailures spacing pre.lastDeepAt failures := by
  intro pre
  have summary := (observe_all_summarises spacingValid registered method earlier).for_current_target
    target
  have ran : observeAll spacing (forTarget registered method) (earlier ++ failures) =
      observeAll spacing pre failures := by
    cases failures with
    | nil => exact absurd rfl some
    | cons failure rest =>
      have same : sameHealthGeneration target failure.target
          (observeAll spacing (forTarget registered method) earlier).method = true := by
        have generation := fails.2.2.1
        rwa [for_current_target_target, for_current_target_method] at generation
      obtain ⟨next, observed, _⟩ := failure_step spacingValid
        (fun noDeep => (summary.unobserved noDeep).2.2.2) fails
      have first : evaluate spacing (observeAll spacing (forTarget registered method) earlier)
          failure = .ok next := by
        unfold evaluate at observed ⊢
        rwa [for_current_target_again same] at observed
      rw [observe_all_cons observed, ← observe_all_cons first]
      exact List.foldl_append
  rw [ran]
  exact failures_run spacingValid (fun noDeep => (summary.unobserved noDeep).2.2.2) fails some

def frequentFailures : List ProbeObservation :=
  [sampleObservation 0x00000000000040008000000000000061 true 0 (by decide +kernel),
    sampleObservation 0x00000000000040008000000000000062 true 20000000 (by decide +kernel),
    sampleObservation 0x00000000000040008000000000000063 true 40000000 (by decide +kernel),
    sampleObservation 0x00000000000040008000000000000064 true 60000000 (by decide +kernel)]

theorem frequent_failures_follow : (forTarget sampleTarget .source).Fails frequentFailures := by
  simp [Fails, FailureRun, frequentFailures, sampleObservation, forTarget,
    same_health_generation_refl]

/-- A camera that fails every twenty seconds for a minute is only suspected. -/
theorem frequent_failures_unreported :
    (forTarget sampleTarget .source).Fails frequentFailures ∧
      (frequentFailures.getLast (by simp [frequentFailures])).completedAt -
        (frequentFailures.head (by simp [frequentFailures])).completedAt = 2 * 30000000 ∧
      (observeAll 30000000 (forTarget sampleTarget .source) frequentFailures).healthState =
        .suspect :=
  ⟨frequent_failures_follow, by decide +kernel, by decide +kernel⟩

/-- Two failures 30 seconds apart are reported. -/
theorem lasting_failure_reported_spaced :
    (observeAll 30000000 (forTarget sampleTarget .source) (sampleHistory.take 2)).healthState =
      .unhealthy := by
  have fresh := for_current_target_blank sampleTarget .source
  have fails : ((observeAll 30000000 (forTarget sampleTarget .source) []).forCurrentTarget
      sampleTarget).Fails (sampleHistory.take 2) := by
    change ((forTarget sampleTarget .source).forCurrentTarget sampleTarget).Fails _
    rw [fresh]
    simp [Fails, FailureRun, sampleHistory, sampleObservation, forTarget, same_health_generation_refl]
  refine (lasting_failure_reported 30000000 sampleTarget sampleTarget .source []
    (sampleHistory.take 2) (by decide) fails (by simp [sampleHistory])).mpr (.inr ?_)
  change _ ≤ ((forTarget sampleTarget .source).forCurrentTarget sampleTarget).consecutiveFailures +
    spacedFailures _ ((forTarget sampleTarget .source).forCurrentTarget sampleTarget).lastDeepAt _
  rw [fresh]
  decide +kernel

end RtspProxy.Probes.ProbeHealthRecord
