import RtspProxy.Probes.Worker

/-!
# The parts of a cycle

What each part of `run_once` does, for the invariant of its runs: where the
candidates come from, what the producer's loop and the scheduler keep, and how a
stored observation moves the health of its camera when it comes late enough
after the one before.
-/

namespace RtspProxy.Probes

open Nodes Lib List

namespace ExecutableCandidate

theorem by_camera_get {Value : Type} {value : ExecutableCandidate → Value}
    {items : List ExecutableCandidate} {cameraId : UUID} {found : Value}
    (isFound : (byCamera value items).get cameraId = some found) :
    ∃ item ∈ items, item.cameraId = cameraId ∧ value item = found := by
  unfold byCamera at isFound
  induction items using reverseRecOn with
  | nil => cases isFound
  | append_singleton rest item ih =>
    rw [foldl_append] at isFound
    simp only [foldl_cons, foldl_nil, Dict.get_set] at isFound
    split_ifs at isFound with here
    · exact ⟨item, by simp, here.symm, Option.some.inj isFound⟩
    · rcases ih isFound with ⟨other, mem, rest⟩
      exact ⟨other, mem_append_left _ mem, rest⟩

end ExecutableCandidate

/-- The candidate was loaded from a row of these profiles. -/
def LoadedFrom (profiles : List ProfileRow) (item : ExecutableCandidate) : Prop :=
  ∃ row ∈ profiles, row.cameraId = item.cameraId ∧ row.revision = item.profileRevision ∧
    row.profile = item.routine.profile

namespace CandidateReadings

variable {readings : CandidateReadings} {obss : PostgresProbeObservationStore}

theorem read_target_camera {row : ProfileRow} {target : ProbeTarget}
    (read : readings.readTarget row = some target) : target.cameraId = row.cameraId := by
  simp only [readTarget, Option.bind_eq_bind, Option.bind_eq_some_iff] at read
  rcases read with ⟨cam, found, _, _, node, _, endpoint, _, runtime, _, _, _, built⟩
  have isCamera : cam.id = row.cameraId := by simpa using find?_some found
  unfold buildTarget at built
  split_ifs at built
  cases built
  exact isCamera

theorem load_candidates_ok {rows : List ProfileRow} {executable : List ExecutableCandidate}
    (loaded : readings.loadCandidates obss rows = .ok executable) :
    ∀ item ∈ executable, ∃ row ∈ rows, row.cameraId = item.cameraId ∧
      row.revision = item.profileRevision ∧ row.profile = item.routine.profile ∧
      row.lastAttemptAt = item.routine.lastAttemptAt := by
  induction rows generalizing executable with
  | nil =>
    cases loaded
    intro item mem
    cases mem
  | cons row rest ih =>
    unfold loadCandidates at loaded
    cases read : readings.readTarget row with
    | none =>
      rw [read] at loaded
      intro item mem
      rcases ih loaded item mem with ⟨other, inRest, facts⟩
      exact ⟨other, mem_cons_of_mem _ inRest, facts⟩
    | some target =>
      rw [read] at loaded
      simp only [Raising.bind_ok, Raising.pure_ok] at loaded
      rcases loaded with ⟨routine, built, others, loadedRest, isExecutable⟩
      intro item mem
      rw [← isExecutable] at mem
      rcases mem_cons.mp mem with isItem | inOthers
      · have cam := read_target_camera read
        unfold RoutineProbeCandidate.build at built
        split_ifs at built
        cases built
        rw [isItem]
        exact ⟨row, mem_cons_self, cam.symm, rfl, rfl, rfl⟩
      · rcases ih loadedRest item inOthers with ⟨other, inRest, facts⟩
        exact ⟨other, mem_cons_of_mem _ inRest, facts⟩

end CandidateReadings

namespace RoutineProbeProducer

variable {cfg : ProbeSchedulerConfig} {digestHead : UUID → Nat} {now : Datetime}
  {requestIds : Nat → UUID4}

/-- The rule for the loop of `enqueue`: every submission draws the next identifier, and only due
candidates are submitted. -/
theorem feed_keeps {inv : Nat → ProbeScheduler → Prop}
    {cands : List RoutineProbeCandidate} {bound : Nat}
    (step : ∀ drawn sched, ∀ cand ∈ cands, ¬cand.Skipped digestHead now →
      drawn < bound → inv drawn sched →
      inv (drawn + 1) (sched.submit cfg cand.submittedTarget .source
        cand.priority now (now + cand.profile.executionTimeout) (requestIds drawn)).2)
    {drawn : Nat} {accepted : List ProbeRequest} {sched : ProbeScheduler}
    (room : drawn + cands.length ≤ bound) (start : inv drawn sched) :
    ∃ post ≤ bound, inv post
      (feed cfg digestHead now requestIds drawn cands accepted sched).2 := by
  induction cands generalizing drawn accepted sched with
  | nil => exact ⟨drawn, room, start⟩
  | cons cand rest ih =>
    rw [length_cons] at room
    have later : ∀ count st, ∀ other ∈ rest, ¬other.Skipped digestHead now → count < bound →
        inv count st →
        inv (count + 1) (st.submit cfg other.submittedTarget .source other.priority
          now (now + other.profile.executionTimeout) (requestIds count)).2 := by
      intro count st other mem
      exact step count st other (mem_cons_of_mem _ mem)
    unfold feed
    by_cases skipped : cand.Skipped digestHead now
    · rw [if_pos skipped]
      exact ih later (by omega) start
    rw [if_neg skipped]
    have next := step drawn sched cand mem_cons_self skipped (by omega) start
    cases submitted : sched.submit cfg cand.submittedTarget .source cand.priority
        now (now + cand.profile.executionTimeout) (requestIds drawn) with
    | mk outcome post =>
      rw [submitted] at next
      cases outcome with
      | ok req => exact ih later (by omega) next
      | error error =>
        cases error with
        | probeQueueFull => exact ⟨drawn + 1, by omega, next⟩
        | probeIneligible code => exact ih later (by omega) next
        | probeSingleFlightConflict => exact ih later (by omega) next
        | valueError code => exact ⟨drawn + 1, by omega, next⟩
        | keyError => exact ⟨drawn + 1, by omega, next⟩

end RoutineProbeProducer

namespace ProbeScheduler

variable {cfg : ProbeSchedulerConfig} {sched : ProbeScheduler} {drawn : List UUID}

/-- The scheduler of a run that drew these request identifiers. -/
def Known (cfg : ProbeSchedulerConfig) (drawn : List UUID) (sched : ProbeScheduler) : Prop :=
  ∃ issued, ProbeSystem.Consistent cfg { scheduler := sched, drawn, issued }

theorem known_initial (cfg : ProbeSchedulerConfig) (drawn : List UUID) :
    Known cfg drawn .initial := by
  have nothing : ProbeSystem.made { scheduler := .initial, drawn, issued := [] } = fun _ => 0 :=
    made_after_nil _
  refine ⟨[], ?_, ?_, ?_⟩
  · rw [nothing]
    exact sound_initial cfg
  · intro _ _ found
    cases found
  · intro _ _
    rw [nothing]

variable (known : Known cfg drawn sched)

include known

theorem Known.more {all : List UUID}
    (included : ∀ requestId ∈ drawn, requestId ∈ all) : Known cfg all sched := by
  rcases known with ⟨issued, consistent⟩
  refine ⟨issued, consistent.sound, ?_, ?_⟩
  · intro cameraId req found
    exact included _ (consistent.outstanding cameraId req found)
  · intro requestId unknown
    exact consistent.leased requestId fun isDrawn => unknown (included requestId isDrawn)

theorem Known.submit_request {requestId : UUID4}
    (fresh : requestId.val ∉ drawn) (target : ProbeTarget) (method : ProbeMethod)
    (priority : ProbePriority) (since deadlineAt : Datetime) :
    Known cfg (requestId.val :: drawn)
      (sched.submit cfg target method priority since deadlineAt requestId).2 := by
  rcases known with ⟨issued, consistent⟩
  exact ⟨issued, consistent.apply_operation
    (.submit target method priority since deadlineAt requestId) fresh⟩

theorem Known.claim_available (now : Datetime)
    (targets : Dict UUID ProbeTarget) (leaseTokens : Nat → UUID4) :
    Known cfg drawn (sched.claimAvailable cfg now targets leaseTokens).2 := by
  rcases known with ⟨issued, consistent⟩
  exact ⟨_, consistent.apply_operation (.claimAvailable now targets leaseTokens) trivial⟩

theorem Known.complete_lease (lease : ProbeLease)
    (res : ProbeExecutionResult) (observationId : UUID4) :
    Known cfg drawn (sched.complete lease res observationId).2 := by
  rcases known with ⟨issued, consistent⟩
  exact ⟨issued, consistent.apply_operation (.complete lease res observationId) trivial⟩

theorem Known.cancel_lease (lease : ProbeLease) :
    Known cfg drawn (sched.cancel lease).2 := by
  rcases known with ⟨issued, consistent⟩
  exact ⟨issued, consistent.apply_operation (.cancel lease) trivial⟩

omit known

variable {now : Datetime} {leaseTokens : Nat → UUID4} {claimed : List ProbeLease}
  {post : ProbeScheduler}

theorem claim_loop_length {admitted : List UUID} {turns : Nat} {leases : List ProbeLease}
    (ran : claimLoop cfg now admitted leaseTokens turns leases sched = (.ok claimed, post)) :
    claimed.length ≤ leases.length + turns := by
  induction turns generalizing leases sched with
  | zero =>
    cases ran
    omega
  | succ turns ih =>
    unfold claimLoop at ran
    split_ifs at ran
    · split at ran
      · cases ran
        omega
      · split at ran
        · cases ran
        · have bound := ih ran
          rw [length_append, length_singleton] at bound
          omega
    · cases ran
      omega

variable {targets : Dict UUID ProbeTarget}

theorem claim_available_length
    (ran : claimAvailable cfg now targets leaseTokens sched = (.ok claimed, post)) :
    claimed.length ≤ cfg.globalLimit := by
  unfold claimAvailable at ran
  split at ran
  · cases ran
  split at ran
  · cases ran
  · have bound := claim_loop_length ran
    rw [length_nil] at bound
    omega

theorem lease_request_started {req : ProbeRequest} {leaseToken : UUID4} {lease : ProbeLease}
    (ran : leaseRequest cfg now req leaseToken sched = (.ok lease, post)) :
    lease.startedAt = now := by
  unfold leaseRequest at ran
  split at ran
  · cases ran
  dsimp only at ran
  split at ran
  · cases ran
  split at ran
  · cases ran
  · rename_i built
    cases ran
    unfold ProbeLease.build at built
    split_ifs at built
    cases built
    rfl

theorem claim_loop_started {admitted : List UUID} {turns : Nat} {leases : List ProbeLease}
    (started : ∀ lease ∈ leases, lease.startedAt = now)
    (ran : claimLoop cfg now admitted leaseTokens turns leases sched = (.ok claimed, post)) :
    ∀ lease ∈ claimed, lease.startedAt = now := by
  induction turns generalizing leases sched with
  | zero =>
    cases ran
    exact started
  | succ turns ih =>
    unfold claimLoop at ran
    split at ran
    · split at ran
      · cases ran
        exact started
      · split at ran
        · cases ran
        · rename_i leased
          apply ih _ ran
          intro lease mem
          rcases mem_append.mp mem with old | new
          · exact started lease old
          · rw [mem_singleton.mp new]
            exact lease_request_started leased
    · cases ran
      exact started

theorem claim_available_started
    (ran : claimAvailable cfg now targets leaseTokens sched = (.ok claimed, post)) :
    ∀ lease ∈ claimed, lease.startedAt = now := by
  unfold claimAvailable at ran
  split at ran
  · cases ran
  split at ran
  · cases ran
  · exact claim_loop_started (by simp) ran

end ProbeScheduler

theorem CameraProbeProfile.classify_completed_at (profile : CameraProbeProfile)
    (res : ProbeExecutionResult) :
    (profile.classify res).completedAt = res.completedAt := by
  unfold classify
  split_ifs <;> rfl

namespace ProbeHealthRecord

def stored (row : Option ProbeHealthRecord) (target : ProbeTarget) (method : ProbeMethod) :
    ProbeHealthRecord :=
  (row.getD (forTarget target method)).forCurrentTarget target

def OfMethod (method : ProbeMethod) (row : Option ProbeHealthRecord) : Prop :=
  ∀ rec ∈ row, rec.method = method

def Alike (left right : ProbeHealthRecord) : Prop :=
  left.healthState = right.healthState ∧ left.consecutiveFailures = right.consecutiveFailures ∧
    left.consecutiveSuccesses = right.consecutiveSuccesses

variable {row : Option ProbeHealthRecord} {method : ProbeMethod}

theorem stored_cases (isMethod : OfMethod method row) (target : ProbeTarget) :
    stored row target method = forTarget target method ∨
      ∃ rec ∈ row, sameHealthGeneration rec.target target method = true ∧
        stored row target method = { rec with target } := by
  unfold stored
  cases row with
  | none => exact .inl (for_current_target_blank target method)
  | some rec =>
    have recordMethod : rec.method = method := isMethod rec rfl
    rw [Option.getD_some]
    cases same : sameHealthGeneration rec.target target method with
    | true =>
      refine .inr ⟨rec, rfl, same, ?_⟩
      rw [← recordMethod] at same
      exact for_current_target_same same
    | false =>
      refine .inl ?_
      rw [← recordMethod] at same
      rw [for_current_target_new same, recordMethod]

theorem stored_method (isMethod : OfMethod method row) (target : ProbeTarget) :
    (stored row target method).method = method := by
  unfold stored
  rw [for_current_target_method]
  cases row with
  | none => rfl
  | some rec => exact isMethod rec rfl

theorem stored_alike (isMethod : OfMethod method row) {left right : ProbeTarget}
    (same : sameHealthGeneration left right method = true) :
    Alike (stored row left method) (stored row right method) := by
  have found : ∀ {first second : ProbeTarget}, sameHealthGeneration first second method = true →
      ∀ rec ∈ row, sameHealthGeneration rec.target first method = true →
        stored row second method = { rec with target := second } := by
    intro first second isSame rec isRow gen
    unfold stored
    rw [Option.mem_def.mp isRow, Option.getD_some]
    apply for_current_target_same
    rw [isMethod rec isRow]
    exact same_health_generation_trans gen isSame
  rcases stored_cases isMethod left with blank | ⟨rec, isRow, gen, isStored⟩
  · rcases stored_cases isMethod right with alsoBlank | ⟨rec, isRow, gen, isStored⟩
    · rw [blank, alsoBlank]
      exact ⟨rfl, rfl, rfl⟩
    · rw [found (same_health_generation_symm same) rec isRow gen, isStored]
      exact ⟨rfl, rfl, rfl⟩
  · rw [isStored, found same rec isRow gen]
    exact ⟨rfl, rfl, rfl⟩

/-- The observation was accepted, the confirmation interval after the last conclusive one. -/
def Advances (row : Option ProbeHealthRecord) (obs : ProbeObservation)
    (next : ProbeHealthRecord) : Prop :=
  ∃ spacing, (stored row obs.target obs.method).observeDeep obs spacing = .ok next ∧
    (stored row obs.target obs.method).spaced obs.completedAt spacing = true

/-- The rows that a sequence of stored observations leads to. -/
inductive Progress (row : Option ProbeHealthRecord) :
    List ProbeObservation → Option ProbeHealthRecord → Prop
  | nil : Progress row [] row
  | snoc {obss : List ProbeObservation} {reached : Option ProbeHealthRecord}
      {obs : ProbeObservation} {next : ProbeHealthRecord}
      (pre : Progress row obss reached) (advances : Advances reached obs next) :
      Progress row (obss ++ [obs]) (some next)

theorem Progress.trans {first second third : Option ProbeHealthRecord}
    {old news : List ProbeObservation} (left : Progress first old second)
    (right : Progress second news third) : Progress first (old ++ news) third := by
  induction right with
  | nil =>
    rw [append_nil]
    exact left
  | snoc _ advances ih =>
    rw [← append_assoc]
    exact ih.snoc advances

def Failing (count : Nat) (rec : ProbeHealthRecord) : Prop :=
  (1 ≤ count → rec.healthState = .unhealthy ∨ 1 ≤ rec.consecutiveFailures) ∧
    (2 ≤ count → rec.healthState = .unhealthy)

/-- After so many successes in a row of a camera that was unhealthy. -/
def Restoring (count : Nat) (rec : ProbeHealthRecord) : Prop :=
  (count = 0 → rec.healthState = .unhealthy ∧ rec.consecutiveSuccesses = 0) ∧
    (count = 1 → rec.healthState = .recovering ∧ rec.consecutiveSuccesses = 1) ∧
    (2 ≤ count → rec.healthState = .healthy)

variable {count : Nat}

variable {left right : ProbeHealthRecord}

theorem Failing.alike (failing : Failing count left)
    (alike : Alike left right) : Failing count right := by
  unfold Failing at failing ⊢
  rw [← alike.1, ← alike.2.1]
  exact failing

theorem Restoring.alike
    (restoring : Restoring count left) (alike : Alike left right) : Restoring count right := by
  unfold Restoring at restoring ⊢
  rw [← alike.1, ← alike.2.2]
  exact restoring

variable {rec next : ProbeHealthRecord} {obs : ProbeObservation} {spacing : Int}

theorem Failing.fail (failing : Failing count rec)
    (seen : rec.observeDeep obs spacing = .ok next)
    (isSpaced : rec.spaced obs.completedAt spacing = true)
    (failed : obs.outcome = .unhealthy) : Failing (count + 1) next := by
  rcases (observe_deep_ok seen).2.2.2 with ⟨outcome, _⟩ | ⟨_, _, _, failures, st⟩ | ⟨outcome, _⟩
  · rw [outcome] at failed
    cases failed
  · rw [isSpaced, advanced, if_pos rfl] at failures
    have nonneg := rec.countersValid.1.1
    constructor
    · intro _
      right
      omega
    · intro second
      rw [st, if_pos]
      rcases failing.1 (by omega) with unhealthy | counted
      · left
        simp [isDown, unhealthy]
      · right
        omega
  · rw [outcome] at failed
    cases failed

theorem Restoring.succeed (restoring : Restoring count rec)
    (seen : rec.observeDeep obs spacing = .ok next)
    (isSpaced : rec.spaced obs.completedAt spacing = true)
    (succeeded : obs.outcome = .healthy) : Restoring (count + 1) next := by
  rcases (observe_deep_ok seen).2.2.2 with ⟨outcome, _⟩ | ⟨outcome, _⟩ | ⟨_, _, _, recovery⟩
  · rw [outcome] at succeeded
    cases succeeded
  · rw [outcome] at succeeded
    cases succeeded
  rw [isSpaced] at recovery
  simp only [advanced, if_true] at recovery
  refine ⟨by omega, ?_, ?_⟩
  · intro first
    rcases restoring.1 (by omega) with ⟨unhealthy, none⟩
    rcases recovery with ⟨_, successes, st⟩ | ⟨up, _⟩
    · rw [unhealthy] at st
      simp only [reduceCtorEq, false_and, if_false] at st
      exact ⟨st, by omega⟩
    · simp [isDown, unhealthy] at up
  · intro more
    by_cases second : count = 1
    · rcases restoring.2.1 second with ⟨recovering, one⟩
      rcases recovery with ⟨_, successes, st⟩ | ⟨up, _⟩
      · rw [st, if_pos]
        exact ⟨recovering, by omega⟩
      · simp [isDown, recovering] at up
    · have healthy := restoring.2.2 (by omega)
      rcases recovery with ⟨down, _⟩ | ⟨_, st⟩
      · simp [isDown, healthy] at down
      · exact st

/-- An inconclusive observation changes nothing; any other writes the row, and one that leaves the
camera unhealthy leaves no success counted. -/
theorem observe_deep_cases (seen : rec.observeDeep obs spacing = .ok next) :
    next = rec ∨ Recorded rec next obs ∧
      (next.healthState = .unhealthy → next.consecutiveSuccesses = 0) := by
  rcases (observe_deep_ok seen).2.2.2 with ⟨_, isRecord⟩ | ⟨_, recorded, none, _⟩ |
    ⟨_, recorded, _, recovery⟩
  · exact .inl isRecord
  · exact .inr ⟨recorded, fun _ => none⟩
  · refine .inr ⟨recorded, ?_⟩
    intro unhealthy
    rcases recovery with ⟨_, _, st⟩ | ⟨_, st⟩
    · rw [st] at unhealthy
      split_ifs at unhealthy
    · rw [st] at unhealthy
      cases unhealthy

theorem observe_deep_target (seen : rec.observeDeep obs spacing = .ok next)
    (sameTarget : rec.target = obs.target) :
    next.target = obs.target ∧ next.method = rec.method := by
  rcases observe_deep_cases seen with isRecord | ⟨recorded, _⟩
  · rw [isRecord]
    exact ⟨sameTarget, rfl⟩
  · exact ⟨recorded.target, recorded.method⟩

theorem Advances.alike (isMethod : OfMethod obs.method row)
    (advances : Advances row obs next) {target : ProbeTarget}
    (same : sameHealthGeneration obs.target target obs.method = true) :
    OfMethod obs.method (some next) ∧ Alike next (stored (some next) target obs.method) := by
  rcases advances with ⟨spacing, seen, _⟩
  have facts := observe_deep_target seen (for_current_target_target _ _)
  have nextMethod : next.method = obs.method := by
    rw [facts.2]
    exact stored_method isMethod _
  constructor
  · intro rec isRecord
    cases isRecord
    exact nextMethod
  · unfold stored
    rw [Option.getD_some, for_current_target_same]
    · exact ⟨rfl, rfl, rfl⟩
    · rw [facts.1, nextMethod]
      exact same

def conclusive (obss : List ProbeObservation) : List ProbeObservation :=
  obss.filter fun obs => decide (obs.outcome ≠ .inconclusive)

theorem Progress.counts (Reached : Nat → ProbeHealthRecord → Prop) {outcome : ProbeOutcome}
    (alike : ∀ {count left right}, Reached count left → Alike left right → Reached count right)
    (counted : ∀ {count rec next obs spacing}, Reached count rec →
      rec.observeDeep obs spacing = .ok next →
      rec.spaced obs.completedAt spacing = true → obs.outcome = outcome →
      Reached (count + 1) next) {reached : Option ProbeHealthRecord}
    {obss : List ProbeObservation} {target : ProbeTarget}
    (progress : Progress row obss reached) (isMethod : OfMethod method row)
    (within : ∀ obs ∈ obss, obs.method = method ∧
      sameHealthGeneration obs.target target method = true)
    (want : ∀ obs ∈ conclusive obss, obs.outcome = outcome)
    (start : Reached 0 (stored row target method)) :
    OfMethod method reached ∧ Reached (conclusive obss).length (stored reached target method) := by
  induction progress with
  | nil => exact ⟨isMethod, start⟩
  | @snoc obss reached obs next pre advances ih =>
    have newest : obs ∈ obss ++ [obs] := by simp
    have rest : ∀ other ∈ conclusive obss, other.outcome = outcome := by
      intro other mem
      apply want
      unfold conclusive
      rw [filter_append]
      exact mem_append_left _ mem
    rcases ih (fun other mem => within other (mem_append_left _ mem)) rest with
      ⟨reachedMethod, reachedCount⟩
    rcases within obs newest with ⟨sameMethod, same⟩
    rw [← sameMethod] at same reachedMethod reachedCount ⊢
    have post := advances.alike reachedMethod same
    refine ⟨post.1, alike ?_ post.2⟩
    have here := alike reachedCount
      (stored_alike reachedMethod (same_health_generation_symm same))
    rcases advances with ⟨spacing, seen, isSpaced⟩
    by_cases inconclusive : obs.outcome = .inconclusive
    · have unchanged : next = stored reached obs.target obs.method := by
        rcases (observe_deep_ok seen).2.2.2 with ⟨_, isRecord⟩ | ⟨failed, _⟩ | ⟨succeeded, _⟩
        · exact isRecord
        · rw [failed] at inconclusive
          cases inconclusive
        · rw [succeeded] at inconclusive
          cases inconclusive
      have none : conclusive (obss ++ [obs]) = conclusive obss := by
        unfold conclusive
        rw [filter_append]
        simp [inconclusive]
      rw [none, unchanged]
      exact here
    · have more : conclusive (obss ++ [obs]) = conclusive obss ++ [obs] := by
        unfold conclusive
        rw [filter_append]
        simp [inconclusive]
      rw [more, length_append, length_singleton]
      apply counted here seen isSpaced
      apply want
      rw [more]
      simp

end ProbeHealthRecord

end RtspProxy.Probes
