import RtspProxy.Probes.WorkerSteps

/-!
# Spacing of routine probes

An observation that is stored marks the attempt of its camera, and the next
request of the camera is submitted only when the confirmation interval has
passed since that mark. The request keeps its submission time while it waits, is
retried or is refreshed, and no other request of the camera is outstanding, so
the next observation completes later still.
-/

namespace RtspProxy.Probes

open Nodes Lib ProbeScheduler Lib.Raising Function List ExecutableCandidate ProbeHealthRecord
open PostgresProbeWorkStore

/-- A profile of the camera asks for this confirmation interval. -/
def Requires (profiles : List ProfileRow) (cameraId : UUID) (interval : Int) : Prop :=
  ∃ row ∈ profiles, row.cameraId = cameraId ∧ row.profile.confirmationInterval = interval

/-- The time is the confirmation interval after every observation recorded for the camera. -/
def Spaced (profiles : List ProfileRow) (recorded : List ProbeObservation) (cameraId : UUID)
    (time : Datetime) : Prop :=
  ∀ obs ∈ recorded, obs.target.cameraId = cameraId →
    ∀ interval, Requires profiles cameraId interval → obs.completedAt + interval ≤ time

/-- The profiles of a camera that was observed were attempted since. -/
def Marked (profiles : List ProfileRow) (recorded : List ProbeObservation) : Prop :=
  ∀ obs ∈ recorded, ∃ row ∈ profiles, row.cameraId = obs.target.cameraId ∧
    ∃ attempt, row.lastAttemptAt = some attempt ∧ obs.completedAt ≤ attempt

/-- The row of a camera and method summarises recorded observations of the camera. -/
structure Summary (recorded : List ProbeObservation) (cameraId : UUID) (method : ProbeMethod)
    (row : Option ProbeHealthRecord) : Prop where
  method : OfMethod method row
  deep : ∀ record ∈ row, ∀ deepAt ∈ record.lastDeepAt, ∃ obs ∈ recorded,
    obs.target.cameraId = cameraId ∧ obs.completedAt = deepAt
  identity : ∀ record ∈ row, ∀ observationId ∈ record.lastObservationId,
    observationId ∈ recorded.map ProbeObservation.observationId
  unhealthy : ∀ record ∈ row, record.healthState = .unhealthy → record.consecutiveSuccesses = 0

/-- The invariant of the worker at a time of its clock. -/
structure Paced (cfg : ProbeSchedulerConfig) (drawn : List UUID) (clock : Datetime)
    (worker : ProbeMonitoringWorker) : Prop where
  known : worker.scheduler.Known cfg drawn
  passed : ∀ obs ∈ worker.observations.recorded, obs.completedAt ≤ clock
  marked : Marked worker.work.profiles worker.observations.recorded
  scheduled : worker.scheduler.NotBefore
    (Spaced worker.work.profiles worker.observations.recorded)
  apart : worker.observations.recorded.Pairwise fun first second =>
    Spaced worker.work.profiles [first] second.target.cameraId second.completedAt
  summarised : ∀ cameraId method, Summary worker.observations.recorded cameraId method
    (worker.observations.health cameraId method)

variable {cfg : ProbeSchedulerConfig} {drawn : List UUID} {clock : Datetime}
  {worker : ProbeMonitoringWorker} {profiles : List ProfileRow} {recorded : List ProbeObservation}

theorem spaced_lasting (profiles : List ProfileRow) (recorded : List ProbeObservation) :
    Lasting (Spaced profiles recorded) := by
  intro cameraId earlier later spaced pre obs mem cam interval required
  exact (spaced obs mem cam interval required).trans pre

theorem Paced.later (paced : Paced cfg drawn clock worker) {later : Datetime}
    (post : clock ≤ later) : Paced cfg drawn later worker := by
  constructor
  · exact paced.known
  · intro obs mem
    exact (paced.passed obs mem).trans post
  · exact paced.marked
  · exact paced.scheduled
  · exact paced.apart
  · exact paced.summarised

variable {sched : ProbeScheduler}

theorem Paced.with_scheduler (paced : Paced cfg drawn clock worker) {all : List UUID}
    (known : sched.Known cfg all)
    (scheduled : sched.NotBefore (Spaced worker.work.profiles worker.observations.recorded)) :
    Paced cfg all clock { worker with scheduler := sched } :=
  ⟨known, paced.passed, paced.marked, scheduled, paced.apart, paced.summarised⟩

/-- The same cameras, revisions and profiles; the attempts may differ. -/
def SameProfiles (pre post : List ProfileRow) : Prop :=
  ∀ cameraId revision profile,
    (∃ row ∈ pre, row.cameraId = cameraId ∧ row.revision = revision ∧ row.profile = profile) ↔
      ∃ row ∈ post, row.cameraId = cameraId ∧ row.revision = revision ∧ row.profile = profile

variable {pre post : List ProfileRow}

theorem SameProfiles.requires (same : SameProfiles pre post) :
    Requires post = Requires pre := by
  funext cameraId interval
  apply propext
  constructor
  · intro required
    rcases required with ⟨row, mem, cam, isInterval⟩
    rcases (same cameraId row.revision row.profile).mpr ⟨row, mem, cam, rfl, rfl⟩ with
      ⟨other, inBefore, otherCamera, _, sameProfile⟩
    refine ⟨other, inBefore, otherCamera, ?_⟩
    rw [sameProfile]
    exact isInterval
  · intro required
    rcases required with ⟨row, mem, cam, isInterval⟩
    rcases (same cameraId row.revision row.profile).mp ⟨row, mem, cam, rfl, rfl⟩ with
      ⟨other, inAfter, otherCamera, _, sameProfile⟩
    refine ⟨other, inAfter, otherCamera, ?_⟩
    rw [sameProfile]
    exact isInterval

theorem SameProfiles.spaced (same : SameProfiles pre post) : Spaced post = Spaced pre := by
  unfold Spaced
  rw [same.requires]

theorem SameProfiles.loaded {pre post : List ProfileRow} (same : SameProfiles pre post)
    {item : ExecutableCandidate} (loaded : LoadedFrom pre item) : LoadedFrom post item :=
  (same _ _ _).mp loaded

variable {store marked : PostgresProbeWorkStore} {cameraId : UUID} {moment : Datetime}

variable {revision : Int}

theorem mark_attempt_ok (ran : store.markAttempt cameraId revision moment = .ok marked) :
    marked.profiles = store.profiles.map (attempted cameraId revision moment) := by
  simp only [markAttempt, bind_ok, pure_ok] at ran
  rcases ran with ⟨_, _, isMarked⟩
  rw [← isMarked]

theorem attempted_fields (cameraId : UUID) (revision : Int) (moment : Datetime) (row : ProfileRow) :
    (attempted cameraId revision moment row).revision = row.revision ∧
      (attempted cameraId revision moment row).profile = row.profile := by
  unfold attempted
  split_ifs <;> exact ⟨rfl, rfl⟩

theorem mark_attempt_same (ran : store.markAttempt cameraId revision moment = .ok marked) :
    SameProfiles store.profiles marked.profiles := by
  intro other number profile
  rw [mark_attempt_ok ran]
  constructor
  · intro found
    rcases found with ⟨row, mem, cam, isRevision, isProfile⟩
    have fields := attempted_fields cameraId revision moment row
    refine ⟨_, mem_map_of_mem mem, ?_, ?_, ?_⟩
    · rw [attempted_camera]
      exact cam
    · rw [fields.1]
      exact isRevision
    · rw [fields.2]
      exact isProfile
  · intro found
    rcases found with ⟨_, mem, cam, isRevision, isProfile⟩
    rcases mem_map.mp mem with ⟨row, inStore, isRow⟩
    have fields := attempted_fields cameraId revision moment row
    rw [← isRow, attempted_camera] at cam
    rw [← isRow, fields.1] at isRevision
    rw [← isRow, fields.2] at isProfile
    exact ⟨row, inStore, cam, isRevision, isProfile⟩

theorem Marked.mark (isMarked : Marked store.profiles recorded)
    (ran : store.markAttempt cameraId revision moment = .ok marked)
    (passed : ∀ obs ∈ recorded, obs.completedAt ≤ moment) :
    Marked marked.profiles recorded := by
  intro obs mem
  rcases isMarked obs mem with ⟨row, inStore, cam, attempt, isAttempt, post⟩
  rw [mark_attempt_ok ran]
  refine ⟨_, mem_map_of_mem inStore, ?_, ?_⟩
  · rw [attempted_camera]
    exact cam
  · unfold attempted
    split_ifs
    · exact ⟨moment, rfl, passed obs mem⟩
    · exact ⟨attempt, isAttempt, post⟩

variable {item : ExecutableCandidate}

theorem mark_attempt_marks (loaded : LoadedFrom store.profiles item)
    (ran : store.markAttempt item.cameraId item.profileRevision moment = .ok marked) :
    ∃ row ∈ marked.profiles, row.cameraId = item.cameraId ∧ row.lastAttemptAt = some moment := by
  rcases loaded with ⟨row, mem, cam, isRevision, _⟩
  rw [mark_attempt_ok ran]
  refine ⟨_, mem_map_of_mem mem, ?_, ?_⟩
  · rw [attempted_camera]
    exact cam
  · unfold attempted
    rw [if_pos ⟨cam, isRevision⟩]

theorem Paced.mark (paced : Paced cfg drawn clock worker) {cameraId : UUID}
    {moment : Datetime} {work : PostgresProbeWorkStore}
    (ran : worker.work.markAttempt cameraId revision moment = .ok work) (later : clock ≤ moment) :
    Paced cfg drawn moment { worker with work } := by
  have same := mark_attempt_same ran
  have passed : ∀ obs ∈ worker.observations.recorded, obs.completedAt ≤ moment := by
    intro obs mem
    exact (paced.passed obs mem).trans later
  constructor
  · exact paced.known
  · exact passed
  · exact paced.marked.mark ran passed
  · show worker.scheduler.NotBefore (Spaced work.profiles worker.observations.recorded)
    rw [same.spaced]
    exact paced.scheduled
  · show worker.observations.recorded.Pairwise fun first second =>
      Spaced work.profiles [first] second.target.cameraId second.completedAt
    rw [same.spaced]
    exact paced.apart
  · exact paced.summarised

variable {method : ProbeMethod}

variable {row : Option ProbeHealthRecord}

theorem Summary.append (summary : Summary recorded cameraId method row) (obs : ProbeObservation) :
    Summary (recorded ++ [obs]) cameraId method row := by
  constructor
  · exact summary.method
  · intro rec isRow deepAt isDeep
    rcases summary.deep rec isRow deepAt isDeep with ⟨other, mem, facts⟩
    exact ⟨other, mem_append_left _ mem, facts⟩
  · intro rec isRow observationId isLast
    rw [map_append]
    exact mem_append_left _ (summary.identity rec isRow observationId isLast)
  · exact summary.unhealthy

theorem Summary.stored {cameraId : UUID}
    (summary : Summary recorded cameraId method row) (target : ProbeTarget) :
    Summary recorded cameraId method (some (stored row target method)) := by
  have isMethod := stored_method summary.method target
  rcases stored_cases summary.method target with
    blank | ⟨held, isRow, _, isStored⟩
  · constructor
    · intro rec isRecord
      cases isRecord
      exact isMethod
    · intro rec isRecord
      cases isRecord
      rw [blank]
      intro deepAt isDeep
      cases isDeep
    · intro rec isRecord
      cases isRecord
      rw [blank]
      intro observationId isLast
      cases isLast
    · intro rec isRecord
      cases isRecord
      rw [blank]
      intro isUnhealthy
      cases isUnhealthy
  · constructor
    · intro rec isRecord
      cases isRecord
      exact isMethod
    · intro rec isRecord
      cases isRecord
      rw [isStored]
      exact summary.deep held isRow
    · intro rec isRecord
      cases isRecord
      rw [isStored]
      exact summary.identity held isRow
    · intro rec isRecord
      cases isRecord
      rw [isStored]
      exact summary.unhealthy held isRow

variable {obs : ProbeObservation}

theorem Summary.observe {rec next : ProbeHealthRecord} {spacing : Int}
    (summary : Summary recorded obs.target.cameraId method (some rec))
    (seen : rec.observeDeep obs spacing = .ok next) :
    Summary (recorded ++ [obs]) obs.target.cameraId method (some next) := by
  have recordMethod : rec.method = method := summary.method rec rfl
  have newest : obs ∈ recorded ++ [obs] := by simp
  rcases observe_deep_cases seen with isRecord | ⟨written, unhealthy⟩
  · rw [isRecord]
    exact summary.append obs
  · constructor
    · intro other isOther
      cases isOther
      rw [written.method]
      exact recordMethod
    · intro other isOther deepAt isDeep
      cases isOther
      rw [written.deepAt] at isDeep
      cases isDeep
      exact ⟨obs, newest, rfl, rfl⟩
    · intro other isOther observationId isLast
      cases isOther
      rw [written.observationId] at isLast
      cases isLast
      exact mem_map_of_mem newest
    · intro other isOther
      cases isOther
      exact unhealthy

/-- The store after an observation: it is kept, and its row advances. -/
def Keeps (pre : PostgresProbeObservationStore) (obs : ProbeObservation)
    (post : PostgresProbeObservationStore) : Prop :=
  post.recorded = pre.recorded ++ [obs] ∧ ∃ next, Advances
        (pre.health obs.target.cameraId obs.method) obs next ∧
      post.health = update pre.health obs.target.cameraId
        (update (pre.health obs.target.cameraId) obs.method (some next))

/-- `record_if_current` stores nothing, or keeps a new observation that came late enough. -/
theorem record_if_current_keeps {pre post : PostgresProbeObservationStore}
    {cur persisted : Bool} {spacing : Int} (summarised : ∀ cameraId method,
      Summary pre.recorded cameraId method (pre.health cameraId method))
    (late : ∀ other ∈ pre.recorded, other.target.cameraId = obs.target.cameraId →
      other.completedAt + spacing ≤ obs.completedAt)
    (fresh : obs.observationId ∉ pre.recorded.map ProbeObservation.observationId)
    (ran : pre.recordIfCurrent cur spacing obs = .ok (persisted, post)) :
    post = pre ∨ Keeps pre obs post := by
  have summary := (summarised obs.target.cameraId obs.method).stored obs.target
  simp only [PostgresProbeObservationStore.recordIfCurrent, bind_ok] at ran
  rcases ran with ⟨_, _, _, _, ran⟩
  split_ifs at ran
  · simp only [bind_ok, pure_ok, Prod.mk.injEq] at ran
    rcases ran with ⟨advanced, moved, _, isAfter⟩
    right
    unfold PostgresProbeObservationStore.advanceHealth at moved
    have isNew : (pre.healthFor obs.target obs.method).lastObservationId ≠
        some obs.observationId := by
      intro same
      exact fresh (summary.identity _ rfl _ same)
    simp only [if_neg isNew, bind_ok, pure_ok] at moved
    rcases moved with ⟨next, seen, isAdvanced⟩
    rw [← isAfter, ← isAdvanced]
    refine ⟨rfl, next, ⟨spacing, seen, ?_⟩, rfl⟩
    unfold spaced
    cases deep : (stored
        (pre.health obs.target.cameraId obs.method) obs.target
        obs.method).lastDeepAt with
    | none => rfl
    | some deepAt =>
      rcases summary.deep _ rfl deepAt deep with ⟨other, mem, cam, isDeep⟩
      have post := late other mem cam
      rw [isDeep] at post
      exact decide_eq_true (le_sub_iff_add_le'.mpr post)
  · simp only [pure_ok, Prod.mk.injEq] at ran
    exact .inl ran.2.symm

theorem Keeps.summarised {pre post : PostgresProbeObservationStore}
    {obs : ProbeObservation} (keeps : Keeps pre obs post) (summarised : ∀ cameraId method,
      Summary pre.recorded cameraId method (pre.health cameraId method)) :
    ∀ cameraId method, Summary post.recorded cameraId method (post.health cameraId method) := by
  rcases keeps with ⟨recordedAfter, next, ⟨spacing, seen, _⟩, healthAfter⟩
  intro cameraId method
  rw [recordedAfter, healthAfter]
  by_cases here : cameraId = obs.target.cameraId
  · rw [here, update_self]
    by_cases sameMethod : method = obs.method
    · rw [sameMethod, update_self]
      exact ((summarised _ _).stored obs.target).observe seen
    · rw [update_of_ne sameMethod]
      exact (summarised _ _).append obs
  · rw [update_of_ne here]
    exact (summarised _ _).append obs

variable {work : PostgresProbeWorkStore}

theorem Paced.record (paced : Paced cfg drawn clock worker) {lease : ProbeLease}
    {res : ProbeExecutionResult} {observationId : UUID4}
    {observations : PostgresProbeObservationStore}
    (completed : worker.scheduler.complete lease res observationId = (.ok obs, sched))
    (keeps : Keeps worker.observations obs observations)
    (loaded : LoadedFrom worker.work.profiles item) (cam : item.cameraId = lease.target.cameraId)
    (ran : worker.work.markAttempt item.cameraId item.profileRevision moment = .ok work)
    (later : clock ≤ moment) (inTime : res.completedAt ≤ moment) :
    Paced cfg drawn moment { work, observations, scheduler := sched } := by
  have same := mark_attempt_same ran
  rcases paced.known with ⟨issued, consistent⟩
  rcases consistent.sound.complete_ok paced.scheduled (spaced_lasting _ _) completed with
    ⟨sameTarget, isCompleted, late, kept, clear⟩
  have known : sched.Known cfg drawn := by
    have afterwards := paced.known.complete_lease lease res observationId
    rw [completed] at afterwards
    exact afterwards
  have recordedAfter := keeps.1
  have passed : ∀ other ∈ observations.recorded, other.completedAt ≤ moment := by
    intro other mem
    rw [recordedAfter] at mem
    rcases mem_append.mp mem with old | new
    · exact (paced.passed other old).trans later
    · rw [mem_singleton.mp new, isCompleted]
      exact inTime
  constructor
  · exact known
  · exact passed
  · intro other mem
    rw [recordedAfter] at mem
    rcases mem_append.mp mem with old | new
    · have stillMarked := paced.marked.mark ran
        (fun pre inBefore => (paced.passed pre inBefore).trans later)
      exact stillMarked other old
    · rcases mark_attempt_marks loaded ran with ⟨row, inMarked, rowCamera, isAttempt⟩
      rw [mem_singleton.mp new]
      refine ⟨row, inMarked, ?_, moment, isAttempt, ?_⟩
      · rw [rowCamera, cam, sameTarget]
      · rw [isCompleted]
        exact inTime
  · show sched.NotBefore (Spaced work.profiles observations.recorded)
    rw [same.spaced]
    apply kept.raise_floor clear
    intro other time differ spaced pre mem isOther interval required
    rw [recordedAfter] at mem
    rcases mem_append.mp mem with old | new
    · exact spaced pre old isOther interval required
    · rw [mem_singleton.mp new, sameTarget] at isOther
      exact absurd isOther.symm differ
  · show observations.recorded.Pairwise fun first second =>
      Spaced work.profiles [first] second.target.cameraId second.completedAt
    rw [same.spaced, recordedAfter, pairwise_append]
    refine ⟨paced.apart, pairwise_singleton _ _, ?_⟩
    intro first inRecorded second isSecond
    rw [mem_singleton.mp isSecond, sameTarget]
    intro other isFirst
    rw [mem_singleton.mp isFirst]
    exact late first inRecorded
  · exact keeps.summarised paced.summarised

/-- Everything that `as_completed` needs to know of the candidates. -/
def Loaded (items : Dict UUID ExecutableCandidate) (profiles : List ProfileRow) : Prop :=
  ∀ cameraId item, items.get cameraId = some item →
    item.cameraId = cameraId ∧ LoadedFrom profiles item

variable {items : Dict UUID ExecutableCandidate}

theorem Loaded.same {pre post : List ProfileRow}
    (loaded : Loaded items pre) (same : SameProfiles pre post) : Loaded items post := by
  intro cameraId item found
  exact ⟨(loaded cameraId item found).1, same.loaded (loaded cameraId item found).2⟩

/-- What one turn of the loop leaves: the invariant at the time of the mark, the same profiles, and
at most the observation of this completion. -/
structure Turned (cfg : ProbeSchedulerConfig) (drawn : List UUID) (completion : Completion)
    (pre post : ProbeMonitoringWorker) : Prop where
  paced : Paced cfg drawn completion.moment post
  profiles : SameProfiles pre.work.profiles post.work.profiles
  observed : post.observations = pre.observations ∨
    ∃ obs : ProbeObservation, obs.observationId = completion.observationId.val ∧
      Keeps pre.observations obs post.observations

theorem same_profiles_refl (profiles : List ProfileRow) : SameProfiles profiles profiles := by
  intro cameraId revision profile
  exact Iff.rfl

section Turn

variable {st : Settling} {completion : Completion} {item : ExecutableCandidate}

variable (paced : Paced cfg drawn clock st.worker)

include paced

variable (later : clock ≤ completion.moment)

include later

theorem turned_with_scheduler (known : sched.Known cfg drawn) (scheduled : sched.NotBefore
      (Spaced st.worker.work.profiles st.worker.observations.recorded)) :
    Turned cfg drawn completion st.worker (st.withScheduler sched).worker :=
  ⟨(paced.with_scheduler known scheduled).later later, same_profiles_refl _, .inl rfl⟩

theorem cancelled_turned (outcome : Except ProbeWorkerFailure Unit) :
    Turned cfg drawn completion st.worker
      (st.cancelled completion.lease outcome).2.worker := by
  have known := paced.known.cancel_lease completion.lease
  have scheduled := paced.scheduled.cancel_lease completion.lease
  unfold Settling.cancelled
  cases ran : st.worker.scheduler.cancel completion.lease with
  | mk ans sched =>
    rw [ran] at known scheduled
    cases ans with
    | ok value => exact turned_with_scheduler paced later known scheduled
    | error err => exact turned_with_scheduler paced later known scheduled

theorem mark_attempt_turned (known : sched.Known cfg drawn) (scheduled : sched.NotBefore
      (Spaced st.worker.work.profiles st.worker.observations.recorded)) :
    Disturbed ((st.withScheduler sched).markAttempt item completion).1 ∨
      Turned cfg drawn completion st.worker
        ((st.withScheduler sched).markAttempt item completion).2.worker := by
  have scheduledPaced := paced.with_scheduler known scheduled
  unfold Settling.markAttempt
  cases ran : (st.withScheduler sched).worker.work.markAttempt
      completion.lease.target.cameraId item.profileRevision completion.moment with
  | error err => exact .inl (.inr ⟨err, rfl⟩)
  | ok work =>
    right
    exact ⟨scheduledPaced.mark ran later, mark_attempt_same ran, .inl rfl⟩

omit later

theorem executed_with_turned (loaded : LoadedFrom st.worker.work.profiles item)
    (cam : item.cameraId = completion.lease.target.cameraId)
    (later : clock ≤ completion.moment) {res : ProbeExecutionResult}
    (inTime : res.completedAt ≤ completion.moment) (fresh : completion.observationId.val ∉
      st.worker.observations.recorded.map ProbeObservation.observationId) :
    Disturbed (st.executedWith item completion res).1 ∨ Turned cfg drawn completion st.worker
        (st.executedWith item completion res).2.worker := by
  have known := paced.known.complete_lease completion.lease
    (item.routine.profile.classify res) completion.observationId
  have scheduled := paced.scheduled.complete_lease completion.lease
    (item.routine.profile.classify res) completion.observationId
  unfold Settling.executedWith
  dsimp only
  cases completed : st.worker.scheduler.complete completion.lease
      (item.routine.profile.classify res) completion.observationId with
  | mk ans sched =>
    rw [completed] at known scheduled
    cases ans with
    | error err =>
      cases err with
      | valueError code =>
        show Disturbed (({ st with executed := st.executed + 1 }.withScheduler
            sched).markAttempt item completion).1 ∨ _
        refine mark_attempt_turned ?_ later known ?_
        · exact paced
        · exact scheduled
      | probeIneligible code => exact .inr (turned_with_scheduler paced later known scheduled)
      | probeQueueFull => exact .inr (turned_with_scheduler paced later known scheduled)
      | probeSingleFlightConflict =>
        exact .inr (turned_with_scheduler paced later known scheduled)
      | keyError => exact .inr (turned_with_scheduler paced later known scheduled)
    | ok obs =>
      dsimp only
      rcases paced.known with ⟨issued, consistent⟩
      rcases consistent.sound.complete_ok paced.scheduled (spaced_lasting _ _) completed with
        ⟨sameTarget, _, late, _, _⟩
      have isObservation : obs.observationId = completion.observationId.val :=
        complete_observation_id completed
      have required : Requires st.worker.work.profiles completion.lease.target.cameraId
          item.routine.profile.confirmationInterval := by
        rcases loaded with ⟨row, mem, rowCamera, _, isProfile⟩
        refine ⟨row, mem, ?_, ?_⟩
        · rw [rowCamera]
          exact cam
        · rw [isProfile]
      cases ran : st.worker.observations.recordIfCurrent completion.current
          item.routine.profile.confirmationInterval obs with
      | error err =>
        left
        left
        exact ⟨err, by simp only [Settling.withScheduler, ran]⟩
      | ok stored =>
        rcases stored with ⟨persisted, observations⟩
        have kept : observations = st.worker.observations ∨
            Keeps st.worker.observations obs observations := by
          apply record_if_current_keeps paced.summarised _ _ ran
          · intro other mem isOther
            rw [sameTarget] at isOther
            exact late other mem isOther _ required
          · rw [isObservation]
            exact fresh
        simp only [Settling.withScheduler, ran]
        unfold Settling.markAttempt
        dsimp only
        cases marked : st.worker.work.markAttempt completion.lease.target.cameraId
            item.profileRevision completion.moment with
        | error err => exact .inl (.inr ⟨err, rfl⟩)
        | ok work =>
          right
          rcases kept with unchanged | keeps
          · have scheduledPaced := paced.with_scheduler known scheduled
            rw [unchanged]
            exact ⟨scheduledPaced.mark marked later, mark_attempt_same marked, .inl rfl⟩
          · rw [← cam] at marked
            refine ⟨?_, mark_attempt_same marked, .inr ⟨obs, isObservation, keeps⟩⟩
            apply paced.record completed keeps loaded cam marked later
            rw [CameraProbeProfile.classify_completed_at]
            exact inTime

theorem settle_turned {rest : List Completion} (loaded : Loaded items st.worker.work.profiles)
    (ticks : Ticks clock (completion :: rest)) (started : completion.lease.startedAt ≤ clock)
    (fresh : completion.observationId.val ∉
      st.worker.observations.recorded.map ProbeObservation.observationId) :
    Disturbed (Settling.settle items completion st).1 ∨ Turned cfg drawn completion st.worker
        (Settling.settle items completion st).2.worker := by
  rcases ticks with ⟨taken, marked, returns, _⟩
  have later : clock ≤ completion.moment := taken.trans marked
  unfold Settling.settle
  cases found : items.get completion.lease.target.cameraId with
  | none => exact .inr ⟨paced.later later, same_profiles_refl _, .inl rfl⟩
  | some item =>
    rcases loaded _ _ found with ⟨cam, isLoaded⟩
    cases execution : completion.execution with
    | unavailable => exact .inr (cancelled_turned paced later _)
    | refused => exact .inr (cancelled_turned paced later _)
    | failed =>
      apply executed_with_turned paced isLoaded cam later _ fresh
      have inTime : max completion.lease.startedAt
          (min completion.now completion.lease.leaseExpiresAt) ≤ completion.now :=
        max_le (started.trans taken) (min_le_left _ _)
      exact inTime.trans marked
    | returned res =>
      apply executed_with_turned paced isLoaded cam later _ fresh
      exact (returns res execution).trans marked

omit paced

end Turn

def Grows (pre post : PostgresProbeObservationStore) : Prop :=
  ∃ news, post.recorded = pre.recorded ++ news ∧
    ∀ cameraId method, Progress (pre.health cameraId method)
      (news.filter fun obs => decide (obs.target.cameraId = cameraId) &&
        decide (obs.method = method))
      (post.health cameraId method)

theorem grows_refl (store : PostgresProbeObservationStore) : Grows store store :=
  ⟨[], by simp, fun _ _ => .nil⟩

variable {first second third : PostgresProbeObservationStore}

theorem Grows.keep (grows : Grows first second)
    (keeps : Keeps second obs third) : Grows first third := by
  rcases grows with ⟨news, recordedSecond, progress⟩
  rcases keeps with ⟨recordedThird, next, advances, health⟩
  refine ⟨news ++ [obs], ?_, ?_⟩
  · rw [recordedThird, recordedSecond, append_assoc]
  · intro cameraId method
    have pre := progress cameraId method
    rw [filter_append, health]
    by_cases here : cameraId = obs.target.cameraId
    · rw [here] at pre ⊢
      rw [update_self]
      by_cases same : method = obs.method
      · rw [same] at pre ⊢
        rw [update_self, filter_singleton]
        simp only [decide_true, Bool.and_self, cond_true]
        exact pre.snoc advances
      · rw [update_of_ne same, filter_singleton]
        simp only [decide_true, Bool.true_and, decide_eq_false (Ne.symm same), cond_false,
          append_nil]
        exact pre
    · rw [update_of_ne here, filter_singleton]
      simp only [decide_eq_false (Ne.symm here), Bool.false_and, cond_false, append_nil]
      exact pre

theorem Grows.trans
    (left : Grows first second) (right : Grows second third) : Grows first third := by
  rcases left with ⟨old, recordedSecond, pre⟩
  rcases right with ⟨news, recordedThird, post⟩
  refine ⟨old ++ news, ?_, ?_⟩
  · rw [recordedThird, recordedSecond, append_assoc]
  · intro cameraId method
    rw [filter_append]
    exact (pre cameraId method).trans (post cameraId method)

/-- The loop over the completions. -/
theorem settle_all {completions : List Completion}
    {st : Settling} {ends : Datetime} (paced : Paced cfg drawn clock st.worker)
    (loaded : Loaded items st.worker.work.profiles) (ticks : Ticks clock completions)
    (started : ∀ completion ∈ completions, completion.lease.startedAt ≤ clock)
    (distinct : (completions.map fun completion => completion.observationId.val).Nodup)
    (fresh : ∀ completion ∈ completions, completion.observationId.val ∉
      st.worker.observations.recorded.map ProbeObservation.observationId)
    (inTime : clock ≤ ends ∧ ∀ completion ∈ completions, completion.moment ≤ ends)
    (calm : ¬Disturbed (forEach (Settling.settle items) completions st).1) :
    Paced cfg drawn ends
        (forEach (Settling.settle items) completions st).2.worker ∧
      Grows st.worker.observations
        (forEach (Settling.settle items) completions st).2.worker.observations := by
  induction completions generalizing clock st with
  | nil => exact ⟨paced.later inTime.1, grows_refl _⟩
  | cons completion rest ih =>
    have turn := settle_turned paced loaded ticks (started completion mem_cons_self)
      (fresh completion mem_cons_self)
    have clockNext : clock ≤ completion.moment := ticks.1.trans ticks.2.1
    unfold forEach at calm ⊢
    cases ran : Settling.settle items completion st with
    | mk outcome post =>
      rw [ran] at turn calm
      have turned : Turned cfg drawn completion st.worker post.worker := by
        rcases turn with disturbed | turned
        · exfalso
          apply calm
          cases outcome with
          | ok value => rcases disturbed with ⟨_, raised⟩ | ⟨_, raised⟩ <;> cases raised
          | error err => exact disturbed
        · exact turned
      have grows : Grows st.worker.observations post.worker.observations := by
        rcases turned.observed with same | ⟨obs, _, keeps⟩
        · rw [same]
          exact grows_refl _
        · exact (grows_refl _).keep keeps
      cases outcome with
      | error err =>
        exact ⟨turned.paced.later (inTime.2 completion mem_cons_self), grows⟩
      | ok value =>
        rw [map_cons, nodup_cons] at distinct
        have remaining := ih turned.paced (loaded.same turned.profiles) ticks.2.2.2
          (fun other mem => (started other (mem_cons_of_mem _ mem)).trans clockNext)
          distinct.2 ?_
          ⟨inTime.2 completion mem_cons_self,
            fun other mem => inTime.2 other (mem_cons_of_mem _ mem)⟩ calm
        · exact ⟨remaining.1, grows.trans remaining.2⟩
        · intro other mem
          have old := fresh other (mem_cons_of_mem _ mem)
          rcases turned.observed with same | ⟨obs, isObservation, keeps⟩
          · rw [same]
            exact old
          · rw [keeps.1, map_append, mem_append]
            intro found
            rcases found with inOld | inNew
            · exact old inOld
            · apply distinct.1
              rw [map_singleton, mem_singleton, isObservation] at inNew
              rw [← inNew]
              exact mem_map_of_mem mem

/-- A candidate as it was loaded: from a row of the profiles, with the attempt it had then. -/
def Current (profiles : List ProfileRow) (item : ExecutableCandidate) : Prop :=
  ∃ row ∈ profiles, row.cameraId = item.cameraId ∧ row.revision = item.profileRevision ∧
    row.profile = item.routine.profile ∧ row.lastAttemptAt = item.routine.lastAttemptAt

theorem Current.loaded (cur : Current profiles item) : LoadedFrom profiles item := by
  rcases cur with ⟨row, mem, cam, isRevision, isProfile, _⟩
  exact ⟨row, mem, cam, isRevision, isProfile⟩

theorem Current.spaced {digestHead : UUID → Nat} {now : Datetime} (cur : Current profiles item)
    (distinct : (profiles.map ProfileRow.cameraId).Nodup) (marked : Marked profiles recorded)
    (due : ¬item.routine.Skipped digestHead now) : Spaced profiles recorded item.cameraId now := by
  rcases cur with ⟨row, mem, cam, _, isProfile, isAttempt⟩
  intro obs isRecorded observedCamera interval required
  rcases required with ⟨asking, inProfiles, askingCamera, isInterval⟩
  rcases marked obs isRecorded with ⟨other, inMarked, otherCamera, attempt, attempted, post⟩
  have isAsking : asking = row :=
    RecordTable.distinct_eq distinct inProfiles mem (askingCamera.trans cam.symm)
  have isOther : other = row := by
    apply RecordTable.distinct_eq distinct inMarked mem
    rw [otherCamera, observedCamera, cam]
  rw [isOther, isAttempt] at attempted
  rw [isAsking, isProfile] at isInterval
  have waits := item.routine.due_at_spaced digestHead attempted
  have isDue : item.routine.dueAt digestHead ≤ now := by
    unfold RoutineProbeCandidate.Skipped at due
    push Not at due
    exact due.2.2
  calc obs.completedAt + interval
      ≤ attempt + interval := by gcongr
    _ = attempt + item.routine.profile.confirmationInterval := by rw [isInterval]
    _ ≤ item.routine.dueAt digestHead := waits
    _ ≤ now := isDue

def drawnUpTo (requestIds : Nat → UUID4) (drawn : List UUID) (count : Nat) : List UUID :=
  (range count).map (fun index => (requestIds index).val) ++ drawn

theorem drawn_up_to_subset {requestIds : Nat → UUID4} {fewer more : Nat} (le : fewer ≤ more) :
    ∀ requestId ∈ drawnUpTo requestIds drawn fewer,
      requestId ∈ drawnUpTo requestIds drawn more := by
  intro requestId mem
  unfold drawnUpTo at mem ⊢
  rcases mem_append.mp mem with new | old
  · rcases mem_map.mp new with ⟨index, inRange, isId⟩
    apply mem_append_left
    rw [mem_range] at inRange
    exact mem_map.mpr ⟨index, mem_range.mpr (by omega), isId⟩
  · exact mem_append_right _ old

theorem drawn_up_to_fresh {requestIds : Nat → UUID4} {batchLimit count : Nat}
    (distinct : ((range batchLimit).map fun index => (requestIds index).val).Nodup)
    (fresh : ∀ index < batchLimit, (requestIds index).val ∉ drawn) (room : count < batchLimit) :
    (requestIds count).val ∉ drawnUpTo requestIds drawn count := by
  intro mem
  unfold drawnUpTo at mem
  rcases mem_append.mp mem with new | old
  · rcases mem_map.mp new with ⟨index, inRange, isId⟩
    rw [mem_range] at inRange
    have same := inj_on_of_nodup_map distinct (mem_range.mpr (by omega))
      (mem_range.mpr room) isId
    omega
  · exact fresh count room old

section Cycle

variable {digestHead : UUID → Nat} {batchLimit : Nat} {cycle : Cycle}
  {executable : List ExecutableCandidate}

theorem Paced.enqueue (paced : Paced cfg drawn clock worker) (digestHead : UUID → Nat)
    (cur : ∀ item ∈ executable, Current worker.work.profiles item)
    (distinct : ((range batchLimit).map fun index => (cycle.requestIds index).val).Nodup)
    (fresh : ∀ index < batchLimit, (cycle.requestIds index).val ∉ drawn) :
    Paced cfg (drawnUpTo cycle.requestIds drawn batchLimit) clock
      { worker with scheduler := (RoutineProbeProducer.enqueue cfg digestHead batchLimit
        (byCamera routine executable) cycle.now
        cycle.requestIds worker.scheduler).2 } := by
  have all : ∀ requestId ∈ drawn, requestId ∈ drawnUpTo cycle.requestIds drawn batchLimit :=
    drawn_up_to_subset (Nat.zero_le batchLimit)
  unfold RoutineProbeProducer.enqueue
  split
  · exact paced.with_scheduler (paced.known.more all) paced.scheduled
  · rename_i batch
    let inv (count : Nat) (sched : ProbeScheduler) : Prop :=
      sched.Known cfg (drawnUpTo cycle.requestIds drawn count) ∧
        sched.NotBefore (Spaced worker.work.profiles worker.observations.recorded)
    have start : inv 0 worker.scheduler := ⟨paced.known, paced.scheduled⟩
    have fits : 0 + (Keyset.inOrder (RoutineProbeCandidate.dueKey · digestHead)
        (byCamera routine executable).values).length ≤
        batchLimit := by
      rw [Keyset.length_in_order, Dict.length_values]
      have bound := not_lt.mp (not_or.mp batch).1
      omega
    have step : ∀ count sched, ∀ cand ∈ Keyset.inOrder
        (RoutineProbeCandidate.dueKey · digestHead)
        (byCamera routine executable).values,
        ¬cand.Skipped digestHead cycle.now → count < batchLimit → inv count sched →
        inv (count + 1) (sched.submit cfg cand.submittedTarget .source
          cand.priority cycle.now (cycle.now + cand.profile.executionTimeout)
          (cycle.requestIds count)).2 := by
      intro count sched cand mem due room pre
      rw [Keyset.mem_in_order] at mem
      rcases mem_map.mp mem with ⟨⟨cameraId, routine⟩, inItems, isCandidate⟩
      rcases by_camera_get (Dict.get_eq_some.mpr inItems) with
        ⟨item, isItem, _, isRoutine⟩
      have isDue : item.routine = cand := isRoutine.trans isCandidate
      have late : Spaced worker.work.profiles worker.observations.recorded
          cand.submittedTarget.cameraId cycle.now := by
        rw [← isDue] at due ⊢
        exact (cur item isItem).spaced worker.work.distinct paced.marked due
      constructor
      · have submitted := pre.1.submit_request (drawn_up_to_fresh distinct fresh room)
          cand.submittedTarget .source cand.priority cycle.now
          (cycle.now + cand.profile.executionTimeout)
        apply submitted.more
        intro requestId isDrawn
        rcases mem_cons.mp isDrawn with isNew | isOld
        · rw [isNew]
          unfold drawnUpTo
          apply mem_append_left
          exact mem_map.mpr ⟨count, mem_range.mpr (by omega), rfl⟩
        · exact drawn_up_to_subset (by omega) requestId isOld
      · exact pre.2.submit_request late .source cand.priority _ _
    rcases @RoutineProbeProducer.feed_keeps _ _ _ _ _ _ _ step _ [] _ fits start with
      ⟨count, bounded, known, scheduled⟩
    exact paced.with_scheduler (known.more (drawn_up_to_subset bounded)) scheduled

theorem Paced.claim (paced : Paced cfg drawn clock worker) (now : Datetime)
    (targets : Dict UUID ProbeTarget) (leaseTokens : Nat → UUID4) :
    Paced cfg drawn clock { worker with
      scheduler := (worker.scheduler.claimAvailable cfg now targets leaseTokens).2 } :=
  paced.with_scheduler (paced.known.claim_available now targets leaseTokens)
    (paced.scheduled.claim_available (spaced_lasting _ _) now targets leaseTokens)

/-- The part of the surroundings of a call that the loop over the futures needs. -/
structure Answers (cfg : ProbeSchedulerConfig) (recorded : List ProbeObservation)
    (cycle : Cycle) (leases : List ProbeLease) : Prop where
  short : leases.length ≤ cfg.globalLimit
  started : ∀ lease ∈ leases, lease.startedAt = cycle.now
  fresh : ((cycle.completions leases).map fun completion => completion.observationId.val).Nodup ∧
    ∀ completion ∈ cycle.completions leases,
      completion.observationId.val ∉ recorded.map ProbeObservation.observationId
  complete : ((cycle.completions leases).map Completion.lease).Perm leases
  ticks : Ticks cycle.now (cycle.completions leases) ∧
    ∀ completion ∈ cycle.completions leases, completion.moment ≤ cycle.ends

theorem settle_leases_paced {submitted : Nat} {leases : List ProbeLease}
    (paced : Paced cfg drawn cycle.now worker)
    (cur : ∀ item ∈ executable, Current worker.work.profiles item)
    (answers : Answers cfg worker.observations.recorded cycle leases)
    (inTime : cycle.now ≤ cycle.ends)
    (calm : ¬Disturbed (worker.settleLeases cycle executable submitted leases).1) :
    Paced cfg drawn cycle.ends
        (worker.settleLeases cycle executable submitted leases).2 ∧
      Grows worker.observations
        (worker.settleLeases cycle executable submitted leases).2.observations := by
  unfold ProbeMonitoringWorker.settleLeases at calm ⊢
  by_cases missing : (leases.any fun lease =>
      ((byCamera id executable).get lease.target.cameraId).isNone) = true
  · rw [if_pos missing]
    exact ⟨paced.later inTime, grows_refl _⟩
  rw [if_neg missing] at calm ⊢
  have loaded : Loaded (byCamera id executable) worker.work.profiles := by
    intro cameraId item found
    rcases by_camera_get found with ⟨other, mem, cam, isItem⟩
    rw [← isItem]
    exact ⟨cam, (cur other mem).loaded⟩
  have started : ∀ completion ∈ cycle.completions leases,
      completion.lease.startedAt ≤ cycle.now := by
    intro completion mem
    have isLease : completion.lease ∈ leases :=
      answers.complete.subset (mem_map_of_mem mem)
    exact (answers.started _ isLease).le
  have settled := @settle_all cfg drawn cycle.now _ (cycle.completions leases)
    { worker, executed := 0, persisted := 0 } cycle.ends paced loaded answers.ticks.1 started
    answers.fresh.1 answers.fresh.2 ⟨inTime, answers.ticks.2⟩
  cases ran : forEach (Settling.settle (byCamera id executable))
      (cycle.completions leases) { worker, executed := 0, persisted := 0 } with
  | mk outcome st =>
    rw [ran] at settled calm
    cases outcome with
    | error err =>
      apply settled
      intro disturbed
      apply calm
      rcases disturbed with ⟨reason, raised⟩ | ⟨reason, raised⟩
      · cases raised
        exact .inl ⟨reason, rfl⟩
      · cases raised
        exact .inr ⟨reason, rfl⟩
    | ok value =>
      apply settled
      intro disturbed
      rcases disturbed with ⟨_, raised⟩ | ⟨_, raised⟩
      · cases raised
      · cases raised

theorem run_candidates_paced (paced : Paced cfg drawn clock worker)
    (cur : ∀ item ∈ executable, Current worker.work.profiles item) (later : clock ≤ cycle.now)
    (distinct : ((range batchLimit).map fun index => (cycle.requestIds index).val).Nodup)
    (fresh : ∀ index < batchLimit, (cycle.requestIds index).val ∉ drawn)
    (answers : ∀ leases, leases.length ≤ cfg.globalLimit →
      (∀ lease ∈ leases, lease.startedAt = cycle.now) →
      Answers cfg worker.observations.recorded cycle leases) (inTime : cycle.now ≤ cycle.ends)
    (calm : ¬Disturbed (worker.runCandidates cfg digestHead batchLimit cycle executable).1) :
    Paced cfg (drawnUpTo cycle.requestIds drawn batchLimit) cycle.ends
        (worker.runCandidates cfg digestHead batchLimit cycle executable).2 ∧
      Grows worker.observations
        (worker.runCandidates cfg digestHead batchLimit cycle executable).2.observations := by
  have enqueued := paced.enqueue digestHead cur distinct fresh
  have ended : clock ≤ cycle.ends := later.trans inTime
  unfold ProbeMonitoringWorker.runCandidates at calm ⊢
  cases fed : RoutineProbeProducer.enqueue cfg digestHead batchLimit
      (byCamera routine executable) cycle.now
      cycle.requestIds worker.scheduler with
  | mk submission fedScheduler =>
    rw [fed] at enqueued calm
    cases submission with
    | error err => exact ⟨enqueued.later ended, grows_refl _⟩
    | ok submitted =>
      have claimed := enqueued.claim cycle.now
        (byCamera (fun item => item.routine.target) executable)
        cycle.leaseTokens
      dsimp only at claimed calm ⊢
      cases ran : fedScheduler.claimAvailable cfg cycle.now
          (byCamera (fun item => item.routine.target) executable)
          cycle.leaseTokens with
      | mk outcome sched =>
        rw [ran] at claimed calm
        cases outcome with
        | error err => exact ⟨claimed.later ended, grows_refl _⟩
        | ok leases =>
          have known := answers leases (claim_available_length ran)
            (claim_available_started ran)
          exact settle_leases_paced (claimed.later later) cur known inTime calm

end Cycle

theorem Paced.with_work (paced : Paced cfg drawn clock worker)
    (same : work.profiles = worker.work.profiles) :
    Paced cfg drawn clock { worker with work } := by
  constructor
  · exact paced.known
  · exact paced.passed
  · show Marked work.profiles worker.observations.recorded
    rw [same]
    exact paced.marked
  · show worker.scheduler.NotBefore (Spaced work.profiles worker.observations.recorded)
    rw [same]
    exact paced.scheduled
  · show worker.observations.recorded.Pairwise fun first second =>
      Spaced work.profiles [first] second.target.cameraId second.completedAt
    rw [same]
    exact paced.apart
  · exact paced.summarised

theorem spaced_unedited {observations : List ProbeObservation} (marked : Marked pre observations)
    (distinct : (post.map ProfileRow.cameraId).Nodup) (unedited : ∀ row ∈ pre, row ∈ post)
    {time : Datetime} (spaced : Spaced pre observations cameraId time) :
    Spaced post observations cameraId time := by
  intro obs mem cam interval required
  rcases required with ⟨asking, inAfter, askingCamera, isInterval⟩
  rcases marked obs mem with ⟨row, inBefore, rowCamera, _⟩
  have isRow : asking = row := by
    apply RecordTable.distinct_eq distinct inAfter (unedited row inBefore)
    rw [askingCamera, rowCamera, cam]
  apply spaced obs mem cam interval
  rw [isRow] at askingCamera isInterval
  exact ⟨row, inBefore, askingCamera, isInterval⟩

theorem Paced.with_tables (paced : Paced cfg drawn clock worker)
    (unedited : ∀ row ∈ worker.work.profiles, row ∈ work.profiles) :
    Paced cfg drawn clock { worker with work } := by
  constructor
  · exact paced.known
  · exact paced.passed
  · intro obs mem
    rcases paced.marked obs mem with ⟨row, inBefore, facts⟩
    exact ⟨row, unedited row inBefore, facts⟩
  · apply paced.scheduled.weaken
    intro cameraId time spaced
    exact spaced_unedited paced.marked work.distinct unedited spaced
  · apply paced.apart.imp_of_mem
    intro first second inFirst _ spaced
    apply spaced_unedited _ work.distinct unedited spaced
    intro obs isFirst
    rw [mem_singleton.mp isFirst]
    exact paced.marked first inFirst
  · exact paced.summarised

namespace WorkerSystem

variable {digestHead : UUID → Nat} {batchLimit : Nat} {start sys later : WorkerSystem}

def Steady (cfg : ProbeSchedulerConfig) (sys : WorkerSystem) : Prop :=
  Paced cfg sys.drawn sys.clock sys.worker

theorem steady_starting (starting : start.Starting) : Steady cfg start := by
  rcases start with ⟨⟨work, observations, sched⟩, drawn, clock⟩
  rcases starting with ⟨isScheduler, isObservations⟩
  subst isScheduler isObservations
  constructor
  · exact known_initial cfg drawn
  · intro _ mem
    cases mem
  · intro _ mem
    cases mem
  · exact not_before_initial _
  · exact Pairwise.nil
  · intro cameraId method
    constructor
    · intro _ isRow
      cases isRow
    · intro _ isRow
      cases isRow
    · intro _ isRow
      cases isRow
    · intro _ isRow
      cases isRow

theorem Steady.run_cycle (steady : Steady cfg sys) {cycle : Cycle}
    (legal : Legal cfg batchLimit sys cycle)
    (calm : ¬Disturbed (sys.worker.runOnce cfg digestHead batchLimit cycle).1) :
    Steady cfg (sys.runCycle cfg digestHead batchLimit cycle) ∧ Grows sys.worker.observations
        (sys.runCycle cfg digestHead batchLimit cycle).worker.observations := by
  have ended : sys.clock ≤ cycle.ends := legal.later.1.trans legal.later.2
  have included : ∀ requestId ∈ sys.drawn,
      requestId ∈ drawnUpTo cycle.requestIds sys.drawn batchLimit :=
    drawn_up_to_subset (Nat.zero_le batchLimit)
  have unchanged : Paced cfg (drawnUpTo cycle.requestIds sys.drawn batchLimit) cycle.ends
      sys.worker :=
    (steady.with_scheduler (steady.known.more included) steady.scheduled).later ended
  unfold Steady runCycle
  unfold ProbeMonitoringWorker.runOnce at calm ⊢
  cases owned : sys.worker.work.assertOwned with
  | error err => exact ⟨unchanged, grows_refl _⟩
  | ok value =>
    rw [owned] at calm
    cases called : sys.worker.work.activeProfiles batchLimit with
    | error err => exact ⟨unchanged, grows_refl _⟩
    | ok page =>
      rcases page with ⟨rows, work⟩
      rw [called] at calm
      dsimp only at calm ⊢
      rcases sys.worker.work.active_profiles_ok called with ⟨_, isPage, same, _⟩
      cases loading : cycle.readings.loadCandidates sys.worker.observations
          (rows.take cycle.readings.examined) with
      | error err => exact ⟨unchanged.with_work same, grows_refl _⟩
      | ok executable =>
        rw [loading] at calm
        apply run_candidates_paced (steady.with_work same) _ legal.later.1 legal.requests.1
          legal.requests.2 _ legal.later.2 calm
        · intro item mem
          rcases CandidateReadings.load_candidates_ok loading item mem with
            ⟨row, inRows, facts⟩
          have isRows : rows = (Keyset.nextPage ProfileRow.scanKey (batchLimit : Int).toNat
              sys.worker.work.cursor sys.worker.work.eligibleProfiles).1 :=
            congrArg Prod.fst isPage
          have inPage : row ∈ rows := mem_of_mem_take inRows
          rw [isRows] at inPage
          have inProfiles : row ∈ sys.worker.work.profiles :=
            mem_of_mem_filter (Keyset.mem_of_mem_page inPage)
          rw [← same] at inProfiles
          exact ⟨row, inProfiles, facts⟩
        · intro leases short started
          exact ⟨short, started, legal.observations leases short,
            legal.answers leases short, legal.ticks leases short⟩

theorem Steady.reaches (steady : Steady cfg start)
    (reached : Reaches cfg digestHead batchLimit start sys) :
    Steady cfg sys ∧ Grows start.worker.observations sys.worker.observations := by
  induction reached with
  | refl => exact ⟨steady, grows_refl _⟩
  | cycle _ cycle legal undisturbed ih =>
    have run := ih.1.run_cycle legal undisturbed
    exact ⟨run.1, ih.2.trans run.2⟩
  | tables _ work unedited ih => exact ⟨ih.1.with_tables unedited, ih.2⟩
  | restart _ ih =>
    exact ⟨ih.1.with_scheduler (known_initial cfg _) (not_before_initial _), ih.2⟩

theorem Steady.recorded_apart (steady : Steady cfg sys)
    {pre between post : List ProbeObservation} {first second : ProbeObservation}
    (shape : sys.recorded = pre ++ first :: (between ++ second :: post))
    (sameCamera : first.target.cameraId = second.target.cameraId) :
    ∃ row ∈ sys.worker.work.profiles, row.cameraId = first.target.cameraId ∧
      row.profile.confirmationInterval ≤ second.completedAt - first.completedAt := by
  have apart := steady.apart
  have inRecorded : first ∈ sys.recorded := by
    rw [shape]
    simp
  unfold recorded at shape inRecorded
  rw [shape, pairwise_append] at apart
  have behind := (pairwise_cons.mp apart.2.1).1 second (by simp)
  rcases steady.marked first inRecorded with ⟨row, mem, cam, _⟩
  refine ⟨row, mem, cam, ?_⟩
  have late := behind first (mem_singleton.mpr rfl) sameCamera
    row.profile.confirmationInterval ⟨row, mem, cam.trans sameCamera, rfl⟩
  exact le_sub_iff_add_le'.mpr late

theorem observed_since_eq {news : List ProbeObservation} (target : ProbeTarget)
    (grown : later.worker.observations.recorded = sys.worker.observations.recorded ++ news) :
    later.observedSince sys target = news.filter fun obs =>
      decide (obs.target.cameraId = target.cameraId) && decide (obs.method = .source) := by
  unfold observedSince recorded
  rw [grown, drop_left]

/-- Routine probing keeps the confirmation spacing: of two observations recorded for a camera the
second completes at least the confirmation interval of the camera's profile after the first. Hence
two conclusive failures in a row, within one generation, leave the camera unhealthy, and two
conclusive successes in a row restore an unhealthy one. -/
theorem routine_confirmation_spacing (starting : start.Starting)
    (reached : Reaches cfg digestHead batchLimit start sys) :
    (∀ pre first between second post, sys.recorded = pre ++ first :: (between ++ second :: post) →
      first.target.cameraId = second.target.cameraId →
      ∃ row ∈ sys.worker.work.profiles, row.cameraId = first.target.cameraId ∧
        row.profile.confirmationInterval ≤ second.completedAt - first.completedAt) ∧
    ∀ later, Reaches cfg digestHead batchLimit sys later → ∀ target,
      (∀ obs ∈ later.observedSince sys target,
        sameHealthGeneration obs.target target .source = true) →
      2 ≤ (conclusive (later.observedSince sys target)).length →
      ((∀ obs ∈ conclusive (later.observedSince sys target), obs.outcome = .unhealthy) →
        (later.healthFor target).healthState = .unhealthy) ∧
      ((sys.healthFor target).healthState = .unhealthy →
        (∀ obs ∈ conclusive (later.observedSince sys target), obs.outcome = .healthy) →
        (later.healthFor target).healthState = .healthy) := by
  have steady : Steady cfg sys := ((steady_starting starting).reaches reached).1
  constructor
  · intro pre first between second post shape sameCamera
    exact steady.recorded_apart shape sameCamera
  intro later onward target within enough
  rcases (steady.reaches onward).2 with ⟨news, grown, progress⟩
  rw [observed_since_eq target grown] at within enough ⊢
  have summary := steady.summarised target.cameraId .source
  have sources : ∀ obs ∈ news.filter (fun obs =>
      decide (obs.target.cameraId = target.cameraId) && decide (obs.method = .source)),
      obs.method = .source ∧ sameHealthGeneration obs.target target .source = true := by
    intro obs mem
    have isSource := (mem_filter.mp mem).2
    simp only [Bool.and_eq_true, decide_eq_true_eq] at isSource
    exact ⟨isSource.2, within obs mem⟩
  constructor
  · intro failures
    have begun : Failing 0 (sys.healthFor target) := ⟨by omega, by omega⟩
    have counted := (progress target.cameraId .source).counts Failing
      (fun failing alike => Failing.alike failing alike)
      (fun failing observed isSpaced failed => failing.fail observed isSpaced failed)
      summary.method sources failures begun
    exact counted.2.2 enough
  · intro unhealthy successes
    have none : (sys.healthFor target).consecutiveSuccesses = 0 :=
      (summary.stored target).unhealthy _ rfl unhealthy
    have begun : Restoring 0 (sys.healthFor target) :=
      ⟨fun _ => ⟨unhealthy, none⟩, by omega, by omega⟩
    have counted := (progress target.cameraId .source).counts Restoring
      (fun restoring alike => Restoring.alike restoring alike)
      (fun restoring observed isSpaced succeeded => restoring.succeed observed isSpaced succeeded)
      summary.method sources successes begun
    exact counted.2.2.2 enough

/-! ### Two failures of one camera -/

/-- The camera of `sampleTarget`, as the worker reads it. -/
def sampleReadings : CandidateReadings where
  examined := 1
  cameras := [
    { id := sampleTarget.cameraId
      name := "camera"
      sourceUrl := "rtsp://camera.example/live"
      publicId := sampleTarget.publicId
      nodeId := sampleTarget.nodeId
      nodePort := 8554
      placementMode := .automatic
      probeEndpoint := some {
        generation := 0x00000000000040008000000000000003
        address := "192.0.2.1"
        port := 554
        siteKey := "hall"
        policySha256 := ""
        sourceUrlSha256 := "" } }]
  nodes := [
    { id := sampleTarget.nodeId
      name := "node"
      externalPort := 8554
      state := .running }]
  observe := fun _ => some { ready := false, occupied := false }
  restores := fun _ => true

/-- A cycle in which every probe fails one second after it started. -/
def failingCycle (now : Datetime) (requestId observationId : UUID4) : Cycle where
  now := now
  readings := sampleReadings
  requestIds := fun _ => requestId
  leaseTokens := fun _ => requestId
  completions := fun leases => leases.map fun lease =>
    { lease
      execution := .returned {
        outcome := .unhealthy
        completedAt := now + timedeltaSeconds 1
        failureClass := some .transport
        valid := by simp [resultContract, cameraFailureClasses] }
      now := now + timedeltaSeconds 1
      observationId
      current := true
      moment := now + timedeltaSeconds 2 }
  ends := now + timedeltaSeconds 2

def sampleWork : PostgresProbeWorkStore where
  profiles := [sampleRow sampleTarget.cameraId 0 none]
  cameras := sampleReadings.cameras
  nodes := sampleReadings.nodes
  owned := true
  cursor := none
  distinct := nodup_singleton _

def sampleStart : WorkerSystem where
  worker := { work := sampleWork, observations := .empty, scheduler := .initial }
  drawn := []
  clock := 0

/-- One lease at a time, so that one identifier for each cycle is enough. -/
def singleConfig : ProbeSchedulerConfig :=
  { ProbeSystem.sampleConfig with
    globalLimit := 1
    globalValid := by decide
    nodeValid := by decide
    siteValid := by decide
    methodValid := by decide }

def firstCycle : Cycle :=
  failingCycle 0 ⟨0x00000000000040008000000000000025, by decide⟩
    ⟨0x00000000000040008000000000000022, by decide⟩

/-- The camera is suspect, so it is due again 30 seconds after the mark. -/
def secondCycle : Cycle :=
  failingCycle (timedeltaSeconds 32) ⟨0x00000000000040008000000000000023, by decide⟩
    ⟨0x00000000000040008000000000000024, by decide⟩

def sampleMiddle : WorkerSystem := sampleStart.runCycle singleConfig (fun _ => 0) 1 firstCycle

def sampleEnd : WorkerSystem := sampleMiddle.runCycle singleConfig (fun _ => 0) 1 secondCycle

theorem at_most_one {leases : List ProbeLease} (short : leases.length ≤ singleConfig.globalLimit) :
    leases = [] ∨ ∃ lease, leases = [lease] := by
  have one : leases.length ≤ 1 := short
  cases leases with
  | nil => exact .inl rfl
  | cons lease rest =>
    right
    have empty : rest = [] := by
      apply eq_nil_of_length_eq_zero
      rw [length_cons] at one
      omega
    exact ⟨lease, by rw [empty]⟩

theorem failing_cycle_legal {sys : WorkerSystem} {now : Datetime}
    {requestId observationId : UUID4} (clock : sys.clock ≤ now)
    (newRequest : requestId.val ∉ sys.drawn)
    (newObservation : observationId.val ∉ sys.recorded.map ProbeObservation.observationId) :
    Legal singleConfig 1 sys (failingCycle now requestId observationId) := by
  have second : now ≤ now + timedeltaSeconds 1 := le_add_of_nonneg_right (by decide)
  have more : timedeltaSeconds 1 ≤ timedeltaSeconds 2 := by decide
  have third : now + timedeltaSeconds 1 ≤ now + timedeltaSeconds 2 := by gcongr
  constructor
  · exact ⟨clock, second.trans third⟩
  · refine ⟨nodup_singleton _, ?_⟩
    intro _ _
    exact newRequest
  · intro leases short
    refine ⟨?_, ?_⟩
    · rcases at_most_one short with isNil | ⟨lease, isSingle⟩
      · rw [isNil]
        exact nodup_nil
      · rw [isSingle]
        exact nodup_singleton _
    · intro completion mem
      rcases mem_map.mp mem with ⟨_, _, isCompletion⟩
      rw [← isCompletion]
      exact newObservation
  · intro leases _
    have same : ((failingCycle now requestId observationId).completions leases).map
        Completion.lease = leases := by
      unfold failingCycle
      rw [map_map]
      exact map_id _
    rw [same]
  · intro leases short
    refine ⟨?_, ?_⟩
    · rcases at_most_one short with isNil | ⟨lease, isSingle⟩
      · rw [isNil]
        trivial
      · rw [isSingle]
        refine ⟨second, third, ?_, trivial⟩
        intro res isResult
        cases isResult
        exact le_rfl
    · intro completion mem
      rcases mem_map.mp mem with ⟨_, _, isCompletion⟩
      rw [← isCompletion]
      exact le_rfl

theorem undisturbed_of_ok {Value : Type} {outcome : Except ProbeWorkerFailure Value}
    (isOk : outcome.isOk = true) : ¬Disturbed outcome := by
  intro disturbed
  rcases disturbed with ⟨_, raised⟩ | ⟨_, raised⟩
  · rw [raised] at isOk
    cases isOk
  · rw [raised] at isOk
    cases isOk

theorem sample_run :
    (sampleStart.worker.runOnce singleConfig (fun _ => 0) 1 firstCycle).1.isOk = true ∧
      (sampleMiddle.worker.runOnce singleConfig (fun _ => 0) 1 secondCycle).1.isOk = true ∧
      sampleMiddle.recorded.map ProbeObservation.observationId =
        [0x00000000000040008000000000000022] ∧
      (∀ obs ∈ sampleEnd.observedSince sampleStart sampleTarget,
        sameHealthGeneration obs.target sampleTarget .source = true) ∧
      (conclusive (sampleEnd.observedSince sampleStart sampleTarget)).length = 2 ∧
      ∀ obs ∈ conclusive
        (sampleEnd.observedSince sampleStart sampleTarget), obs.outcome = .unhealthy := by
  decide +kernel

theorem sample_end_reached : Reaches singleConfig (fun _ => 0) 1 sampleStart sampleEnd := by
  refine .cycle (.cycle .refl firstCycle ?_ ?_) secondCycle ?_ ?_
  · exact failing_cycle_legal (by decide) (by decide) (by decide)
  · exact undisturbed_of_ok sample_run.1
  · apply failing_cycle_legal
    · show timedeltaSeconds 2 ≤ timedeltaSeconds 32
      decide
    · show _ ∉ [_]
      decide
    · show _ ∉ sampleMiddle.recorded.map ProbeObservation.observationId
      rw [sample_run.2.2.1]
      decide
  · exact undisturbed_of_ok sample_run.2.1

/-- Two failed probes, the second as soon as the producer allows it, confirm the failure. -/
theorem routine_confirmation_spacing_two_failures :
    (sampleEnd.healthFor sampleTarget).healthState = .unhealthy := by
  have starting : sampleStart.Starting := ⟨rfl, rfl⟩
  have confirmed := (routine_confirmation_spacing starting .refl).2 sampleEnd sample_end_reached
    sampleTarget sample_run.2.2.2.1 sample_run.2.2.2.2.1.ge
  exact confirmed.1 sample_run.2.2.2.2.2

end WorkerSystem

end RtspProxy.Probes
