import RtspProxy.Probes.SchedulerTimes
import RtspProxy.Probes.WorkStore

/-!
# The monitoring worker

`ProbeMonitoringWorker.run_once`: a page of active profiles is joined with the
current cameras into candidates, the due ones are submitted, the scheduler hands
out leases, and each lease ends as an observation, an attempt without one, or a
cancellation. What the worker reads from elsewhere (cameras, nodes, runtimes,
the executor, the clock, drawn identifiers) is a `Cycle`, chosen freely for every
call. The observations that were stored are kept in order; the row of
`probe_observations` for a camera and method is the last of them.
-/

namespace RtspProxy.Probes

open Nodes Lib

deriving instance DecidableEq for ProbeObservation

/-- What ends a call of `run_once` early, by the call that raised. -/
inductive ProbeWorkerFailure
  | work (err : ProbeWorkerError)
  | probe (err : ProbeError)
  | unavailable
  | record (err : ProbeError)
  | mark (err : ProbeWorkerError)

structure PostgresProbeObservationStore where
  recorded : List ProbeObservation
  health : UUID → ProbeMethod → Option ProbeHealthRecord

namespace PostgresProbeObservationStore

def empty : PostgresProbeObservationStore := { recorded := [], health := fun _ _ => none }

variable (store : PostgresProbeObservationStore)

def latest (cameraId : UUID) (method : ProbeMethod) : Option ProbeObservation :=
  (store.recorded.filter fun obs =>
    decide (obs.target.cameraId = cameraId) && decide (obs.method = method)).getLast?

/-- `_health_record_from_row`: a row of another generation counts as no row. -/
def healthFor (target : ProbeTarget) (method : ProbeMethod) : ProbeHealthRecord :=
  ((store.health target.cameraId method).getD (.forTarget target method)).forCurrentTarget target

/-- The condition of `ON CONFLICT DO UPDATE`: an exact replay, or a later observation. -/
def overwrites (obs : ProbeObservation) : Bool :=
  match store.latest obs.target.cameraId obs.method with
  | none => true
  | some held => held = obs ∨
      (held.observationId ≠ obs.observationId ∧ held.completedAt < obs.completedAt)

/-- `_advance_health` within the transaction of `record_if_current`. -/
def advanceHealth (obs : ProbeObservation) (confirmationSpacing : Int) :
    Except ProbeError PostgresProbeObservationStore := do
  let prev := store.healthFor obs.target obs.method
  if prev.lastObservationId = some obs.observationId then return store
  let next ← prev.observeDeep obs confirmationSpacing
  let rows := store.health obs.target.cameraId
  return { store with
    health := Function.update store.health obs.target.cameraId
      (Function.update rows obs.method (some next)) }

/-- `current` tells whether the `WHERE EXISTS` of the upsert finds the camera unchanged and the
observation recent. -/
def recordIfCurrent (current : Bool) (confirmationSpacing : Int) (obs : ProbeObservation) :
    Except ProbeError (Bool × PostgresProbeObservationStore) := do
  Raising.raiseIf (¬(timedeltaSeconds 1 ≤ confirmationSpacing ∧
      confirmationSpacing ≤ timedeltaSeconds 3600))
    (.valueError "probe_confirmation_spacing_invalid")
  requireProbeEligible obs.target obs.method
  if current && store.overwrites obs then
    let advanced ← store.advanceHealth obs confirmationSpacing
    return (true, { advanced with recorded := store.recorded ++ [obs] })
  else return (false, store)

end PostgresProbeObservationStore

/-- What `run_once` uses of a `CameraRuntimeObservation`. -/
structure CameraRuntime where
  ready : Bool
  occupied : Bool

/-- What `_load_candidates` reads besides the profiles: `examined` rows before `cancelled()`, the
cameras and nodes, the runtimes (none where `observe` raises an error that skips the row), and
whether `restore` admits a camera. -/
structure CandidateReadings where
  examined : Nat
  cameras : List CameraPlacement
  nodes : List MediaNode
  observe : UUID → Option CameraRuntime
  restores : CameraPlacement → Bool

/-- `_ExecutableCandidate` without the endpoint, which only the executor sees. -/
structure ExecutableCandidate where
  routine : RoutineProbeCandidate
  profileRevision : Int

namespace ExecutableCandidate

def cameraId (item : ExecutableCandidate) : UUID := item.routine.target.cameraId

def byCamera {Value : Type} (value : ExecutableCandidate → Value)
    (items : List ExecutableCandidate) : Dict UUID Value :=
  items.foldl (fun dict item => dict.set item.cameraId (value item)) .empty

end ExecutableCandidate

namespace CandidateReadings

variable (readings : CandidateReadings)

/-- The `ProbeTarget` of a row, if its constructor accepts it. -/
def buildTarget (row : ProfileRow) (cam : CameraPlacement) (node : MediaNode)
    (endpoint : ProbeEndpointIdentity) (runtime : CameraRuntime) : Option ProbeTarget :=
  if valid : (cam.id.isVersion4 = true ∧ cam.nodeId.isVersion4 = true) ∧
      isSiteKey endpoint.siteKey = true ∧
      (1 ≤ cam.desiredRevision ∧ 1 ≤ cam.placementGeneration) ∧
      endpoint.generation.isVersion4 = true then
    some {
      cameraId := cam.id
      publicId := cam.publicId
      nodeId := cam.nodeId
      siteKey := endpoint.siteKey
      desiredRevision := cam.desiredRevision
      placementGeneration := cam.placementGeneration
      nodeState := node.state
      enabled := true
      maintenance := node.maintenance
      occupied := runtime.occupied
      sourcePullActive := runtime.ready
      maxSourceSessions := row.profile.maxSourceSessions
      sourceEndpointGeneration := some endpoint.generation
      identityValid := valid.1
      siteKeyValid := valid.2.1
      generationValid := valid.2.2.1
      stateValid := by simp
      sessionLimitValid := row.profile.sessionsValid
      endpointValid := by
        intro generation isGeneration
        cases isGeneration
        exact valid.2.2.2 }
  else none

def readTarget (row : ProfileRow) : Option ProbeTarget := do
  let cam ← readings.cameras.find? fun cam => decide (cam.id = row.cameraId)
  guard (cam.state = .enabled)
  let node ← readings.nodes.find? fun node => decide (node.id = cam.nodeId)
  let endpoint ← cam.probeEndpoint
  let runtime ← readings.observe cam.id
  guard (readings.restores cam = true)
  buildTarget row cam node endpoint runtime

/-- `_load_candidates`, from the rows that are examined. -/
def loadCandidates (observations : PostgresProbeObservationStore) :
    List ProfileRow → Except ProbeError (List ExecutableCandidate)
  | [] => .ok []
  | row :: rest =>
    match readings.readTarget row with
    | none => loadCandidates observations rest
    | some target => do
        let routine ← RoutineProbeCandidate.build target row.profile
          (observations.healthFor target .source) row.lastAttemptAt row.updatedAt
        let others ← loadCandidates observations rest
        return { routine, profileRevision := row.revision } :: others

end CandidateReadings

/-- What `future.result()` does: it raises `ProbeWorkerUnavailable` or another exception, returns
`None`, or returns a result. -/
inductive ProbeExecution
  | unavailable | failed | refused
  | returned (res : ProbeExecutionResult)

/-- The end of one future: when it is taken, the identifier an observation would get, whether the
camera is still current then, and what the database clock reads when the attempt is marked. -/
structure Completion where
  lease : ProbeLease
  execution : ProbeExecution
  now : Datetime
  observationId : UUID4
  current : Bool
  moment : Datetime

def Completion.executorFailure (completion : Completion) : ProbeExecutionResult where
  outcome := .inconclusive
  completedAt := max completion.lease.startedAt
    (min completion.now completion.lease.leaseExpiresAt)
  failureClass := some .executor
  valid := executor_contract

structure ProbeMonitoringWorker where
  work : PostgresProbeWorkStore
  observations : PostgresProbeObservationStore
  scheduler : ProbeScheduler

structure ProbeWorkerCycle where
  candidates : Nat
  submitted : Nat
  executed : Nat
  persisted : Nat

/-- Everything a call of `run_once` is told from outside. The completions come in the order in
which the futures end; `ends` is the time when the call returns. -/
structure Cycle where
  now : Datetime
  readings : CandidateReadings
  requestIds : Nat → UUID4
  leaseTokens : Nat → UUID4
  completions : List ProbeLease → List Completion
  ends : Datetime

/-- The worker within the loop over the futures, with what it counted. -/
structure Settling where
  worker : ProbeMonitoringWorker
  executed : Nat
  persisted : Nat

namespace Settling

variable (st : Settling)

def withScheduler (sched : ProbeScheduler) : Settling :=
  { st with worker := { st.worker with scheduler := sched } }

/-- `self._scheduler.cancel(lease)`, then what the branch does. -/
def cancelled (lease : ProbeLease) (outcome : Except ProbeWorkerFailure Unit) :
    Except ProbeWorkerFailure Unit × Settling :=
  match st.worker.scheduler.cancel lease with
  | (.ok (), sched) => (outcome, st.withScheduler sched)
  | (.error err, sched) => (.error (.probe err), st.withScheduler sched)

def markAttempt (item : ExecutableCandidate) (completion : Completion) :
    Except ProbeWorkerFailure Unit × Settling :=
  match st.worker.work.markAttempt completion.lease.target.cameraId item.profileRevision
      completion.moment with
  | .error err => (.error (.mark err), st)
  | .ok work => (.ok (), { st with worker := { st.worker with work } })

/-- A result is classified, completes its lease and is recorded; then the attempt is marked. -/
def executedWith (item : ExecutableCandidate) (completion : Completion)
    (res : ProbeExecutionResult) : Except ProbeWorkerFailure Unit × Settling :=
  let st := { st with executed := st.executed + 1 }
  match st.worker.scheduler.complete completion.lease (item.routine.profile.classify res)
      completion.observationId with
  | (.error (.valueError _), sched) =>
    (st.withScheduler sched).markAttempt item completion
  | (.error err, sched) => (.error (.probe err), st.withScheduler sched)
  | (.ok obs, sched) =>
    let st := st.withScheduler sched
    match st.worker.observations.recordIfCurrent completion.current
        item.routine.profile.confirmationInterval obs with
    | .error err => (.error (.record err), st)
    | .ok (persisted, observations) =>
      let st :=
        { st with
          worker := { st.worker with observations }
          persisted := st.persisted + if persisted then 1 else 0 }
      st.markAttempt item completion

def settle (items : Dict UUID ExecutableCandidate) (completion : Completion) (st : Settling) :
    Except ProbeWorkerFailure Unit × Settling :=
  match items.get completion.lease.target.cameraId with
  | none => (.error (.probe .keyError), st)
  | some item =>
    match completion.execution with
    | .unavailable => st.cancelled completion.lease (.error .unavailable)
    | .refused => st.cancelled completion.lease (.ok ())
    | .failed => st.executedWith item completion completion.executorFailure
    | .returned res => st.executedWith item completion res

end Settling

namespace ProbeMonitoringWorker

variable (cfg : ProbeSchedulerConfig) (digestHead : UUID → Nat) (batchLimit : Nat)

/-- `run_once` from the leases on. -/
def settleLeases (cycle : Cycle) (executable : List ExecutableCandidate) (submitted : Nat)
    (leases : List ProbeLease) (worker : ProbeMonitoringWorker) :
    Except ProbeWorkerFailure ProbeWorkerCycle × ProbeMonitoringWorker :=
  let items := ExecutableCandidate.byCamera id executable
  if leases.any fun lease => (items.get lease.target.cameraId).isNone then
    (.error (.probe .keyError), worker)
  else
    match Raising.forEach (Settling.settle items) (cycle.completions leases)
        { worker, executed := 0, persisted := 0 } with
    | (.error err, st) => (.error err, st.worker)
    | (.ok (), st) =>
      (.ok {
        candidates := executable.length
        submitted := submitted
        executed := st.executed
        persisted := st.persisted }, st.worker)

/-- `run_once` with the candidates it loaded. -/
def runCandidates (cycle : Cycle) (executable : List ExecutableCandidate)
    (worker : ProbeMonitoringWorker) :
    Except ProbeWorkerFailure ProbeWorkerCycle × ProbeMonitoringWorker :=
  match RoutineProbeProducer.enqueue cfg digestHead batchLimit
      (ExecutableCandidate.byCamera ExecutableCandidate.routine executable) cycle.now
      cycle.requestIds worker.scheduler with
  | (.error err, sched) => (.error (.probe err), { worker with scheduler := sched })
  | (.ok submitted, sched) =>
    match sched.claimAvailable cfg cycle.now
        (ExecutableCandidate.byCamera (fun item => item.routine.target) executable)
        cycle.leaseTokens with
    | (.error err, sched) => (.error (.probe err), { worker with scheduler := sched })
    | (.ok leases, sched) =>
      settleLeases cycle executable submitted.length leases { worker with scheduler := sched }

def runOnce (cycle : Cycle) (worker : ProbeMonitoringWorker) :
    Except ProbeWorkerFailure ProbeWorkerCycle × ProbeMonitoringWorker :=
  match worker.work.assertOwned with
  | .error err => (.error (.work err), worker)
  | .ok () =>
    match worker.work.activeProfiles batchLimit with
    | .error err => (.error (.work err), worker)
    | .ok (rows, work) =>
      match cycle.readings.loadCandidates worker.observations
          (rows.take cycle.readings.examined) with
      | .error err => (.error (.probe err), { worker with work })
      | .ok executable =>
        runCandidates cfg digestHead batchLimit cycle executable { worker with work }

end ProbeMonitoringWorker

/-- The call raised in `record_if_current` or in `mark_attempt`. -/
def Disturbed {Value : Type} (outcome : Except ProbeWorkerFailure Value) : Prop :=
  (∃ err, outcome = .error (.record err)) ∨ ∃ err, outcome = .error (.mark err)

/-- One clock goes on through the completions: the time a future is taken, at which its result is
already complete, and then the time its attempt is marked. -/
def Ticks : Datetime → List Completion → Prop
  | _, [] => True
  | clock, completion :: rest =>
    clock ≤ completion.now ∧ completion.now ≤ completion.moment ∧
      (∀ res, completion.execution = .returned res → res.completedAt ≤ completion.now) ∧
      Ticks completion.moment rest

/-- The worker, the request identifiers drawn so far and the time. -/
structure WorkerSystem where
  worker : ProbeMonitoringWorker
  drawn : List UUID
  clock : Datetime

namespace WorkerSystem

variable (cfg : ProbeSchedulerConfig) (digestHead : UUID → Nat) (batchLimit : Nat)

def recorded (sys : WorkerSystem) : List ProbeObservation :=
  sys.worker.observations.recorded

def healthFor (sys : WorkerSystem) (target : ProbeTarget) : ProbeHealthRecord :=
  sys.worker.observations.healthFor target .source

/-- The source observations of the target's camera recorded since an earlier state of the run. -/
def observedSince (sys earlier : WorkerSystem) (target : ProbeTarget) : List ProbeObservation :=
  (sys.recorded.drop earlier.recorded.length).filter fun obs =>
    decide (obs.target.cameraId = target.cameraId) && decide (obs.method = .source)

/-- What holds of the surroundings of a call: one clock, `uuid4()` does not repeat, and every future
ends once. A call claims no more leases than the global limit. -/
structure Legal (sys : WorkerSystem) (cycle : Cycle) : Prop where
  later : sys.clock ≤ cycle.now ∧ cycle.now ≤ cycle.ends
  requests : ((List.range batchLimit).map fun index => (cycle.requestIds index).val).Nodup ∧
    ∀ index < batchLimit, (cycle.requestIds index).val ∉ sys.drawn
  observations : ∀ leases, leases.length ≤ cfg.globalLimit →
    ((cycle.completions leases).map fun completion => completion.observationId.val).Nodup ∧
      ∀ completion ∈ cycle.completions leases,
        completion.observationId.val ∉ sys.recorded.map ProbeObservation.observationId
  answers : ∀ leases, leases.length ≤ cfg.globalLimit →
    ((cycle.completions leases).map Completion.lease).Perm leases
  ticks : ∀ leases, leases.length ≤ cfg.globalLimit → Ticks cycle.now (cycle.completions leases) ∧
      ∀ completion ∈ cycle.completions leases, completion.moment ≤ cycle.ends

def runCycle (sys : WorkerSystem) (cycle : Cycle) : WorkerSystem where
  worker := (sys.worker.runOnce cfg digestHead batchLimit cycle).2
  drawn := (List.range batchLimit).map (fun index => (cycle.requestIds index).val) ++ sys.drawn
  clock := cycle.ends

/-- Runs: cycles of the worker, changes of the tables by others that edit no profile (rows of
removed cameras simply stay), and restarts of the process. -/
inductive Reaches (start : WorkerSystem) : WorkerSystem → Prop
  | refl : Reaches start start
  | cycle {sys : WorkerSystem} (reached : Reaches start sys) (cycle : Cycle)
      (legal : Legal cfg batchLimit sys cycle)
      (undisturbed : ¬Disturbed (sys.worker.runOnce cfg digestHead batchLimit cycle).1) :
      Reaches start (sys.runCycle cfg digestHead batchLimit cycle)
  | tables {sys : WorkerSystem} (reached : Reaches start sys) (work : PostgresProbeWorkStore)
      (unedited : ∀ row ∈ sys.worker.work.profiles, row ∈ work.profiles) :
      Reaches start { sys with worker := { sys.worker with work } }
  | restart {sys : WorkerSystem} (reached : Reaches start sys) :
      Reaches start { sys with worker := { sys.worker with scheduler := .initial } }

/-- The worker before its first cycle; profiles may exist already. -/
def Starting (sys : WorkerSystem) : Prop :=
  sys.worker.scheduler = .initial ∧ sys.worker.observations = .empty

end WorkerSystem

end RtspProxy.Probes
