import RtspProxy.Nodes.Steps
import RtspProxy.Lib.Program

/-!
# `NodeControl`

The calls of the node and camera controls, and the commands of `NodeControl`
that change a port or settle a port change, call by call. A store call may fail
before or after it took effect, a runtime call may raise, and clocks, observations
and the answers of the operating system are part of the answer to a call. The
world remembers which node configurations the runtime applied successfully; no
program reads that. The fence of a disruption may raise on entry and on exit, and
never suppresses the exception of the block.
-/

namespace RtspProxy.Nodes

open Lib Lib.Program Lib.Program.Prog InMemoryNodeStore

inductive ControlRaised
  | node (error : NodeError)
  | storeUnavailable
  | runtime
  | fence
  | assertionError (code : String)
  deriving DecidableEq

structure NodeDisruptionObservation where
  activeReaderPublicIds : List PublicId
  observedAt : Datetime
  processId : Int
  processStartTicks : Int
  processBootId : UUID
  releaseId : String

/-- The part of `NodeDisruptionFenceLease` the control reads. -/
structure NodeDisruptionFenceLease where
  observation : NodeDisruptionObservation
  workDeadlineUnixMs : Option Int

structure NodeDisruptionConfirmationContext where
  accountId : UUID
  sessionId : UUID
  authzVersion : Int
  mfaVerifiedAtUnixMs : Int

/-- `_NodeDisruptionDetails`, without the process identity that only audit records carry. -/
structure NodeDisruptionDetails where
  affectedPublicIds : List PublicId
  activeReaderPublicIds : List PublicId
  blastRadiusSha256 : String
  readerBlastRadiusSha256 : String

/-- What a confirmation of a port change is bound to. -/
structure PortChangeConfirmation where
  nodeId : UUID
  oldPort : Int
  newPort : Int
  desiredRevision : Int
  registeredCameras : Int
  details : NodeDisruptionDetails
  context : Option NodeDisruptionConfirmationContext

/-- What a confirmation of a reconfiguration is bound to. -/
structure ReconfigureConfirmation where
  nodeId : UUID
  externalPort : Int
  desiredRevision : Int
  registeredCameras : Int
  details : NodeDisruptionDetails
  context : Option NodeDisruptionConfirmationContext
  targetReleaseId : String
  targetMediamtxBinarySha256 : String

inductive RecordKind
  | node
  | camera
  deriving DecidableEq

/-- A record that was made on behalf of a session and an idempotency key. -/
structure Creation where
  kind : RecordKind
  key : RequestKey
  id : UUID
  deriving DecidableEq

/-- What a registration request with an idempotency key ended with. -/
structure RegistrationAnswer where
  kind : RecordKind
  idempotency : RegistrationIdempotency
  outcome : Except ControlRaised UUID

/-- The callables a node registration hands to the store, as they answer this time. -/
structure PortChoices where
  newNodeId : UUID
  choosePort : Nat → List Int → Int
  externalBindable : Nat → Int → Bool
  apiBindable : Nat → Int → Bool
  metricsBindable : Nat → Int → Bool

inductive RegistrationCall
  | listNodes
  | lookupRegistration (idempotency : NodeRegistrationIdempotency)
  | portChoices
  | newCameraId
  | newPublicId
  | admitProbeEndpoint (sourceUrl : String)
  /-- An operation of the store, with the mutation context it is given. -/
  | operate (context : Option NodeMutationContext) (op : StoreOperation)
  /-- The request is answered; nothing reads what is noted here. -/
  | answer (answered : RegistrationAnswer)

abbrev RegistrationCall.Answer : RegistrationCall → Type
  | .listNodes => List MediaNode
  | .lookupRegistration _ => Option NodeRegistrationResult
  | .portChoices => PortChoices
  | .newCameraId => UUID
  | .newPublicId => String
  | .admitProbeEndpoint _ => Option ProbeEndpointIdentity
  | .operate _ op => op.Result
  | .answer _ => Unit

inductive ControlCall
  | acquireSlot
  | releaseSlot
  | acquireLifecycle (nodeId : UUID)
  | releaseLifecycle (nodeId : UUID)
  | getNode (nodeId : UUID)
  | listNodeCameras (nodeId : UUID)
  | listIncompletePortChanges
  | beginPortChange (changeId nodeId : UUID) (newPort : Int) (allowedPorts : List Int)
      (expectedRevision expectedRegisteredCameras : Int) (expectedBlastRadiusSha256 : String)
  | completePortChange (changeId : UUID) (observation : NodeRuntimeObservation)
  | abortPortChange (changeId : UUID) (observation : NodeRuntimeObservation)
  | applyRuntimeObservation (nodeId : UUID) (observation : NodeRuntimeObservation)
  | requestAdministrativeState (nodeId : UUID) (state : NodeState) (fence : Option NodeCommandFence)
  | newOperationId
  | clock
  | isPortBindable (port : Int)
  | verifyNodePortChange (confirmationToken : String) (want : PortChangeConfirmation)
  | verifyNodeReconfigure (confirmationToken : String) (want : ReconfigureConfirmation)
  | resolveDisruptionFence
  | enterFence (nodeId : UUID) (affectedPublicIds : List PublicId)
  | exitFence (completed raised : Bool)
  /-- `execute`, or `execute_until` where there is a deadline. -/
  | execute (action : NodeRuntimeAction) (node : MediaNode) (deadlineUnixMs : Option Int)
  | registration (req : RegistrationCall)

abbrev ControlAnswer : ControlCall → Type
  | .acquireSlot => Bool
  | .releaseSlot | .acquireLifecycle _ | .releaseLifecycle _ | .resolveDisruptionFence
  | .exitFence _ _ => Unit
  | .getNode _ => Option MediaNode
  | .listNodeCameras _ => List CameraPlacement
  | .listIncompletePortChanges => List NodePortChange
  | .beginPortChange .. => NodePortChange
  | .completePortChange .. | .abortPortChange .. | .applyRuntimeObservation ..
  | .requestAdministrativeState .. => MediaNode
  | .newOperationId => UUID
  | .clock => Datetime
  | .isPortBindable _ | .verifyNodePortChange .. | .verifyNodeReconfigure .. => Bool
  | .enterFence .. => NodeDisruptionFenceLease
  | .execute .. => NodeRuntimeObservation
  | .registration req => req.Answer

abbrev ControlProgram := Prog ControlCall ControlAnswer ControlRaised

structure ControlWorld where
  store : InMemoryNodeStore
  /-- The configurations the runtime applied successfully, the newest first. -/
  applied : List MediaNode
  /-- The records made for idempotency keys, the newest first. -/
  created : List Creation := []
  /-- The registration requests answered so far, the newest first. -/
  answered : List RegistrationAnswer := []

def NodeMutationContext.requestKey (ctx : NodeMutationContext) : Option RequestKey :=
  ctx.idempotencyKey.map fun key => (ctx.actorSessionId, key)

def newIds {Record : Type} (id : Record → UUID) (pre post : List Record) : List UUID :=
  (post.map id).filter fun known => known ∉ pre.map id

def recordsMade (pre post : InMemoryNodeStore) : List (RecordKind × UUID) :=
  (newIds MediaNode.id pre.nodes post.nodes).map (Prod.mk .node) ++
    (newIds CameraPlacement.id pre.cameras post.cameras).map (Prod.mk .camera)

/-- The creations an operation with this context accounts for. -/
def creations (ctx : Option NodeMutationContext) (pre post : InMemoryNodeStore) :
    List Creation :=
  match ctx.bind NodeMutationContext.requestKey with
  | none => []
  | some key => (recordsMade pre post).map fun made =>
    { kind := made.1, key := key, id := made.2 }

/-- What the code cannot predict about one call. -/
structure ControlChoice where
  fault : Fault := .none
  /-- The answer of a semaphore, of the operating system or of the confirmation service. -/
  granted : Bool := true
  now : Datetime := 0
  newId : UUID := 0
  lease : NodeDisruptionFenceLease :=
    { observation := { activeReaderPublicIds := [], observedAt := 0, processId := 1
                       processStartTicks := 1, processBootId := 0, releaseId := "0.1.0" }
      workDeadlineUnixMs := none }
  observation : NodeRuntimeObservation := { state := .running, health := .healthy }
  ports : PortChoices :=
    { newNodeId := 0, choosePort := fun _ cands => cands.headD 0
      externalBindable := fun _ _ => true, apiBindable := fun _ _ => true
      metricsBindable := fun _ _ => true }
  publicId : String := ""
  /-- The admission of a probe endpoint, or the reason it is rejected for. -/
  admitted : Except String (Option ProbeEndpointIdentity) := .ok none

variable [PythonText]

/-- A store operation, which may be lost before or after it takes effect. -/
def ControlWorld.operated (w : ControlWorld) (fault : Fault) (op : StoreOperation) :
    Except ControlRaised op.Result × ControlWorld :=
  fault.strike .storeUnavailable
    (match op.perform w.store with
      | .ok (res, _) => .ok res
      | .error error => .error (.node error),
      { w with store := op.apply w.store }) w

omit [PythonText] in
/-- An answer that changes nothing, or the exception in its place. -/
def ControlWorld.answers {Value : Type} (w : ControlWorld) (fault : Fault) (lost : ControlRaised)
    (answer : Except ControlRaised Value) : Except ControlRaised Value × ControlWorld :=
  fault.strike lost (answer, w) w

omit [PythonText] in
/-- The runtime applies a configuration; observing one applies nothing. -/
def ControlWorld.executed (w : ControlWorld) (action : NodeRuntimeAction) (node : MediaNode) :
    ControlWorld :=
  if action = .observe then w else { w with applied := node :: w.applied }

def admissionError (reason : String) : NodeError :=
  if reason = "probe_source_policy_not_configured" ∨ reason = "probe_destination_not_allowed" then
    .invalidCameraSource reason
  else .invalidCameraSource "camera_source_endpoint_rejected"

omit [PythonText] in
/-- The world with a later store, and the creations it accounts for. -/
def ControlWorld.advanced (w : ControlWorld) (ctx : Option NodeMutationContext)
    (later : InMemoryNodeStore) : ControlWorld :=
  { w with
    store := later
    created := creations ctx w.store later ++ w.created }

/-- A store operation with its mutation context. The memory of the process holds the store, so
the answer is not lost; a request that ends here is a thread that leaves. -/
def ControlWorld.performed (w : ControlWorld) (ctx : Option NodeMutationContext)
    (op : StoreOperation) : Except ControlRaised op.Result × ControlWorld :=
  ((op.perform w.store).map Prod.fst |>.mapError .node, w.advanced ctx (op.apply w.store))

def registrationRespond (choice : ControlChoice) (w : ControlWorld) :
    (req : RegistrationCall) → Except ControlRaised req.Answer × ControlWorld
  | .listNodes => (.ok w.store.nodes, w)
  | .lookupRegistration idempotency =>
    ((w.store.lookupRegistration idempotency).mapError .node, w)
  | .portChoices => (.ok choice.ports, w)
  | .newCameraId => (.ok choice.newId, w)
  | .newPublicId => (.ok choice.publicId, w)
  | .admitProbeEndpoint _ =>
    (choice.admitted.mapError fun reason => .node (admissionError reason), w)
  | .operate ctx op => w.performed ctx op
  | .answer answered => (.ok (), { w with answered := answered :: w.answered })

def controlRespond (choice : ControlChoice) (w : ControlWorld) :
    (req : ControlCall) → Except ControlRaised (ControlAnswer req) × ControlWorld
  | .acquireSlot => (.ok choice.granted, w)
  | .releaseSlot | .releaseLifecycle _ => (.ok (), w)
  | .acquireLifecycle nodeId =>
    if choice.granted = true ∧ ∃ node ∈ w.store.nodes, node.id = nodeId then (.ok (), w)
    else (.error (.node (.nodeNotFound "node_not_found")), w)
  | .getNode nodeId =>
    w.answers choice.fault .storeUnavailable (.ok (w.store.getNode nodeId))
  | .listNodeCameras nodeId =>
    w.answers choice.fault .storeUnavailable
      ((w.store.listNodeCameras nodeId).mapError .node)
  | .listIncompletePortChanges =>
    w.answers choice.fault .storeUnavailable (.ok w.store.listIncompletePortChanges)
  | .beginPortChange changeId nodeId newPort allowedPorts revision cams digest =>
    w.operated choice.fault
      (.beginPortChange changeId nodeId newPort allowedPorts revision cams digest)
  | .completePortChange changeId obs =>
    w.operated choice.fault (.completePortChange changeId obs choice.now)
  | .abortPortChange changeId obs =>
    w.operated choice.fault (.abortPortChange changeId obs choice.now)
  | .applyRuntimeObservation nodeId obs =>
    w.operated choice.fault (.applyRuntimeObservation nodeId obs choice.now)
  | .requestAdministrativeState nodeId st fence =>
    w.operated choice.fault (.requestAdministrativeState nodeId st fence)
  | .newOperationId => (.ok choice.newId, w)
  | .clock => (.ok choice.now, w)
  | .isPortBindable _ => (.ok choice.granted, w)
  | .verifyNodePortChange _ _ | .verifyNodeReconfigure _ _ => (.ok choice.granted, w)
  | .resolveDisruptionFence =>
    if choice.granted = true then (.ok (), w)
    else (.error (.node (.nodeRuntimeUnavailable "node_disruption_observation_unavailable")), w)
  | .enterFence _ _ => w.answers choice.fault .fence (.ok choice.lease)
  | .exitFence _ _ => w.answers choice.fault .fence (.ok ())
  | .execute action node _ =>
    if choice.fault = .none then (.ok choice.observation, w.executed action node)
    else (.error .runtime, w)
  | .registration req => registrationRespond choice w req

omit [PythonText] in
/-- Generated ids are new: an operation id when it is drawn, the id of a record when it is used. -/
def FreshControlCall (w : ControlWorld) : (req : ControlCall) →
    Except ControlRaised (ControlAnswer req) → Prop
  | .newOperationId, .ok id => w.store.Unused id
  | .registration (.operate _ op), _ => op.Fresh w.store
  | _, _ => True

def controlMachine : Machine ControlCall ControlAnswer ControlRaised ControlWorld where
  exec _ w req answer post := FreshControlCall w req answer ∧
    ∃ choice : ControlChoice, controlRespond choice w req = (answer, post)
  leave _ w := w

section Fingerprint

omit [PythonText] in
def NodeState.value : NodeState → String
  | .provisioning => "provisioning"
  | .stopped => "stopped"
  | .stopping => "stopping"
  | .starting => "starting"
  | .running => "running"
  | .draining => "draining"
  | .maintenance => "maintenance"
  | .failed => "failed"
  | .deleting => "deleting"

def nodeReaderBlastRadiusFingerprint (nodeId : UUID) (runtimeState : NodeState)
    (processId processStartTicks : Option Int) (processBootId : Option UUID)
    (releaseId : Option String) (activeReaderPublicIds : List PublicId) :
    Except NodeError String := do
  let readers := activeReaderPublicIds.eraseDups.mergeSort fun left right =>
    left.value ≤ right.value
  Raising.raiseIf (readers.length > 100) (.valueError "node_reader_blast_radius_invalid")
  return PythonText.sha256Hexdigest ("\n".intercalate
    ([nodeId.str, runtimeState.value, (processId.map toString).getD "none",
      (processStartTicks.map toString).getD "none", (processBootId.map UUID.str).getD "none",
      releaseId.getD "none"] ++ readers.map (·.value)))

end Fingerprint

namespace NodeControl

section Helpers

omit [PythonText]

def send (req : ControlCall) : ControlProgram (ControlAnswer req) := ask req

def compute {Value : Type} (out : Except NodeError Value) : ControlProgram Value :=
  .done (out.mapError .node)

/-- `try: body finally: last`, where `last` does not raise. -/
def finally_ {Value : Type} (body : ControlProgram Value) (last : ControlCall) :
    ControlProgram Value :=
  body.andThen fun out => (send last).andThen fun _ => .done out

def withDisruptionSlot {Value : Type} (body : ControlProgram Value) : ControlProgram Value := do
  if (← send .acquireSlot) = false then
    raise (.node (.nodeLifecycleBusy "node_disruption_busy"))
  else finally_ body .releaseSlot

def withLifecycleGuard {Value : Type} (nodeId : UUID) (body : ControlProgram Value) :
    ControlProgram Value := do
  send (.acquireLifecycle nodeId)
  finally_ body (.releaseLifecycle nodeId)

/-- `except Exception`. -/
def exceptAny {Value : Type} (body handler : ControlProgram Value) : ControlProgram Value :=
  body.handle fun _ => handler

/-- `with suppress(Exception): body`. -/
def suppress {Value : Type} (body : ControlProgram Value) : ControlProgram Unit :=
  body.andThen fun _ => .done (.ok ())

def requireNodeAndRuntime (hasRuntime : Bool) (nodeId : UUID) : ControlProgram MediaNode := do
  match ← send (.getNode nodeId) with
  | none => raise (.node (.nodeNotFound "node_not_found"))
  | some node =>
    if hasRuntime = false then
      raise (.node (.nodeRuntimeUnavailable "node_runtime_unavailable"))
    else return node

/-- The observation that is stored when the runtime could not be brought to a known state. -/
def failedObservation (appliedRevision : Int) : NodeRuntimeObservation :=
  { state := .failed, health := .unhealthy, appliedRevision := appliedRevision
    configCompatible := false }

/-- Twenty-one attempts; the pause between them is no call of the model. -/
def waitForPortRelease (port : Int) : Nat → ControlProgram Bool
  | 0 => return false
  | attempts + 1 => do
      if ← send (.isPortBindable port) then
        return true
      else waitForPortRelease port attempts

end Helpers

/-- The public ids and the fingerprint of the cameras on a node. -/
def nodeCameraDetails (node : MediaNode) : ControlProgram (List PublicId × String) := do
  let listed ← send (.listNodeCameras node.id)
  let cams := listed.mergeSort fun left right => left.publicId.value ≤ right.publicId.value
  if (cams.length : Int) ≠ node.registeredCameras then
    raise (.node (.nodeLifecycleConflict "node_registered_camera_count_changed"))
  else
    return (cams.map (·.publicId), cameraPlacementFingerprint
      (cams.map fun camera => (camera.id, camera.placementGeneration)))

def validatedDisruptionDetails (node : MediaNode) (affectedPublicIds : List PublicId)
    (blastRadiusSha256 : String) (obs : NodeDisruptionObservation) :
    ControlProgram NodeDisruptionDetails := do
  let now ← send .clock
  if obs.observedAt > now + timedeltaSeconds 1 ∨ obs.observedAt < now - timedeltaSeconds 30 ∨
      some obs.processId ≠ node.processId ∨
      some obs.processStartTicks ≠ node.processStartTicks ∨
      some obs.processBootId ≠ node.processBootId ∨
      obs.releaseId ≠ node.releaseId ∨
      ¬∀ reader ∈ obs.activeReaderPublicIds, reader ∈ affectedPublicIds then
    raise (.node (.nodeRuntimeUnavailable "node_disruption_observation_invalid"))
  else
    let fingerprint ← compute (nodeReaderBlastRadiusFingerprint node.id node.runtimeState
      (some obs.processId) (some obs.processStartTicks)
      (some obs.processBootId) (some obs.releaseId)
      obs.activeReaderPublicIds)
    return { affectedPublicIds := affectedPublicIds
             activeReaderPublicIds := obs.activeReaderPublicIds
             blastRadiusSha256 := blastRadiusSha256
             readerBlastRadiusSha256 := fingerprint }

omit [PythonText] in
def requireRuntimeInactive (node : MediaNode) : ControlProgram Unit := do
  let obs ← exceptAny (send (.execute .observe node none))
    (raise (.node (.nodeRuntimeUnavailable "node_inactive_proof_unavailable")))
  if obs.state ≠ .stopped ∨ obs.processId ≠ none ∨
      obs.processStartTicks ≠ none ∨ obs.processBootId ≠ none then
    raise (.node (.nodeRuntimeUnavailable "node_inactive_proof_invalid"))

def inactiveDisruptionDetails (node : MediaNode) (affectedPublicIds : List PublicId)
    (blastRadiusSha256 : String) : ControlProgram NodeDisruptionDetails := do
  let _ ← send .clock
  let fingerprint ← compute (nodeReaderBlastRadiusFingerprint node.id node.runtimeState none none
    none (some node.releaseId) [])
  return { affectedPublicIds := affectedPublicIds, activeReaderPublicIds := []
           blastRadiusSha256 := blastRadiusSha256, readerBlastRadiusSha256 := fingerprint }

/-- `with self._fenced_node_disruption_details(node) as (details, lease): body`. The lease is
complete where the body returns. -/
def withFencedNodeDisruptionDetails {Value : Type} (node : MediaNode)
    (body : NodeDisruptionDetails → Option NodeDisruptionFenceLease → ControlProgram Value) :
    ControlProgram Value := do
  let (affectedPublicIds, blastRadiusSha256) ← nodeCameraDetails node
  if node.runtimeState ≠ .running then
    requireRuntimeInactive node
    let details ← inactiveDisruptionDetails node affectedPublicIds blastRadiusSha256
    body details none
  else
    send .resolveDisruptionFence
    let failed : ControlRaised := .node (.nodeRuntimeUnavailable "node_disruption_fence_failed")
    let lease ← exceptAny (send (.enterFence node.id affectedPublicIds)) (raise failed)
    let block : ControlProgram Value := do
      let details ← validatedDisruptionDetails node affectedPublicIds blastRadiusSha256
        lease.observation
      body details (some lease)
    block.andThen fun out =>
      match out with
      | .error error => (send (.exitFence false true)).andThen fun exited =>
        match exited with
        | .ok _ => raise error
        | .error _ => raise failed
      | .ok value => (send (.exitFence true false)).andThen fun exited =>
        match exited with
        | .ok _ => return value
        | .error _ => raise failed

omit [PythonText] in
/-- `change.id not in incomplete_ids`, with the node as it is stored. -/
def readBack (nodeId : UUID) : ControlProgram (Option MediaNode × List UUID) := do
  let committed ← send (.getNode nodeId)
  let incomplete ← send .listIncompletePortChanges
  return (committed, incomplete.map (·.id))

section Rollback

omit [PythonText]

variable (cur : MediaNode) (change : NodePortChange)

/-- What follows when `abort_port_change` raised: the store is asked what it holds. -/
def resolveAbort : ControlProgram Unit := do
  let (committed, incompleteIds) ← exceptAny (readBack cur.id)
    (raise (.node (.nodeRuntimeFailed "node_port_change_rollback_commit_unknown" cur.id)))
  let restored := committed.any fun node =>
    decide (node.externalPort = change.oldPort ∧ node.desiredRevision = change.sourceRevision ∧
      node.appliedRevision = change.sourceRevision ∧ change.id ∉ incompleteIds)
  if restored = false then
    suppress (send (.applyRuntimeObservation cur.id (failedObservation
      (min cur.appliedRevision
        ((committed.map (·.desiredRevision)).getD cur.desiredRevision)))))
    raise (.node (.nodeRuntimeFailed "node_port_change_rollback_failed" cur.id))

/-- `_rollback_port_change`, which always raises. -/
def rollbackPortChange (deadline : Option Int) : ControlProgram Unit := do
  let rollbackObservation ← exceptAny
    (send (.execute .reconfigureRestart cur deadline))
    (do
      suppress (send (.applyRuntimeObservation cur.id
        (failedObservation cur.appliedRevision)))
      raise (.node (.nodeRuntimeFailed "node_port_change_rollback_failed" cur.id)))
  exceptAny
    (do
      let _ ← send (.abortPortChange change.id rollbackObservation))
    (resolveAbort cur change)
  raise (.node (.nodeRuntimeFailed "node_port_change_rolled_back" cur.id))

end Rollback

omit [PythonText] in
/-- `_rollback_port_change` and the assertion after it. -/
def rolledBack (cur : MediaNode) (change : NodePortChange) (deadline : Option Int) :
    ControlProgram MediaNode := do
  rollbackPortChange cur change deadline
  raise (.assertionError "unreachable")

omit [PythonText] in
/-- What follows when `complete_port_change` raised: the store is asked what it holds. -/
def resolveCommit (cur : MediaNode) (change : NodePortChange) (deadline : Option Int) :
    ControlProgram MediaNode := do
  let commitUnknown : ControlRaised :=
    .node (.nodeRuntimeFailed "node_port_change_commit_unknown" cur.id)
  let (committed, incompleteIds) ← exceptAny (readBack cur.id) (raise commitUnknown)
  match committed with
  | none => raise commitUnknown
  | some node =>
    if node.externalPort = change.newPort ∧ node.desiredRevision = change.targetRevision ∧
        node.appliedRevision = change.targetRevision ∧ change.id ∉ incompleteIds then
      return node
    else if node.externalPort ≠ change.oldPort ∨ node.desiredRevision ≠ change.sourceRevision then
      raise commitUnknown
    else rolledBack cur change deadline

omit [PythonText] in
/-- The part of `change_port` after the change was begun. -/
def carryOutPortChange (cur : MediaNode) (change : NodePortChange)
    (deadline : Option Int) : ControlProgram MediaNode := do
  let target := { cur with
    externalPort := change.newPort, desiredRevision := change.targetRevision }
  (send (.execute .reconfigureRestart target deadline)).andThen fun executed =>
    match executed with
    | .error _ => rolledBack cur change deadline
    | .ok targetObservation => do
        if (← waitForPortRelease change.oldPort 21) = false then
          rolledBack cur change deadline
        else
          exceptAny (send (.completePortChange change.id targetObservation))
            (resolveCommit cur change deadline)

omit [PythonText] in
/-- `_confirmed_mutation_context`: the operator of the confirmation is that of the mutation. -/
def confirmedMutationContext (mutationContext : Option NodeMutationContext)
    (confirmationContext : Option NodeDisruptionConfirmationContext) : Except NodeError Unit :=
  match mutationContext with
  | none => return ()
  | some mutation =>
    match confirmationContext with
    | none => throw (.nodeDisruptionConfirmationRequired "node_disruption_confirmation_required")
    | some confirmed =>
      Raising.raiseIf (confirmed.accountId ≠ mutation.actorAccountId ∨
          confirmed.sessionId ≠ mutation.actorSessionId ∨
          confirmed.authzVersion ≠ mutation.authzVersion)
        (.nodeDisruptionConfirmationRequired "node_disruption_confirmation_required")

structure ChangePortArguments where
  hasRuntime : Bool
  hasConfirmations : Bool
  nodeId : UUID
  newPort : Int
  allowedPorts : List Int
  confirmationToken : Option String
  confirmationContext : Option NodeDisruptionConfirmationContext
  fence : Option NodeCommandFence
  mutationContext : Option NodeMutationContext

omit [PythonText] in
def confirmed (args : ChangePortArguments) (cur : MediaNode)
    (details : NodeDisruptionDetails) : ControlProgram Bool :=
  match args.confirmationToken with
  | none => return false
  | some token =>
    if args.hasConfirmations = false then return false
    else send (.verifyNodePortChange token
      { nodeId := cur.id, oldPort := cur.externalPort, newPort := args.newPort
        desiredRevision := cur.desiredRevision
        registeredCameras := cur.registeredCameras, details := details
        context := args.confirmationContext })

omit [PythonText] in
def changePortFenced (args : ChangePortArguments) (cur : MediaNode)
    (details : NodeDisruptionDetails) (lease : Option NodeDisruptionFenceLease) :
    ControlProgram MediaNode := do
  if (← confirmed args cur details) = false then
    raise (.node (.nodeDisruptionConfirmationRequired "node_disruption_confirmation_required"))
  else if (← send (.isPortBindable args.newPort)) = false then
    raise (.node (.nodePortInUse "node_port_in_use"))
  else
    compute (confirmedMutationContext args.mutationContext args.confirmationContext)
    let changeId ← send .newOperationId
    let change ← send (.beginPortChange changeId args.nodeId args.newPort
      args.allowedPorts cur.desiredRevision cur.registeredCameras
      details.blastRadiusSha256)
    carryOutPortChange cur change (lease.bind (·.workDeadlineUnixMs))

def changePort (args : ChangePortArguments) : ControlProgram MediaNode :=
  withDisruptionSlot (withLifecycleGuard args.nodeId (do
    let cur ← requireNodeAndRuntime args.hasRuntime args.nodeId
    compute (requireNodeCommandFence cur args.fence)
    withFencedNodeDisruptionDetails cur (changePortFenced args cur)))

omit [PythonText] in
def setAdministrativeState (nodeId : UUID) (st : NodeState) (fence : Option NodeCommandFence) :
    ControlProgram MediaNode :=
  withLifecycleGuard nodeId (do
    if st ≠ .draining ∧ st ≠ .maintenance ∧ st ≠ .running then
      raise (.node (.nodeLifecycleConflict "node_administrative_transition_invalid"))
    else send (.requestAdministrativeState nodeId st fence))

omit [PythonText] in
def recoverPortChange (change : NodePortChange) : ControlProgram Unit := do
  match ← send (.getNode change.nodeId) with
  | none => return ()
  | some node =>
    exceptAny
      (withLifecycleGuard node.id (do
        let rollback := { node with
          externalPort := change.oldPort, desiredRevision := change.sourceRevision }
        let obs ← send (.execute .reconfigureRestart rollback none)
        let _ ← send (.abortPortChange change.id obs)))
      (do
        let _ ← send (.applyRuntimeObservation node.id (failedObservation node.appliedRevision)))

omit [PythonText] in
def recoverEach : List NodePortChange → ControlProgram Unit
  | [] => return ()
  | change :: rest => do
      recoverPortChange change
      recoverEach rest

omit [PythonText] in
def recoverPortChanges : ControlProgram Unit := do
  let changes ← send .listIncompletePortChanges
  recoverEach changes

end NodeControl

omit [PythonText] in
instance (w : ControlWorld) (req : ControlCall)
    (answer : Except ControlRaised (ControlAnswer req)) :
    Decidable (FreshControlCall w req answer) := by
  unfold FreshControlCall
  split <;> infer_instance

/-- The run in which the calls answer as chosen, one choice a call; nothing fails after the last. -/
def play {Value : Type} (choices : List ControlChoice) (program : ControlProgram Value)
    (w : ControlWorld) : Option (Except ControlRaised Value × ControlWorld) :=
  match program with
  | .done out => some (out, w)
  | .call req next =>
    let resp := controlRespond (choices.headD {}) w req
    if FreshControlCall w req resp.1 then
      play choices.tail (next resp.1) resp.2
    else none

variable {choices : List ControlChoice}

theorem play_runs {Value : Type} {program : ControlProgram Value}
    {w post : ControlWorld} {out : Except ControlRaised Value}
    (played : play choices program w = some (out, post)) :
    Runs controlMachine 0 program w out post := by
  induction program generalizing choices w with
  | done res =>
    cases played
    exact .done _ _
  | call req next ih =>
    simp only [play] at played
    split_ifs at played with fresh
    exact .call ⟨fresh, choices.headD {}, rfl⟩ (ih _ played)

def playedWorld {Value : Type} (choices : List ControlChoice) (program : ControlProgram Value)
    (w : ControlWorld) : ControlWorld :=
  ((play choices program w).map Prod.snd).getD w

theorem played_world_runs {Value : Type} {program : ControlProgram Value} {w : ControlWorld}
    (finishes : (play choices program w).isSome = true) :
    ∃ out, Runs controlMachine 0 program w out (playedWorld choices program w) := by
  obtain ⟨⟨out, post⟩, played⟩ := Option.isSome_iff_exists.mp finishes
  refine ⟨out, ?_⟩
  rw [playedWorld, played]
  exact play_runs played

end RtspProxy.Nodes
