import RtspProxy.Nodes.Validation
import RtspProxy.Lib.RecordTable

/-!
# `InMemoryNodeStore`, node operations

Every public operation runs under the store's lock and is therefore one atomic
transition `InMemoryNodeStore → Except NodeError (Result × InMemoryNodeStore)`.
No operation writes before its last check, so an operation that raises leaves
the store as it was. `self._nodes[self._nodes.index(node)] = updated` is `putNode`.
Arguments that are callables (port choice, bind check, id factory) and the
clocks an operation reads are passed as the values they return.
-/

namespace RtspProxy.Nodes

open Lib.Raising Lib Lib.RecordTable

/-- A registration request: the account, the request hash and the record made for it. -/
structure RegistrationRequest (Target : Type) where
  actorAccountId : UUID
  requestSha256 : String
  target : Target
  deriving DecidableEq

/-- `(actor_session_id, idempotency_key)`. -/
abbrev RequestKey := UUID × UUID

structure InMemoryNodeStore where
  nodes : List MediaNode := []
  cameras : List CameraPlacement := []
  cameraMoves : List CameraMove := []
  portChanges : List NodePortChange := []
  registrationRequests : List (RequestKey × RegistrationRequest UUID) := []
  cameraRegistrationRequests : List (RequestKey × RegistrationRequest (Option UUID)) := []

def RegistrationIdempotency.requestKey (idempotency : RegistrationIdempotency) : RequestKey :=
  (idempotency.actorSessionId, idempotency.key)

def assign {Value : Type} (key : RequestKey) (value : Value) (entries : List (RequestKey × Value)) :
    List (RequestKey × Value) :=
  if entries.any (fun entry => entry.1 = key) then
    replace Prod.fst (key, value) entries
  else entries ++ [(key, value)]

namespace InMemoryNodeStore

def findNode (store : InMemoryNodeStore) (nodeId : UUID) : Option MediaNode :=
  lookup MediaNode.id nodeId store.nodes

/-- `next((camera ...), None)` over all cameras, the deleted ones included. -/
def findCamera (store : InMemoryNodeStore) (cameraId : UUID) : Option CameraPlacement :=
  lookup CameraPlacement.id cameraId store.cameras

def findMove (store : InMemoryNodeStore) (moveId : UUID) : Option CameraMove :=
  lookup CameraMove.id moveId store.cameraMoves

def findPortChange (store : InMemoryNodeStore) (changeId : UUID) : Option NodePortChange :=
  lookup NodePortChange.id changeId store.portChanges

def putNode (store : InMemoryNodeStore) (node : MediaNode) : InMemoryNodeStore :=
  { store with nodes := replace MediaNode.id node store.nodes }

def putCamera (store : InMemoryNodeStore) (cam : CameraPlacement) : InMemoryNodeStore :=
  { store with cameras := replace CameraPlacement.id cam store.cameras }

def putMove (store : InMemoryNodeStore) (move : CameraMove) : InMemoryNodeStore :=
  { store with cameraMoves := replace CameraMove.id move store.cameraMoves }

def putPortChange (store : InMemoryNodeStore) (change : NodePortChange) : InMemoryNodeStore :=
  { store with portChanges := replace NodePortChange.id change store.portChanges }

def camerasOn (store : InMemoryNodeStore) (nodeId : UUID) : List CameraPlacement :=
  store.cameras.filter fun cam => cam.nodeId = nodeId ∧ cam.state ≠ .deleted

def listNodeActiveMoves (store : InMemoryNodeStore) (nodeId : UUID) : List CameraMove :=
  store.cameraMoves.filter fun move =>
    (nodeId = move.sourceNodeId ∨ nodeId = move.targetNodeId) ∧
      cameraMoveIsTerminal move.state = false

def nodeHasPreparedPortChange (store : InMemoryNodeStore) (nodeId : UUID) : Bool :=
  store.portChanges.any fun change => change.nodeId = nodeId ∧ change.state = .prepared

def cameraHasActiveMove (store : InMemoryNodeStore) (cameraId : UUID) : Bool :=
  store.cameraMoves.any fun move =>
    move.cameraId = cameraId ∧ cameraMoveIsTerminal move.state = false

def listIncompletePortChanges (store : InMemoryNodeStore) : List NodePortChange :=
  store.portChanges.filter fun change => change.state = .prepared

/-- Arguments of `register_automatically`; the bind check may answer
differently in each of the three port selections. -/
structure RegisterArguments where
  name : String
  allowedPorts : List Int
  maxNodes : Int
  preferredPort : Option Int
  choosePort : Nat → List Int → Int
  newNodeId : UUID
  apiPorts : List Int
  metricsPorts : List Int
  releaseId : String
  mediamtxBinarySha256 : String
  creationMode : NodeCreationMode
  externalBindable : Nat → Int → Bool
  apiBindable : Nat → Int → Bool
  metricsBindable : Nat → Int → Bool

/-- External ports of nodes and the new ports of prepared port changes. -/
def occupiedPorts (store : InMemoryNodeStore) : List Int :=
  store.nodes.map (·.externalPort) ++ store.listIncompletePortChanges.map (·.newPort)

def occupiedManagementPorts (store : InMemoryNodeStore) : List Int :=
  store.nodes.flatMap fun node => [node.apiPort, node.metricsPort]

/-- `except NodePortRangeExhausted` around the two management selections. -/
def managementPort (selected : Except NodeError Int) : Except NodeError Int :=
  match selected with
  | .error (.nodePortRangeExhausted _) =>
    .error (.nodeManagementPortRangeExhausted "node_management_port_range_exhausted")
  | other => other

def registerAutomatically (args : RegisterArguments) (store : InMemoryNodeStore) :
    Except NodeError (MediaNode × InMemoryNodeStore) := do
  raiseIf (∃ port ∈ args.preferredPort, port ∉ args.allowedPorts)
    (.nodePortOutOfRange "node_port_out_of_range")
  raiseIf ((store.nodes.length : Int) ≥ args.maxNodes)
    (.maximumNodesReached "max_nodes_reached")
  raiseIf (∃ port ∈ args.preferredPort, port ∈ store.occupiedPorts)
    (.nodePortInUse "node_port_in_use")
  let available := args.allowedPorts.filter fun port => port ∉ store.occupiedPorts
  raiseIf (available = []) (.nodePortRangeExhausted "node_port_range_exhausted")
  let externalPort ← selectPortWithBoundedRecheck available args.preferredPort
    args.choosePort args.externalBindable
  let availableApi := args.apiPorts.filter fun port => port ∉ store.occupiedManagementPorts
  let availableMetrics :=
    args.metricsPorts.filter fun port => port ∉ store.occupiedManagementPorts
  raiseIf (availableApi = [] ∨ availableMetrics = [])
    (.nodeManagementPortRangeExhausted "node_management_port_range_exhausted")
  let apiPort ← managementPort (selectPortWithBoundedRecheck availableApi none
    (fun _ cands => cands.headD 0) args.apiBindable)
  let metricsPort ← managementPort (selectPortWithBoundedRecheck
    (availableMetrics.filter fun port => port ≠ externalPort ∧ port ≠ apiPort) none
    (fun _ cands => cands.headD 0) args.metricsBindable)
  let node : MediaNode :=
    { id := args.newNodeId
      name := args.name
      externalPort := externalPort
      apiPort := apiPort
      metricsPort := metricsPort
      releaseId := args.releaseId
      mediamtxBinarySha256 := args.mediamtxBinarySha256
      creationMode := args.creationMode }
  return (node, { store with nodes := store.nodes ++ [node] })

/-- The node a recorded request stands for; another account or hash is a conflict. -/
def replayedNode (store : InMemoryNodeStore) (prev : RegistrationRequest UUID)
    (idempotency : NodeRegistrationIdempotency) : Except NodeError NodeRegistrationResult := do
  raiseIf (prev.actorAccountId ≠ idempotency.actorAccountId ∨
      prev.requestSha256 ≠ idempotency.requestSha256)
    (.nodeLifecycleConflict "node_idempotency_conflict")
  let node ← orRaise (store.findNode prev.target)
    (.nodeLifecycleConflict "node_idempotency_target_missing")
  return { node := node, replayed := true }

def registrationRequest (store : InMemoryNodeStore) (key : RequestKey) :
    Option (RegistrationRequest UUID) :=
  (lookup Prod.fst key store.registrationRequests).map (·.2)

def registerIdempotently (args : RegisterArguments)
    (idempotency : NodeRegistrationIdempotency) (store : InMemoryNodeStore) :
    Except NodeError (NodeRegistrationResult × InMemoryNodeStore) :=
  match store.registrationRequest idempotency.requestKey with
  | some prev => do
      let res ← store.replayedNode prev idempotency
      return (res, store)
  | none => do
      let (node, registered) ← store.registerAutomatically args
      return ({ node := node, replayed := false }, { registered with
          registrationRequests := assign idempotency.requestKey
            { actorAccountId := idempotency.actorAccountId
              requestSha256 := idempotency.requestSha256
              target := node.id } registered.registrationRequests })

def lookupRegistration (idempotency : NodeRegistrationIdempotency) (store : InMemoryNodeStore) :
    Except NodeError (Option NodeRegistrationResult) :=
  match store.registrationRequest idempotency.requestKey with
  | none => return none
  | some prev => do
      let res ← store.replayedNode prev idempotency
      return some res

/-- The fields of an accepted observation written into a node record. -/
def observed (node : MediaNode) (obs : NodeRuntimeObservation) (observedAt : Datetime) :
    MediaNode :=
  { node with
    runtimeState := obs.state
    health := obs.health
    managementFresh := obs.managementFresh
    managementObservedAt := if obs.managementFresh then some observedAt else none
    runtimeObservedAt := some observedAt
    configCompatible := obs.configCompatible
    appliedRevision := obs.appliedRevision
    processId := obs.processId
    processStartTicks := obs.processStartTicks
    processBootId := obs.processBootId
    observedConfigSha256 := obs.configSha256
    observedReleaseId := obs.releaseId }

def applyRuntimeObservation (nodeId : UUID) (obs : NodeRuntimeObservation)
    (observedAt : Datetime) (store : InMemoryNodeStore) :
    Except NodeError (MediaNode × InMemoryNodeStore) := do
  let node ← orRaise (store.findNode nodeId) (.nodeNotFound "node_not_found")
  validateRuntimeObservation node obs
  let upd := observed node obs observedAt
  return (upd, store.putNode upd)

def requestDesiredState (nodeId : UUID) (state : NodeState) (fence : Option NodeCommandFence)
    (store : InMemoryNodeStore) : Except NodeError (MediaNode × InMemoryNodeStore) := do
  let node ← orRaise (store.findNode nodeId) (.nodeNotFound "node_not_found")
  requireNodeCommandFence node fence
  raiseIf (state = .running ∧ ¬(node.state = .provisioning ∨ node.state = .stopped ∨
      node.state = .failed ∨ node.state = .running))
    (.nodeLifecycleConflict "node_start_source_state_invalid")
  if node.state = state then
    return (node, store)
  else
    let upd :=
      { node with state := state, desiredRevision := node.desiredRevision + 1 }
    return (upd, store.putNode upd)

/-- The states an administrative state may be entered from. -/
def administrativeSources : NodeState → Option (List NodeState)
  | .draining => some [.running]
  | .maintenance => some [.draining]
  | .running => some [.draining, .maintenance]
  | _ => none

def requestAdministrativeState (nodeId : UUID) (state : NodeState)
    (fence : Option NodeCommandFence) (store : InMemoryNodeStore) :
    Except NodeError (MediaNode × InMemoryNodeStore) := do
  let node ← orRaise (store.findNode nodeId) (.nodeNotFound "node_not_found")
  requireNodeCommandFence node fence
  if ¬∃ sources ∈ administrativeSources state, node.state ∈ sources then
    if node.state = state then
      return (node, store)
    else
      throw (.nodeLifecycleConflict "node_administrative_transition_invalid")
  else
    let desired := node.desiredRevision + 1
    let upd :=
      { node with
        state := state
        maintenance := decide (state = .maintenance)
        desiredRevision := desired
        appliedRevision := desired }
    return (upd, store.putNode upd)

def requestNodeDelete (nodeId : UUID) (fence : Option NodeCommandFence)
    (store : InMemoryNodeStore) : Except NodeError (MediaNode × InMemoryNodeStore) := do
  let node ← orRaise (store.findNode nodeId) (.nodeNotFound "node_not_found")
  requireNodeCommandFence node fence
  raiseIf (node.registeredCameras ≠ 0) (.nodeNotEmpty "node_not_empty")
  raiseIf (¬(node.state = .stopped ∨ node.state = .failed ∨ node.state = .deleting))
    (.nodeLifecycleConflict "node_delete_requires_stopped_or_failed")
  raiseIf (store.listNodeActiveMoves nodeId ≠ [] ∨ store.nodeHasPreparedPortChange nodeId = true)
    (.nodeLifecycleConflict "node_operation_in_progress")
  if node.state = .deleting then
    return (node, store)
  else
    let upd :=
      { node with
        state := .deleting
        desiredRevision := node.desiredRevision + 1
        managementFresh := false
        managementObservedAt := none }
    return (upd, store.putNode upd)

/-- `self._nodes.remove(node)` removes the first record equal to `node`. -/
def finalizeNodeDelete (nodeId : UUID) (store : InMemoryNodeStore) :
    Except NodeError (Unit × InMemoryNodeStore) :=
  match store.findNode nodeId with
  | none => return ((), store)
  | some node => do
      raiseIf (node.state ≠ .deleting ∨ node.registeredCameras ≠ 0)
        (.nodeLifecycleConflict "node_delete_not_ready")
      return ((), { store with nodes := store.nodes.erase node })

def requestStop (nodeId : UUID) (fence : Option NodeCommandFence) (store : InMemoryNodeStore) :
    Except NodeError (MediaNode × InMemoryNodeStore) := do
  let node ← orRaise (store.findNode nodeId) (.nodeNotFound "node_not_found")
  requireNodeCommandFence node fence
  raiseIf (store.listNodeActiveMoves nodeId ≠ [])
    (.nodeLifecycleConflict "node_operation_in_progress")
  raiseIf (node.registeredCameras ≠ 0) (.nodeNotEmpty "node_not_empty")
  if node.state = .stopped then
    return (node, store)
  else
    raiseIf (¬(node.state = .provisioning ∨ node.state = .running ∨ node.state = .draining ∨
        node.state = .maintenance))
      (.nodeLifecycleConflict "node_stop_source_state_invalid")
    let upd :=
      { node with
        state := .stopped
        maintenance := false
        desiredRevision := node.desiredRevision + 1 }
    return (upd, store.putNode upd)

def requestRestart (nodeId : UUID) (fence : Option NodeCommandFence) (store : InMemoryNodeStore) :
    Except NodeError (MediaNode × InMemoryNodeStore) := do
  let node ← orRaise (store.findNode nodeId) (.nodeNotFound "node_not_found")
  requireNodeCommandFence node fence
  raiseIf (store.listNodeActiveMoves nodeId ≠ [])
    (.nodeLifecycleConflict "node_operation_in_progress")
  raiseIf (node.state ≠ .running) (.nodeLifecycleConflict "node_not_running")
  raiseIf (node.registeredCameras ≠ 0) (.nodeNotEmpty "node_not_empty")
  let upd := { node with desiredRevision := node.desiredRevision + 1 }
  return (upd, store.putNode upd)

def requestRelease (nodeId : UUID) (releaseId mediamtxBinarySha256 : String)
    (fence : Option NodeCommandFence) (store : InMemoryNodeStore) :
    Except NodeError (MediaNode × InMemoryNodeStore) := do
  NodeRuntimeSpecLike.validateRelease releaseId mediamtxBinarySha256
  let node ← orRaise (store.findNode nodeId) (.nodeNotFound "node_not_found")
  requireNodeCommandFence node fence
  raiseIf (store.listNodeActiveMoves nodeId ≠ [])
    (.nodeLifecycleConflict "node_operation_in_progress")
  raiseIf (node.state ≠ .stopped ∨ node.runtimeState ≠ .stopped ∨ node.registeredCameras ≠ 0 ∨
      node.appliedRevision ≠ node.desiredRevision)
    (.nodeReleaseConflict "node_release_transition_requires_stopped_empty")
  if node.releaseId = releaseId ∧ node.mediamtxBinarySha256 = mediamtxBinarySha256 then
    return (node, store)
  else
    let upd :=
      { node with
        releaseId := releaseId
        mediamtxBinarySha256 := mediamtxBinarySha256
        desiredRevision := node.desiredRevision + 1
        appliedRevision := 0
        configCompatible := false
        managementFresh := false
        managementObservedAt := none }
    return (upd, store.putNode upd)

section Fingerprints

variable [PythonText]

/-- The fingerprint of the placements on a node, taken from the store itself. -/
def blastRadius (store : InMemoryNodeStore) (nodeId : UUID) : String :=
  cameraPlacementFingerprint
    ((store.camerasOn nodeId).map fun cam => (cam.id, cam.placementGeneration))

/-- The confirmed camera set is no longer the current one. -/
def blastRadiusChanged (store : InMemoryNodeStore) (node : MediaNode)
    (expectedRegisteredCameras : Int) (expectedBlastRadiusSha256 : String) : Prop :=
  node.registeredCameras ≠ expectedRegisteredCameras ∨
    ((store.camerasOn node.id).length : Int) ≠ expectedRegisteredCameras ∨
    store.blastRadius node.id ≠ expectedBlastRadiusSha256

instance (store : InMemoryNodeStore) (node : MediaNode) (expectedRegisteredCameras : Int)
    (expectedBlastRadiusSha256 : String) :
    Decidable (store.blastRadiusChanged node expectedRegisteredCameras expectedBlastRadiusSha256) :=
  inferInstanceAs (Decidable (_ ∨ _ ∨ _))

/-- A reconfiguration names a complete release identity or none. -/
def validateReconfigureRelease (releaseId mediamtxBinarySha256 : Option String) :
    Except NodeError Unit := do
  raiseIf (releaseId.isNone ≠ mediamtxBinarySha256.isNone)
    (.valueError "node_release_identity_incomplete")
  match releaseId, mediamtxBinarySha256 with
  | some release, some digest => NodeRuntimeSpecLike.validateRelease release digest
  | _, _ => return ()

def requestReconfigure (nodeId : UUID) (expRev expectedRegisteredCameras : Int)
    (expectedBlastRadiusSha256 : String) (releaseId mediamtxBinarySha256 : Option String)
    (store : InMemoryNodeStore) : Except NodeError (MediaNode × InMemoryNodeStore) := do
  validateReconfigureRelease releaseId mediamtxBinarySha256
  let node ← orRaise (store.findNode nodeId) (.nodeNotFound "node_not_found")
  raiseIf (node.state ≠ .draining) (.nodeLifecycleConflict "node_not_draining")
  raiseIf (¬(node.runtimeState = .running ∨ node.runtimeState = .stopped ∨
      node.runtimeState = .failed))
    (.nodeLifecycleConflict "node_reconfigure_runtime_invalid")
  raiseIf (node.desiredRevision ≠ expRev)
    (.nodeLifecycleConflict "node_revision_conflict")
  raiseIf (store.listNodeActiveMoves nodeId ≠ [] ∨ store.nodeHasPreparedPortChange nodeId = true)
    (.nodeLifecycleConflict "node_operation_in_progress")
  raiseIf (store.blastRadiusChanged node expectedRegisteredCameras expectedBlastRadiusSha256)
    (.nodeLifecycleConflict "node_blast_radius_changed")
  let releaseChanged := releaseId.any fun release =>
    decide (node.releaseId ≠ release ∨ some node.mediamtxBinarySha256 ≠ mediamtxBinarySha256)
  let upd :=
    { node with
      releaseId := releaseId.getD node.releaseId
      mediamtxBinarySha256 := mediamtxBinarySha256.getD node.mediamtxBinarySha256
      desiredRevision := node.desiredRevision + 1
      appliedRevision := if releaseChanged then 0 else node.appliedRevision
      managementFresh := false
      managementObservedAt := none
      configCompatible := false }
  return (upd, store.putNode upd)

def beginPortChange (changeId nodeId : UUID) (newPort : Int) (allowedPorts : List Int)
    (expRev expectedRegisteredCameras : Int) (expectedBlastRadiusSha256 : String)
    (store : InMemoryNodeStore) : Except NodeError (NodePortChange × InMemoryNodeStore) := do
  let node ← orRaise (store.findNode nodeId) (.nodeNotFound "node_not_found")
  raiseIf (newPort ∉ allowedPorts) (.nodePortOutOfRange "node_port_out_of_range")
  raiseIf (node.state ≠ .running ∨ node.runtimeState ≠ .running)
    (.nodeLifecycleConflict "node_not_running")
  raiseIf (node.desiredRevision ≠ expRev)
    (.nodeLifecycleConflict "node_revision_conflict")
  raiseIf (store.blastRadiusChanged node expectedRegisteredCameras expectedBlastRadiusSha256)
    (.nodeLifecycleConflict "node_blast_radius_changed")
  raiseIf (node.externalPort = newPort) (.nodeLifecycleConflict "node_port_unchanged")
  raiseIf ((∃ other ∈ store.nodes, other.externalPort = newPort ∧ other.id ≠ nodeId) ∨
      ∃ change ∈ store.portChanges, change.newPort = newPort ∧ change.state = .prepared)
    (.nodePortInUse "node_port_in_use")
  raiseIf (store.nodeHasPreparedPortChange nodeId = true)
    (.nodeLifecycleConflict "node_port_change_in_progress")
  raiseIf (store.listNodeActiveMoves nodeId ≠ [])
    (.nodeLifecycleConflict "node_camera_move_in_progress")
  let change : NodePortChange :=
    { id := changeId
      nodeId := nodeId
      oldPort := node.externalPort
      newPort := newPort
      sourceRevision := node.desiredRevision
      targetRevision := node.desiredRevision + 1
      registeredCameras := expectedRegisteredCameras
      blastRadiusSha256 := expectedBlastRadiusSha256 }
  return (change, { store with portChanges := store.portChanges ++ [change] })

end Fingerprints

def publishPort (store : InMemoryNodeStore) (nodeId : UUID) (port : Int) : InMemoryNodeStore :=
  { store with
    cameras := store.cameras.map fun cam =>
      if cam.nodeId = nodeId ∧ cam.state ≠ .deleted then { cam with nodePort := port }
      else cam }

def completePortChange (changeId : UUID) (obs : NodeRuntimeObservation)
    (observedAt : Datetime) (store : InMemoryNodeStore) :
    Except NodeError (MediaNode × InMemoryNodeStore) := do
  let change ← orRaise (store.findPortChange changeId) (.nodeNotFound "node_port_change_not_found")
  let node ← orRaise (store.findNode change.nodeId) .stopIteration
  if change.state = .complete then
    return (node, store)
  else
    raiseIf (change.state ≠ .prepared) (.nodeLifecycleConflict "node_port_change_not_prepared")
    let provisional :=
      { node with externalPort := change.newPort, desiredRevision := change.targetRevision }
    validateRuntimeObservation provisional obs
    let upd := observed provisional obs observedAt
    return (upd, ((store.putNode upd).publishPort node.id change.newPort).putPortChange
      { change with state := .complete })

def abortPortChange (changeId : UUID) (obs : NodeRuntimeObservation)
    (observedAt : Datetime) (store : InMemoryNodeStore) :
    Except NodeError (MediaNode × InMemoryNodeStore) := do
  let change ← orRaise (store.findPortChange changeId) (.nodeNotFound "node_port_change_not_found")
  let node ← orRaise (store.findNode change.nodeId) .stopIteration
  if change.state = .aborted then
    return (node, store)
  else
    raiseIf (change.state ≠ .prepared) (.nodeLifecycleConflict "node_port_change_not_prepared")
    let restored :=
      { node with externalPort := change.oldPort, desiredRevision := change.sourceRevision }
    validateRuntimeObservation restored obs
    let upd := observed restored obs observedAt
    return (upd, (store.putNode upd).putPortChange { change with state := .aborted })

end InMemoryNodeStore

end RtspProxy.Nodes
