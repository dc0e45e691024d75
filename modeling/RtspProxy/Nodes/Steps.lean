import RtspProxy.Nodes.CameraStore

/-!
# What one store operation can do

`StoreOperation` lists the mutating operations of the store with their
arguments, `StoreStep` the ways in which an operation that succeeds changes the
node, camera, move and port-change tables. Every operation is classified once,
in `operation_step`; an invariant of the store is then a case analysis over the
steps and never unfolds an operation again. The registration dictionaries are
left open here and are treated with the registration protocol.
-/

namespace RtspProxy.Nodes

open Lib.Raising Lib Lib.RecordTable
open Prod (mk_inj)

variable {store : InMemoryNodeStore} {cameraId nodeId : UUID}

namespace InMemoryNodeStore

/-- The identifier occurs nowhere in the store, as a newly generated UUID does not. -/
structure Unused (store : InMemoryNodeStore) (id : UUID) : Prop where
  node : ∀ node ∈ store.nodes, node.id ≠ id
  camera : ∀ camera ∈ store.cameras, camera.id ≠ id
  cameraNode : ∀ camera ∈ store.cameras, camera.nodeId ≠ id
  move : ∀ move ∈ store.cameraMoves, move.id ≠ id
  moveCamera : ∀ move ∈ store.cameraMoves, move.cameraId ≠ id
  moveSource : ∀ move ∈ store.cameraMoves, move.sourceNodeId ≠ id
  moveTarget : ∀ move ∈ store.cameraMoves, move.targetNodeId ≠ id
  portChange : ∀ change ∈ store.portChanges, change.id ≠ id
  portChangeNode : ∀ change ∈ store.portChanges, change.nodeId ≠ id
  nodeRequest : ∀ entry ∈ store.registrationRequests, entry.2.target ≠ id
  cameraRequest : ∀ entry ∈ store.cameraRegistrationRequests, entry.2.target ≠ some id

instance (store : InMemoryNodeStore) (id : UUID) : Decidable (store.Unused id) :=
  decidable_of_iff
    (((∀ node ∈ store.nodes, node.id ≠ id) ∧ ∀ cam ∈ store.cameras, cam.id ≠ id ∧ cam.nodeId ≠ id) ∧
      (∀ move ∈ store.cameraMoves, move.id ≠ id ∧ move.cameraId ≠ id ∧ move.sourceNodeId ≠ id ∧
        move.targetNodeId ≠ id) ∧
      (∀ change ∈ store.portChanges, change.id ≠ id ∧ change.nodeId ≠ id) ∧
      (∀ entry ∈ store.registrationRequests, entry.2.target ≠ id) ∧
      ∀ entry ∈ store.cameraRegistrationRequests, entry.2.target ≠ some id)
    ⟨fun ⟨⟨node, cam⟩, move, change, req, cameraRequest⟩ =>
      ⟨node, fun c m => (cam c m).1, fun c m => (cam c m).2, fun v m => (move v m).1,
        fun v m => (move v m).2.1, fun v m => (move v m).2.2.1, fun v m => (move v m).2.2.2,
        fun c m => (change c m).1, fun c m => (change c m).2, req, cameraRequest⟩,
    fun unused => ⟨⟨unused.node, fun c m => ⟨unused.camera c m, unused.cameraNode c m⟩⟩,
      fun v m => ⟨unused.move v m, unused.moveCamera v m, unused.moveSource v m,
        unused.moveTarget v m⟩,
      fun c m => ⟨unused.portChange c m, unused.portChangeNode c m⟩, unused.nodeRequest,
      unused.cameraRequest⟩⟩

def ActiveMove (store : InMemoryNodeStore) (move : CameraMove) : Prop :=
  move ∈ store.cameraMoves ∧ cameraMoveIsTerminal move.state = false

theorem camera_has_active_move_iff :
    store.cameraHasActiveMove cameraId = true ↔
      ∃ move, store.ActiveMove move ∧ move.cameraId = cameraId := by
  simp only [cameraHasActiveMove, List.any_eq_true, decide_eq_true_eq, ActiveMove]
  constructor
  · rintro ⟨move, mem, same, active⟩
    exact ⟨move, ⟨mem, active⟩, same⟩
  · rintro ⟨move, ⟨mem, active⟩, same⟩
    exact ⟨move, mem, same, active⟩

theorem node_has_prepared_iff :
    store.nodeHasPreparedPortChange nodeId = true ↔
      ∃ change ∈ store.portChanges, change.nodeId = nodeId ∧ change.state = .prepared := by
  simp [nodeHasPreparedPortChange]

end InMemoryNodeStore

open InMemoryNodeStore

inductive StoreOperation
  | registerAutomatically (args : RegisterArguments)
  | registerIdempotently (args : RegisterArguments) (idempotency : NodeRegistrationIdempotency)
  | applyRuntimeObservation (nodeId : UUID) (obs : NodeRuntimeObservation)
      (observedAt : Datetime)
  | requestDesiredState (nodeId : UUID) (state : NodeState) (fence : Option NodeCommandFence)
  | requestAdministrativeState (nodeId : UUID) (state : NodeState)
      (fence : Option NodeCommandFence)
  | requestNodeDelete (nodeId : UUID) (fence : Option NodeCommandFence)
  | finalizeNodeDelete (nodeId : UUID)
  | requestStop (nodeId : UUID) (fence : Option NodeCommandFence)
  | requestRestart (nodeId : UUID) (fence : Option NodeCommandFence)
  | requestRelease (nodeId : UUID) (releaseId mediamtxBinarySha256 : String)
      (fence : Option NodeCommandFence)
  | requestReconfigure (nodeId : UUID) (expectedRevision expectedRegisteredCameras : Int)
      (expectedBlastRadiusSha256 : String) (releaseId mediamtxBinarySha256 : Option String)
  | beginPortChange (changeId nodeId : UUID) (newPort : Int) (allowedPorts : List Int)
      (expectedRevision expectedRegisteredCameras : Int) (expectedBlastRadiusSha256 : String)
  | completePortChange (changeId : UUID) (obs : NodeRuntimeObservation)
      (observedAt : Datetime)
  | abortPortChange (changeId : UUID) (obs : NodeRuntimeObservation)
      (observedAt : Datetime)
  | placeCameraAutomatically (args : PlaceArguments)
  | placeCameraManually (nodeId : UUID) (args : PlaceArguments)
  | placeCameraIdempotently (nodeId : Option UUID) (args : PlaceArguments)
      (idempotency : CameraRegistrationIdempotency)
  | reserveCameraRegistration (idempotency : CameraRegistrationIdempotency)
  | updateCamera (cameraId : UUID) (name sourceUrl : String) (expectedRevision : Option Int)
      (probeEndpoint : Option ProbeEndpointIdentity)
  | setCameraEnabled (cameraId : UUID) (enabled : Bool) (expectedRevision : Option Int)
  | requestCameraDelete (cameraId : UUID) (expectedRevision : Option Int)
  | markCameraApplied (cameraId nodeId : UUID) (placementGeneration desiredRevision : Int)
  | createCameraMove (args : CreateMoveArguments)
  | switchCameraMove (moveId : UUID) (cancelled : Bool) (clock now : Datetime)
  | markCameraMoveSourceCleaned (moveId : UUID)
  | requestCameraMoveAbort (moveId : UUID) (reason : String) (cancelled : Bool)
  | abortCameraMove (moveId : UUID)
  | completeCameraMove (moveId : UUID)

namespace StoreOperation

abbrev Result : StoreOperation → Type
  | registerAutomatically _ | applyRuntimeObservation .. | requestDesiredState ..
  | requestAdministrativeState .. | requestNodeDelete .. | requestStop .. | requestRestart ..
  | requestRelease .. | requestReconfigure .. | completePortChange .. | abortPortChange .. =>
    MediaNode
  | registerIdempotently .. => NodeRegistrationResult
  | finalizeNodeDelete _ => Unit
  | beginPortChange .. => NodePortChange
  | placeCameraAutomatically _ | placeCameraManually .. | updateCamera .. | setCameraEnabled ..
  | requestCameraDelete .. => CameraPlacement
  | placeCameraIdempotently .. => CameraRegistrationResult
  | reserveCameraRegistration _ => Option CameraRegistrationResult
  | markCameraApplied .. => Bool
  | createCameraMove _ | switchCameraMove .. | markCameraMoveSourceCleaned _
  | requestCameraMoveAbort .. | abortCameraMove _ | completeCameraMove _ => CameraMove

def perform [PythonText] (store : InMemoryNodeStore) :
    (op : StoreOperation) → Except NodeError (op.Result × InMemoryNodeStore)
  | registerAutomatically args => store.registerAutomatically args
  | registerIdempotently args idempotency =>
    store.registerIdempotently args idempotency
  | applyRuntimeObservation nodeId obs observedAt =>
    store.applyRuntimeObservation nodeId obs observedAt
  | requestDesiredState nodeId st fence =>
    store.requestDesiredState nodeId st fence
  | requestAdministrativeState nodeId st fence =>
    store.requestAdministrativeState nodeId st fence
  | requestNodeDelete nodeId fence => store.requestNodeDelete nodeId fence
  | finalizeNodeDelete nodeId => store.finalizeNodeDelete nodeId
  | requestStop nodeId fence => store.requestStop nodeId fence
  | requestRestart nodeId fence => store.requestRestart nodeId fence
  | requestRelease nodeId releaseId mediamtxBinarySha256 fence =>
    store.requestRelease nodeId releaseId mediamtxBinarySha256 fence
  | requestReconfigure nodeId expRev expectedRegisteredCameras
      expectedBlastRadiusSha256 releaseId mediamtxBinarySha256 =>
      store.requestReconfigure nodeId expRev expectedRegisteredCameras
        expectedBlastRadiusSha256 releaseId mediamtxBinarySha256
  | beginPortChange changeId nodeId newPort allowedPorts expRev
      expectedRegisteredCameras expectedBlastRadiusSha256 =>
      store.beginPortChange changeId nodeId newPort allowedPorts expRev
        expectedRegisteredCameras expectedBlastRadiusSha256
  | completePortChange changeId obs observedAt =>
    store.completePortChange changeId obs observedAt
  | abortPortChange changeId obs observedAt =>
    store.abortPortChange changeId obs observedAt
  | placeCameraAutomatically args => store.placeCameraAutomatically args
  | placeCameraManually nodeId args => store.placeCameraManually nodeId args
  | placeCameraIdempotently nodeId args idempotency =>
    store.placeCameraIdempotently nodeId args idempotency
  | reserveCameraRegistration idempotency =>
    store.reserveCameraRegistration idempotency
  | updateCamera cameraId name sourceUrl expRev probeEndpoint =>
    store.updateCamera cameraId name sourceUrl expRev probeEndpoint
  | setCameraEnabled cameraId enabled expRev =>
    store.setCameraEnabled cameraId enabled expRev
  | requestCameraDelete cameraId expRev =>
    store.requestCameraDelete cameraId expRev
  | markCameraApplied cameraId nodeId placementGeneration desired =>
    store.markCameraApplied cameraId nodeId placementGeneration desired
  | createCameraMove args => store.createCameraMove args
  | switchCameraMove moveId cancelled clock now =>
    store.switchCameraMove moveId cancelled clock now
  | markCameraMoveSourceCleaned moveId => store.markCameraMoveSourceCleaned moveId
  | requestCameraMoveAbort moveId reason cancelled =>
    store.requestCameraMoveAbort moveId reason cancelled
  | abortCameraMove moveId => store.abortCameraMove moveId
  | completeCameraMove moveId => store.completeCameraMove moveId

/-- The store after an operation that succeeds; its result is dropped. -/
def run [PythonText] (store : InMemoryNodeStore) (op : StoreOperation) :
    Except NodeError InMemoryNodeStore :=
  Prod.snd <$> op.perform store

/-- The store after an operation; one that raises changes nothing. -/
def apply [PythonText] (op : StoreOperation) (store : InMemoryNodeStore) :
    InMemoryNodeStore :=
  match op.run store with
  | .ok post => post
  | .error _ => store

/-- The identifier a factory generated for the operation, if it uses one. -/
def generatedId : StoreOperation → Option UUID
  | registerAutomatically args | registerIdempotently args _ => some args.newNodeId
  | beginPortChange changeId _ _ _ _ _ _ => some changeId
  | placeCameraAutomatically args | placeCameraManually _ args
  | placeCameraIdempotently _ args _ => some args.cameraId
  | createCameraMove args => some args.moveId
  | _ => none

def Fresh (op : StoreOperation) (store : InMemoryNodeStore) : Prop :=
  ∀ id ∈ op.generatedId, store.Unused id

instance (op : StoreOperation) (store : InMemoryNodeStore) :
    Decidable (op.Fresh store) :=
  match given : op.generatedId with
  | none => .isTrue (by simp [Fresh, given])
  | some id => decidable_of_iff (store.Unused id) (by simp [Fresh, given])

end StoreOperation

/-- Which operation a step comes from, as far as its effect depends on it: registrations, the
end of a port change and the steps that only the reconcilers take are told apart. -/
inductive StepLabel
  | command
  | register (nodeId : UUID)
  | settlePort (changeId : UUID)
  | place (publicId : PublicId)
  | mark (cameraId nodeId : UUID) (placementGeneration desiredRevision : Int)
  | switchMove (moveId : UUID)
  | sourceCleaned (moveId : UUID)
  | abortMove (moveId : UUID)
  | completeMove (moveId : UUID)

def StoreOperation.label : StoreOperation → StepLabel
  | registerAutomatically args | registerIdempotently args _ =>
    .register args.newNodeId
  | completePortChange changeId _ _ | abortPortChange changeId _ _ => .settlePort changeId
  | placeCameraAutomatically args | placeCameraManually _ args
  | placeCameraIdempotently _ args _ => .place args.publicId
  | markCameraApplied cameraId nodeId placementGeneration desired =>
    .mark cameraId nodeId placementGeneration desired
  | switchCameraMove moveId _ _ _ => .switchMove moveId
  | markCameraMoveSourceCleaned moveId => .sourceCleaned moveId
  | abortCameraMove moveId => .abortMove moveId
  | completeCameraMove moveId => .completeMove moveId
  | _ => .command

/-- The changes of the node, camera, move and port-change tables. -/
inductive StoreStep (store : InMemoryNodeStore) : StepLabel → InMemoryNodeStore → Prop
  /-- No table changes. -/
  | requests (label : StepLabel)
      (nodeRequests : List (RequestKey × RegistrationRequest UUID))
      (cameraRequests : List (RequestKey × RegistrationRequest (Option UUID))) :
      StoreStep store label { store with
        registrationRequests := nodeRequests, cameraRegistrationRequests := cameraRequests }
  | registerNode (node : MediaNode)
      (nodeRequests : List (RequestKey × RegistrationRequest UUID))
      (fresh : store.Unused node.id)
      (externalFree : node.externalPort ∉ store.occupiedPorts)
      (apiFree : node.apiPort ∉ store.occupiedManagementPorts)
      (metricsFree : node.metricsPort ∉ store.occupiedManagementPorts)
      (empty : node.registeredCameras = 0) (capacity : 0 ≤ node.cameraCapacity) :
      StoreStep store (.register node.id) { store with
        nodes := store.nodes ++ [node], registrationRequests := nodeRequests }
  /-- A command or an observation: ports, counters and limits stay, and the
  revision moves by one unless the desired state is the same. -/
  | commandNode (node upd : MediaNode)
      (found : store.findNode node.id = some node) (sameId : upd.id = node.id)
      (samePorts : upd.externalPort = node.externalPort ∧ upd.apiPort = node.apiPort ∧
        upd.metricsPort = node.metricsPort)
      (sameCount : upd.registeredCameras = node.registeredCameras)
      (sameCapacity : upd.cameraCapacity = node.cameraCapacity)
      (revision : upd.desiredRevision = node.desiredRevision ∧ upd.state = node.state ∨
        upd.desiredRevision = node.desiredRevision + 1) :
      StoreStep store .command (store.putNode upd)
  | removeNode (node : MediaNode)
      (found : store.findNode node.id = some node) (empty : node.registeredCameras = 0) :
      StoreStep store .command { store with nodes := store.nodes.erase node }
  | beginPortChange (node : MediaNode) (change : NodePortChange)
      (found : store.findNode node.id = some node) (fresh : store.Unused change.id)
      (onNode : change.nodeId = node.id) (prepared : change.state = .prepared)
      (oldPort : change.oldPort = node.externalPort)
      (portChanged : node.externalPort ≠ change.newPort)
      (portFree : ∀ other ∈ store.nodes, other.externalPort = change.newPort → other.id = node.id)
      (portUnreserved : ∀ other ∈ store.portChanges, other.newPort = change.newPort →
        other.state ≠ .prepared)
      (sourceRevision : change.sourceRevision = node.desiredRevision)
      (targetRevision : change.targetRevision = node.desiredRevision + 1)
      (none : store.nodeHasPreparedPortChange node.id = false) :
      StoreStep store .command { store with portChanges := store.portChanges ++ [change] }
  | completePortChange (change : NodePortChange) (node : MediaNode)
      (obs : NodeRuntimeObservation) (observedAt : Datetime)
      (changeFound : store.findPortChange change.id = some change)
      (found : store.findNode node.id = some node) (onNode : change.nodeId = node.id)
      (prepared : change.state = .prepared) :
      StoreStep store (.settlePort change.id)
        (((store.putNode (observed { node with
            externalPort := change.newPort, desiredRevision := change.targetRevision }
            obs observedAt)).publishPort node.id change.newPort).putPortChange
          { change with state := .complete })
  | abortPortChange (change : NodePortChange) (node : MediaNode)
      (obs : NodeRuntimeObservation) (observedAt : Datetime)
      (changeFound : store.findPortChange change.id = some change)
      (found : store.findNode node.id = some node) (onNode : change.nodeId = node.id)
      (prepared : change.state = .prepared) :
      StoreStep store (.settlePort change.id)
        ((store.putNode (observed { node with
            externalPort := change.oldPort, desiredRevision := change.sourceRevision }
            obs observedAt)).putPortChange { change with state := .aborted })
  | placeCamera (selected : MediaNode) (camera : CameraPlacement)
      (cameraRequests : List (RequestKey × RegistrationRequest (Option UUID)))
      (found : store.findNode selected.id = some selected)
      (capacity : selected.registeredCameras < selected.cameraCapacity)
      (fresh : store.Unused camera.id) (onNode : camera.nodeId = selected.id)
      (port : camera.nodePort = selected.externalPort) (enabled : camera.state = .enabled)
      (generation : camera.placementGeneration = 1)
      (revisions : camera.desiredRevision = 1 ∧ camera.appliedRevision = 0) :
      StoreStep store (.place camera.publicId) { store.putNode
          { selected with registeredCameras := selected.registeredCameras + 1 } with
        cameras := store.cameras ++ [camera], cameraRegistrationRequests := cameraRequests }
  /-- Update, enable, disable or delete request: one more desired revision. -/
  | editCamera (camera upd : CameraPlacement)
      (found : store.findCamera camera.id = some camera)
      (live : camera.state ≠ .deleted ∧ camera.state ≠ .deleting)
      (idle : store.cameraHasActiveMove camera.id = false) (sameId : upd.id = camera.id)
      (samePublicId : upd.publicId = camera.publicId)
      (samePlacement : upd.nodeId = camera.nodeId ∧ upd.nodePort = camera.nodePort ∧
        upd.placementGeneration = camera.placementGeneration)
      (sameApplied : upd.appliedRevision = camera.appliedRevision)
      (revision : upd.desiredRevision = camera.desiredRevision + 1)
      (stillLive : upd.state ≠ .deleted) :
      StoreStep store .command (store.putCamera upd)
  | markApplied (camera : CameraPlacement)
      (found : store.findCamera camera.id = some camera)
      (idle : store.cameraHasActiveMove camera.id = false) (notDeleting : camera.state ≠ .deleting) :
      StoreStep store
        (.mark camera.id camera.nodeId camera.placementGeneration camera.desiredRevision)
        (store.putCamera { camera with appliedRevision := camera.desiredRevision })
  | markDeleted (camera : CameraPlacement) (node : MediaNode)
      (found : store.findCamera camera.id = some camera)
      (nodeFound : store.findNode node.id = some node) (onNode : camera.nodeId = node.id)
      (idle : store.cameraHasActiveMove camera.id = false) (deleting : camera.state = .deleting) :
      StoreStep store (.mark camera.id camera.nodeId camera.placementGeneration camera.desiredRevision)
        ((store.putNode { node with registeredCameras := node.registeredCameras - 1 }).putCamera
          { camera with state := .deleted, appliedRevision := camera.desiredRevision })
  | createMove (camera : CameraPlacement) (move : CameraMove)
      (source target : MediaNode) (found : store.findCamera camera.id = some camera)
      (sourceFound : store.findNode move.sourceNodeId = some source)
      (targetFound : store.findNode move.targetNodeId = some target)
      (fresh : store.Unused move.id) (enabled : camera.state = .enabled)
      (idle : store.cameraHasActiveMove camera.id = false)
      (ofCamera : move.cameraId = camera.id ∧ move.publicId = camera.publicId ∧
        move.sourceUrl = camera.sourceUrl)
      (fromSource : move.sourceNodeId = camera.nodeId ∧
        move.sourceGeneration = camera.placementGeneration)
      (generation : move.targetGeneration = camera.placementGeneration + 1)
      (toOther : move.targetNodeId ≠ camera.nodeId)
      (revision : move.desiredRevision = camera.desiredRevision + 1)
      (preparing : move.state = .prepareTarget) :
      StoreStep store .command
        (({ store with cameraMoves := store.cameraMoves ++ [move] }).putCamera
          { camera with desiredRevision := camera.desiredRevision + 1 })
  | switchMove (move : CameraMove) (camera : CameraPlacement)
      (source target : MediaNode) (moveFound : store.findMove move.id = some move)
      (found : store.findCamera move.cameraId = some camera)
      (sourceFound : store.findNode move.sourceNodeId = some source)
      (targetFound : store.findNode move.targetNodeId = some target)
      (preparing : move.state = .prepareTarget)
      (fence : camera.nodeId = move.sourceNodeId ∧
        camera.placementGeneration = move.sourceGeneration ∧
        camera.desiredRevision = move.desiredRevision)
      (capacity : target.registeredCameras < target.cameraCapacity) :
      StoreStep store (.switchMove move.id)
        ((((store.putNode { source with registeredCameras := source.registeredCameras - 1 }).putNode
          { target with registeredCameras := target.registeredCameras + 1 }).putCamera
          { camera with
            nodeId := target.id
            nodePort := target.externalPort
            placementMode := .manual
            placementGeneration := move.targetGeneration }).putMove
          { move with state := .cleanupSource })
  | sourceCleaned (move : CameraMove)
      (moveFound : store.findMove move.id = some move) (switched : move.state = .cleanupSource) :
      StoreStep store (.sourceCleaned move.id) (store.putMove { move with state := .activateTarget })
  | requestAbort (move : CameraMove) (camera : CameraPlacement)
      (reason : String) (moveFound : store.findMove move.id = some move)
      (found : store.findCamera move.cameraId = some camera)
      (preparing : move.state = .prepareTarget) :
      StoreStep store .command
        ((if camera.desiredRevision = move.desiredRevision then
            store.putCamera { camera with desiredRevision := camera.desiredRevision + 1 }
          else store).putMove
          { move with state := .cleanupTarget, abortReason := some reason })
  | abortMove (move : CameraMove)
      (moveFound : store.findMove move.id = some move) (aborting : move.state = .cleanupTarget) :
      StoreStep store (.abortMove move.id) (store.putMove { move with state := .aborted })
  | completeMove (move : CameraMove) (camera : CameraPlacement)
      (moveFound : store.findMove move.id = some move)
      (found : store.findCamera move.cameraId = some camera)
      (activating : move.state = .activateTarget) :
      StoreStep store (.completeMove move.id)
        ((store.putCamera { camera with appliedRevision := move.desiredRevision }).putMove
          { move with state := .complete })

/-! ## Classification of the operations -/

section Classification

variable {store post : InMemoryNodeStore}

theorem step_same {label : StepLabel} (store : InMemoryNodeStore) : StoreStep store label store :=
  .requests label store.registrationRequests store.cameraRegistrationRequests

variable {node : MediaNode}

theorem find_node_id (found : store.findNode nodeId = some node) :
    node.id = nodeId := lookup_key found

variable {cam : CameraPlacement}

theorem find_camera_id (found : store.findCamera cameraId = some cam) : cam.id = cameraId :=
  lookup_key found

variable {moveId : UUID}

theorem find_move_id {move : CameraMove} (found : store.findMove moveId = some move) :
    move.id = moveId :=
  lookup_key found

variable {changeId : UUID}

theorem find_port_change_id {change : NodePortChange}
    (found : store.findPortChange changeId = some change) : change.id = changeId :=
  lookup_key found

theorem management_port_ok {selected : Except NodeError Int} {port : Int}
    (ok : managementPort selected = .ok port) : selected = .ok port := by
  unfold managementPort at ok
  split at ok
  · cases ok
  · exact ok

theorem register_automatically_step {args : RegisterArguments} (fresh : store.Unused args.newNodeId)
    (ran : store.registerAutomatically args = .ok (node, post))
    (requests : List (RequestKey × RegistrationRequest UUID)) :
    StoreStep store (.register args.newNodeId) { post with registrationRequests := requests } := by
  simp only [registerAutomatically, bind_ok, raise_if_ok, exists_const, pure_ok, mk_inj] at ran
  obtain ⟨-, -, -, -, externalPort, external, -, apiPort, api, metricsPort, metrics, isNode, rfl⟩ :=
    ran
  have sameId : node.id = args.newNodeId := by rw [← isNode]
  rw [← sameId] at fresh ⊢
  subst isNode
  have externalFree := List.mem_filter.mp (select_port_mem external)
  have apiFree := List.mem_filter.mp (select_port_mem (management_port_ok api))
  have metricsFree := List.mem_filter.mp
    (List.mem_of_mem_filter (select_port_mem (management_port_ok metrics)))
  exact .registerNode _ requests fresh (by simpa using externalFree.2)
    (by simpa using apiFree.2) (by simpa using metricsFree.2) rfl (by norm_num)

theorem register_idempotently_step {args : RegisterArguments}
    {idempotency : NodeRegistrationIdempotency} {res : NodeRegistrationResult}
    (fresh : store.Unused args.newNodeId)
    (ran : store.registerIdempotently args idempotency = .ok (res, post)) :
    StoreStep store (.register args.newNodeId) post := by
  unfold registerIdempotently at ran
  split at ran
  · simp only [bind_ok, pure_ok, mk_inj] at ran
    obtain ⟨_, _, _, rfl⟩ := ran
    exact step_same store
  · simp only [bind_ok, pure_ok, mk_inj] at ran
    obtain ⟨⟨node, registered⟩, registeredOk, -, rfl⟩ := ran
    exact register_automatically_step fresh registeredOk _

variable {obs : NodeRuntimeObservation} {res : MediaNode}

variable {observedAt : Datetime}

theorem apply_runtime_observation_step
    (ran : store.applyRuntimeObservation nodeId obs observedAt = .ok (res, post)) :
    StoreStep store .command post := by
  simp only [applyRuntimeObservation, bind_ok, or_raise_ok, pure_ok, mk_inj] at ran
  obtain ⟨node, found, -, -, -, rfl⟩ := ran
  obtain rfl := find_node_id found
  exact .commandNode node _ found rfl ⟨rfl, rfl, rfl⟩ rfl rfl (.inl ⟨rfl, rfl⟩)

variable {fence : Option NodeCommandFence}

theorem request_desired_state_step {st : NodeState}
    (ran : store.requestDesiredState nodeId st fence = .ok (res, post)) :
    StoreStep store .command post := by
  simp only [requestDesiredState, bind_ok, or_raise_ok, raise_if_ok, exists_const, ite_ok, pure_ok,
    mk_inj] at ran
  obtain ⟨node, found, -, -, -, ⟨-, -, rfl⟩ | ⟨-, -, rfl⟩⟩ := ran
  · exact step_same store
  · obtain rfl := find_node_id found
    exact .commandNode node _ found rfl ⟨rfl, rfl, rfl⟩ rfl rfl (.inr rfl)

theorem request_administrative_state_step {st : NodeState}
    (ran : store.requestAdministrativeState nodeId st fence = .ok (res, post)) :
    StoreStep store .command post := by
  simp only [requestAdministrativeState, bind_ok, or_raise_ok, ite_ok, pure_ok, throw_ok,
    mk_inj, and_false, or_false] at ran
  obtain ⟨node, found, -, -, ⟨-, -, -, rfl⟩ | ⟨-, -, rfl⟩⟩ := ran
  · exact step_same store
  · obtain rfl := find_node_id found
    exact .commandNode node _ found rfl ⟨rfl, rfl, rfl⟩ rfl rfl (.inr rfl)

theorem request_node_delete_step (ran : store.requestNodeDelete nodeId fence = .ok (res, post)) :
    StoreStep store .command post := by
  simp only [requestNodeDelete, bind_ok, or_raise_ok, raise_if_ok, exists_const, ite_ok, pure_ok,
    mk_inj] at ran
  obtain ⟨node, found, -, -, -, -, -, ⟨-, -, rfl⟩ | ⟨-, -, rfl⟩⟩ := ran
  · exact step_same store
  · obtain rfl := find_node_id found
    exact .commandNode node _ found rfl ⟨rfl, rfl, rfl⟩ rfl rfl (.inr rfl)

theorem finalize_node_delete_step {res : Unit}
    (ran : store.finalizeNodeDelete nodeId = .ok (res, post)) :
    StoreStep store .command post := by
  unfold finalizeNodeDelete at ran
  split at ran
  · simp only [pure_ok, mk_inj] at ran
    exact ran.2 ▸ step_same store
  · next node found =>
      simp only [bind_ok, raise_if_ok, exists_const, pure_ok, mk_inj, not_or, not_not] at ran
      obtain ⟨⟨-, empty⟩, -, rfl⟩ := ran
      obtain rfl := find_node_id found
      exact .removeNode node found empty

theorem request_stop_step (ran : store.requestStop nodeId fence = .ok (res, post)) :
    StoreStep store .command post := by
  simp only [requestStop, bind_ok, or_raise_ok, raise_if_ok, exists_const, ite_ok, pure_ok,
    mk_inj] at ran
  obtain ⟨node, found, -, -, -, -, ⟨-, -, rfl⟩ | ⟨-, -, -, rfl⟩⟩ := ran
  · exact step_same store
  · obtain rfl := find_node_id found
    exact .commandNode node _ found rfl ⟨rfl, rfl, rfl⟩ rfl rfl (.inr rfl)

theorem request_restart_step (ran : store.requestRestart nodeId fence = .ok (res, post)) :
    StoreStep store .command post := by
  simp only [requestRestart, bind_ok, or_raise_ok, raise_if_ok, exists_const, pure_ok,
    mk_inj] at ran
  obtain ⟨node, found, -, -, -, -, -, -, rfl⟩ := ran
  obtain rfl := find_node_id found
  exact .commandNode node _ found rfl ⟨rfl, rfl, rfl⟩ rfl rfl (.inr rfl)

theorem request_release_step {releaseId digest : String}
    (ran : store.requestRelease nodeId releaseId digest fence = .ok (res, post)) :
    StoreStep store .command post := by
  simp only [requestRelease, bind_ok, or_raise_ok, raise_if_ok, exists_const, ite_ok, pure_ok,
    mk_inj] at ran
  obtain ⟨-, -, node, found, -, -, -, -, ⟨-, -, rfl⟩ | ⟨-, -, rfl⟩⟩ := ran
  · exact step_same store
  · obtain rfl := find_node_id found
    exact .commandNode node _ found rfl ⟨rfl, rfl, rfl⟩ rfl rfl (.inr rfl)

section Fingerprints

variable [PythonText]

variable {expRev expectedRegistered : Int}

variable {expectedBlastRadius : String}

theorem request_reconfigure_step {releaseId digest : Option String}
    (ran : store.requestReconfigure nodeId expRev expectedRegistered expectedBlastRadius
      releaseId digest = .ok (res, post)) : StoreStep store .command post := by
  simp only [requestReconfigure, bind_ok, or_raise_ok, raise_if_ok, exists_const, pure_ok,
    mk_inj] at ran
  obtain ⟨-, -, node, found, -, -, -, -, -, -, rfl⟩ := ran
  obtain rfl := find_node_id found
  exact .commandNode node _ found rfl ⟨rfl, rfl, rfl⟩ rfl rfl (.inr rfl)

theorem begin_port_change_step {newPort : Int} {allowedPorts : List Int}
    {res : NodePortChange} (fresh : store.Unused changeId)
    (ran : store.beginPortChange changeId nodeId newPort allowedPorts expRev
      expectedRegistered expectedBlastRadius = .ok (res, post)) :
    StoreStep store .command post := by
  simp only [beginPortChange, bind_ok, or_raise_ok, raise_if_ok, exists_const, pure_ok,
    mk_inj] at ran
  obtain ⟨node, found, -, -, -, -, changed, unused, idle, -, -, rfl⟩ := ran
  obtain rfl := find_node_id found
  simp only [not_or, not_exists, not_and, not_not] at unused
  exact .beginPortChange node _ found fresh rfl rfl rfl changed unused.1 unused.2 rfl rfl
    (by simpa using idle)

end Fingerprints

theorem complete_port_change_step
    (ran : store.completePortChange changeId obs observedAt = .ok (res, post)) :
    StoreStep store (.settlePort changeId) post := by
  simp only [completePortChange, bind_ok, or_raise_ok, raise_if_ok, exists_const, ite_ok, pure_ok,
    mk_inj, not_not] at ran
  obtain ⟨change, changeFound, node, found, ⟨-, -, rfl⟩ | ⟨-, prepared, -, -, -, rfl⟩⟩ := ran
  · exact step_same store
  · have onNode := find_node_id found
    obtain rfl := find_port_change_id changeFound
    exact .completePortChange change node obs observedAt changeFound
      (onNode ▸ found) onNode.symm prepared

theorem abort_port_change_step
    (ran : store.abortPortChange changeId obs observedAt = .ok (res, post)) :
    StoreStep store (.settlePort changeId) post := by
  simp only [abortPortChange, bind_ok, or_raise_ok, raise_if_ok, exists_const, ite_ok, pure_ok,
    mk_inj, not_not] at ran
  obtain ⟨change, changeFound, node, found, ⟨-, -, rfl⟩ | ⟨-, prepared, -, -, -, rfl⟩⟩ := ran
  · exact step_same store
  · have onNode := find_node_id found
    obtain rfl := find_port_change_id changeFound
    exact .abortPortChange change node obs observedAt changeFound
      (onNode ▸ found) onNode.symm prepared

variable {expRev : Option Int}

section Placement

variable [PythonText]

omit [PythonText] in
theorem eligible_capacity {freshness : Int} {now : Datetime}
    (eligible : isNodeEligible node freshness now = true) :
    node.registeredCameras < node.cameraCapacity := by
  simp only [isNodeEligible, Bool.and_eq_true, decide_eq_true_eq] at eligible
  exact eligible.2

variable {args : PlaceArguments}

theorem place_on_step {selected : MediaNode} {mode : PlacementMode} {name sourceUrl : String}
    (found : store.findNode selected.id = some selected)
    (capacity : selected.registeredCameras < selected.cameraCapacity)
    (fresh : store.Unused args.cameraId)
    (ran : store.placeOn selected mode args name sourceUrl = .ok (cam, post))
    (requests : List (RequestKey × RegistrationRequest (Option UUID))) :
    StoreStep store (.place args.publicId) { post with cameraRegistrationRequests := requests } := by
  simp only [placeOn, bind_ok, pure_ok, mk_inj] at ran
  obtain ⟨probeEndpoint, -, rfl, rfl⟩ := ran
  exact .placeCamera selected
    { id := args.cameraId, name := name, sourceUrl := sourceUrl, publicId := args.publicId
      nodeId := selected.id, nodePort := selected.externalPort, placementMode := mode
      probeEndpoint := probeEndpoint } requests found capacity fresh rfl rfl rfl rfl ⟨rfl, rfl⟩

theorem place_camera_automatically_step (distinct : DistinctKeys MediaNode.id store.nodes)
    (fresh : store.Unused args.cameraId)
    (ran : store.placeCameraAutomatically args = .ok (cam, post))
    (requests : List (RequestKey × RegistrationRequest (Option UUID))) :
    StoreStep store (.place args.publicId) { post with cameraRegistrationRequests := requests } := by
  simp only [placeCameraAutomatically, bind_ok, or_raise_ok] at ran
  obtain ⟨_, -, _, -, selected, least, placed⟩ := ran
  have cand := List.mem_filter.mp (least_loaded_mem least)
  have eligible : isNodeEligible selected _ _ = true ∧ _ := of_decide_eq_true cand.2
  exact place_on_step (lookup_of_mem distinct cand.1)
    (eligible_capacity eligible.1) fresh placed requests

theorem place_camera_manually_step (fresh : store.Unused args.cameraId)
    (ran : store.placeCameraManually nodeId args = .ok (cam, post))
    (requests : List (RequestKey × RegistrationRequest (Option UUID))) :
    StoreStep store (.place args.publicId) { post with cameraRegistrationRequests := requests } := by
  simp only [placeCameraManually, bind_ok, or_raise_ok, raise_if_ok, exists_const] at ran
  obtain ⟨_, -, _, -, selected, found, capacity, -, -, placed⟩ := ran
  obtain rfl := find_node_id found
  exact place_on_step found (not_le.mp capacity) fresh placed requests

theorem place_camera_idempotently_step {nodeId : Option UUID}
    {idempotency : CameraRegistrationIdempotency} {res : CameraRegistrationResult}
    (distinct : DistinctKeys MediaNode.id store.nodes) (fresh : store.Unused args.cameraId)
    (ran : store.placeCameraIdempotently nodeId args idempotency = .ok (res, post)) :
    StoreStep store (.place args.publicId) post := by
  simp only [placeCameraIdempotently, bind_ok, or_raise_ok] at ran
  obtain ⟨-, -, target, -, ran⟩ := ran
  cases target with
  | some cameraId =>
    simp only [bind_ok, pure_ok, mk_inj] at ran
    obtain ⟨_, _, _, rfl⟩ := ran
    exact step_same store
  | none =>
    cases nodeId with
    | none =>
      simp only [bind_ok, pure_ok, mk_inj] at ran
      obtain ⟨⟨cam, placed⟩, placedOk, -, rfl⟩ := ran
      exact place_camera_automatically_step distinct fresh placedOk _
    | some nodeId =>
      simp only [bind_ok, pure_ok, mk_inj] at ran
      obtain ⟨⟨cam, placed⟩, placedOk, -, rfl⟩ := ran
      exact place_camera_manually_step fresh placedOk _

theorem update_camera_step {name sourceUrl : String} {probeEndpoint : Option ProbeEndpointIdentity}
    {res : CameraPlacement} (ran : store.updateCamera cameraId name sourceUrl expRev probeEndpoint =
      .ok (res, post)) : StoreStep store .command post := by
  simp only [updateCamera, bind_ok, or_raise_ok, raise_if_ok, exists_const, ite_ok, pure_ok,
    mk_inj] at ran
  obtain ⟨_, -, _, -, cam, found, notDeleted, notDeleting, -, -, idle, -, endpoint, -,
    ⟨-, -, rfl⟩ | ⟨-, -, rfl⟩⟩ := ran
  · exact step_same store
  · obtain rfl := find_camera_id found
    exact .editCamera cam _ found ⟨notDeleted, notDeleting⟩ (by simpa using idle) rfl rfl
      ⟨rfl, rfl, rfl⟩ rfl rfl notDeleted

end Placement

theorem reserve_camera_registration_step {idempotency : CameraRegistrationIdempotency}
    {res : Option CameraRegistrationResult}
    (ran : store.reserveCameraRegistration idempotency = .ok (res, post)) :
    StoreStep store .command post := by
  unfold reserveCameraRegistration at ran
  split at ran
  · simp only [pure_ok, mk_inj] at ran
    obtain ⟨-, rfl⟩ := ran
    exact .requests _ _ _
  · simp only [bind_ok] at ran
    obtain ⟨target, -, ran⟩ := ran
    cases target with
    | none =>
      simp only [pure_ok, mk_inj] at ran
      exact ran.2 ▸ step_same store
    | some cameraId =>
      simp only [bind_ok, pure_ok, mk_inj] at ran
      obtain ⟨_, _, _, rfl⟩ := ran
      exact step_same store

theorem set_camera_enabled_step {enabled : Bool} {res : CameraPlacement}
    (ran : store.setCameraEnabled cameraId enabled expRev = .ok (res, post)) :
    StoreStep store .command post := by
  simp only [setCameraEnabled, bind_ok, or_raise_ok, raise_if_ok, exists_const, ite_ok, pure_ok,
    mk_inj] at ran
  obtain ⟨cam, found, notDeleted, notDeleting, -, -, idle, -, ⟨-, -, rfl⟩ | ⟨-, -, rfl⟩⟩ := ran
  · exact step_same store
  · obtain rfl := find_camera_id found
    exact .editCamera cam _ found ⟨notDeleted, notDeleting⟩ (by simpa using idle) rfl rfl
      ⟨rfl, rfl, rfl⟩ rfl rfl (by cases enabled <;> simp)

theorem request_camera_delete_step {res : CameraPlacement}
    (ran : store.requestCameraDelete cameraId expRev = .ok (res, post)) :
    StoreStep store .command post := by
  simp only [requestCameraDelete, bind_ok, or_raise_ok, raise_if_ok, exists_const, ite_ok, pure_ok,
    mk_inj] at ran
  obtain ⟨cam, found, notDeleted, -, -, ⟨-, -, rfl⟩ | ⟨notDeleting, idle, -, -, rfl⟩⟩ := ran
  · exact step_same store
  · obtain rfl := find_camera_id found
    exact .editCamera cam _ found ⟨notDeleted, notDeleting⟩ (by simpa using idle) rfl rfl
      ⟨rfl, rfl, rfl⟩ rfl rfl (by simp)

theorem mark_camera_applied_step {generation revision : Int} {res : Bool}
    (ran : store.markCameraApplied cameraId nodeId generation revision = .ok (res, post)) :
    StoreStep store (.mark cameraId nodeId generation revision) post := by
  unfold markCameraApplied at ran
  split at ran
  · simp only [pure_ok, mk_inj] at ran
    exact ran.2 ▸ step_same store
  · next cam found =>
      simp only [ite_ok, bind_ok, or_raise_ok, pure_ok, mk_inj, not_or, not_not] at ran
      obtain rfl := find_camera_id found
      rcases ran with ⟨-, -, rfl⟩ | ⟨⟨rfl, rfl, rfl⟩, ran⟩
      · exact step_same store
      rcases ran with ⟨-, -, rfl⟩ | ⟨idle, ran⟩
      · exact step_same store
      rcases ran with ⟨deleting, node, nodeFound, -, rfl⟩ | ⟨notDeleting, -, rfl⟩
      · have onNode := find_node_id nodeFound
        exact .markDeleted cam node found (onNode ▸ nodeFound) onNode.symm
          (by simpa using idle) deleting
      · exact .markApplied cam found (by simpa using idle) notDeleting

theorem checked_move_ok {move checked : CameraMove} (ok : checkedMove move = .ok checked) :
    checked = move := by
  simp only [checkedMove, bind_ok, raise_if_ok, exists_const, pure_ok] at ok
  exact ok.2.2.2.2.symm

variable {res : CameraMove}

theorem create_camera_move_step {args : CreateMoveArguments} (fresh : store.Unused args.moveId)
    (ran : store.createCameraMove args = .ok (res, post)) : StoreStep store .command post := by
  simp only [createCameraMove, bind_ok, or_raise_ok, raise_if_ok, exists_const, pure_ok,
    mk_inj, not_not] at ran
  obtain ⟨-, cam, found, -, enabled, -, elsewhere, target, targetFound, -, -, idle, source,
    sourceFound, move, checked, -, rfl⟩ := ran
  obtain rfl := checked_move_ok checked
  obtain cameraId := find_camera_id found
  refine .createMove cam _ source target (cameraId ▸ found) sourceFound targetFound fresh
    enabled ?_ ⟨rfl, rfl, rfl⟩ ⟨rfl, rfl⟩ rfl (Ne.symm elsewhere) rfl rfl
  rw [cameraId]
  simpa using idle

theorem switch_camera_move_step {cancelled : Bool} {clock now : Datetime}
    (ran : store.switchCameraMove moveId cancelled clock now = .ok (res, post)) :
    StoreStep store (.switchMove moveId) post := by
  simp only [switchCameraMove, bind_ok, or_raise_ok, raise_if_ok, exists_const, ite_ok, pure_ok,
    mk_inj, not_not, not_or] at ran
  obtain ⟨-, move, moveFound, ⟨-, -, rfl⟩ | ⟨preparing, -, cam, found, source, sourceFound,
    target, targetFound, fence, capacity, -, -, -, rfl⟩⟩ := ran
  · exact step_same store
  · obtain rfl := find_move_id moveFound
    exact .switchMove move cam source target moveFound found sourceFound targetFound
      preparing fence (not_le.mp capacity)

theorem mark_camera_move_source_cleaned_step
    (ran : store.markCameraMoveSourceCleaned moveId = .ok (res, post)) :
    StoreStep store (.sourceCleaned moveId) post := by
  simp only [markCameraMoveSourceCleaned, bind_ok, or_raise_ok, raise_if_ok, exists_const, ite_ok,
    pure_ok, mk_inj, not_not] at ran
  obtain ⟨move, moveFound, ⟨-, -, rfl⟩ | ⟨-, switched, -, rfl⟩⟩ := ran
  · exact step_same store
  · obtain rfl := find_move_id moveFound
    exact .sourceCleaned move moveFound switched

theorem request_camera_move_abort_step {reason : String} {cancelled : Bool}
    (ran : store.requestCameraMoveAbort moveId reason cancelled = .ok (res, post)) :
    StoreStep store .command post := by
  simp only [requestCameraMoveAbort, bind_ok, or_raise_ok, raise_if_ok, exists_const, ite_ok,
    pure_ok, mk_inj, not_not] at ran
  obtain ⟨-, move, moveFound, ⟨-, -, rfl⟩ | ⟨-, preparing, cam, found, -, rfl⟩⟩ := ran
  · exact step_same store
  · obtain rfl := find_move_id moveFound
    exact .requestAbort move cam reason moveFound found preparing

theorem abort_camera_move_step (ran : store.abortCameraMove moveId = .ok (res, post)) :
    StoreStep store (.abortMove moveId) post := by
  simp only [abortCameraMove, bind_ok, or_raise_ok, raise_if_ok, exists_const, ite_ok, pure_ok,
    mk_inj, not_not] at ran
  obtain ⟨move, moveFound, ⟨-, -, rfl⟩ | ⟨-, aborting, -, rfl⟩⟩ := ran
  · exact step_same store
  · obtain rfl := find_move_id moveFound
    exact .abortMove move moveFound aborting

theorem complete_camera_move_step (ran : store.completeCameraMove moveId = .ok (res, post)) :
    StoreStep store (.completeMove moveId) post := by
  simp only [completeCameraMove, bind_ok, or_raise_ok, raise_if_ok, exists_const, ite_ok, pure_ok,
    mk_inj, not_not] at ran
  obtain ⟨move, moveFound, ⟨-, -, rfl⟩ | ⟨-, activating, cam, found, -, rfl⟩⟩ := ran
  · exact step_same store
  · obtain rfl := find_move_id moveFound
    exact .completeMove move cam moveFound found activating

variable [PythonText]

theorem operation_step {op : StoreOperation}
    (distinct : DistinctKeys MediaNode.id store.nodes)
    (fresh : op.Fresh store) (ran : op.run store = .ok post) :
    StoreStep store op.label post := by
  cases op <;>
    simp only [StoreOperation.run, StoreOperation.perform, map_ok, Prod.exists,
      exists_eq_right] at ran <;>
    obtain ⟨res, ran⟩ := ran
  case registerAutomatically args =>
    exact register_automatically_step (fresh _ rfl) ran post.registrationRequests
  case registerIdempotently args idempotency =>
    exact register_idempotently_step (fresh _ rfl) ran
  case applyRuntimeObservation => exact apply_runtime_observation_step ran
  case requestDesiredState => exact request_desired_state_step ran
  case requestAdministrativeState => exact request_administrative_state_step ran
  case requestNodeDelete => exact request_node_delete_step ran
  case finalizeNodeDelete => exact finalize_node_delete_step ran
  case requestStop => exact request_stop_step ran
  case requestRestart => exact request_restart_step ran
  case requestRelease => exact request_release_step ran
  case requestReconfigure => exact request_reconfigure_step ran
  case beginPortChange => exact begin_port_change_step (fresh _ rfl) ran
  case completePortChange => exact complete_port_change_step ran
  case abortPortChange => exact abort_port_change_step ran
  case placeCameraAutomatically =>
    exact place_camera_automatically_step distinct (fresh _ rfl) ran post.cameraRegistrationRequests
  case placeCameraManually =>
    exact place_camera_manually_step (fresh _ rfl) ran post.cameraRegistrationRequests
  case placeCameraIdempotently => exact place_camera_idempotently_step distinct (fresh _ rfl) ran
  case reserveCameraRegistration => exact reserve_camera_registration_step ran
  case updateCamera => exact update_camera_step ran
  case setCameraEnabled => exact set_camera_enabled_step ran
  case requestCameraDelete => exact request_camera_delete_step ran
  case markCameraApplied => exact mark_camera_applied_step ran
  case createCameraMove => exact create_camera_move_step (fresh _ rfl) ran
  case switchCameraMove => exact switch_camera_move_step ran
  case markCameraMoveSourceCleaned => exact mark_camera_move_source_cleaned_step ran
  case requestCameraMoveAbort => exact request_camera_move_abort_step ran
  case abortCameraMove => exact abort_camera_move_step ran
  case completeCameraMove => exact complete_camera_move_step ran

theorem apply_step {op : StoreOperation} (distinct : DistinctKeys MediaNode.id store.nodes)
    (fresh : op.Fresh store) : StoreStep store op.label (op.apply store) := by
  unfold StoreOperation.apply
  split
  · next post ran => exact operation_step distinct fresh ran
  · exact step_same store

end Classification

/-- The nodes a store may be constructed with: empty nodes with identities and
ports of their own. A store constructed without nodes meets this. -/
structure InitialNodes (nodes : List MediaNode) : Prop where
  ids : DistinctKeys MediaNode.id nodes
  externalPorts : DistinctKeys MediaNode.externalPort nodes
  apiPorts : DistinctKeys MediaNode.apiPort nodes
  metricsPorts : DistinctKeys MediaNode.metricsPort nodes
  empty : ∀ node ∈ nodes, node.registeredCameras = 0 ∧ 0 ≤ node.cameraCapacity

/-- The states some sequence of operations leads to, generated ids being fresh. -/
inductive Reachable [PythonText] (nodes : List MediaNode) : InMemoryNodeStore → Prop
  | start : Reachable nodes { nodes := nodes }
  | operate {store : InMemoryNodeStore} (reached : Reachable nodes store)
      (op : StoreOperation) (fresh : op.Fresh store) :
      Reachable nodes (op.apply store)

def StoreOperation.applyAll [PythonText] (operations : List StoreOperation)
    (store : InMemoryNodeStore) : InMemoryNodeStore :=
  operations.foldl (fun cur op => op.apply cur) store

def StoreOperation.AllFresh [PythonText] : List StoreOperation → InMemoryNodeStore → Prop
  | [], _ => True
  | op :: rest, store => op.Fresh store ∧ AllFresh rest (op.apply store)

instance StoreOperation.decidableAllFresh [PythonText] :
    (operations : List StoreOperation) → (store : InMemoryNodeStore) →
      Decidable (StoreOperation.AllFresh operations store)
  | [], _ => .isTrue trivial
  | op :: rest, store =>
    have := decidableAllFresh rest (op.apply store)
    inferInstanceAs (Decidable (op.Fresh store ∧ _))

theorem reachable_apply_all [PythonText] {nodes : List MediaNode} (operations : List StoreOperation)
    (reached : Reachable nodes store) (fresh : StoreOperation.AllFresh operations store) :
    Reachable nodes (StoreOperation.applyAll operations store) := by
  induction operations generalizing store with
  | nil => exact reached
  | cons op rest ih => exact ih (reached.operate op fresh.1) fresh.2

/-- Two running nodes, `1` and `2`, ready for placements. -/
def sampleNodes : List MediaNode :=
  [{ id := 1, name := "first", externalPort := 8554, state := .running, runtimeState := .running
     health := .healthy, managementFresh := true, managementObservedAt := some 0
     configCompatible := true, appliedRevision := 1 },
   { id := 2, name := "second", externalPort := 8555, apiPort := 20001, metricsPort := 20101
     state := .running, runtimeState := .running, health := .healthy, managementFresh := true
     managementObservedAt := some 0, configCompatible := true, appliedRevision := 1 }]

theorem sample_nodes_initial : InitialNodes sampleNodes := by
  refine ⟨?_, ?_, ?_, ?_, ?_⟩ <;> decide

def samplePlacement : PlaceArguments :=
  { cameraId := 10, name := "gate", sourceUrl := "rtsp://camera/live"
    publicId := ⟨"aaaaaaaaaaaaaaaaaaaaaaaaaa", by decide⟩, managementFreshnessSeconds := 30
    probeEndpoint := none, now := 0 }

def sampleMove : CreateMoveArguments :=
  { moveId := 20, cameraId := 10, targetNodeId := 2, expectedRevision := 1, force := false
    confirmedDisconnectReaders := 0, timeoutSeconds := 60, managementFreshnessSeconds := 30
    eligibilityClock := 0, expiryClock := 0 }

theorem step_node_ids {post : InMemoryNodeStore} {label : StepLabel}
    (step : StoreStep store label post) (distinct : DistinctKeys MediaNode.id store.nodes) :
    DistinctKeys MediaNode.id post.nodes := by
  have put (upd : MediaNode) (records : List MediaNode)
      (ids : DistinctKeys MediaNode.id records) :
      DistinctKeys MediaNode.id (replace MediaNode.id upd records) :=
    distinct_replace.mpr ids
  cases step with
  | registerNode node _ fresh =>
    exact distinct_append_singleton distinct fresh.node
  | removeNode node => exact List.Nodup.sublist (List.Sublist.map _ List.erase_sublist) distinct
  | requests | beginPortChange | editCamera | markApplied | createMove | sourceCleaned | abortMove
  | completeMove => exact distinct
  | requestAbort => dsimp only [putMove]; split_ifs <;> exact distinct
  | commandNode | completePortChange | abortPortChange | placeCamera | markDeleted =>
    exact put _ _ distinct
  | switchMove => exact put _ _ (put _ _ distinct)

/-- The invariant rule: what holds initially and is kept by every step, given
distinct node ids, holds in every reachable state. -/
theorem reachable_induction [PythonText] {nodes : List MediaNode} (init : InitialNodes nodes)
    (inv : InMemoryNodeStore → Prop) (start : inv { nodes := nodes })
    (keeps : ∀ store post label, DistinctKeys MediaNode.id store.nodes →
      inv store → StoreStep store label post → inv post) (reached : Reachable nodes store) :
    DistinctKeys MediaNode.id store.nodes ∧ inv store := by
  induction reached with
  | start => exact ⟨init.ids, start⟩
  | operate _ op fresh ih =>
    have step := apply_step ih.1 fresh
    exact ⟨step_node_ids step ih.1, keeps _ _ _ ih.1 ih.2 step⟩

end RtspProxy.Nodes
