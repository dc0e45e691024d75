import RtspProxy.Nodes.Store

/-!
# `InMemoryNodeStore`, camera and move operations

Placement, camera updates, and the durable half of the camera-move saga. The
two clocks of the store are separate arguments: `clock` is the injected
`self._clock`, `now` the `datetime.now(UTC)` that `is_node_eligible` falls back to.
-/

namespace RtspProxy.Nodes

open Lib.Raising Lib

namespace InMemoryNodeStore

def getNode (store : InMemoryNodeStore) (nodeId : UUID) : Option MediaNode := store.findNode nodeId

def getCamera (store : InMemoryNodeStore) (cameraId : UUID) : Option CameraPlacement :=
  store.cameras.find? fun cam => cam.id = cameraId ∧ cam.state ≠ .deleted

def getCameraMove (store : InMemoryNodeStore) (moveId : UUID) : Option CameraMove :=
  store.findMove moveId

def listNodeCameras (store : InMemoryNodeStore) (nodeId : UUID) :
    Except NodeError (List CameraPlacement) := do
  raiseIf (∀ node ∈ store.nodes, node.id ≠ nodeId) (.nodeNotFound "node_not_found")
  return store.camerasOn nodeId

def listIncompleteCameraMoves (store : InMemoryNodeStore) : List CameraMove :=
  store.cameraMoves.filter fun move => cameraMoveIsTerminal move.state = false

structure PlaceArguments where
  cameraId : UUID
  name : String
  sourceUrl : String
  publicId : PublicId
  managementFreshnessSeconds : Int
  probeEndpoint : Option ProbeEndpointIdentity
  now : Datetime

def placementCandidates (store : InMemoryNodeStore) (freshness : Int)
    (now : Datetime) : List MediaNode :=
  store.nodes.filter fun node =>
    isNodeEligible node freshness now ∧ store.nodeHasPreparedPortChange node.id = false

section Placement

variable [PythonText]

/-- The tail both placements share: append the camera, count it on its node. -/
def placeOn (selected : MediaNode) (mode : PlacementMode) (args : PlaceArguments)
    (name sourceUrl : String) (store : InMemoryNodeStore) :
    Except NodeError (CameraPlacement × InMemoryNodeStore) := do
  let probeEndpoint ← probeEndpointIdentity sourceUrl args.probeEndpoint
  let placement : CameraPlacement :=
    { id := args.cameraId
      name := name
      sourceUrl := sourceUrl
      publicId := args.publicId
      nodeId := selected.id
      nodePort := selected.externalPort
      placementMode := mode
      probeEndpoint := probeEndpoint }
  let counted := { selected with registeredCameras := selected.registeredCameras + 1 }
  return (placement, { store.putNode counted with cameras := store.cameras ++ [placement] })

def placeCameraAutomatically (args : PlaceArguments) (store : InMemoryNodeStore) :
    Except NodeError (CameraPlacement × InMemoryNodeStore) := do
  let name ← validateCameraName args.name
  let sourceUrl ← validateCameraSourceUrl args.sourceUrl true
  let eligible := store.placementCandidates args.managementFreshnessSeconds args.now
  let selected ← orRaise (leastLoaded eligible) (.eligibleNodeMissing "eligible_node_missing")
  store.placeOn selected .automatic args name sourceUrl

def placeCameraManually (nodeId : UUID) (args : PlaceArguments) (store : InMemoryNodeStore) :
    Except NodeError (CameraPlacement × InMemoryNodeStore) := do
  let name ← validateCameraName args.name
  let sourceUrl ← validateCameraSourceUrl args.sourceUrl true
  let selected ← orRaise (store.findNode nodeId) (.nodeNotFound "node_not_found")
  raiseIf (selected.registeredCameras ≥ selected.cameraCapacity)
    (.nodeCameraCapacityReached "node_camera_capacity_reached")
  raiseIf (store.nodeHasPreparedPortChange nodeId = true)
    (.eligibleNodeMissing "manual_node_ineligible")
  raiseIf (isNodeEligible selected args.managementFreshnessSeconds args.now = false)
    (.eligibleNodeMissing "manual_node_ineligible")
  store.placeOn selected .manual args name sourceUrl

def cameraRegistrationTargetId (prev : RegistrationRequest (Option UUID))
    (idempotency : CameraRegistrationIdempotency) : Except NodeError (Option UUID) := do
  raiseIf (prev.actorAccountId ≠ idempotency.actorAccountId ∨
      prev.requestSha256 ≠ idempotency.requestSha256)
    (.cameraLifecycleConflict "camera_idempotency_conflict")
  return prev.target

def replayedCamera (store : InMemoryNodeStore) (cameraId : UUID) :
    Except NodeError CameraRegistrationResult := do
  let cam ← orRaise (store.getCamera cameraId)
    (.cameraLifecycleConflict "camera_idempotency_target_missing")
  return { camera := cam, replayed := true }

def cameraRegistrationRequest (store : InMemoryNodeStore) (key : RequestKey) :
    Option (RegistrationRequest (Option UUID)) :=
  (RecordTable.lookup Prod.fst key store.cameraRegistrationRequests).map (·.2)

def placeCameraIdempotently (nodeId : Option UUID) (args : PlaceArguments)
    (idempotency : CameraRegistrationIdempotency) (store : InMemoryNodeStore) :
    Except NodeError (CameraRegistrationResult × InMemoryNodeStore) := do
  let prev ← orRaise (store.cameraRegistrationRequest idempotency.requestKey)
    (.nodeRuntimeUnavailable "camera_registration_reservation_missing")
  let target ← cameraRegistrationTargetId prev idempotency
  match target with
  | some cameraId => do
      let res ← store.replayedCamera cameraId
      return (res, store)
  | none => do
      let (cam, placed) ← match nodeId with
        | none => store.placeCameraAutomatically args
        | some nodeId => store.placeCameraManually nodeId args
      return ({ camera := cam, replayed := false }, { placed with
          cameraRegistrationRequests := assign idempotency.requestKey
            { actorAccountId := idempotency.actorAccountId
              requestSha256 := idempotency.requestSha256
              target := some cam.id } placed.cameraRegistrationRequests })

def reserveCameraRegistration (idempotency : CameraRegistrationIdempotency)
    (store : InMemoryNodeStore) :
    Except NodeError (Option CameraRegistrationResult × InMemoryNodeStore) :=
  match store.cameraRegistrationRequest idempotency.requestKey with
  | none =>
    return (none, { store with
      cameraRegistrationRequests := assign idempotency.requestKey
        { actorAccountId := idempotency.actorAccountId
          requestSha256 := idempotency.requestSha256
          target := none } store.cameraRegistrationRequests })
  | some prev => do
      match ← cameraRegistrationTargetId prev idempotency with
      | none => return (none, store)
      | some cameraId => do
          let res ← store.replayedCamera cameraId
          return (some res, store)

/-- `expected_revision` is compared only when it is given. -/
def requireCameraRevision (cam : CameraPlacement) (expRev : Option Int) :
    Except NodeError Unit :=
  match expRev with
  | none => return ()
  | some want =>
    raiseIf (cam.desiredRevision ≠ want)
      (.cameraRevisionConflict want cam.desiredRevision)

/-- A changed source or a requested readmission replaces the stored endpoint. -/
def updatedEndpoint (cam : CameraPlacement) (sourceUrl : String)
    (probeEndpoint : Option ProbeEndpointIdentity) :
    Except NodeError (Option ProbeEndpointIdentity) :=
  if cam.sourceUrl ≠ sourceUrl ∨ probeEndpoint.isSome = true then
    probeEndpointIdentity sourceUrl probeEndpoint
  else return cam.probeEndpoint

def updateCamera (cameraId : UUID) (name sourceUrl : String) (expRev : Option Int)
    (probeEndpoint : Option ProbeEndpointIdentity) (store : InMemoryNodeStore) :
    Except NodeError (CameraPlacement × InMemoryNodeStore) := do
  let name ← validateCameraName name
  let sourceUrl ← validateCameraSourceUrl sourceUrl true
  let cam ← orRaise (store.findCamera cameraId) (.cameraNotFound "camera_not_found")
  raiseIf (cam.state = .deleted) (.cameraNotFound "camera_not_found")
  raiseIf (cam.state = .deleting) (.cameraLifecycleConflict "camera_deleting")
  requireCameraRevision cam expRev
  raiseIf (store.cameraHasActiveMove cameraId = true)
    (.cameraLifecycleConflict "camera_move_in_progress")
  raiseIf (store.nodeHasPreparedPortChange cam.nodeId = true)
    (.cameraLifecycleConflict "node_port_change_in_progress")
  let sourceChanged := decide (cam.sourceUrl ≠ sourceUrl)
  let readmissionRequested := probeEndpoint.isSome
  let endpointIdentity ← updatedEndpoint cam sourceUrl probeEndpoint
  let endpointChanged := sourceChanged ||
    (readmissionRequested && decide (endpointIdentity ≠ cam.probeEndpoint))
  if cam.name = name ∧ sourceChanged = false ∧ endpointChanged = false then
    return (cam, store)
  else
    let upd :=
      { cam with
        name := name
        sourceUrl := sourceUrl
        desiredRevision := cam.desiredRevision + 1
        probeEndpoint := endpointIdentity }
    return (upd, store.putCamera upd)

end Placement

def setCameraEnabled (cameraId : UUID) (enabled : Bool) (expRev : Option Int)
    (store : InMemoryNodeStore) : Except NodeError (CameraPlacement × InMemoryNodeStore) := do
  let cam ← orRaise (store.findCamera cameraId) (.cameraNotFound "camera_not_found")
  raiseIf (cam.state = .deleted) (.cameraNotFound "camera_not_found")
  raiseIf (cam.state = .deleting) (.cameraLifecycleConflict "camera_deleting")
  requireCameraRevision cam expRev
  raiseIf (store.cameraHasActiveMove cameraId = true)
    (.cameraLifecycleConflict "camera_move_in_progress")
  raiseIf (store.nodeHasPreparedPortChange cam.nodeId = true)
    (.cameraLifecycleConflict "node_port_change_in_progress")
  let target : CameraState := if enabled then .enabled else .disabled
  if cam.state = target then
    return (cam, store)
  else
    let upd :=
      { cam with state := target, desiredRevision := cam.desiredRevision + 1 }
    return (upd, store.putCamera upd)

def requestCameraDelete (cameraId : UUID) (expRev : Option Int)
    (store : InMemoryNodeStore) : Except NodeError (CameraPlacement × InMemoryNodeStore) := do
  let cam ← orRaise (store.findCamera cameraId) (.cameraNotFound "camera_not_found")
  raiseIf (cam.state = .deleted) (.cameraNotFound "camera_not_found")
  requireCameraRevision cam expRev
  if cam.state = .deleting then
    return (cam, store)
  else
    raiseIf (store.cameraHasActiveMove cameraId = true)
      (.cameraLifecycleConflict "camera_move_in_progress")
    raiseIf (store.nodeHasPreparedPortChange cam.nodeId = true)
      (.cameraLifecycleConflict "node_port_change_in_progress")
    let upd :=
      { cam with state := .deleting, desiredRevision := cam.desiredRevision + 1 }
    return (upd, store.putCamera upd)

def markCameraApplied (cameraId nodeId : UUID) (placementGeneration desired : Int)
    (store : InMemoryNodeStore) : Except NodeError (Bool × InMemoryNodeStore) :=
  match store.findCamera cameraId with
  | none => return (false, store)
  | some cam =>
    if cam.nodeId ≠ nodeId ∨ cam.placementGeneration ≠ placementGeneration ∨
        cam.desiredRevision ≠ desired then
      return (false, store)
    else if store.cameraHasActiveMove cameraId = true then
      return (false, store)
    else if cam.state = .deleting then do
      let node ← orRaise (store.findNode nodeId) .stopIteration
      let uncounted := { node with registeredCameras := node.registeredCameras - 1 }
      let upd :=
        { cam with state := .deleted, appliedRevision := desired }
      return (true, (store.putNode uncounted).putCamera upd)
    else
      let upd := { cam with appliedRevision := desired }
      return (true, store.putCamera upd)

/-- `CameraMove.__post_init__` on the record `create_camera_move` builds; the
later `replace` calls keep the fields it checks. -/
def checkedMove (move : CameraMove) : Except NodeError CameraMove := do
  raiseIf (move.confirmedDisconnectReaders ≠ 0 ∧ move.confirmedDisconnectReaders ≠ 1)
    (.valueError "camera_move_confirmed_readers_invalid")
  raiseIf ((∃ port ∈ move.sourcePort, port < 1 ∨ 65535 < port) ∨
      ∃ port ∈ move.targetPort, port < 1 ∨ 65535 < port)
    (.valueError "camera_move_port_invalid")
  raiseIf (move.sourceEndpoint.isNone ≠ move.sourcePort.isNone ∨
      move.targetEndpoint.isNone ≠ move.targetPort.isNone)
    (.valueError "camera_move_endpoint_invalid")
  raiseIf (cameraMoveIsTerminal move.state = false ∧ (move.sourcePort = none ∨
      move.targetPort = none ∨ move.sourceEndpoint = none ∨ move.targetEndpoint = none))
    (.valueError "camera_move_endpoint_invalid")
  return move

structure CreateMoveArguments where
  moveId : UUID
  cameraId : UUID
  targetNodeId : UUID
  expectedRevision : Int
  force : Bool
  confirmedDisconnectReaders : Int
  timeoutSeconds : Int
  managementFreshnessSeconds : Int
  /-- The clock at the eligibility check and at the expiry computation. -/
  eligibilityClock : Datetime
  expiryClock : Datetime

def endpoint (port : Int) (publicId : PublicId) : String :=
  "rtsp://server:" ++ toString port ++ "/" ++ publicId.value

def createCameraMove (args : CreateMoveArguments) (store : InMemoryNodeStore) :
    Except NodeError (CameraMove × InMemoryNodeStore) := do
  raiseIf (args.timeoutSeconds < 1 ∨ args.timeoutSeconds > 3600)
    (.valueError "camera_move_timeout_invalid")
  let cam ← orRaise (store.findCamera args.cameraId) (.cameraNotFound "camera_not_found")
  raiseIf (cam.state = .deleted) (.cameraNotFound "camera_not_found")
  raiseIf (cam.state ≠ .enabled) (.cameraLifecycleConflict "camera_not_enabled")
  raiseIf (cam.desiredRevision ≠ args.expectedRevision)
    (.cameraRevisionConflict args.expectedRevision cam.desiredRevision)
  raiseIf (cam.nodeId = args.targetNodeId)
    (.cameraLifecycleConflict "camera_already_on_target")
  let target ← orRaise (store.findNode args.targetNodeId) (.nodeNotFound "node_not_found")
  raiseIf (isNodeEligible target args.managementFreshnessSeconds
      args.eligibilityClock = false)
    (.eligibleNodeMissing "manual_node_ineligible")
  raiseIf (store.nodeHasPreparedPortChange cam.nodeId = true ∨
      store.nodeHasPreparedPortChange args.targetNodeId = true)
    (.cameraLifecycleConflict "node_port_change_in_progress")
  raiseIf (store.cameraHasActiveMove args.cameraId = true)
    (.cameraLifecycleConflict "camera_move_in_progress")
  let source ← orRaise (store.findNode cam.nodeId) .stopIteration
  let desired := cam.desiredRevision + 1
  let move ← checkedMove
    { id := args.moveId
      cameraId := cam.id
      publicId := cam.publicId
      sourceUrl := cam.sourceUrl
      sourceNodeId := cam.nodeId
      targetNodeId := args.targetNodeId
      sourceGeneration := cam.placementGeneration
      targetGeneration := cam.placementGeneration + 1
      desiredRevision := desired
      force := args.force
      confirmedDisconnectReaders := args.confirmedDisconnectReaders
      sourcePort := some source.externalPort
      targetPort := some target.externalPort
      sourceEndpoint := some (endpoint source.externalPort cam.publicId)
      targetEndpoint := some (endpoint target.externalPort cam.publicId)
      expiresAt := args.expiryClock + timedeltaSeconds args.timeoutSeconds }
  return (move, ({ store with cameraMoves := store.cameraMoves ++ [move] }).putCamera
    { cam with desiredRevision := desired })

def defaultFreshnessSeconds : Int := 30

def switchCameraMove (moveId : UUID) (cancelled : Bool) (clock now : Datetime)
    (store : InMemoryNodeStore) : Except NodeError (CameraMove × InMemoryNodeStore) := do
  raiseIf (cancelled = true) (.nodeLifecycleBusy "node_lifecycle_busy")
  let move ← orRaise (store.findMove moveId) (.cameraNotFound "camera_move_not_found")
  if move.state ≠ .prepareTarget then
    return (move, store)
  else
    raiseIf (move.expiresAt ≤ clock) (.cameraMoveExpired "camera_move_expired")
    let cam ← orRaise (store.findCamera move.cameraId) .stopIteration
    let source ← orRaise (store.findNode move.sourceNodeId) .stopIteration
    let target ← orRaise (store.findNode move.targetNodeId) .stopIteration
    raiseIf (cam.nodeId ≠ move.sourceNodeId ∨ cam.placementGeneration ≠ move.sourceGeneration ∨
        cam.desiredRevision ≠ move.desiredRevision)
      (.cameraLifecycleConflict "camera_move_fenced")
    raiseIf (target.registeredCameras ≥ target.cameraCapacity)
      (.nodeCameraCapacityReached "node_camera_capacity_reached")
    raiseIf (isNodeEligible target defaultFreshnessSeconds now = false)
      (.eligibleNodeMissing "manual_node_ineligible")
    raiseIf (store.nodeHasPreparedPortChange source.id = true ∨
        store.nodeHasPreparedPortChange target.id = true)
      (.cameraLifecycleConflict "node_port_change_in_progress")
    let released := { source with registeredCameras := source.registeredCameras - 1 }
    let received := { target with registeredCameras := target.registeredCameras + 1 }
    let switched :=
      { cam with
        nodeId := target.id
        nodePort := target.externalPort
        placementMode := .manual
        placementGeneration := move.targetGeneration }
    let upd := { move with state := .cleanupSource }
    return (upd, (((store.putNode released).putNode received).putCamera switched).putMove upd)

def markCameraMoveSourceCleaned (moveId : UUID) (store : InMemoryNodeStore) :
    Except NodeError (CameraMove × InMemoryNodeStore) := do
  let move ← orRaise (store.findMove moveId) (.cameraNotFound "camera_move_not_found")
  if move.state = .activateTarget then
    return (move, store)
  else
    raiseIf (move.state ≠ .cleanupSource) (.cameraLifecycleConflict "camera_move_not_switched")
    let upd := { move with state := .activateTarget }
    return (upd, store.putMove upd)

def requestCameraMoveAbort (moveId : UUID) (reason : String) (cancelled : Bool)
    (store : InMemoryNodeStore) : Except NodeError (CameraMove × InMemoryNodeStore) := do
  raiseIf (cancelled = true) (.nodeLifecycleBusy "node_lifecycle_busy")
  let move ← orRaise (store.findMove moveId) (.cameraNotFound "camera_move_not_found")
  if cameraMoveIsTerminal move.state = true ∨ move.state = .cleanupTarget then
    return (move, store)
  else
    raiseIf (move.state ≠ .prepareTarget) (.cameraLifecycleConflict "camera_move_already_switched")
    let cam ← orRaise (store.findCamera move.cameraId) .stopIteration
    let bumped :=
      if cam.desiredRevision = move.desiredRevision then
        store.putCamera { cam with desiredRevision := cam.desiredRevision + 1 }
      else store
    let upd := { move with state := .cleanupTarget, abortReason := some reason }
    return (upd, bumped.putMove upd)

def abortCameraMove (moveId : UUID) (store : InMemoryNodeStore) :
    Except NodeError (CameraMove × InMemoryNodeStore) := do
  let move ← orRaise (store.findMove moveId) (.cameraNotFound "camera_move_not_found")
  if move.state = .aborted then
    return (move, store)
  else
    raiseIf (move.state ≠ .cleanupTarget)
      (.cameraLifecycleConflict "camera_move_abort_not_prepared")
    let upd := { move with state := .aborted }
    return (upd, store.putMove upd)

def completeCameraMove (moveId : UUID) (store : InMemoryNodeStore) :
    Except NodeError (CameraMove × InMemoryNodeStore) := do
  let move ← orRaise (store.findMove moveId) (.cameraNotFound "camera_move_not_found")
  if move.state = .complete then
    return (move, store)
  else
    raiseIf (move.state ≠ .activateTarget) (.cameraLifecycleConflict "camera_move_not_switched")
    let cam ← orRaise (store.findCamera move.cameraId) .stopIteration
    let applied := { cam with appliedRevision := move.desiredRevision }
    let upd := { move with state := .complete }
    return (upd, (store.putCamera applied).putMove upd)

end InMemoryNodeStore

end RtspProxy.Nodes
