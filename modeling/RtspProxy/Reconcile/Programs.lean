import RtspProxy.Reconcile.World

/-!
# `CameraReconciler` and `CameraMoveReconciler`

The two reconcilers of `reconcile.py`, call by call. A client of a media node
is the id of the node it was made for. Loops over tuples are recursive
functions over lists; the `with` block of a guard is `withGuard`.
-/

namespace RtspProxy.Reconcile

open Nodes Lib Lib.Program Lib.Program.Prog

def send (req : Call) : Program (Answer req) := ask req

def continueOrCancel : Program Unit := do
  if ← send .cancelled then raise (.reconcileCancelled "camera_reconcile_cancelled")

def withGuard {Result : Type} (nodeId : UUID) (body : Program Result) : Program Result := do
  send (.acquire nodeId)
  body.andThen fun out => (send (.release nodeId)).andThen fun _ => .done out

/-- `except MediaNodeError`. -/
def exceptMedia {Result : Type} (body : Program Result) (handler : Program Result) :
    Program Result :=
  body.handle fun err => if err = .mediaNodeError then handler else raise err

namespace CameraReconciler

def safeReadBack (client : UUID) (want : MediaPathConfig) :
    Program (Option MediaPathConfig) :=
  exceptMedia
    (do
      continueOrCancel
      send (.getPath client want.name))
    (raise (.reconcileRetry "camera_reconcile_unverified"))

def safeGet (client : UUID) (name : PublicId) : Program (Option MediaPathConfig) :=
  exceptMedia
    (do
      continueOrCancel
      send (.getPath client name))
    (raise (.reconcileRetry "camera_reconcile_orphan_unverified"))

/-- The early `return` of the source leaves nothing remaining. -/
def removeDisabledPath (client : UUID) (name : PublicId) : Program Unit := do
  let remaining ← exceptMedia
    (do
      continueOrCancel
      if (← send (.getPath client name)) = none then
        return none
      else
        continueOrCancel
        send (.deletePath client name)
        continueOrCancel
        send (.getPath client name))
    (safeGet client name)
  if remaining ≠ none then raise (.reconcileRetry "camera_reconcile_delete_unverified")

structure ReconcileReport where
  nodeId : UUID
  applied : Nat
  unchanged : Nat
  deletedOrphans : Nat

/-- `mark_camera_applied` with the fence of the record the apply was computed from. -/
def markApplied (nodeId : UUID) (cam : CameraPlacement) : Program Unit := do
  if (← send (.markCameraApplied cam.id nodeId cam.placementGeneration
      cam.desiredRevision)) = false then
    raise (.reconcileRetry "camera_reconcile_fenced")

def applyPath (client : UUID) (path : MediaPathConfig) :
    Program (Option MediaPathConfig × Bool) :=
  exceptMedia
    (do
      let actual ← send (.getPath client path.name)
      let changed := decide (actual ≠ some path)
      if changed then
        continueOrCancel
        send (.putPath client path)
      continueOrCancel
      let verified ← send (.getPath client path.name)
      return (verified, changed))
    (do
      let verified ← safeReadBack client path
      return (verified, true))

def cameraPath (cam : CameraPlacement) : MediaPathConfig :=
  { name := cam.publicId, sourceUrl := cam.sourceUrl, maxReaders := 1 }

/-- One round of the loop over the desired cameras: the new counters. -/
def reconcileCamera (nodeId : UUID) (moveCameraIds : List UUID) (cam : CameraPlacement)
    (applied unchanged : Nat) : Program (Nat × Nat) := do
  continueOrCancel
  if cam.id ∈ moveCameraIds then
    return (applied, unchanged + 1)
  else if cam.state ≠ .enabled then
    removeDisabledPath nodeId cam.publicId
    markApplied nodeId cam
    return (applied + 1, unchanged)
  else
    let path := cameraPath cam
    let (verified, changed) ← applyPath nodeId path
    if verified ≠ some path then
      raise (.reconcileRetry "camera_reconcile_unverified")
    else
      markApplied nodeId cam
      if changed then
        return (applied + 1, unchanged)
      else
        return (applied, unchanged + 1)

def reconcileCameras (nodeId : UUID) (moveCameraIds : List UUID) :
    List CameraPlacement → Nat → Nat → Program (Nat × Nat)
  | [], applied, unchanged => return (applied, unchanged)
  | cam :: rest, applied, unchanged => do
      let (applied, unchanged) ← reconcileCamera nodeId moveCameraIds cam applied unchanged
      reconcileCameras nodeId moveCameraIds rest applied unchanged

def deleteOrphans (client : UUID) : List PublicId → Nat → Program Nat
  | [], deleted => return deleted
  | orphan :: rest, deleted => do
      continueOrCancel
      let remaining ← exceptMedia
        (do
          send (.deletePath client orphan)
          continueOrCancel
          send (.getPath client orphan))
        (safeGet client orphan)
      if remaining ≠ none then
        raise (.reconcileRetry "camera_reconcile_orphan_unverified")
      else
        deleteOrphans client rest (deleted + 1)

def reconcileLocked (nodeId : UUID) : Program ReconcileReport := do
  match ← send (.getNode nodeId) with
  | none => raise (.node (.nodeNotFound "node_not_found"))
  | some node =>
    if node.runtimeState ≠ .running ∨ node.configCompatible = false then
      raise (.reconcileRetry "camera_reconcile_node_unavailable")
    else
      let desired ← send (.listNodeCameras nodeId)
      let activeMoves ← send (.listNodeActiveMoves nodeId)
      let inventory ← send (.inventoryPaths nodeId)
      if inventory.noOracleMatcherPresent = false then
        raise (.reconcileRetry "camera_reconcile_reserved_path_missing")
      else
        let knownIds := desired.map (·.publicId) ++ activeMoves.map (·.publicId)
        let moveCameraIds := activeMoves.map (·.cameraId)
        let (applied, unchanged) ← reconcileCameras nodeId moveCameraIds desired 0 0
        let orphans ← send (.iterate (inventory.cameraIds.filter fun name => name ∉ knownIds))
        let deleted ← deleteOrphans nodeId orphans 0
        return { nodeId := nodeId, applied := applied, unchanged := unchanged
                 deletedOrphans := deleted }

def reconcileNode (nodeId : UUID) : Program ReconcileReport := do
  continueOrCancel
  withGuard nodeId (reconcileLocked nodeId)

end CameraReconciler

namespace CameraMoveReconciler

open CameraReconciler

/-- The path a camera is prepared or quiesced with: no reader is admitted. -/
def closedPath (move : CameraMove) : MediaPathConfig :=
  { name := move.publicId, sourceUrl := move.sourceUrl, maxReaders := -1 }

def openPath (move : CameraMove) : MediaPathConfig :=
  { name := move.publicId, sourceUrl := move.sourceUrl }

/-- `self._store.get_node(...)`; a missing node is retried later. -/
def requireNode (nodeId : UUID) (code : String) : Program Unit := do
  match ← send (.getNode nodeId) with
  | none => raise (.reconcileRetry code)
  | some _ => return ()

def prepareAndVerify (move : CameraMove) : Program Unit := do
  continueOrCancel
  requireNode move.targetNodeId "camera_move_target_missing"
  let want := closedPath move
  let actual ← exceptMedia
    (do
      if (← send (.getPath move.targetNodeId move.publicId)) ≠ some want then
        continueOrCancel
        send (.putPath move.targetNodeId want)
      continueOrCancel
      send (.getPath move.targetNodeId move.publicId))
    (safeReadBack move.targetNodeId want)
  if actual ≠ some want then raise (.reconcileRetry "camera_move_target_unverified")

def activateTarget (move : CameraMove) : Program Unit := do
  continueOrCancel
  requireNode move.targetNodeId "camera_move_target_missing"
  let want := openPath move
  send (.putPath move.targetNodeId want)
  continueOrCancel
  if (← send (.getPath move.targetNodeId move.publicId)) ≠ some want then
    raise (.reconcileRetry "camera_move_target_activation_unverified")

def cleanupSource (move : CameraMove) : Program Unit := do
  continueOrCancel
  requireNode move.sourceNodeId "camera_move_source_missing"
  removeDisabledPath move.sourceNodeId move.publicId

def cleanupTarget (move : CameraMove) : Program Unit := do
  continueOrCancel
  requireNode move.targetNodeId "camera_move_target_missing"
  removeDisabledPath move.targetNodeId move.publicId

def restoreSource (move : CameraMove) : Program Unit := do
  continueOrCancel
  requireNode move.sourceNodeId "camera_move_source_missing"
  let want := openPath move
  continueOrCancel
  send (.putPath move.sourceNodeId want)
  continueOrCancel
  if (← send (.getPath move.sourceNodeId move.publicId)) ≠ some want then
    raise (.reconcileRetry "camera_move_source_restore_unverified")

def quiesceAndValidateSource (move : CameraMove) : Program Unit := do
  continueOrCancel
  requireNode move.sourceNodeId "camera_move_source_missing"
  let quiesced := closedPath move
  send (.putPath move.sourceNodeId quiesced)
  continueOrCancel
  if (← send (.getPath move.sourceNodeId move.publicId)) ≠ some quiesced then
    raise (.reconcileRetry "camera_move_quiesce_unverified")
  else
    continueOrCancel
    let status ← send (.pathRuntimeStatus move.sourceNodeId move.publicId)
    let readers := (status.map (·.2)).getD 0
    if readers > 1 then
      raise (.cameraReaderInvariantViolation "camera_reader_limit_violated")
    else if move.force = false ∧ readers ≠ 0 then
      raise (.cameraOccupied "camera_occupied")
    else if move.force = true ∧ readers ≠ move.confirmedDisconnectReaders then
      raise (.moveConfirmationRequired "move_confirmation_required")

/-- The exceptions that abort a prepared move, with the reason that is stored. -/
def abortReason : Raised → Option String
  | .node (.cameraMoveExpired _) => some "camera_move_expired"
  | .cameraOccupied _ | .cameraReaderInvariantViolation _ | .moveConfirmationRequired _ =>
    some "camera_move_occupancy_changed"
  | .node (.eligibleNodeMissing _) | .node (.nodeCameraCapacityReached _) =>
    some "camera_move_target_ineligible"
  | _ => none

def prepareStep (move : CameraMove) : Program CameraMove := do
  prepareAndVerify move
  handle
    (do
      quiesceAndValidateSource move
      continueOrCancel
      send (.switchCameraMove move.id))
    fun err =>
      match abortReason err with
      | some reason => send (.requestCameraMoveAbort move.id reason)
      | none => raise err

def cleanupTargetStep (move : CameraMove) : Program CameraMove := do
  cleanupTarget move
  restoreSource move
  continueOrCancel
  send (.abortCameraMove move.id)

def cleanupSourceStep (move : CameraMove) : Program CameraMove := do
  cleanupSource move
  continueOrCancel
  send (.markCameraMoveSourceCleaned move.id)

def activateStep (move : CameraMove) : Program CameraMove := do
  activateTarget move
  continueOrCancel
  send (.completeCameraMove move.id)

/-- The four `if` statements of the saga; each tests the state the one before left. -/
def advance (move : CameraMove) : Program CameraMove := do
  let move ← (if move.state = .prepareTarget then prepareStep move else pure move)
  let move ← (if move.state = .cleanupTarget then cleanupTargetStep move else pure move)
  let move ← (if move.state = .cleanupSource then cleanupSourceStep move else pure move)
  if move.state = .activateTarget then activateStep move else return move

def resumeLocked (moveId : UUID) : Program CameraMove := do
  match ← send (.getCameraMove moveId) with
  | none => raise (.node (.cameraNotFound "camera_move_not_found"))
  | some move => advance move

/-- `sorted({source, target}, key=int)`: the guards are taken in one global order. -/
def guardOrder (move : CameraMove) : List UUID :=
  if move.sourceNodeId = move.targetNodeId then [move.sourceNodeId]
  else if move.sourceNodeId.int ≤ move.targetNodeId.int then
    [move.sourceNodeId, move.targetNodeId]
  else [move.targetNodeId, move.sourceNodeId]

def withGuards {Result : Type} (body : Program Result) : List UUID → Program Result
  | [] => body
  | nodeId :: rest => withGuard nodeId (withGuards body rest)

def resume (moveId : UUID) : Program CameraMove := do
  continueOrCancel
  match ← send (.getCameraMove moveId) with
  | none => raise (.node (.cameraNotFound "camera_move_not_found"))
  | some move =>
    if cameraMoveIsTerminal move.state = true then
      return move
    else
      withGuards (resumeLocked moveId) (guardOrder move)

end CameraMoveReconciler

end RtspProxy.Reconcile
