import RtspProxy.Nodes.Steps
import RtspProxy.Lib.Program

/-!
# The world of the reconcilers

The store, the path table of every media node, and the per-node guards, as
`reconcile.py` sees them: through calls that may fail. A store call fails
before or after it took effect, a media call raises `MediaNodeError` before or
after it took effect, and what the code cannot predict (clocks, cancellation,
reader counts, the iteration order of a set) is part of the answer.

The log is a history variable. It records which desired revisions were
written, which paths were read back, and which revisions were recorded as
applied; no program reads it.
-/

namespace RtspProxy.Reconcile

open Nodes Lib Lib.Program

theorem no_reader : (-1 : Int) = -1 ∨ (-1 : Int) = 1 := by decide

theorem one_reader : (1 : Int) = -1 ∨ (1 : Int) = 1 := by decide

/-- A path of a media node; `-1` admits no reader. -/
structure MediaPathConfig where
  name : PublicId
  sourceUrl : String
  maxReaders : Int := 1
  limit : maxReaders = -1 ∨ maxReaders = 1 := by
    first | exact RtspProxy.Reconcile.no_reader | exact RtspProxy.Reconcile.one_reader
  deriving DecidableEq

def MediaPathConfig.IsOpen (path : MediaPathConfig) : Prop := path.maxReaders = 1

instance (path : MediaPathConfig) : Decidable path.IsOpen :=
  inferInstanceAs (Decidable (path.maxReaders = 1))

structure MediaPathInventory where
  cameraIds : List PublicId
  noOracleMatcherPresent : Bool

inductive Raised
  | node (error : NodeError)
  | mediaNodeError
  | storeUnavailable
  | reconcileRetry (code : String)
  | reconcileCancelled (code : String)
  | cameraOccupied (code : String)
  | cameraReaderInvariantViolation (code : String)
  | moveConfirmationRequired (code : String)
  deriving DecidableEq

/-- How a camera comes to count as applied: writes, readings and the record of the revision. -/
inductive Event
  | wrote (cameraId : UUID) (desiredRevision : Int)
  | read (nodeId : UUID) (name : PublicId) (path : Option MediaPathConfig)
  /-- Recorded as applied: the revision and generation the apply was computed
  from, then those the camera had. -/
  | applied (cameraId : UUID) (computedRevision computedGeneration : Int)
      (currentRevision currentGeneration : Int)
  deriving DecidableEq

structure World where
  store : InMemoryNodeStore
  media : UUID → List MediaPathConfig
  guards : UUID → Option Nat
  /-- Newest event first. -/
  log : List Event

inductive Call
  | cancelled
  | acquire (nodeId : UUID)
  | release (nodeId : UUID)
  | getNode (nodeId : UUID)
  | getCameraMove (moveId : UUID)
  | listNodeCameras (nodeId : UUID)
  | listNodeActiveMoves (nodeId : UUID)
  | markCameraApplied (cameraId nodeId : UUID) (placementGeneration desiredRevision : Int)
  | switchCameraMove (moveId : UUID)
  | requestCameraMoveAbort (moveId : UUID) (reason : String)
  | markCameraMoveSourceCleaned (moveId : UUID)
  | abortCameraMove (moveId : UUID)
  | completeCameraMove (moveId : UUID)
  /-- A store operation of another client. -/
  | operate (op : StoreOperation)
  | putPath (nodeId : UUID) (path : MediaPathConfig)
  | getPath (nodeId : UUID) (name : PublicId)
  | inventoryPaths (nodeId : UUID)
  | deletePath (nodeId : UUID) (name : PublicId)
  | pathRuntimeStatus (nodeId : UUID) (name : PublicId)
  /-- The elements of a set, in the order it iterates over them. -/
  | iterate (names : List PublicId)

abbrev Answer : Call → Type
  | .cancelled => Bool
  | .acquire _ | .release _ | .putPath .. | .deletePath .. => Unit
  | .getNode _ => Option MediaNode
  | .getCameraMove _ => Option CameraMove
  | .listNodeCameras _ => List CameraPlacement
  | .listNodeActiveMoves _ => List CameraMove
  | .markCameraApplied .. => Bool
  | .switchCameraMove _ | .requestCameraMoveAbort .. | .markCameraMoveSourceCleaned _
  | .abortCameraMove _ | .completeCameraMove _ => CameraMove
  | .operate op => op.Result
  | .getPath .. => Option MediaPathConfig
  | .inventoryPaths _ => MediaPathInventory
  | .pathRuntimeStatus .. => Option (Bool × Int)
  | .iterate _ => List PublicId

abbrev Program := Prog Call Answer Raised

/-- What the code cannot predict about one call. -/
structure Choice where
  fault : Fault := .none
  cancelled : Bool := false
  clock : Datetime := 0
  now : Datetime := 0
  noOracleMatcherPresent : Bool := true
  status : Option (Bool × Int) := none
  order : List PublicId := []

def revisionsWritten (before after : InMemoryNodeStore) : List Event :=
  (after.cameras.filter fun cam => ¬∃ old ∈ before.cameras,
    old.id = cam.id ∧ old.desiredRevision = cam.desiredRevision).map fun cam =>
      .wrote cam.id cam.desiredRevision

def stamp (store : InMemoryNodeStore) (cameraId : UUID) (revision generation : Int) : List Event :=
  match store.findCamera cameraId with
  | some cam =>
    [.applied cameraId revision generation cam.desiredRevision cam.placementGeneration]
  | none => []

/-- What the operation recorded as applied, given the store before it. -/
def recordsApplied (store : InMemoryNodeStore) : StoreOperation → List Event
  | .markCameraApplied cameraId nodeId placementGeneration desired =>
    match store.markCameraApplied cameraId nodeId placementGeneration desired with
    | .ok (true, _) => stamp store cameraId desired placementGeneration
    | _ => []
  | .completeCameraMove moveId =>
    match store.findMove moveId with
    | some move =>
      if move.state = .activateTarget then
        stamp store move.cameraId move.desiredRevision move.targetGeneration
      else []
    | none => []
  | _ => []

variable [PythonText]

def World.operated (w : World) (op : StoreOperation) : World :=
  { w with
    store := op.apply w.store
    log := revisionsWritten w.store (op.apply w.store) ++
      recordsApplied w.store op ++ w.log }

def mutate (fault : Fault) (op : StoreOperation) (w : World) :
    Except Raised op.Result × World :=
  fault.strike .storeUnavailable
    (match op.perform w.store with
      | .ok (res, _) => .ok res
      | .error error => .error (.node error), w.operated op) w

omit [PythonText] in
def readStore {Value : Type} (fault : Fault) (value : Except NodeError Value) (w : World) :
    Except Raised Value × World :=
  match fault with
  | .none =>
    match value with
    | .ok res => (.ok res, w)
    | .error error => (.error (.node error), w)
  | .before | .after => (.error .storeUnavailable, w)

def setTable (w : World) (nodeId : UUID) (table : List MediaPathConfig) : World :=
  { w with media := fun other => if other = nodeId then table else w.media other }

def changeTable (fault : Fault) (nodeId : UUID)
    (change : List MediaPathConfig → List MediaPathConfig) (w : World) :
    Except Raised Unit × World :=
  fault.strike .mediaNodeError (.ok (), setTable w nodeId (change (w.media nodeId))) w

def readMedia {Value : Type} (fault : Fault) (value : Value) (observed w : World) :
    Except Raised Value × World :=
  match fault with
  | .none => (.ok value, observed)
  | .before | .after => (.error .mediaNodeError, w)

def World.pathOn (w : World) (nodeId : UUID) (name : PublicId) : Option MediaPathConfig :=
  RecordTable.lookup MediaPathConfig.name name (w.media nodeId)

def setGuard (w : World) (nodeId : UUID) (owner : Option Nat) : World :=
  { w with guards := fun other => if other = nodeId then owner else w.guards other }

/-- The answer to a call and the world after it; `none` while the caller waits for a guard. -/
def respond (tid : Nat) (choice : Choice) (w : World) :
    (req : Call) → Option (Except Raised (Answer req) × World)
  | .cancelled => some (.ok choice.cancelled, w)
  | .acquire nodeId =>
    if ∀ node ∈ w.store.nodes, node.id ≠ nodeId then
      some (.error (.node (.nodeNotFound "node_not_found")), w)
    else if choice.cancelled then
      some (.error (.node (.nodeLifecycleBusy "node_lifecycle_busy")), w)
    else
      match w.guards nodeId with
      | none => some (.ok (), setGuard w nodeId (some tid))
      | some _ => none
  | .release nodeId =>
    some (.ok (), if w.guards nodeId = some tid then setGuard w nodeId none else w)
  | .getNode nodeId => some (readStore choice.fault (.ok (w.store.getNode nodeId)) w)
  | .getCameraMove moveId =>
    some (readStore choice.fault (.ok (w.store.getCameraMove moveId)) w)
  | .listNodeCameras nodeId =>
    some (readStore choice.fault (w.store.listNodeCameras nodeId) w)
  | .listNodeActiveMoves nodeId =>
    some (readStore choice.fault (.ok (w.store.listNodeActiveMoves nodeId)) w)
  | .markCameraApplied cameraId nodeId placementGeneration desired =>
    some (mutate choice.fault
      (.markCameraApplied cameraId nodeId placementGeneration desired) w)
  | .switchCameraMove moveId =>
    some (mutate choice.fault
      (.switchCameraMove moveId choice.cancelled choice.clock choice.now) w)
  | .requestCameraMoveAbort moveId reason =>
    some (mutate choice.fault (.requestCameraMoveAbort moveId reason choice.cancelled) w)
  | .markCameraMoveSourceCleaned moveId =>
    some (mutate choice.fault (.markCameraMoveSourceCleaned moveId) w)
  | .abortCameraMove moveId => some (mutate choice.fault (.abortCameraMove moveId) w)
  | .completeCameraMove moveId => some (mutate choice.fault (.completeCameraMove moveId) w)
  | .operate op => some (mutate choice.fault op w)
  | .putPath nodeId path =>
    some (changeTable choice.fault nodeId
      (fun table => path :: table.filter fun other => other.name ≠ path.name) w)
  | .getPath nodeId name =>
    some (readMedia choice.fault (w.pathOn nodeId name)
      { w with log := .read nodeId name (w.pathOn nodeId name) :: w.log } w)
  | .inventoryPaths nodeId =>
    some (readMedia choice.fault
      { cameraIds := (w.media nodeId).map (·.name)
        noOracleMatcherPresent := choice.noOracleMatcherPresent } w w)
  | .deletePath nodeId name =>
    some (changeTable choice.fault nodeId
      (fun table => table.filter fun other => other.name ≠ name) w)
  | .pathRuntimeStatus _ _ => some (readMedia choice.fault choice.status w w)
  | .iterate names =>
    some (.ok (if choice.order.Perm names then choice.order else names), w)

/-- Identifiers other clients bring into the store are new, and so are the
public ids of the cameras they place. -/
def FreshCall (w : World) : Call → Prop
  | .operate op => op.Fresh w.store ∧
      ∀ publicId, op.label = .place publicId → (∀ cam ∈ w.store.cameras, cam.publicId ≠ publicId) ∧
          ∀ nodeId, ∀ path ∈ w.media nodeId, path.name ≠ publicId
  | _ => True

def releaseAll (tid : Nat) (w : World) : World :=
  { w with
    guards := fun nodeId => if w.guards nodeId = some tid then none else w.guards nodeId }

def machine : Machine Call Answer Raised World where
  exec tid w req ans after :=
    FreshCall w req ∧ ∃ choice : Choice, respond tid choice w req = some (ans, after)
  leave := releaseAll

end RtspProxy.Reconcile
