import Mathlib.Data.List.Nodup

/-!
# Records of the node store

The data model of `nodes.py`: media nodes, camera placements, camera moves,
port changes, the runtime observations that are written back into nodes and
the exceptions the store raises. Integers are `Int`, as Python's are unbounded
and signed; a point in time is a number of microseconds. Operator attribution
(`NodeMutationContext`) keeps only the fields some modelled function reads.
-/

namespace RtspProxy.Nodes

abbrev UUID := BitVec 128

instance : LawfulBEq UUID := inferInstance

namespace UUID

def int (id : UUID) : Nat := id.toNat

/-- `UUID.version == 4`: the RFC 4122 variant bits and the version nibble. -/
def isVersion4 (id : UUID) : Bool :=
  (id.toNat >>> 62) % 4 == 2 && (id.toNat >>> 76) % 16 == 4

end UUID

/-- Microseconds since the epoch, always with a time zone. -/
abbrev Datetime := Int

def timedeltaSeconds (seconds : Int) : Int := seconds * 1000000

/-- `len(value) == 64` and only lowercase hexadecimal digits. -/
def isSha256Hex (value : String) : Bool :=
  value.toList.length == 64 && value.toList.all fun digit => "0123456789abcdef".toList.contains digit

/-- `[a-z2-7]{25}[aeimquy4]`, the canonical lowercase base32 of 128 bits. -/
def isCanonicalPublicId (value : String) : Bool :=
  value.toList.length == 26 &&
    (value.toList.take 25).all (fun c => ('a' ≤ c && c ≤ 'z') || ('2' ≤ c && c ≤ '7')) &&
    (value.toList.drop 25).all fun c => "aeimquy4".toList.contains c

structure PublicId where
  value : String
  canonical : isCanonicalPublicId value = true
  deriving DecidableEq

inductive NodeState
  | provisioning | stopped | stopping | starting | running | draining | maintenance
  | failed | deleting
  deriving DecidableEq

inductive NodeHealth
  | unknown | healthy | unhealthy
  deriving DecidableEq

inductive NodeRuntimeAction
  | provisionStart | start | stop | restart | reconfigureRestart | delete | observe
  deriving DecidableEq

inductive NodeCreationMode
  | operator | automatic
  deriving DecidableEq

structure NodeCommandFence where
  expectedRevision : Int
  expectedState : NodeState
  valid : 1 ≤ expectedRevision

structure MediaNode where
  id : UUID
  name : String
  externalPort : Int
  apiPort : Int := 20000
  metricsPort : Int := 20100
  releaseId : String := "0.1.0"
  mediamtxBinarySha256 : String :=
    "0000000000000000000000000000000000000000000000000000000000000000"
  creationMode : NodeCreationMode := .operator
  state : NodeState := .provisioning
  runtimeState : NodeState := .provisioning
  health : NodeHealth := .unknown
  registeredCameras : Int := 0
  cameraCapacity : Int := 100
  activeSources : Int := 0
  maintenance : Bool := false
  managementFresh : Bool := false
  managementObservedAt : Option Datetime := none
  runtimeObservedAt : Option Datetime := none
  configCompatible : Bool := false
  desiredRevision : Int := 1
  appliedRevision : Int := 0
  processId : Option Int := none
  processStartTicks : Option Int := none
  processBootId : Option UUID := none
  observedConfigSha256 : Option String := none
  observedReleaseId : Option String := none
  deriving DecidableEq

structure NodeRuntimeObservation where
  state : NodeState
  health : NodeHealth
  managementFresh : Bool := false
  configCompatible : Bool := false
  appliedRevision : Int := 0
  processId : Option Int := none
  processStartTicks : Option Int := none
  processBootId : Option UUID := none
  configSha256 : Option String := none
  releaseId : Option String := none
  deriving DecidableEq

inductive PlacementMode
  | automatic | manual
  deriving DecidableEq

inductive CameraState
  | enabled | disabled | deleting | deleted
  deriving DecidableEq

inductive CameraMoveState
  | prepareTarget | activateTarget | cleanupSource | cleanupTarget | complete | aborted
  deriving DecidableEq

def cameraMoveIsTerminal : CameraMoveState → Bool
  | .complete | .aborted => true
  | .prepareTarget | .activateTarget | .cleanupSource | .cleanupTarget => false

inductive NodePortChangeState
  | prepared | complete | aborted
  deriving DecidableEq

/-- The store only compares identities; `sourceUrlSha256` is the one field it reads. -/
structure ProbeEndpointIdentity where
  generation : UUID
  address : String
  port : Int
  siteKey : String
  policySha256 : String
  sourceUrlSha256 : String
  deriving DecidableEq

structure CameraPlacement where
  id : UUID
  name : String
  sourceUrl : String
  publicId : PublicId
  nodeId : UUID
  nodePort : Int
  placementMode : PlacementMode
  placementGeneration : Int := 1
  state : CameraState := .enabled
  desiredRevision : Int := 1
  appliedRevision : Int := 0
  probeEndpoint : Option ProbeEndpointIdentity := none
  deriving DecidableEq

structure CameraMove where
  id : UUID
  cameraId : UUID
  publicId : PublicId
  sourceUrl : String
  sourceNodeId : UUID
  targetNodeId : UUID
  sourceGeneration : Int
  targetGeneration : Int
  desiredRevision : Int
  force : Bool
  confirmedDisconnectReaders : Int
  sourcePort : Option Int
  targetPort : Option Int
  sourceEndpoint : Option String
  targetEndpoint : Option String
  expiresAt : Datetime
  abortReason : Option String := none
  state : CameraMoveState := .prepareTarget
  deriving DecidableEq

structure NodePortChange where
  id : UUID
  nodeId : UUID
  oldPort : Int
  newPort : Int
  sourceRevision : Int
  targetRevision : Int
  registeredCameras : Int
  blastRadiusSha256 : String
  state : NodePortChangeState := .prepared
  deriving DecidableEq

/-- `NodeRegistrationIdempotency` and `CameraRegistrationIdempotency` are the same record. -/
structure RegistrationIdempotency where
  key : UUID
  actorAccountId : UUID
  actorSessionId : UUID
  requestSha256 : String
  keyVersion : key.isVersion4 = true
  digestValid : isSha256Hex requestSha256 = true

abbrev NodeRegistrationIdempotency := RegistrationIdempotency
abbrev CameraRegistrationIdempotency := RegistrationIdempotency

structure NodeRegistrationResult where
  node : MediaNode
  replayed : Bool

structure CameraRegistrationResult where
  camera : CameraPlacement
  replayed : Bool

structure NodeMutationContext where
  actorAccountId : UUID
  actorSessionId : UUID
  authzVersion : Int
  idempotencyKey : Option UUID
  keyVersion : ∀ key, idempotencyKey = some key → key.isVersion4 = true

/-- The exceptions raised by the store and its controls, with their codes. -/
inductive NodeError
  | nodePortRangeExhausted (code : String)
  | nodeManagementPortRangeExhausted (code : String)
  | maximumNodesReached (code : String)
  | nodePortOutOfRange (code : String)
  | nodePortInUse (code : String)
  | nodeCameraCapacityReached (code : String)
  | nodeNotEmpty (code : String)
  | nodeLifecycleConflict (code : String)
  | nodeLifecycleBusy (code : String)
  | nodeReleaseConflict (code : String)
  | nodeNotFound (code : String)
  | nodeRuntimeUnavailable (code : String)
  | nodeRuntimeFailed (code : String) (nodeId : UUID)
  | invalidNodeRuntimeObservation (code : String)
  | eligibleNodeMissing (code : String)
  | invalidCameraSource (code : String)
  | invalidCameraName (code : String)
  | cameraNotFound (code : String)
  | cameraLifecycleConflict (code : String)
  | cameraRevisionConflict (expectedRevision currentRevision : Int)
  | cameraMoveExpired (code : String)
  | nodeDisruptionConfirmationRequired (code : String)
  | valueError (code : String)
  | runtimeError (code : String)
  /-- `next(...)` without a default found nothing. -/
  | stopIteration
  deriving DecidableEq

end RtspProxy.Nodes
