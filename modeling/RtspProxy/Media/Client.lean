import RtspProxy.Lib.Uuid
import RtspProxy.Media.Payloads

/-!
# The media client

`UnixMediaNodeClient` of `node_runtime.py`. The helper is what answers the line it
is sent, or fails to. Clocks are left to the caller: whether the deadline has
passed, and the deadline that is sent.
-/

namespace RtspProxy.Media

open Nodes Lib

open Reconcile (MediaPathConfig MediaPathInventory)

inductive MediaPathOperation
  | inventory | get | put | delete | runtime | metrics
  deriving DecidableEq

def MediaPathOperation.value : MediaPathOperation → String
  | inventory => "inventory"
  | get => "get"
  | put => "put"
  | delete => "delete"
  | runtime => "runtime"
  | metrics => "metrics"

/-- The keyword arguments of `_request`: the name, and what is put there. -/
structure RequestedPath where
  name : PublicId
  sourceUrl : Option String := none
  maxReaders : Option Int := none

/-- A media command; another path than its operation takes cannot be given to it. -/
inductive MediaPathCommand
  | inventory | metrics
  | put (path : MediaPathConfig)
  | get (name : PublicId)
  | delete (name : PublicId)
  | runtime (name : PublicId)
  deriving DecidableEq

namespace MediaPathCommand

def operation : MediaPathCommand → MediaPathOperation
  | inventory => .inventory
  | metrics => .metrics
  | put _ => .put
  | get _ => .get
  | delete _ => .delete
  | runtime _ => .runtime

/-- What the client passes to `_request` for the command. -/
def requested : MediaPathCommand → Option RequestedPath
  | inventory | metrics => none
  | put path => some ⟨path.name, some path.sourceUrl, some path.maxReaders⟩
  | get name | delete name | runtime name => some { name := name }

end MediaPathCommand

structure SpecFields where
  nodeId : UUID
  externalPort : Int
  apiPort : Int
  metricsPort : Int
  desiredRevision : Int
  releaseId : String
  mediamtxBinarySha256 : String
  deriving DecidableEq

def runtimeSpecPayload (spec : SpecFields) : Members :=
  [("node_id", .str (Uuid.uuidText spec.nodeId)),
    ("external_port", .int spec.externalPort), ("api_port", .int spec.apiPort),
    ("metrics_port", .int spec.metricsPort), ("desired_revision", .int spec.desiredRevision),
    ("release_id", .str spec.releaseId),
    ("mediamtx_binary_sha256", .str spec.mediamtxBinarySha256)]

def optional {Value : Type} (write : Value → Json) : Option Value → Json
  | some value => write value
  | none => .null

def requestedPathPayload (path : RequestedPath) : Members :=
  [("name", .str path.name.value), ("source_url", optional .str path.sourceUrl),
    ("max_readers", optional .int path.maxReaders)]

def requestPayload (operation : MediaPathOperation) (spec : SpecFields)
    (path : Option RequestedPath) (deadlineUnixMs : Int) : Members :=
  [("schema_version", .int 1), ("request_type", .str "media_path"),
    ("operation", .str operation.value), ("spec", .obj (runtimeSpecPayload spec)),
    ("path", optional (fun path => .obj (requestedPathPayload path)) path),
    ("deadline_unix_ms", .int deadlineUnixMs)]

def readline (limit : Nat) (stream : List UInt8) : List UInt8 :=
  let line := stream.takeWhile (· ≠ 10)
  if line.length < stream.length then (line ++ [10]).take limit else line.take limit

/-- The surroundings of one request. -/
structure Wire where
  expired : Bool
  deadlineUnixMs : Int
  helper : List UInt8 → Option (List UInt8)

section Client

variable (pydantic : Pydantic) (wire : Wire) (spec : SpecFields)

def unavailable {Value : Type} (code : String) : Except Raised Value :=
  .error (.mediaNodeUnavailable code)

def invalidResponse {Value : Type} : Except Raised Value :=
  .error (.mediaNodeProtocolError "node_media_response_invalid")

def decodeResponse (raw : List UInt8) : Except Raised MediaResponsePayload :=
  if raw = [] ∨ maxRuntimeMessageBytes < raw.length ∨ raw.getLast? ≠ some 10 then
    unavailable "node_media_response_invalid"
  else
    match (pydantic.json raw).bind (readMediaResponse pydantic) with
    | none => unavailable "node_media_response_invalid"
    | some resp =>
      if resp.schemaVersion ≠ 1 then unavailable "node_media_response_invalid"
      else if resp.ok = false then
        match resp.error with
        | none => unavailable "node_media_response_invalid"
        | some error =>
          if resp.path ≠ none ∨ resp.inventory ≠ none ∨ resp.runtime ≠ none ∨
              resp.metrics ≠ none then
            unavailable "node_media_response_invalid"
          else unavailable error
      else if resp.error ≠ none then unavailable "node_media_response_invalid"
      else .ok resp

def request (operation : MediaPathOperation) (path : Option RequestedPath) :
    Except Raised MediaResponsePayload :=
  if wire.expired = true then unavailable "node_media_deadline_exceeded"
  else
    let encoded := encodeLine (.obj (requestPayload operation spec path wire.deadlineUnixMs))
    if maxRuntimeMessageBytes < encoded.length then unavailable "node_media_request_too_large"
    else
      match wire.helper encoded with
      | none => unavailable "node_media_unavailable"
      | some stream => decodeResponse pydantic (readline (maxRuntimeMessageBytes + 1) stream)

def emptyResponse (resp : MediaResponsePayload) : Except Raised Unit :=
  if resp.path ≠ none ∨ resp.inventory ≠ none ∨ resp.runtime ≠ none ∨
      resp.metrics ≠ none then invalidResponse
  else .ok ()

def putPath (path : MediaPathConfig) : Except Raised Unit :=
  request pydantic wire spec .put
    (some ⟨path.name, some path.sourceUrl, some path.maxReaders⟩) >>= emptyResponse

def pathResponse (name : PublicId) (resp : MediaResponsePayload) :
    Except Raised (Option MediaPathConfig) :=
  if resp.inventory ≠ none ∨ resp.runtime ≠ none ∨ resp.metrics ≠ none then
    invalidResponse
  else
    match resp.path with
    | none => .ok none
    | some path =>
      match path.sourceUrl, path.maxReaders with
      | some sourceUrl, some maxReaders =>
        if limit : maxReaders = -1 ∨ maxReaders = 1 then
          match parsePublicId path.name with
          | .error _ => invalidResponse
          | .ok responseName =>
            if responseName ≠ name then invalidResponse
            else .ok (some ⟨responseName, sourceUrl, maxReaders, limit⟩)
        else invalidResponse
      | _, _ => invalidResponse

def getPath (name : PublicId) : Except Raised (Option MediaPathConfig) :=
  request pydantic wire spec .get (some { name := name }) >>= pathResponse name

def inventoryResponse (resp : MediaResponsePayload) : Except Raised MediaPathInventory :=
  match resp.inventory with
  | none => invalidResponse
  | some inventory =>
    if resp.path ≠ none ∨ resp.runtime ≠ none ∨ resp.metrics ≠ none then
      invalidResponse
    else
      match inventory.cameraIds.mapM parsePublicId with
      | .error _ => invalidResponse
      | .ok parsed =>
        let cameraIds := parsed.insertionSort fun left right => left.value ≤ right.value
        if ¬ cameraIds.Nodup then invalidResponse
        else .ok ⟨cameraIds, inventory.noOracleMatcherPresent⟩

def inventoryPaths : Except Raised MediaPathInventory :=
  request pydantic wire spec .inventory none >>= inventoryResponse

def deletePath (name : PublicId) : Except Raised Unit :=
  request pydantic wire spec .delete (some { name := name }) >>= emptyResponse

def runtimeResponse (resp : MediaResponsePayload) : Except Raised (Option (Bool × Int)) :=
  if resp.inventory ≠ none ∨ resp.path ≠ none ∨ resp.metrics ≠ none then
    invalidResponse
  else .ok (resp.runtime.map fun runtime => (runtime.ready, runtime.readerCount))

def pathRuntimeStatus (name : PublicId) : Except Raised (Option (Bool × Int)) :=
  request pydantic wire spec .runtime (some { name := name }) >>= runtimeResponse

def makeCounter (item : PathMetricPayload) : Except Raised PathMetricCounters :=
  makePathMetricCounters item.publicId item.receivedBytesTotal item.sentBytesTotal item.ready

def sampleFields (metrics : MediaMetricsPayload) (pathCounters : List PathMetricCounters) :
    SampleFields where
  activeSources := metrics.activeSources
  occupiedStreams := metrics.occupiedStreams
  receivedBytesTotal := metrics.receivedBytesTotal
  sentBytesTotal := metrics.sentBytesTotal
  pathCounters := pathCounters
  occupiedPublicIds := some metrics.occupiedPublicIds

def metricsResponse (resp : MediaResponsePayload) : Except Raised NodeMetricObservation :=
  match resp.metrics with
  | none => invalidResponse
  | some metrics =>
    if resp.inventory ≠ none ∨ resp.path ≠ none ∨ resp.runtime ≠ none then
      invalidResponse
    else
      match metrics.pathCounters.mapM makeCounter with
      | .error error => if error.isValueError = true then invalidResponse else .error error
      -- The records are built outside of the `try`.
      | .ok pathCounters =>
        makeNodeMetricSample (sampleFields metrics pathCounters) >>= fun sample =>
          makeNodeMetricObservation sample metrics.process

def nodeMetrics : Except Raised NodeMetricObservation :=
  request pydantic wire spec .metrics none >>= metricsResponse

end Client

namespace MediaPathCommand

/-- What the method of the client for the command returns. -/
abbrev Value : MediaPathCommand → Type
  | put _ | delete _ => Unit
  | get _ => Option MediaPathConfig
  | inventory => MediaPathInventory
  | runtime _ => Option (Bool × Int)
  | metrics => NodeMetricObservation

def run (pydantic : Pydantic) (wire : Wire) (spec : SpecFields) :
    (cmd : MediaPathCommand) → Except Raised cmd.Value
  | put path => putPath pydantic wire spec path
  | get name => getPath pydantic wire spec name
  | inventory => inventoryPaths pydantic wire spec
  | delete name => deletePath pydantic wire spec name
  | runtime name => pathRuntimeStatus pydantic wire spec name
  | metrics => nodeMetrics pydantic wire spec

def read : (cmd : MediaPathCommand) → MediaResponsePayload → Except Raised cmd.Value
  | put _ | delete _ => emptyResponse
  | get name => pathResponse name
  | inventory => inventoryResponse
  | runtime _ => runtimeResponse
  | metrics => metricsResponse

end MediaPathCommand

end RtspProxy.Media
