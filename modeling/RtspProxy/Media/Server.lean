import RtspProxy.Media.Client

/-!
# The helper's side of the protocol

How `UnixNodeSupervisorServer` decodes the lines of both clients and encodes its
results, and how `UnixNodeRuntimeClient` encodes a command and decodes what comes
back. A command that the constructors of `node_runtime.py` refuse cannot be built.
-/

namespace RtspProxy.Media

open Nodes Lib Lib.Schema Lib.Raising

open Reconcile (MediaPathConfig MediaPathInventory)

/-- `NodeRuntimeSpec.__post_init__`. -/
def SpecFields.check (spec : SpecFields) : Except Raised Unit := do
  let ports := [spec.externalPort, spec.apiPort, spec.metricsPort]
  raiseIf (∃ port ∈ ports, port < 1 ∨ 65535 < port) (.valueError "node_port_invalid")
  raiseIf (¬ ports.Nodup) (.valueError "node_ports_not_unique")
  raiseIf (spec.desiredRevision < 1) (.valueError "node_desired_revision_invalid")
  raiseIf (spec.releaseId = "" ∨ 128 < spec.releaseId.length)
    (.valueError "node_release_id_invalid")
  raiseIf (isSha256Hex spec.mediamtxBinarySha256 = false)
    (.valueError "node_binary_sha256_invalid")

structure NodeRuntimeSpec extends SpecFields where
  valid : toSpecFields.check = .ok ()

def makeNodeRuntimeSpec (fields : SpecFields) : Except Raised NodeRuntimeSpec :=
  match valid : fields.check with
  | .ok () => .ok ⟨fields, valid⟩
  | .error err => .error err

/-- A command of the runtime; with a configuration it cannot be built. -/
structure NodeRuntimeCommand where
  action : NodeRuntimeAction
  spec : NodeRuntimeSpec

def actionValue : NodeRuntimeAction → String
  | .provisionStart => "provision_start"
  | .start => "start"
  | .stop => "stop"
  | .restart => "restart"
  | .reconfigureRestart => "reconfigure_restart"
  | .delete => "delete"
  | .observe => "observe"

def actions : List NodeRuntimeAction :=
  [.provisionStart, .start, .stop, .restart, .reconfigureRestart, .delete, .observe]

def stateValue : NodeState → String
  | .provisioning => "provisioning"
  | .stopped => "stopped"
  | .stopping => "stopping"
  | .starting => "starting"
  | .running => "running"
  | .draining => "draining"
  | .maintenance => "maintenance"
  | .failed => "failed"
  | .deleting => "deleting"

def nodeStates : List NodeState :=
  [.provisioning, .stopped, .stopping, .starting, .running, .draining, .maintenance, .failed,
    .deleting]

def healthValue : NodeHealth → String
  | .unknown => "unknown"
  | .healthy => "healthy"
  | .unhealthy => "unhealthy"

def nodeHealths : List NodeHealth := [.unknown, .healthy, .unhealthy]

def operations : List MediaPathOperation := [.inventory, .get, .put, .delete, .runtime, .metrics]

def memberOf {Member : Type} (members : List Member) (valueOf : Member → String) : Reader Member :=
  fun json => (text json).bind fun value => members.find? fun mem => valueOf mem = value

/-- `_encode_command`, the payload. -/
def commandPayload (action : NodeRuntimeAction) (spec : SpecFields) (deadline : Int) :
    Members :=
  [("schema_version", .int 1), ("action", .str (actionValue action)),
    ("spec", .obj (runtimeSpecPayload spec)), ("config", .null),
    ("deadline_unix_ms", .int deadline)]

def encodeCommand (cmd : NodeRuntimeCommand) (deadline : Int) :
    Except Raised (List UInt8) :=
  let encoded :=
    encodeLine (.obj (commandPayload cmd.action cmd.spec.toSpecFields deadline))
  if maxRuntimeMessageBytes < encoded.length then
    .error (.nodeSupervisorError "node_runtime_request_too_large")
  else .ok encoded

structure RuntimeResponsePayload where
  schemaVersion : Int
  ok : Bool
  observation : Option NodeRuntimeObservation
  error : Option String

section Runtime

variable (pydantic : Pydantic)

/-- `_RuntimeObservationPayload`, which has the fields of the observation. -/
def readRuntimeObservation : Reader NodeRuntimeObservation := fun json => do
  let members ← fieldsOf
    ["state", "health", "management_fresh", "config_compatible", "applied_revision", "process_id",
      "process_start_ticks", "process_boot_id", "config_sha256", "release_id"] json
  let st ← required (memberOf nodeStates stateValue) members "state"
  let health ← required (memberOf nodeHealths healthValue) members "health"
  let managementFresh ← required boolean members "management_fresh"
  let configCompatible ← required boolean members "config_compatible"
  let appliedRevision ← required integer members "applied_revision"
  let processId ← required (nullable integer) members "process_id"
  let processStartTicks ← required (nullable integer) members "process_start_ticks"
  let processBootId ← required (nullable (uuid pydantic)) members "process_boot_id"
  let configSha256 ← required (nullable text) members "config_sha256"
  let releaseId ← required (nullable text) members "release_id"
  return {
    state := st
    health := health
    managementFresh := managementFresh
    configCompatible := configCompatible
    appliedRevision := appliedRevision
    processId := processId
    processStartTicks := processStartTicks
    processBootId := processBootId
    configSha256 := configSha256
    releaseId := releaseId }

def readRuntimeResponse : Reader RuntimeResponsePayload := fun json => do
  let members ← fieldsOf ["schema_version", "ok", "observation", "error"] json
  let schemaVersion ← required integer members "schema_version"
  let ok ← required boolean members "ok"
  let obs ← required (nullable (readRuntimeObservation pydantic)) members "observation"
  let err ← required (nullable text) members "error"
  return ⟨schemaVersion, ok, obs, err⟩

def decodeObservation (raw : List UInt8) : Except Raised NodeRuntimeObservation :=
  let invalid := .error (.nodeSupervisorError "node_runtime_response_invalid")
  if raw = [] ∨ maxRuntimeMessageBytes < raw.length ∨ raw.getLast? ≠ some 10 then invalid
  else
    match (pydantic.json raw).bind (readRuntimeResponse pydantic) with
    | none => invalid
    | some payload =>
      if payload.schemaVersion ≠ 1 then invalid
      else if payload.ok = false then
        match payload.observation, payload.error with
        | none, some err => .error (.nodeSupervisorError err)
        | _, _ => invalid
      else
        match payload.observation, payload.error with
        | some obs, none => .ok obs
        | _, _ => invalid

end Runtime

inductive RequestedAction
  | action (action : NodeRuntimeAction)
  | health
  deriving DecidableEq

structure RuntimeConfigPayload where
  content : String
  sha256 : String

structure RuntimeRequestPayload where
  schemaVersion : Int
  action : RequestedAction
  spec : Option SpecFields
  config : Option RuntimeConfigPayload
  deadlineUnixMs : Option Int

structure MediaRequestPayload where
  schemaVersion : Int
  operation : MediaPathOperation
  spec : SpecFields
  path : Option MediaPathPayload
  deadlineUnixMs : Int

section Server

variable (pydantic : Pydantic)

def readSpec : Reader SpecFields := fun json => do
  let members ← fieldsOf
    ["node_id", "external_port", "api_port", "metrics_port", "desired_revision", "release_id",
      "mediamtx_binary_sha256"] json
  let nodeId ← required (uuid pydantic) members "node_id"
  let externalPort ← required integer members "external_port"
  let apiPort ← required integer members "api_port"
  let metricsPort ← required integer members "metrics_port"
  let desired ← required integer members "desired_revision"
  let releaseId ← required text members "release_id"
  let mediamtxBinarySha256 ← required text members "mediamtx_binary_sha256"
  return ⟨nodeId, externalPort, apiPort, metricsPort, desired, releaseId, mediamtxBinarySha256⟩

def readRuntimeConfig : Reader RuntimeConfigPayload := fun json => do
  let members ← fieldsOf ["content", "sha256"] json
  let content ← required text members "content"
  let sha256 ← required text members "sha256"
  return ⟨content, sha256⟩

def readAction : Reader RequestedAction := fun json =>
  if text json = some "health" then some .health else (memberOf actions actionValue json).map .action

def readRuntimeRequest : Reader RuntimeRequestPayload := fun json => do
  let members ← fieldsOf ["schema_version", "action", "spec", "config", "deadline_unix_ms"] json
  let schemaVersion ← required integer members "schema_version"
  let action ← required readAction members "action"
  let spec ← required (nullable (readSpec pydantic)) members "spec"
  let cfg ← required (nullable readRuntimeConfig) members "config"
  let deadline ← defaulted (nullable (atLeast 1)) none members "deadline_unix_ms"
  return ⟨schemaVersion, action, spec, cfg, deadline⟩

def readMediaRequest : Reader MediaRequestPayload := fun json => do
  let members ← fieldsOf
    ["schema_version", "request_type", "operation", "spec", "path", "deadline_unix_ms"] json
  let schemaVersion ← required integer members "schema_version"
  let _ ← required (satisfying (· = "media_path") text) members "request_type"
  let operation ← required (memberOf operations MediaPathOperation.value) members "operation"
  let spec ← required (readSpec pydantic) members "spec"
  let path ← required (nullable readMediaPath) members "path"
  let deadline ← required (atLeast 1) members "deadline_unix_ms"
  return ⟨schemaVersion, operation, spec, path, deadline⟩

def decodeCommand (raw : List UInt8) : Except Raised (NodeRuntimeCommand × Option Int) :=
  let invalid := .error (.nodeSupervisorError "node_runtime_request_invalid")
  if raw = [] ∨ maxRuntimeMessageBytes < raw.length ∨ raw.getLast? ≠ some 10 then invalid
  else
    match (pydantic.json raw).bind (readRuntimeRequest pydantic) with
    | none => invalid
    | some payload =>
      if payload.schemaVersion ≠ 1 then invalid
      else
        match payload.action, payload.spec with
        | .action action, some fields =>
          match makeNodeRuntimeSpec fields with
          | .error _ => invalid
          | .ok spec =>
            -- `runtime_config_not_allowed`.
            if payload.config.isSome = true then invalid
            else .ok (⟨action, spec⟩, payload.deadlineUnixMs)
        | _, _ => invalid

/-- The path of a command, and the command: `none` where a `ValueError` is raised. -/
def mediaPathCommand [PythonText] (payload : MediaRequestPayload) : Option MediaPathCommand :=
  match payload.operation, payload.path with
  | .inventory, none => some .inventory
  | .metrics, none => some .metrics
  | .put, some path =>
    match parsePublicId path.name, path.sourceUrl, path.maxReaders with
    | .ok name, some source, some maxReaders =>
      if limit : maxReaders = -1 ∨ maxReaders = 1 then
        match validateCameraSourceUrl source true with
        | .ok validated => some (.put ⟨name, validated, maxReaders, limit⟩)
        | .error _ => none
      else none
    | _, _, _ => none
  | operation, some path =>
    match parsePublicId path.name with
    | .error _ => none
    | .ok name =>
      if path.sourceUrl ≠ none ∨ path.maxReaders ≠ none then none
      else
        match operation with
        | .get => some (.get name)
        | .delete => some (.delete name)
        | .runtime => some (.runtime name)
        | _ => none
  | _, none => none

def decodeMediaCommand [PythonText] (raw : List UInt8) :
    Except Raised (MediaPathCommand × NodeRuntimeSpec × Int) :=
  let invalid := .error (.nodeSupervisorError "node_media_request_invalid")
  if raw = [] ∨ maxRuntimeMessageBytes < raw.length ∨ raw.getLast? ≠ some 10 then invalid
  else
    match (pydantic.json raw).bind (readMediaRequest pydantic) with
    | none => invalid
    | some payload =>
      if payload.schemaVersion ≠ 1 then invalid
      else
        match makeNodeRuntimeSpec payload.spec, mediaPathCommand payload with
        | .ok spec, some cmd => .ok (cmd, spec, payload.deadlineUnixMs)
        | _, _ => invalid

end Server

def observationPayload (obs : NodeRuntimeObservation) : Members :=
  [("state", .str (stateValue obs.state)), ("health", .str (healthValue obs.health)),
    ("management_fresh", .bool obs.managementFresh),
    ("config_compatible", .bool obs.configCompatible),
    ("applied_revision", .int obs.appliedRevision),
    ("process_id", optional .int obs.processId),
    ("process_start_ticks", optional .int obs.processStartTicks),
    ("process_boot_id", optional (fun bootId => .str (Uuid.uuidText bootId)) obs.processBootId),
    ("config_sha256", optional .str obs.configSha256),
    ("release_id", optional .str obs.releaseId)]

def successPayload (obs : NodeRuntimeObservation) : Members :=
  [("schema_version", .int 1), ("ok", .bool true),
    ("observation", .obj (observationPayload obs)), ("error", .null)]

/-- What `RootMediaNodeAdapter.execute` returns. -/
inductive MediaResult
  | none
  | path (path : MediaPathConfig)
  | inventory (inventory : MediaPathInventory)
  | status (ready : Bool) (readerCount : Int)
  | metrics (observation : NodeMetricObservation)

def pathPayload (path : MediaPathConfig) : Members :=
  [("name", .str path.name.value), ("source_url", .str path.sourceUrl),
    ("max_readers", .int path.maxReaders)]

def inventoryPayload (inventory : MediaPathInventory) : Members :=
  [("camera_ids", .arr (inventory.cameraIds.map fun publicId => .str publicId.value)),
    ("no_oracle_matcher_present", .bool inventory.noOracleMatcherPresent)]

def statusPayload (ready : Bool) (readerCount : Int) : Members :=
  [("ready", .bool ready), ("reader_count", .int readerCount)]

def counterPayload (counter : PathMetricCounters) : Members :=
  [("public_id", .str counter.publicId), ("received_bytes_total", .int counter.receivedBytesTotal),
    ("sent_bytes_total", .int counter.sentBytesTotal),
    ("ready", optional .bool counter.ready)]

/-- `list(occupied_public_ids or ())`. -/
def metricsPayload (obs : NodeMetricObservation) : Members :=
  [("active_sources", .int obs.sample.activeSources),
    ("occupied_streams", .int obs.sample.occupiedStreams),
    ("received_bytes_total", .int obs.sample.receivedBytesTotal),
    ("sent_bytes_total", .int obs.sample.sentBytesTotal),
    ("path_counters",
      .arr (obs.sample.pathCounters.map fun counter => .obj (counterPayload counter))),
    ("occupied_public_ids", .arr ((obs.sample.occupiedPublicIds.getD []).map .str)),
    ("process_id", .int obs.process.processId),
    ("process_start_ticks", .int obs.process.processStartTicks),
    ("process_boot_id", .str (Uuid.uuidText obs.process.processBootId)),
    ("release_id", .str obs.process.releaseId)]

def mediaSuccessPayload (operation : MediaPathOperation) (res : MediaResult) : Members :=
  let path := match operation, res with
    | .get, .path path => .obj (pathPayload path)
    | _, _ => .null
  let inventory := match operation, res with
    | .inventory, .inventory inventory => .obj (inventoryPayload inventory)
    | _, _ => .null
  let runtime := match operation, res with
    | .runtime, .status ready readerCount => .obj (statusPayload ready readerCount)
    | _, _ => .null
  let metrics := match operation, res with
    | .metrics, .metrics obs => .obj (metricsPayload obs)
    | _, _ => .null
  [("schema_version", .int 1), ("ok", .bool true), ("path", path), ("inventory", inventory),
      ("runtime", runtime), ("error", .null)] ++
    if operation = .metrics then [("metrics", metrics)] else []

end RtspProxy.Media
