import RtspProxy.Nodes.Control
import RtspProxy.Lib.Json

/-!
# Registration requests

`NodeControl.register_node`, `NodeControl.ensure_automatic_capacity` and
`CameraControl.create_camera`, call by call. A camera request that finds no node
may have one provisioned, on behalf of the same operator, session and
idempotency key. The programs run without `provisioning_guard`, which only keeps
two such requests apart.
-/

namespace RtspProxy.Nodes

open Lib Lib.Program Lib.Program.Prog InMemoryNodeStore Lib.Raising

def NodeCreationMode.value : NodeCreationMode → String
  | .operator => "operator"
  | .automatic => "automatic"

section Idempotency

variable [PythonText]

/-- The idempotency record of a request, if its context carries a key; `code` is the error of
the record's own check. -/
def registrationIdempotency (code : String) (payload : Json)
    (ctx : Option NodeMutationContext) : Except NodeError (Option RegistrationIdempotency) :=
  match ctx with
  | none => return none
  | some ctx =>
    match carried : ctx.idempotencyKey with
    | none => return none
    | some key =>
      let digest := PythonText.sha256Hexdigest (String.ofList (payload.dumps false))
      if valid : isSha256Hex digest = true then
        return some
          { key := key
            actorAccountId := ctx.actorAccountId
            actorSessionId := ctx.actorSessionId
            requestSha256 := digest
            keyVersion := ctx.keyVersion key carried
            digestValid := valid }
      else throw (.valueError code)

def nodeRegistrationIdempotency (name : String) (externalPort : Option Int)
    (creationMode : NodeCreationMode) (ctx : Option NodeMutationContext) :
    Except NodeError (Option NodeRegistrationIdempotency) :=
  registrationIdempotency "node_registration_idempotency_invalid"
    (.sorted [("request_schema", .int 1), ("name", .str name),
      ("external_port", (externalPort.map Json.int).getD .null),
      ("creation_mode", .str creationMode.value)]) ctx

def cameraRegistrationIdempotency (name source : String) (nodeId : Option UUID)
    (ctx : Option NodeMutationContext) :
    Except NodeError (Option CameraRegistrationIdempotency) :=
  registrationIdempotency "camera_registration_idempotency_invalid"
    (.sorted [("request_schema", .int 1), ("name", .str name), ("source_url", .str source),
      ("node_id", (nodeId.map fun id => Json.str id.str).getD .null)]) ctx

end Idempotency

namespace NodeControl

structure Configuration where
  hasRuntime : Bool
  provisionOnCreate : Bool

def register (req : RegistrationCall) : ControlProgram req.Answer :=
  send (.registration req)

def executeRuntime (node : MediaNode) (action : NodeRuntimeAction) : ControlProgram MediaNode :=
  let failed : ControlProgram MediaNode := do
    let _ ← send (.applyRuntimeObservation node.id (failedObservation node.appliedRevision))
    raise (.node (.nodeRuntimeFailed "node_runtime_operation_failed" node.id))
  (send (.execute action node none)).andThen fun executed =>
    match executed with
    | .error _ => failed
    | .ok obs => exceptAny (send (.applyRuntimeObservation node.id obs)) failed

def startNodeLocked (cfg : Configuration) (nodeId : UUID)
    (fence : Option NodeCommandFence) (ctx : Option NodeMutationContext) :
    ControlProgram MediaNode := do
  let _ ← requireNodeAndRuntime cfg.hasRuntime nodeId
  let desired ← register (.operate ctx (.requestDesiredState nodeId .running fence))
  executeRuntime desired (if desired.appliedRevision = 0 then .provisionStart else .start)

def startNode (cfg : Configuration) (nodeId : UUID) (fence : Option NodeCommandFence)
    (ctx : Option NodeMutationContext) : ControlProgram MediaNode :=
  withLifecycleGuard nodeId (startNodeLocked cfg nodeId fence ctx)

def observeNodeLocked (cfg : Configuration) (nodeId : UUID) :
    ControlProgram MediaNode := do
  let node ← requireNodeAndRuntime cfg.hasRuntime nodeId
  executeRuntime node .observe

structure RegisterNodeArguments where
  name : String
  portRangeStart : Int
  portRangeEnd : Int
  maxNodes : Int
  externalPort : Option Int
  reservedPorts : List Int
  apiPorts : List Int
  metricsPorts : List Int
  releaseId : String
  mediamtxBinarySha256 : String
  creationMode : NodeCreationMode

/-- `range(port_range_start, port_range_end + 1)` without the reserved ports. -/
def configuredPorts (args : RegisterNodeArguments) : List Int :=
  ((List.range (args.portRangeEnd + 1 - args.portRangeStart).toNat).map
    fun offset => args.portRangeStart + (offset : Int)).filter
      fun port => port ∉ args.reservedPorts

def bindablePorts : List Int → ControlProgram (List Int)
  | [] => return []
  | port :: rest => do
      let bindable ← send (.isPortBindable port)
      let others ← bindablePorts rest
      return if bindable then port :: others else others

/-- A requested port must be bindable; otherwise the candidates are the ports that are. -/
def candidatePorts (args : RegisterNodeArguments) : ControlProgram (List Int) :=
  match args.externalPort with
  | none => bindablePorts (configuredPorts args)
  | some port =>
    if port ∈ configuredPorts args then do
      if (← send (.isPortBindable port)) = false then
        raise (.node (.nodePortInUse "node_port_in_use"))
      else return configuredPorts args
    else return configuredPorts args

def registerArguments (args : RegisterNodeArguments) (cands : List Int)
    (choices : PortChoices) : RegisterArguments :=
  { name := args.name
    allowedPorts := cands
    maxNodes := args.maxNodes
    preferredPort := args.externalPort
    choosePort := choices.choosePort
    newNodeId := choices.newNodeId
    apiPorts := args.apiPorts
    metricsPorts := args.metricsPorts
    releaseId := args.releaseId
    mediamtxBinarySha256 := args.mediamtxBinarySha256
    creationMode := args.creationMode
    externalBindable := choices.externalBindable
    apiBindable := choices.apiBindable
    metricsBindable := choices.metricsBindable }

/-- The node is started where the configuration or its creation mode asks for it; an operator's
node that is busy stays registered. -/
def provisionRegistered (cfg : Configuration) (creationMode : NodeCreationMode)
    (ctx : Option NodeMutationContext) (node : MediaNode) : ControlProgram MediaNode :=
  if cfg.provisionOnCreate = true ∨ creationMode = .automatic then
    (startNode cfg node.id none ctx).handle fun error =>
      match error with
      | .node (.nodeLifecycleBusy code) =>
        if creationMode = .operator then return node
        else raise (.node (.nodeLifecycleBusy code))
      | other => raise other
  else return node

section Register

variable [PythonText]

/-- `lookup_registration` where there is a key. -/
def replayedRegistration (idempotency : Option NodeRegistrationIdempotency) :
    ControlProgram (Option NodeRegistrationResult) :=
  match idempotency with
  | none => return none
  | some idempotency => register (.lookupRegistration idempotency)

/-- The registration itself, and whether it was a replay. -/
def storeRegistration (ctx : Option NodeMutationContext)
    (idempotency : Option NodeRegistrationIdempotency) (args : RegisterArguments) :
    ControlProgram NodeRegistrationResult :=
  match idempotency with
  | some idempotency => register (.operate ctx (.registerIdempotently args idempotency))
  | none => do
      let node ← register (.operate ctx (.registerAutomatically args))
      return { node := node, replayed := false }

def registerNode (cfg : Configuration) (args : RegisterNodeArguments)
    (ctx : Option NodeMutationContext) : ControlProgram MediaNode := do
  let idempotency ← compute (nodeRegistrationIdempotency args.name args.externalPort
    args.creationMode ctx)
  match ← replayedRegistration idempotency with
  | some replay => return replay.node
  | none =>
    let cands ← candidatePorts args
    let choices ← register .portChoices
    let registration ← storeRegistration ctx idempotency
      (registerArguments args cands choices)
    if registration.replayed = true then
      return registration.node
    else
      provisionRegistered cfg args.creationMode ctx registration.node

structure NodeProvisioningPolicy where
  portRangeStart : Int
  portRangeEnd : Int
  maxNodes : Int
  reservedPorts : List Int
  apiPorts : List Int
  metricsPorts : List Int
  releaseId : String
  mediamtxBinarySha256 : String
  managementFreshnessSeconds : Int

omit [PythonText] in
/-- The eligible nodes; the clock is read for each of them. -/
def eligibleNodes (freshness : Int) :
    List MediaNode → ControlProgram (List MediaNode)
  | [] => return []
  | node :: rest => do
      let now ← send .clock
      let others ← eligibleNodes freshness rest
      return if isNodeEligible node freshness now then node :: others else others

omit [PythonText] in
def refreshNodes (cfg : Configuration) : List MediaNode → ControlProgram Unit
  | [] => return ()
  | node :: rest => do
      let _ ← withLifecycleGuard node.id (observeNodeLocked cfg node.id)
      refreshNodes cfg rest

/-- The running nodes with room, whose observation may only be stale. -/
def isRefreshable (node : MediaNode) : Bool :=
  node.state = .running && !node.maintenance && node.registeredCameras < node.cameraCapacity

def isRetryable (node : MediaNode) : Bool :=
  node.creationMode = .automatic && node.registeredCameras = 0 && !node.maintenance &&
    (node.runtimeState = .provisioning || node.runtimeState = .stopped ||
      node.runtimeState = .failed)

/-- `min(nodes, key=lambda node: node.id.int)`. -/
def leastId : List MediaNode → Option MediaNode
  | [] => none
  | node :: rest =>
    some (rest.foldl (fun best other => if other.id.int < best.id.int then other else best) node)

def automaticNode (policy : NodeProvisioningPolicy) : RegisterNodeArguments :=
  { name := "automatic-node"
    portRangeStart := policy.portRangeStart
    portRangeEnd := policy.portRangeEnd
    maxNodes := policy.maxNodes
    externalPort := none
    reservedPorts := policy.reservedPorts
    apiPorts := policy.apiPorts
    metricsPorts := policy.metricsPorts
    releaseId := policy.releaseId
    mediamtxBinarySha256 := policy.mediamtxBinarySha256
    creationMode := .automatic }

def ensureAutomaticCapacity (cfg : Configuration) (policy : NodeProvisioningPolicy)
    (ctx : Option NodeMutationContext) : ControlProgram MediaNode := do
  if cfg.hasRuntime = false then
    raise (.node (.nodeRuntimeUnavailable "node_runtime_unavailable"))
  else
    let eligible ← eligibleNodes policy.managementFreshnessSeconds (← register .listNodes)
    match leastLoaded eligible with
    | some node => return node
    | none =>
      refreshNodes cfg ((← register .listNodes).filter isRefreshable)
      let refreshed ← eligibleNodes policy.managementFreshnessSeconds (← register .listNodes)
      match leastLoaded refreshed with
      | some node => return node
      | none =>
        match leastId ((← register .listNodes).filter isRetryable) with
        | some node => startNode cfg node.id none ctx
        | none => registerNode cfg (automaticNode policy) ctx

end Register

end NodeControl

namespace CameraControl

open NodeControl

structure CameraSourceCredentials where
  username : String
  password : String

structure Configuration where
  managementFreshnessSeconds : Int
  /-- `ensure_automatic_capacity`, if the control was given one. -/
  automaticCapacity : Option (NodeControl.Configuration × NodeProvisioningPolicy)

structure CreateCameraArguments where
  name : String
  sourceUrl : String
  sourceCredentials : Option CameraSourceCredentials
  nodeId : Option UUID

def parsePublicId (value : String) : Except NodeError PublicId :=
  if canonical : isCanonicalPublicId value = true then return ⟨value, canonical⟩
  else throw (.valueError "invalid_public_id")

variable [PythonText]

def attachSourceCredentials (source : String) (credentials : CameraSourceCredentials) :
    Except NodeError String := do
  let parsed ← orRaise (PythonText.urlsplit source)
    (.valueError "camera_source_url_invalid")
  raiseIf (parsed.username ≠ none ∨ parsed.password ≠ none)
    (.valueError "camera_source_url_invalid")
  let host ← orRaise parsed.hostname (.valueError "camera_source_url_invalid")
  let authorityHost := if ':' ∈ host.toList then "[" ++ host ++ "]" else host
  let authority := match parsed.port with
    | none => authorityHost
    | some port => authorityHost ++ ":" ++ toString port
  return PythonText.urlunsplit parsed (PythonText.quote credentials.username ++ ":" ++
    PythonText.quote credentials.password ++ "@" ++ authority)

/-- The source URL a request asks for, with its credentials attached. -/
def requestedSourceUrl (args : CreateCameraArguments) : Except NodeError String := do
  let source ← validateCameraSourceUrl args.sourceUrl false
  match args.sourceCredentials with
  | none => return source
  | some credentials => attachSourceCredentials source credentials

omit [PythonText] in
/-- `reserve_camera_registration` where there is a key. -/
def reservedRegistration (idempotency : Option CameraRegistrationIdempotency) :
    ControlProgram (Option CameraRegistrationResult) :=
  match idempotency with
  | none => return none
  | some idempotency => register (.operate none (.reserveCameraRegistration idempotency))

omit [PythonText] in
/-- One placement: with a key the idempotent one, otherwise by hand or automatically. -/
def place (ctx : Option NodeMutationContext)
    (idempotency : Option CameraRegistrationIdempotency) (nodeId : Option UUID)
    (args : Datetime → PlaceArguments) : ControlProgram CameraPlacement := do
  let now ← send .clock
  match idempotency, nodeId with
  | some idempotency, nodeId => do
      let res ← register
        (.operate ctx (.placeCameraIdempotently nodeId (args now) idempotency))
      return res.camera
  | none, some nodeId => register (.operate ctx (.placeCameraManually nodeId (args now)))
  | none, none => register (.operate ctx (.placeCameraAutomatically (args now)))

/-- The placement, once more after capacity was provided if no node was eligible. -/
def placeWithCapacity (cfg : Configuration) (ctx : Option NodeMutationContext)
    (idempotency : Option CameraRegistrationIdempotency) (nodeId : Option UUID)
    (args : Datetime → PlaceArguments) : ControlProgram CameraPlacement :=
  (place ctx idempotency nodeId args).handle fun error =>
    match error with
    | .node (.eligibleNodeMissing code) =>
      match nodeId, cfg.automaticCapacity with
      | none, some (nodeControl, policy) => do
          let _ ← ensureAutomaticCapacity nodeControl policy ctx
          place ctx idempotency none args
      | _, _ => raise (.node (.eligibleNodeMissing code))
    | other => raise other

/-- New identifiers, the admission of the endpoint, and the placement. -/
def placeNew (cfg : Configuration) (ctx : Option NodeMutationContext)
    (idempotency : Option CameraRegistrationIdempotency) (name source : String)
    (nodeId : Option UUID) : ControlProgram CameraPlacement := do
  let cameraId ← register .newCameraId
  let publicId ← compute (parsePublicId (← register .newPublicId))
  let probeEndpoint ← register (.admitProbeEndpoint source)
  placeWithCapacity cfg ctx idempotency nodeId fun now =>
    { cameraId := cameraId
      name := name
      sourceUrl := source
      publicId := publicId
      managementFreshnessSeconds := cfg.managementFreshnessSeconds
      probeEndpoint := probeEndpoint
      now := now }

def createCamera (cfg : Configuration) (args : CreateCameraArguments)
    (ctx : Option NodeMutationContext) : ControlProgram CameraPlacement := do
  let name ← compute (validateCameraName args.name)
  let source ← compute (requestedSourceUrl args)
  let idempotency ← compute
    (cameraRegistrationIdempotency name source args.nodeId ctx)
  match ← reservedRegistration idempotency with
  | some existing => return existing.camera
  | none => placeNew cfg ctx idempotency name source args.nodeId

end CameraControl

end RtspProxy.Nodes
