import RtspProxy.Nodes.Validation

/-!
# Records of the probe subsystem

The data model of `probes.py`: what is probed, the request and the lease of one
probe, and its observation. The checks of each `__post_init__` are fields of the
record, so a value that the source could not build does not exist here. Times
are microseconds, always with a time zone.
-/

namespace RtspProxy.Probes

open Nodes Lib Lib.Raising

inductive ProbeMethod
  | source | path
  deriving DecidableEq

inductive ProbePriority
  | manual | confirmation | routine
  deriving DecidableEq

def ProbePriority.weight : ProbePriority → Nat
  | .manual => 4
  | .confirmation => 3
  | .routine => 3

def ProbePriority.rank : ProbePriority → Nat
  | .manual => 3
  | .confirmation => 2
  | .routine => 1

def probePriorities : List ProbePriority := [.manual, .confirmation, .routine]

def fairPriorities : List ProbePriority :=
  List.replicate 4 .manual ++ List.replicate 3 .confirmation ++ List.replicate 3 .routine

inductive ProbeOutcome
  | healthy | unhealthy | inconclusive
  deriving DecidableEq

inductive ProbeFailureClass
  | authentication | codec | connectTimeout | executor | output | transport
  deriving DecidableEq

def cameraFailureClasses : List ProbeFailureClass :=
  [.authentication, .codec, .connectTimeout, .transport]

def infrastructureFailureClasses : List ProbeFailureClass := [.executor, .output]

inductive ProbeError
  | valueError (code : String)
  | probeIneligible (code : String)
  | probeQueueFull
  | probeSingleFlightConflict
  | keyError
  deriving DecidableEq

def isLowerAlnum (c : Char) : Bool := ('a' ≤ c && c ≤ 'z') || ('0' ≤ c && c ≤ '9')

def isPunctuation (c : Char) : Bool := c = '.' || c = '_' || c = '-'

/-- A first character of one class, then at most `rest` further ones, each of that class or one of
`.`, `_`, `-`. -/
def isTokenOf (first : Char → Bool) (rest : Nat) (value : String) : Bool :=
  match value.toList with
  | [] => false
  | head :: tail =>
    first head && decide (tail.length ≤ rest) && tail.all fun c => first c || isPunctuation c

def isSiteKey (value : String) : Bool := isTokenOf isLowerAlnum 63 value

def isCodecName (value : String) : Bool := isTokenOf isLowerAlnum 31 value

def isReleaseId (value : String) : Bool :=
  isTokenOf (fun c => isLowerAlnum c || ('A' ≤ c && c ≤ 'Z')) 127 value

structure ProbeNodeRuntimeGeneration where
  nodeAppliedRevision : Int
  processId : Int
  processStartTicks : Int
  processBootId : UUID
  releaseId : String
  valid : 1 ≤ nodeAppliedRevision ∧ 1 ≤ processId ∧ 1 ≤ processStartTicks ∧
    isReleaseId releaseId = true
  deriving DecidableEq

structure ProbeTarget where
  cameraId : UUID
  publicId : PublicId
  nodeId : UUID
  siteKey : String
  desiredRevision : Int
  placementGeneration : Int
  nodeState : NodeState
  enabled : Bool
  maintenance : Bool
  occupied : Bool
  sourcePullActive : Bool
  maxSourceSessions : Int
  nodeRuntime : Option ProbeNodeRuntimeGeneration := none
  sourceEndpointGeneration : Option UUID := none
  identityValid : cameraId.isVersion4 = true ∧ nodeId.isVersion4 = true
  siteKeyValid : isSiteKey siteKey = true
  generationValid : 1 ≤ desiredRevision ∧ 1 ≤ placementGeneration
  stateValid : ¬(enabled = false ∧ maintenance = true)
  sessionLimitValid : 1 ≤ maxSourceSessions ∧ maxSourceSessions ≤ 16
  endpointValid : ∀ generation ∈ sourceEndpointGeneration, generation.isVersion4 = true
  deriving DecidableEq

@[ext]
structure ProbeRequest where
  requestId : UUID
  target : ProbeTarget
  method : ProbeMethod
  priority : ProbePriority
  requestedAt : Datetime
  deadlineAt : Datetime
  availableAt : Datetime
  identityValid : requestId.isVersion4 = true
  windowValid : requestedAt ≤ availableAt ∧ availableAt < deadlineAt ∧
    deadlineAt - requestedAt ≤ timedeltaSeconds 86400

instance : DecidableEq ProbeRequest := fun _ _ => decidable_of_iff' _ ProbeRequest.ext_iff

/-- The constructor call, also behind `replace`, with the checks of `__post_init__`. -/
def ProbeRequest.build (requestId : UUID) (target : ProbeTarget) (method : ProbeMethod)
    (priority : ProbePriority) (requestedAt deadlineAt availableAt : Datetime) :
    Except ProbeError ProbeRequest :=
  if identityValid : requestId.isVersion4 = true then
    if windowValid : requestedAt ≤ availableAt ∧ availableAt < deadlineAt ∧
        deadlineAt - requestedAt ≤ timedeltaSeconds 86400 then
      .ok { requestId, target, method, priority, requestedAt, deadlineAt, availableAt
            identityValid, windowValid }
    else .error (.valueError "probe_request_window_invalid")
  else .error (.valueError "probe_request_identity_invalid")

structure ProbeLease where
  requestId : UUID
  leaseToken : UUID
  target : ProbeTarget
  method : ProbeMethod
  priority : ProbePriority
  startedAt : Datetime
  leaseExpiresAt : Datetime
  attempt : Int
  valid : requestId.isVersion4 = true ∧ leaseToken.isVersion4 = true ∧
    startedAt < leaseExpiresAt ∧ 1 ≤ attempt ∧ attempt ≤ 10
  deriving DecidableEq

def ProbeLease.build (requestId leaseToken : UUID) (target : ProbeTarget) (method : ProbeMethod)
    (priority : ProbePriority) (startedAt leaseExpiresAt : Datetime) (attempt : Int) :
    Except ProbeError ProbeLease :=
  if valid : requestId.isVersion4 = true ∧ leaseToken.isVersion4 = true ∧
      startedAt < leaseExpiresAt ∧ 1 ≤ attempt ∧ attempt ≤ 10 then
    .ok { requestId, leaseToken, target, method, priority, startedAt, leaseExpiresAt, attempt, valid }
  else .error (.valueError "probe_lease_invalid")

/-- The check of `ProbeExecutionResult.__post_init__`, which observations repeat. -/
def resultContract (outcome : ProbeOutcome) (failureClass : Option ProbeFailureClass)
    (videoCodec audioCodec : Option String) : Prop :=
  (∀ codec ∈ videoCodec, isCodecName codec = true) ∧
  (∀ codec ∈ audioCodec, isCodecName codec = true) ∧
  (outcome = .healthy → failureClass = none ∧ (videoCodec ≠ none ∨ audioCodec ≠ none)) ∧
  (outcome = .unhealthy → (∃ failure ∈ failureClass, failure ∈ cameraFailureClasses) ∧
    videoCodec = none ∧ audioCodec = none) ∧
  (outcome = .inconclusive → (∃ failure ∈ failureClass, failure ∈ infrastructureFailureClasses) ∧
    videoCodec = none ∧ audioCodec = none)

theorem executor_contract : resultContract .inconclusive (some .executor) none none := by
  simp [resultContract, infrastructureFailureClasses]

structure ProbeExecutionResult where
  outcome : ProbeOutcome
  completedAt : Datetime
  failureClass : Option ProbeFailureClass := none
  videoCodec : Option String := none
  audioCodec : Option String := none
  valid : resultContract outcome failureClass videoCodec audioCodec

structure ProbeObservation where
  observationId : UUID
  requestId : UUID
  target : ProbeTarget
  method : ProbeMethod
  priority : ProbePriority
  outcome : ProbeOutcome
  startedAt : Datetime
  completedAt : Datetime
  attempt : Int
  failureClass : Option ProbeFailureClass := none
  videoCodec : Option String := none
  audioCodec : Option String := none
  valid : observationId.isVersion4 = true ∧ requestId.isVersion4 = true ∧
    startedAt ≤ completedAt ∧ completedAt - startedAt ≤ timedeltaSeconds 60 ∧
    1 ≤ attempt ∧ attempt ≤ 10
  contract : resultContract outcome failureClass videoCodec audioCodec

def ProbeObservation.build (observationId : UUID) (lease : ProbeLease)
    (res : ProbeExecutionResult) : Except ProbeError ProbeObservation :=
  if valid : observationId.isVersion4 = true ∧ lease.requestId.isVersion4 = true ∧
      lease.startedAt ≤ res.completedAt ∧
      res.completedAt - lease.startedAt ≤ timedeltaSeconds 60 ∧
      1 ≤ lease.attempt ∧ lease.attempt ≤ 10 then
    .ok {
      observationId
      requestId := lease.requestId
      target := lease.target
      method := lease.method
      priority := lease.priority
      outcome := res.outcome
      startedAt := lease.startedAt
      completedAt := res.completedAt
      attempt := lease.attempt
      failureClass := res.failureClass
      videoCodec := res.videoCodec
      audioCodec := res.audioCodec
      valid
      contract := res.valid }
  else .error (.valueError "probe_observation_invalid")

/-- One entry of a generation key: `str | int | None`. -/
inductive KeyPart
  | str (value : String)
  | int (value : Int)
  | none
  deriving DecidableEq

def probeGenerationKey (target : ProbeTarget) (method : ProbeMethod) : List KeyPart :=
  let identity : List KeyPart :=
    [.str (UUID.hex target.cameraId), .str target.publicId.value, .str (UUID.hex target.nodeId),
      .int target.desiredRevision, .int target.placementGeneration,
      match target.sourceEndpointGeneration with
      | none => .none
      | some generation => .str (UUID.hex generation)]
  match method with
  | .source => identity
  | .path =>
    identity ++ match target.nodeRuntime with
      | none => [.none]
      | some runtime =>
        [.int runtime.nodeAppliedRevision, .int runtime.processId,
          .int runtime.processStartTicks, .str (UUID.hex runtime.processBootId),
          .str runtime.releaseId]

def sameProbeGeneration (left right : ProbeTarget) : Bool :=
  probeGenerationKey left .source = probeGenerationKey right .source

def sameHealthGeneration (left right : ProbeTarget) (method : ProbeMethod) : Bool :=
  probeGenerationKey left method = probeGenerationKey right method

def requireProbeEligible (target : ProbeTarget) (method : ProbeMethod) :
    Except ProbeError Unit := do
  raiseIf (target.enabled = false) (.probeIneligible "camera_disabled")
  raiseIf (target.maintenance = true) (.probeIneligible "camera_maintenance")
  raiseIf (target.maxSourceSessions = 1) (.probeIneligible "camera_passive_only")
  raiseIf (target.sourceEndpointGeneration = none)
    (.probeIneligible "source_endpoint_unavailable")
  raiseIf (method = .path ∧ target.nodeState ≠ .running)
    (.probeIneligible "node_path_unavailable")
  raiseIf (method = .path ∧ target.occupied = true) (.probeIneligible "camera_occupied")
  raiseIf (method = .path ∧ target.sourcePullActive = true)
    (.probeIneligible "path_source_pull_active")
  raiseIf (method = .path ∧ target.nodeRuntime = none)
    (.probeIneligible "node_runtime_unavailable")

def sampleTarget : ProbeTarget where
  cameraId := 0x00000000000040008000000000000001
  publicId := ⟨"faaaaaaaaaaaaaaaaaaaaaaaaa", by decide +kernel⟩
  nodeId := 0x00000000000040008000000000000002
  siteKey := "hall"
  desiredRevision := 1
  placementGeneration := 1
  nodeState := .running
  enabled := true
  maintenance := false
  occupied := false
  sourcePullActive := false
  maxSourceSessions := 2
  sourceEndpointGeneration := some 0x00000000000040008000000000000003
  identityValid := by decide
  siteKeyValid := by decide +kernel
  generationValid := by decide
  stateValid := by decide
  sessionLimitValid := by decide
  endpointValid := by
    intro generation isGeneration
    cases isGeneration
    decide

end RtspProxy.Probes
