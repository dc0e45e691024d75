import RtspProxy.Media.ClientSafety
import RtspProxy.Media.Server

/-!
# What one side writes, the other reads

Each payload is read back as the value it was written from, whatever the order of
its keys. A line that fits into a message is then decoded to the command, the
observation or the result it was encoded from.
-/

namespace RtspProxy.Media

open Nodes Lib Lib.Schema Lib.Raising List Json MediaPathCommand
open Prod (fst)
open Option (map_some bind_some)

open Reconcile (MediaPathConfig MediaPathInventory)

variable {deadlineUnixMs : Int}

section Payloads

variable {pydantic : Pydantic}

def ReadsUuids (pydantic : Pydantic) : Prop := ∀ id, pydantic.uuid (Uuid.uuidText id) = some id

theorem reads_optional {Value : Type} {read : Reader Value} {write : Value → Json}
    {found : Option Value} (isOther : ∀ val ∈ found, (write val).sortKeys ≠ .null)
    (reads : ∀ val ∈ found, read (write val).sortKeys = some val) :
    nullable read (optional write found).sortKeys = some found := by
  cases found with
  | none => rfl
  | some val =>
    rw [optional]
    unfold nullable
    split
    · rename_i isNull
      exact absurd isNull (isOther val rfl)
    · rw [reads val rfl, map_some]

theorem reads_uuid (reads : ReadsUuids pydantic) (id : UUID) :
    uuid pydantic (sortKeys (.str (Uuid.uuidText id))) = some id := reads id

theorem reads_spec (reads : ReadsUuids pydantic) (spec : SpecFields) :
    readSpec pydantic (sortKeys (.obj (runtimeSpecPayload spec))) = some spec := by
  have distinct : ((runtimeSpecPayload spec).map fst).Nodup := by simp [runtimeSpecPayload]
  unfold readSpec
  rw [fields_of_sorted (by simp [runtimeSpecPayload])]
  simp only [bind, bind_some]
  rw [required_sorted distinct rfl, reads_uuid reads]
  iterate 6 rw [required_sorted distinct rfl]
  rfl

theorem reads_requested_path {path : RequestedPath}
    (limited : path.maxReaders ∈ [none, some (-1), some 1]) :
    readMediaPath (sortKeys (.obj (requestedPathPayload path))) =
      some ⟨path.name.value, path.sourceUrl, path.maxReaders⟩ := by
  have distinct : ((requestedPathPayload path).map fst).Nodup := by
    simp [requestedPathPayload]
  have limit : nullable (between (-1) 1) (optional .int path.maxReaders).sortKeys =
      some path.maxReaders := by
    refine reads_optional (fun _ _ isNull => by cases isNull) ?_
    intro val mem
    refine satisfying_of rfl ?_
    rw [Option.mem_def.mp mem] at limited
    simp only [mem_cons, Option.some.injEq, not_mem_nil, or_false, reduceCtorEq,
      false_or] at limited
    omega
  have source : nullable text (optional .str path.sourceUrl).sortKeys = some path.sourceUrl :=
    reads_optional (fun _ _ isNull => by cases isNull) fun _ _ => rfl
  unfold readMediaPath
  rw [fields_of_sorted (by simp [requestedPathPayload])]
  simp only [bind, bind_some]
  rw [required_sorted distinct rfl, required_sorted distinct rfl, defaulted_sorted distinct rfl,
    source, limit]
  simp only [bind_some, guard, if_pos limited]
  rfl

theorem reads_inventory (inventory : MediaPathInventory) :
    readMediaInventory (sortKeys (.obj (inventoryPayload inventory))) =
      some ⟨inventory.cameraIds.map (·.value), inventory.noOracleMatcherPresent⟩ := by
  have distinct : ((inventoryPayload inventory).map fst).Nodup := by simp [inventoryPayload]
  have cameraIds : list text
      (sortKeys (.arr (inventory.cameraIds.map fun publicId => .str publicId.value))) =
        some (inventory.cameraIds.map (·.value)) := list_sorted fun _ _ => rfl
  unfold readMediaInventory
  rw [fields_of_sorted (by simp [inventoryPayload])]
  simp only [bind, bind_some]
  rw [required_sorted distinct rfl, required_sorted distinct rfl, cameraIds]
  rfl

theorem reads_status {ready : Bool} {readerCount : Int} (counted : 0 ≤ readerCount) :
    readMediaRuntime (sortKeys (.obj (statusPayload ready readerCount))) =
      some ⟨ready, readerCount⟩ := by
  have distinct : ((statusPayload ready readerCount).map fst).Nodup := by simp [statusPayload]
  have count : atLeast 0 (sortKeys (.int readerCount)) = some readerCount :=
    satisfying_of rfl counted
  unfold readMediaRuntime
  rw [fields_of_sorted (by simp [statusPayload])]
  simp only [bind, bind_some]
  rw [required_sorted distinct rfl, required_sorted distinct rfl, count]
  rfl

theorem canonical_length {val : String} (canonical : isCanonicalPublicId val = true) :
    val.length = 26 := by
  simp only [isCanonicalPublicId, Bool.and_eq_true, beq_iff_eq, String.length_toList] at canonical
  exact canonical.1.1

def counterItem (counter : PathMetricCounters) : PathMetricPayload :=
  ⟨counter.publicId, counter.receivedBytesTotal, counter.sentBytesTotal, counter.ready⟩

theorem reads_counter (counter : PathMetricCounters) :
    readPathMetric (sortKeys (.obj (counterPayload counter))) = some (counterItem counter) := by
  have distinct : ((counterPayload counter).map fst).Nodup := by simp [counterPayload]
  have publicId : textOfLength 26 26 (sortKeys (.str counter.publicId)) =
      some counter.publicId := by
    have long := canonical_length counter.canonical
    exact satisfying_of rfl ⟨Nat.le_of_eq long.symm, Nat.le_of_eq long⟩
  have received : atLeast 0 (sortKeys (.int counter.receivedBytesTotal)) =
      some counter.receivedBytesTotal := satisfying_of rfl counter.counted.1
  have sent : atLeast 0 (sortKeys (.int counter.sentBytesTotal)) =
      some counter.sentBytesTotal := satisfying_of rfl counter.counted.2
  have ready : nullable boolean (optional .bool counter.ready).sortKeys = some counter.ready :=
    reads_optional (fun _ _ isNull => by cases isNull) fun _ _ => rfl
  unfold readPathMetric
  rw [fields_of_sorted (by simp [counterPayload])]
  simp only [bind, bind_some]
  iterate 3 rw [required_sorted distinct rfl]
  rw [defaulted_sorted distinct rfl, publicId, received, sent, ready]
  rfl

theorem make_counter_item (counter : PathMetricCounters) :
    makeCounter (counterItem counter) = .ok counter := by
  dsimp only [makeCounter, counterItem, makePathMetricCounters]
  rw [dif_pos counter.canonical, dif_pos counter.counted]

theorem make_counter_items (counters : List PathMetricCounters) :
    (counters.map counterItem).mapM makeCounter = .ok counters := by
  induction counters with
  | nil => rfl
  | cons counter rest ih =>
    rw [map_cons, mapM_cons, make_counter_item, ih]
    rfl

def metricsItem (obs : NodeMetricObservation) : MediaMetricsPayload where
  activeSources := obs.sample.activeSources
  occupiedStreams := obs.sample.occupiedStreams
  receivedBytesTotal := obs.sample.receivedBytesTotal
  sentBytesTotal := obs.sample.sentBytesTotal
  pathCounters := obs.sample.pathCounters.map counterItem
  occupiedPublicIds := obs.sample.occupiedPublicIds.getD []
  process := obs.process

theorem sample_bounds (sample : NodeMetricSample) :
    (0 ≤ sample.activeSources ∧ sample.activeSources ≤ 100) ∧
      (0 ≤ sample.occupiedStreams ∧ sample.occupiedStreams ≤ 100) ∧
      0 ≤ sample.receivedBytesTotal ∧ 0 ≤ sample.sentBytesTotal := by
  have valid := sample.valid
  unfold SampleFields.check at valid
  obtain ⟨_, active, rest⟩ := bind_ok.mp valid
  obtain ⟨_, occupied, rest⟩ := bind_ok.mp rest
  obtain ⟨_, counted, _⟩ := bind_ok.mp rest
  have isActive := not_not.mp (raise_if_ok.mp active)
  have isOccupied := not_not.mp (raise_if_ok.mp occupied)
  have isCounted := raise_if_ok.mp counted
  omega

theorem reads_metrics (reads : ReadsUuids pydantic) {obs : NodeMetricObservation}
    (short : obs.process.releaseId.length ≤ 128) :
    readMediaMetrics pydantic (sortKeys (.obj (metricsPayload obs))) = some (metricsItem obs) := by
  have distinct : ((metricsPayload obs).map fst).Nodup := by simp [metricsPayload]
  obtain ⟨isActive, isOccupied, isReceived, isSent⟩ := sample_bounds obs.sample
  obtain ⟨isId, isTicks, isRelease⟩ := obs.valid
  have active : between 0 100 (sortKeys (.int obs.sample.activeSources)) =
      some obs.sample.activeSources := satisfying_of rfl isActive
  have streams : between 0 100 (sortKeys (.int obs.sample.occupiedStreams)) =
      some obs.sample.occupiedStreams := satisfying_of rfl isOccupied
  have received : atLeast 0 (sortKeys (.int obs.sample.receivedBytesTotal)) =
      some obs.sample.receivedBytesTotal := satisfying_of rfl isReceived
  have sent : atLeast 0 (sortKeys (.int obs.sample.sentBytesTotal)) =
      some obs.sample.sentBytesTotal := satisfying_of rfl isSent
  have counters : list readPathMetric (sortKeys (.arr
      (obs.sample.pathCounters.map fun counter => .obj (counterPayload counter)))) =
        some (obs.sample.pathCounters.map counterItem) :=
    list_sorted fun counter _ => reads_counter counter
  have occupied : list text (sortKeys
      (.arr ((obs.sample.occupiedPublicIds.getD []).map .str))) =
        some ((obs.sample.occupiedPublicIds.getD []).map id) := list_sorted fun _ _ => rfl
  have processId : atLeast 1 (sortKeys (.int obs.process.processId)) =
      some obs.process.processId := satisfying_of rfl isId
  have ticks : atLeast 1 (sortKeys (.int obs.process.processStartTicks)) =
      some obs.process.processStartTicks := satisfying_of rfl isTicks
  have release : textOfLength 1 128 (sortKeys (.str obs.process.releaseId)) =
      some obs.process.releaseId := by
    refine satisfying_of rfl ⟨Nat.pos_of_ne_zero ?_, short⟩
    rwa [Ne, String.length_eq_zero_iff]
  unfold readMediaMetrics
  rw [fields_of_sorted (by simp [metricsPayload])]
  simp only [bind, bind_some]
  iterate 10 rw [required_sorted distinct rfl]
  rw [active, streams, received, sent, counters, occupied, processId, ticks, reads_uuid reads,
    release, map_id]
  rfl

theorem reads_observation (reads : ReadsUuids pydantic) (obs : NodeRuntimeObservation) :
    readRuntimeObservation pydantic (sortKeys (.obj (observationPayload obs))) = some obs := by
  have distinct : ((observationPayload obs).map fst).Nodup := by
    simp [observationPayload]
  have state : memberOf nodeStates stateValue (sortKeys (.str (stateValue obs.state))) =
      some obs.state := by
    cases obs.state <;> rfl
  have health : memberOf nodeHealths healthValue
      (sortKeys (.str (healthValue obs.health))) = some obs.health := by
    cases obs.health <;> rfl
  have integers : ∀ found : Option Int,
      nullable integer (optional .int found).sortKeys = some found :=
    fun _ => reads_optional (fun _ _ isNull => by cases isNull) fun _ _ => rfl
  have texts : ∀ found : Option String, nullable text (optional .str found).sortKeys = some found :=
    fun _ => reads_optional (fun _ _ isNull => by cases isNull) fun _ _ => rfl
  have bootId : nullable (uuid pydantic) (optional (fun bootId => .str (Uuid.uuidText bootId))
      obs.processBootId).sortKeys = some obs.processBootId :=
    reads_optional (fun _ _ isNull => by cases isNull) fun id _ => reads id
  unfold readRuntimeObservation
  rw [fields_of_sorted (by simp [observationPayload])]
  simp only [bind, bind_some]
  iterate 10 rw [required_sorted distinct rfl]
  rw [state, health, integers, integers, bootId, texts, texts]
  rfl

theorem reads_response (metrics : Option Json) {path inventory runtime : Json}
    {pathItem : Option MediaPathPayload} {inventoryItem : Option MediaInventoryPayload}
    {runtimeItem : Option MediaRuntimePayload} {metricsItem : Option MediaMetricsPayload}
    (isPath : nullable readMediaPath path.sortKeys = some pathItem)
    (isInventory : nullable readMediaInventory inventory.sortKeys = some inventoryItem)
    (isRuntime : nullable readMediaRuntime runtime.sortKeys = some runtimeItem)
    (isMetrics : match metrics with
      | none => metricsItem = none
      | some json => nullable (readMediaMetrics pydantic) json.sortKeys = some metricsItem) :
    readMediaResponse pydantic (sortKeys (.obj ([("schema_version", .int 1), ("ok", .bool true),
      ("path", path), ("inventory", inventory), ("runtime", runtime), ("error", .null)] ++
        metrics.toList.map fun json => ("metrics", json)))) =
      some ⟨1, true, pathItem, inventoryItem, runtimeItem, metricsItem, none⟩ := by
  unfold readMediaResponse
  cases metrics with
  | none =>
    have distinct : (([("schema_version", .int 1), ("ok", .bool true), ("path", path),
        ("inventory", inventory), ("runtime", runtime), ("error", .null)] : Members).map
          fst).Nodup := by simp
    change _ = some (MediaResponsePayload.mk 1 true pathItem inventoryItem runtimeItem metricsItem
      none)
    rw [isMetrics, Option.toList_none, map_nil, append_nil, fields_of_sorted (by simp)]
    simp only [bind, bind_some]
    iterate 5 rw [required_sorted distinct rfl]
    rw [defaulted_sorted distinct rfl, defaulted_missing (by simp), isPath, isInventory, isRuntime]
    rfl
  | some json =>
    have distinct : (([("schema_version", .int 1), ("ok", .bool true), ("path", path),
        ("inventory", inventory), ("runtime", runtime), ("error", .null)] ++
          [("metrics", json)] : Members).map fst).Nodup := by simp
    rw [Option.toList_some, map_singleton, fields_of_sorted (by simp)]
    simp only [bind, bind_some]
    iterate 5 rw [required_sorted distinct rfl]
    rw [defaulted_sorted distinct rfl, defaulted_sorted distinct rfl, isPath, isInventory,
      isRuntime, isMetrics]
    rfl

theorem reads_runtime_response (reads : ReadsUuids pydantic) (obs : NodeRuntimeObservation) :
    readRuntimeResponse pydantic (sortKeys (.obj (successPayload obs))) =
      some ⟨1, true, some obs, none⟩ := by
  have distinct : ((successPayload obs).map fst).Nodup := by simp [successPayload]
  have observed := nullable_object (reads_observation reads obs)
  unfold readRuntimeResponse
  rw [fields_of_sorted (by simp [successPayload])]
  simp only [bind, bind_some]
  iterate 4 rw [required_sorted distinct rfl]
  rw [observed]
  rfl

theorem reads_runtime_request (reads : ReadsUuids pydantic) {action : NodeRuntimeAction}
    {spec : SpecFields} (positive : 1 ≤ deadlineUnixMs) :
    readRuntimeRequest pydantic
      (sortKeys (.obj (commandPayload action spec deadlineUnixMs))) =
        some ⟨1, .action action, some spec, none, some deadlineUnixMs⟩ := by
  have distinct : ((commandPayload action spec deadlineUnixMs).map fst).Nodup := by
    simp [commandPayload]
  have isAction : readAction (sortKeys (.str (actionValue action))) = some (.action action) := by
    cases action <;> rfl
  have isSpec := nullable_object (reads_spec reads spec)
  have isDeadline : nullable (atLeast 1) (sortKeys (.int deadlineUnixMs)) =
      some (some deadlineUnixMs) := by
    have isRead : atLeast 1 (.int deadlineUnixMs) = some deadlineUnixMs :=
      satisfying_of rfl positive
    change (atLeast 1 (.int deadlineUnixMs)).map some = _
    rw [isRead, map_some]
  unfold readRuntimeRequest
  rw [fields_of_sorted (by simp [commandPayload])]
  simp only [bind, bind_some]
  iterate 4 rw [required_sorted distinct rfl]
  rw [defaulted_sorted distinct rfl, isAction, isSpec, isDeadline]
  rfl

theorem reads_media_request (reads : ReadsUuids pydantic) {operation : MediaPathOperation}
    {spec : SpecFields} {path : Option RequestedPath}
    (limited : ∀ requested ∈ path, requested.maxReaders ∈ [none, some (-1), some 1])
    (positive : 1 ≤ deadlineUnixMs) :
    readMediaRequest pydantic
      (sortKeys (.obj (requestPayload operation spec path deadlineUnixMs))) =
        some ⟨1, operation, spec, path.map fun requested =>
          ⟨requested.name.value, requested.sourceUrl, requested.maxReaders⟩, deadlineUnixMs⟩ := by
  have distinct : ((requestPayload operation spec path deadlineUnixMs).map fst).Nodup := by
    simp [requestPayload]
  have isType : satisfying (· = "media_path") text (sortKeys (.str "media_path")) =
      some "media_path" := satisfying_of rfl rfl
  have isOperation : memberOf operations MediaPathOperation.value
      (sortKeys (.str operation.value)) = some operation := by
    cases operation <;> rfl
  have isSpec := reads_spec reads spec
  have isPath : nullable readMediaPath
      (optional (fun path => .obj (requestedPathPayload path)) path).sortKeys =
        some (path.map fun requested =>
          ⟨requested.name.value, requested.sourceUrl, requested.maxReaders⟩) := by
    cases path with
    | none => rfl
    | some requested => exact nullable_object (reads_requested_path (limited requested rfl))
  have isDeadline : atLeast 1 (sortKeys (.int deadlineUnixMs)) = some deadlineUnixMs :=
    satisfying_of rfl positive
  unfold readMediaRequest
  rw [fields_of_sorted (by simp [requestPayload])]
  simp only [bind, bind_some]
  iterate 6 rw [required_sorted distinct rfl]
  rw [isType, isOperation, isSpec, isPath, isDeadline]
  rfl

end Payloads

def ReadsLine (pydantic : Pydantic) (payload : Members) : Prop :=
  pydantic.json (encodeLine (.obj payload)) = some (sortKeys (.obj payload))

/-- The line of a payload is no longer than a message may be. -/
def Fits (payload : Members) : Prop := (encodeLine (.obj payload)).length ≤ maxRuntimeMessageBytes

theorem encode_line_last (payload : Json) : (encodeLine payload).getLast? = some 10 := by
  rw [encodeLine, encodeUtf8, flatMap_append, getLast?_append]
  rfl

theorem line_accepted {payload : Members} (fits : Fits payload) :
    ¬ (encodeLine (.obj payload) = [] ∨ maxRuntimeMessageBytes < (encodeLine (.obj payload)).length ∨
      (encodeLine (.obj payload)).getLast? ≠ some 10) := by
  have last := encode_line_last (.obj payload)
  rintro (isEmpty | isLong | isOther)
  · rw [isEmpty] at last
    cases last
  · exact absurd isLong (Nat.not_lt_of_le fits)
  · exact isOther last

section Lines

variable {pydantic : Pydantic}

theorem decode_response_line {payload : Members} {resp : MediaResponsePayload}
    (fits : Fits payload) (reads : ReadsLine pydantic payload)
    (isRead : readMediaResponse pydantic (sortKeys (.obj payload)) = some resp)
    (version : resp.schemaVersion = 1) (isOk : resp.ok = true) (noError : resp.error = none) :
    decodeResponse pydantic (encodeLine (.obj payload)) = .ok resp := by
  unfold decodeResponse
  rw [if_neg (line_accepted fits), reads, bind_some, isRead]
  simp [version, isOk, noError]

theorem decode_observation_line (uuids : ReadsUuids pydantic) {obs : NodeRuntimeObservation}
    (fits : Fits (successPayload obs)) (reads : ReadsLine pydantic (successPayload obs)) :
    decodeObservation pydantic (encodeLine (.obj (successPayload obs))) = .ok obs := by
  unfold decodeObservation
  rw [if_neg (line_accepted fits), reads, bind_some, reads_runtime_response uuids]
  rfl

theorem make_spec (spec : NodeRuntimeSpec) : makeNodeRuntimeSpec spec.toSpecFields = .ok spec := by
  unfold makeNodeRuntimeSpec
  split
  · rfl
  · rename_i raised
    rw [spec.valid] at raised
    cases raised

theorem decode_command_line (uuids : ReadsUuids pydantic) {cmd : NodeRuntimeCommand}
    {raw : List UInt8} (positive : 1 ≤ deadlineUnixMs)
    (encoded : encodeCommand cmd deadlineUnixMs = .ok raw) (reads : ReadsLine pydantic
      (commandPayload cmd.action cmd.spec.toSpecFields deadlineUnixMs)) :
    decodeCommand pydantic raw = .ok (cmd, some deadlineUnixMs) := by
  unfold encodeCommand at encoded
  dsimp only at encoded
  split at encoded
  · cases encoded
  rename_i fits
  obtain rfl := Except.ok.inj encoded
  unfold decodeCommand
  rw [if_neg (line_accepted (Nat.le_of_not_lt fits)), reads, bind_some,
    reads_runtime_request uuids positive]
  simp [make_spec]

theorem parse_value (publicId : PublicId) : parsePublicId publicId.value = .ok publicId := by
  rw [parsePublicId, dif_pos publicId.canonical]

theorem parse_values (publicIds : List PublicId) :
    (publicIds.map (·.value)).mapM parsePublicId = .ok publicIds := by
  induction publicIds with
  | nil => rfl
  | cons publicId rest ih =>
    rw [map_cons, mapM_cons, parse_value, ih]
    rfl

variable {cmd : MediaPathCommand}

section Commands

variable [PythonText]

namespace MediaPathCommand

def HasCameraSource : MediaPathCommand → Prop
  | put path => validateCameraSourceUrl path.sourceUrl true = .ok path.sourceUrl
  | _ => True

end MediaPathCommand

theorem media_path_command {spec : SpecFields} (source : cmd.HasCameraSource) :
    mediaPathCommand ⟨1, cmd.operation, spec, cmd.requested.map fun requested =>
      ⟨requested.name.value, requested.sourceUrl, requested.maxReaders⟩, deadlineUnixMs⟩ =
        some cmd := by
  cases cmd with
  | inventory => rfl
  | metrics => rfl
  | put path =>
    simp only [mediaPathCommand, operation, requested, map_some, parse_value, dif_pos path.limit]
    rw [show validateCameraSourceUrl path.sourceUrl true = .ok path.sourceUrl from source]
  | get name =>
    simp [mediaPathCommand, operation, requested, parse_value]
  | delete name =>
    simp [mediaPathCommand, operation, requested, parse_value]
  | runtime name =>
    simp [mediaPathCommand, operation, requested, parse_value]

omit [PythonText] in
theorem requested_limited (cmd : MediaPathCommand) :
    ∀ requested ∈ cmd.requested, requested.maxReaders ∈ [none, some (-1), some 1] := by
  cases cmd with
  | inventory => exact fun _ mem => by cases mem
  | metrics => exact fun _ mem => by cases mem
  | put path =>
    rintro requested ⟨⟩
    rcases path.limit with closed | isOpen
    · simp [closed]
    · simp [isOpen]
  | get name =>
    rintro requested ⟨⟩
    exact mem_cons_self
  | delete name =>
    rintro requested ⟨⟩
    exact mem_cons_self
  | runtime name =>
    rintro requested ⟨⟩
    exact mem_cons_self

theorem decode_media_command_line (uuids : ReadsUuids pydantic) {spec : NodeRuntimeSpec}
    (positive : 1 ≤ deadlineUnixMs) (source : cmd.HasCameraSource)
    (fits : Fits (requestPayload cmd.operation spec.toSpecFields cmd.requested deadlineUnixMs))
    (reads : ReadsLine pydantic (requestPayload cmd.operation spec.toSpecFields
      cmd.requested deadlineUnixMs)) :
    decodeMediaCommand pydantic (encodeLine (.obj (requestPayload cmd.operation
      spec.toSpecFields cmd.requested deadlineUnixMs))) = .ok (cmd, spec, deadlineUnixMs) := by
  unfold decodeMediaCommand
  rw [if_neg (line_accepted fits), reads, bind_some,
    reads_media_request uuids (requested_limited cmd) positive]
  simp [make_spec, media_path_command source]

end Commands

namespace MediaPathCommand

/-- What the helper has as the result where the client has this value. -/
def resultOf : (cmd : MediaPathCommand) → cmd.Value → MediaResult
  | put _, _ | delete _, _ => .none
  | get _, none => .none
  | get _, some path => .path path
  | inventory, found => .inventory found
  | runtime _, none => .none
  | runtime _, some (ready, readerCount) => .status ready readerCount
  | metrics, obs => .metrics obs

/-- The helper may have it as the result for the specification: paths and inventories are those of
`MediaMtxClient`, readers are counted, and metrics name the release and list the readers. -/
def IsProduced (spec : NodeRuntimeSpec) : (cmd : MediaPathCommand) → cmd.Value → Prop
  | put _, _ | delete _, _ => True
  | get name, found => ∀ path ∈ found, path.name = name
  | inventory, found => found.cameraIds = sortedSet found.cameraIds
  | runtime _, found => ∀ status ∈ found, 0 ≤ status.2
  | metrics, obs => obs.sample.occupiedPublicIds ≠ none ∧ obs.process.releaseId = spec.releaseId

end MediaPathCommand

theorem spec_release_short (spec : NodeRuntimeSpec) : spec.releaseId.length ≤ 128 := by
  have valid := spec.valid
  unfold SpecFields.check at valid
  obtain ⟨_, _, rest⟩ := bind_ok.mp valid
  obtain ⟨_, _, rest⟩ := bind_ok.mp rest
  obtain ⟨_, _, rest⟩ := bind_ok.mp rest
  obtain ⟨_, release, _⟩ := bind_ok.mp rest
  have isShort := (not_or.mp (raise_if_ok.mp release)).2
  exact Nat.le_of_not_lt isShort

theorem path_response_read {path : MediaPathConfig} :
    pathResponse path.name ⟨1, true, some ⟨path.name.value, some path.sourceUrl,
      some path.maxReaders⟩, none, none, none, none⟩ = .ok (some path) := by
  simp [pathResponse, parse_value, path.limit]

theorem inventory_response_read {inventory : MediaPathInventory}
    (sorted : inventory.cameraIds = sortedSet inventory.cameraIds) :
    inventoryResponse ⟨1, true, none, some ⟨inventory.cameraIds.map (·.value),
      inventory.noOracleMatcherPresent⟩, none, none, none⟩ = .ok inventory := by
  have ordered : inventory.cameraIds.Pairwise fun left right => left.value ≤ right.value := by
    rw [sorted]
    exact sorted_by_text _
  have distinct : inventory.cameraIds.Nodup := by
    rw [sorted]
    exact (perm_insertionSort _ _).nodup_iff.mpr (nodup_dedup _)
  simp only [inventoryResponse, parse_values, ordered.insertionSort_eq, distinct, ne_eq,
    not_true_eq_false, or_self, if_false]

theorem metrics_response_read {obs : NodeMetricObservation}
    (listed : obs.sample.occupiedPublicIds ≠ none) :
    metricsResponse ⟨1, true, none, none, none, some (metricsItem obs), none⟩ = .ok obs := by
  have fields : sampleFields (metricsItem obs) obs.sample.pathCounters =
      obs.sample.toSampleFields := by
    obtain ⟨occupied, isListed⟩ := Option.ne_none_iff_exists'.mp listed
    unfold sampleFields metricsItem
    simp only [isListed, Option.getD_some]
    rw [← isListed]
  have made : makeNodeMetricObservation obs.sample obs.process = .ok obs := by
    rw [makeNodeMetricObservation, dif_pos obs.valid]
  unfold metricsResponse
  have counters : (metricsItem obs).pathCounters.mapM makeCounter =
      .ok obs.sample.pathCounters := make_counter_items _
  simp only [counters, ne_eq, not_true_eq_false, or_self, if_false]
  rw [fields, make_sample_ok obs.sample.valid]
  exact made

theorem result_round_trip (uuids : ReadsUuids pydantic) {spec : NodeRuntimeSpec}
    {val : cmd.Value} (produced : cmd.IsProduced spec val)
    (fits : Fits (mediaSuccessPayload cmd.operation (cmd.resultOf val)))
    (reads : ReadsLine pydantic (mediaSuccessPayload cmd.operation (cmd.resultOf val))) :
    (decodeResponse pydantic (encodeLine
      (.obj (mediaSuccessPayload cmd.operation (cmd.resultOf val)))) >>= cmd.read) =
        .ok val := by
  have decodes : ∀ resp, readMediaResponse pydantic (sortKeys
      (.obj (mediaSuccessPayload cmd.operation (cmd.resultOf val)))) = some resp →
        resp.schemaVersion = 1 → resp.ok = true → resp.error = none →
        cmd.read resp = .ok val →
        (decodeResponse pydantic (encodeLine
          (.obj (mediaSuccessPayload cmd.operation (cmd.resultOf val)))) >>=
            cmd.read) = .ok val := by
    intro resp isRead version isOk noError isValue
    rw [bind_of_ok (decode_response_line fits reads isRead version isOk noError)]
    exact isValue
  cases cmd with
  | put path =>
    exact decodes _ (reads_response none rfl rfl rfl rfl) rfl rfl rfl rfl
  | delete name =>
    exact decodes _ (reads_response none rfl rfl rfl rfl) rfl rfl rfl rfl
  | get name =>
    cases val with
    | none => exact decodes _ (reads_response none rfl rfl rfl rfl) rfl rfl rfl rfl
    | some path =>
      obtain rfl : path.name = name := produced path rfl
      have isPath := nullable_object (@reads_requested_path
        ⟨path.name, some path.sourceUrl, some path.maxReaders⟩
        (requested_limited (.put path) _ rfl))
      exact decodes _ (reads_response none isPath rfl rfl rfl) rfl rfl rfl path_response_read
  | inventory =>
    exact decodes _ (reads_response none rfl
      (nullable_object (reads_inventory val)) rfl rfl) rfl rfl rfl
        (inventory_response_read produced)
  | runtime name =>
    cases val with
    | none => exact decodes _ (reads_response none rfl rfl rfl rfl) rfl rfl rfl rfl
    | some status =>
      obtain ⟨ready, readerCount⟩ := status
      exact decodes _ (reads_response none rfl rfl
        (nullable_object (reads_status (produced _ rfl))) rfl) rfl rfl rfl rfl
  | metrics =>
    have short : val.process.releaseId.length ≤ 128 := by
      rw [produced.2]
      exact spec_release_short spec
    exact decodes _ (reads_response (some _) rfl rfl rfl
      (nullable_object (reads_metrics uuids short))) rfl rfl rfl
        (metrics_response_read produced.1)

end Lines

section Sizes

theorem length_le_flat_map {Item : Type} {items : List Item} {write : Item → List Char}
    (each : ∀ item, 1 ≤ (write item).length) : items.length ≤ (items.flatMap write).length := by
  induction items with
  | nil => exact Nat.zero_le _
  | cons item rest ih =>
    have one := each item
    simp only [flatMap_cons, length_cons, length_append]
    omega

theorem escape_length (ensureAscii : Bool) (c : Char) : 1 ≤ (escape ensureAscii c).length := by
  unfold escape unicodeEscape
  split
  · simp
  · split
    · split
      · simp
      · simp
    · simp

theorem text_length_le (ensureAscii : Bool) (text : String) :
    text.toList.length ≤ (dumps ensureAscii (.str text)).length := by
  have each := @length_le_flat_map Char text.toList (escape ensureAscii)
    (escape_length ensureAscii)
  simp only [dumps, quoted, length_append, length_cons]
  omega

theorem member_length_le {ensureAscii : Bool} {members : Members} {key : String} {val : Json}
    (mem : (key, val) ∈ members) :
    (dumps ensureAscii val).length ≤ (dumps ensureAscii (.obj members)).length := by
  have inMembers : (dumps ensureAscii val).length ≤
      (dumpsMembers ensureAscii members).length := by
    induction members with
    | nil => cases mem
    | cons first rest ih =>
      obtain ⟨name, other⟩ := first
      cases rest with
      | nil =>
        cases mem_singleton.mp mem
        simp only [dumpsMembers, length_append, length_cons]
        omega
      | cons second later =>
        simp only [dumpsMembers, length_append, length_cons]
        rcases mem_cons.mp mem with isFirst | isLater
        · cases isFirst
          omega
        · have shorter := ih isLater
          omega
  simp only [dumps, length_append, length_cons]
  omega

theorem sorted_member_length_le {ensureAscii : Bool} {members : Members} {key : String}
    {val : Json} (mem : (key, val) ∈ members) :
    (dumps ensureAscii val.sortKeys).length ≤
      (dumps ensureAscii (sortKeys (.obj members))).length := by
  have inSorted : (key, val.sortKeys) ∈ sortedMembers members := by
    rw [sortedMembers, mem_insertionSort, sort_members_map]
    exact mem_map_of_mem (f := fun mem : String × Json => (mem.1, mem.2.sortKeys)) mem
  exact member_length_le inSorted

theorem encode_line_length (payload : Json) :
    (dumps true payload.sortKeys).length < (encodeLine payload).length := by
  have each : ∀ text : List Char, text.length ≤ (encodeUtf8 text).length := by
    intro text
    induction text with
    | nil => exact Nat.zero_le _
    | cons c rest ih =>
      have one := c.utf8Size_pos
      rw [encodeUtf8, flatMap_cons, length_append, String.length_utf8EncodeChar, length_cons]
      change rest.length ≤ (rest.flatMap String.utf8EncodeChar).length at ih
      omega
  have whole := each (dumps true payload.sortKeys ++ ['\n'])
  rw [length_append, length_singleton] at whole
  exact whole

end Sizes

/-- Lines that fit are decoded to what they were encoded from, on both sides. -/
theorem helper_round_trip [PythonText] {pydantic : Pydantic} (uuids : ReadsUuids pydantic) :
    (∀ (cmd : NodeRuntimeCommand) (deadlineUnixMs : Int) (raw : List UInt8),
      1 ≤ deadlineUnixMs → encodeCommand cmd deadlineUnixMs = .ok raw →
      ReadsLine pydantic
        (commandPayload cmd.action cmd.spec.toSpecFields deadlineUnixMs) →
      decodeCommand pydantic raw = .ok (cmd, some deadlineUnixMs)) ∧
    (∀ (cmd : MediaPathCommand) (spec : NodeRuntimeSpec) (deadlineUnixMs : Int),
      1 ≤ deadlineUnixMs → cmd.HasCameraSource →
      let payload :=
        requestPayload cmd.operation spec.toSpecFields cmd.requested deadlineUnixMs
      Fits payload → ReadsLine pydantic payload →
      decodeMediaCommand pydantic (encodeLine (.obj payload)) = .ok (cmd, spec, deadlineUnixMs)) ∧
    (∀ obs : NodeRuntimeObservation, Fits (successPayload obs) →
      ReadsLine pydantic (successPayload obs) →
      decodeObservation pydantic (encodeLine (.obj (successPayload obs))) = .ok obs) ∧
    (∀ (spec : NodeRuntimeSpec) (cmd : MediaPathCommand) (val : cmd.Value),
      cmd.IsProduced spec val →
      let payload := mediaSuccessPayload cmd.operation (cmd.resultOf val)
      Fits payload → ReadsLine pydantic payload →
      (decodeResponse pydantic (encodeLine (.obj payload)) >>= cmd.read) = .ok val) :=
  ⟨fun _ _ _ positive encoded reads => decode_command_line uuids positive encoded reads,
    fun _ _ _ positive source fits reads =>
      decode_media_command_line uuids positive source fits reads,
    fun _ fits reads => decode_observation_line uuids fits reads,
    fun _ _ _ produced fits reads => result_round_trip uuids produced fits reads⟩

section Samples

local instance : PythonText := plainText

def readingLine (payload : Members) : Pydantic where
  json raw := if raw = encodeLine (.obj payload) then some (sortKeys (.obj payload)) else none
  uuid := Uuid.parseUuid

theorem reading_line_reads (payload : Members) : ReadsLine (readingLine payload) payload :=
  if_pos rfl

theorem reading_line_uuids (payload : Members) : ReadsUuids (readingLine payload) := by
  simp only [ReadsUuids, readingLine]
  exact Uuid.parse_uuid_text

def sampleSpec : NodeRuntimeSpec where
  nodeId := 1
  externalPort := 8554
  apiPort := 9997
  metricsPort := 9998
  desiredRevision := 1
  releaseId := "r1"
  mediamtxBinarySha256 := "e3b0c44298fc1c149afbf4c8996fb92427ae41e4649b934ca495991b7852b855"
  valid := by decide

def sampleName : PublicId := ⟨"eaaaaaaaaaaaaaaaaaaaaaaaaa", by decide⟩

def samplePath (sourceUrl : String) : MediaPathConfig :=
  ⟨sampleName, sourceUrl, 1, .inr rfl⟩

def putPayload (sourceUrl : String) : Members :=
  requestPayload .put sampleSpec.toSpecFields (put (samplePath sourceUrl)).requested 1

def getPayload (sourceUrl : String) : Members :=
  mediaSuccessPayload .get (.path (samplePath sourceUrl))

theorem camera_path_round_trips :
    decodeMediaCommand (readingLine (putPayload "rtsp://camera/live"))
        (encodeLine (.obj (putPayload "rtsp://camera/live"))) =
          .ok (.put (samplePath "rtsp://camera/live"), sampleSpec, 1) ∧
      (decodeResponse (readingLine (getPayload "rtsp://camera/live"))
        (encodeLine (.obj (getPayload "rtsp://camera/live"))) >>=
          (get sampleName).read) = .ok (some (samplePath "rtsp://camera/live")) := by
  have putFits : Fits (putPayload "rtsp://camera/live") := by
    unfold Fits
    decide +kernel
  have getFits : Fits (getPayload "rtsp://camera/live") := by
    unfold Fits
    decide +kernel
  have source : (put (samplePath "rtsp://camera/live")).HasCameraSource := by
    unfold MediaPathCommand.HasCameraSource
    decide +kernel
  have named : (get sampleName).IsProduced sampleSpec
      (some (samplePath "rtsp://camera/live")) := by
    rintro path ⟨⟩
    rfl
  constructor
  · exact (@helper_round_trip plainText (readingLine (putPayload "rtsp://camera/live"))
      (reading_line_uuids _)).2.1 (.put (samplePath "rtsp://camera/live")) sampleSpec 1 (by decide)
        source putFits (reading_line_reads _)
  · exact (@helper_round_trip plainText (readingLine (getPayload "rtsp://camera/live"))
      (reading_line_uuids _)).2.2.2 sampleSpec (.get sampleName)
        (some (samplePath "rtsp://camera/live")) named getFits (reading_line_reads _)

def longSource : String := String.ofList (replicate maxRuntimeMessageBytes 'a')

theorem long_source_exceeds : ¬ Fits (getPayload longSource) := by
  have text := text_length_le true longSource
  have source : (dumps true (.str longSource)).length ≤
      (dumps true (sortKeys (.obj (pathPayload (samplePath longSource))))).length :=
    @sorted_member_length_le true _ "source_url" (.str longSource)
      (mem_cons_of_mem _ mem_cons_self)
  have path : (dumps true (sortKeys (.obj (pathPayload (samplePath longSource))))).length ≤
      (dumps true (sortKeys (.obj (getPayload longSource)))).length :=
    @sorted_member_length_le true _ "path" (.obj (pathPayload (samplePath longSource)))
      (mem_cons_of_mem _ (mem_cons_of_mem _ mem_cons_self))
  have line := encode_line_length (.obj (getPayload longSource))
  have long : longSource.toList.length = maxRuntimeMessageBytes := by
    rw [longSource, String.toList_ofList, length_replicate]
  unfold Fits
  omega

/-- A source that is no camera source is refused, and a path that is too long for a message is not
read. -/
theorem lines_not_decoded :
    (Fits (putPayload "camera") ∧ ReadsLine (readingLine (putPayload "camera")) (putPayload "camera") ∧
      decodeMediaCommand (readingLine (putPayload "camera"))
        (encodeLine (.obj (putPayload "camera"))) ≠
          .ok (.put (samplePath "camera"), sampleSpec, 1)) ∧
    ReadsLine (readingLine (getPayload longSource)) (getPayload longSource) ∧
      (decodeResponse (readingLine (getPayload longSource))
        (encodeLine (.obj (getPayload longSource))) >>= (get sampleName).read) ≠
          .ok (some (samplePath longSource)) := by
  have fits : Fits (putPayload "camera") := by
    unfold Fits
    decide +kernel
  have refused : validateCameraSourceUrl "camera" true =
      .error (.invalidCameraSource "camera_source_url_invalid") := by decide +kernel
  have limited := requested_limited (.put (samplePath "camera"))
  have isRead : readMediaRequest (readingLine (putPayload "camera"))
      (sortKeys (.obj (putPayload "camera"))) =
        some ⟨1, .put, sampleSpec.toSpecFields, some ⟨sampleName.value, some "camera", some 1⟩, 1⟩ :=
    reads_media_request (reading_line_uuids _) limited (by decide)
  refine ⟨⟨fits, reading_line_reads _, ?_⟩, reading_line_reads _, ?_⟩
  · intro decoded
    unfold decodeMediaCommand at decoded
    rw [if_neg (line_accepted fits), reading_line_reads (putPayload "camera"), bind_some,
      isRead] at decoded
    simp [make_spec, mediaPathCommand, parse_value, refused] at decoded
  · intro decoded
    obtain ⟨resp, isResponse, _⟩ := bind_ok.mp decoded
    unfold decodeResponse at isResponse
    rw [if_pos (.inr (.inl (Nat.lt_of_not_le long_source_exceeds)))] at isResponse
    cases isResponse

end Samples

end RtspProxy.Media
