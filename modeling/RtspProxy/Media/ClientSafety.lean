import RtspProxy.Media.Client

/-!
# What the media client returns and raises

Whatever the helper answers, a value that comes out is sound and an exception is a
`MediaNodeError`, but for the records of the metrics: they are built where nothing
catches what their checks raise.
-/

namespace RtspProxy.Media

open Nodes Lib Lib.Schema Lib.Raising

open Reconcile (MediaPathConfig MediaPathInventory)

namespace MediaPathCommand

/-- The value concerns the name that was asked for and has the invariants of its type. -/
def Sound : (cmd : MediaPathCommand) → cmd.Value → Prop
  | put _, _ | delete _, _ => True
  | get name, found => ∀ path ∈ found,
      path.name = name ∧ (path.maxReaders = -1 ∨ path.maxReaders = 1)
  | inventory, found => found.cameraIds = sortedSet found.cameraIds
  | runtime _, found => ∀ status ∈ found, 0 ≤ status.2
  | metrics, obs => obs.sample.toSampleFields.check = .ok () ∧ obs.process.IsValid

end MediaPathCommand

/-- The command returns a sound value or raises a `MediaNodeError`. -/
def IsClosed (cmd : MediaPathCommand) : Except Raised cmd.Value → Prop
  | .ok value => cmd.Sound value
  | .error err => err.isMediaNodeError = true

/-- The metrics of an accepted line, with counters that are well formed, make a sample. -/
def MetricsMakeSample (pydantic : Pydantic) (raw : List UInt8) : Prop :=
  ∀ resp metrics pathCounters, decodeResponse pydantic raw = .ok resp →
    resp.metrics = some metrics →
    ¬ (resp.inventory ≠ none ∨ resp.path ≠ none ∨ resp.runtime ≠ none) →
    metrics.pathCounters.mapM makeCounter = .ok pathCounters →
    (sampleFields metrics pathCounters).check = .ok ()

section Client

variable {pydantic : Pydantic} {wire : Wire} {spec : SpecFields}

variable {err : Raised} {raw : List UInt8}

theorem decode_response_error
    (raised : decodeResponse pydantic raw = .error err) : err.isMediaNodeError = true := by
  unfold decodeResponse at raised
  split at raised
  · cases raised
    rfl
  split at raised
  · cases raised
    rfl
  split at raised
  · cases raised
    rfl
  split at raised
  · split at raised
    · cases raised
      rfl
    · split at raised
      · cases raised
        rfl
      · cases raised
        rfl
  · split at raised
    · cases raised
      rfl
    · cases raised

variable {resp : MediaResponsePayload}

theorem decode_response_read (decoded : decodeResponse pydantic raw = .ok resp) :
    ∃ json, readMediaResponse pydantic json = some resp := by
  unfold decodeResponse at decoded
  split at decoded
  · cases decoded
  split at decoded
  · cases decoded
  rename_i found isRead
  obtain ⟨json, _, isResponse⟩ := Option.bind_eq_some_iff.mp isRead
  refine ⟨json, ?_⟩
  rw [isResponse]
  split at decoded
  · cases decoded
  split at decoded
  · split at decoded
    · cases decoded
    · split at decoded <;> cases decoded
  · split at decoded
    · cases decoded
    · exact congrArg some (Except.ok.inj decoded)

variable {operation : MediaPathOperation} {path : Option RequestedPath}

theorem request_error (raised : request pydantic wire spec operation path = .error err) :
    err.isMediaNodeError = true := by
  unfold request at raised
  split at raised
  · cases raised
    rfl
  dsimp only at raised
  split at raised
  · cases raised
    rfl
  split at raised
  · cases raised
    rfl
  · exact decode_response_error raised

/-- The line that is read in answer to a request that is made in time and small enough. -/
def Replied (wire : Wire) (spec : SpecFields) (operation : MediaPathOperation)
    (path : Option RequestedPath) (raw : List UInt8) : Prop :=
  let encoded := encodeLine (.obj (requestPayload operation spec path wire.deadlineUnixMs))
  wire.expired = false ∧ encoded.length ≤ maxRuntimeMessageBytes ∧
    ∃ stream, wire.helper encoded = some stream ∧ raw = readline (maxRuntimeMessageBytes + 1) stream

theorem request_ok :
    request pydantic wire spec operation path = .ok resp ↔
      ∃ raw, Replied wire spec operation path raw ∧ decodeResponse pydantic raw = .ok resp := by
  constructor
  · intro ret
    unfold request at ret
    split at ret
    · cases ret
    rename_i inTime
    dsimp only at ret
    split at ret
    · cases ret
    rename_i small
    split at ret
    · cases ret
    · rename_i stream isStream
      exact ⟨_, ⟨Bool.eq_false_iff.mpr inTime, Nat.le_of_not_lt small, stream, isStream, rfl⟩, ret⟩
  · rintro ⟨_, ⟨inTime, small, stream, isStream, rfl⟩, decoded⟩
    unfold request
    rw [inTime, if_neg Bool.false_ne_true]
    rw [if_neg (Nat.not_lt_of_le small), isStream]
    exact decoded

variable {json : Json}

theorem read_runtime_counted {runtime : MediaRuntimePayload}
    (isRead : readMediaRuntime json = some runtime) : 0 ≤ runtime.readerCount := by
  simp only [readMediaRuntime, bind, Option.bind_eq_some_iff] at isRead
  obtain ⟨members, _, ready, _, readerCount, counted, made⟩ := isRead
  cases made
  obtain ⟨_, _, isCount⟩ := required_some.mp counted
  exact (satisfying_some.mp isCount).2

theorem read_metrics_identified {metrics : MediaMetricsPayload}
    (isRead : readMediaMetrics pydantic json = some metrics) : metrics.process.IsValid := by
  simp only [readMediaMetrics, bind, Option.bind_eq_some_iff] at isRead
  obtain ⟨_, _, _, _, _, _, _, _, _, _, _, _, _, _, processId, isId, ticks, isTicks, _, _, releaseId,
    isRelease, made⟩ := isRead
  cases made
  obtain ⟨_, _, hasId⟩ := required_some.mp isId
  obtain ⟨_, _, hasTicks⟩ := required_some.mp isTicks
  obtain ⟨_, _, hasRelease⟩ := required_some.mp isRelease
  refine ⟨(satisfying_some.mp hasId).2, (satisfying_some.mp hasTicks).2, ?_⟩
  intro isEmpty
  have long := (satisfying_some.mp hasRelease).2.1
  exact absurd (congrArg String.length isEmpty) (Nat.ne_of_gt long)

theorem read_response_parts (isRead : readMediaResponse pydantic json = some resp) :
    (∀ runtime, resp.runtime = some runtime → 0 ≤ runtime.readerCount) ∧
      ∀ metrics, resp.metrics = some metrics → metrics.process.IsValid := by
  simp only [readMediaResponse, bind, Option.bind_eq_some_iff] at isRead
  obtain ⟨_, _, _, _, _, _, _, _, _, _, runtime, isRuntime, metrics, isMetrics, _, _, made⟩ := isRead
  cases made
  constructor
  · rintro runtime rfl
    obtain ⟨_, read⟩ := defaulted_nullable_some isRuntime
    exact read_runtime_counted read
  · rintro metrics rfl
    obtain ⟨_, read⟩ := defaulted_nullable_some isMetrics
    exact read_metrics_identified read

theorem check_raises (fields : SampleFields) :
    RaisesOnly (fun err => err.isMediaNodeError = false) fields.check := by
  have order : RaisesOnly (fun err => err.isMediaNodeError = false) fields.checkOrder :=
    raises_only_bind (raises_only_check rfl) fun _ _ =>
      raises_only_bind (raises_only_check rfl) fun _ _ => raises_only_check rfl
  have readers : RaisesOnly (fun err => err.isMediaNodeError = false) fields.checkReaders := by
    unfold SampleFields.checkReaders
    split
    · exact raises_only_bind (raises_only_check rfl) fun _ _ =>
        raises_only_bind (raises_only_check rfl) fun _ _ => raises_only_check rfl
    · exact raises_only_ok
  unfold SampleFields.check
  refine raises_only_bind (raises_only_check rfl) fun _ _ => ?_
  refine raises_only_bind (raises_only_check rfl) fun _ _ => ?_
  refine raises_only_bind (raises_only_check rfl) fun _ _ => ?_
  refine raises_only_bind order fun _ _ => ?_
  refine raises_only_bind (raises_only_check rfl) fun _ _ => ?_
  refine raises_only_bind readers fun _ _ => ?_
  exact raises_only_bind (raises_only_check rfl) fun _ _ => raises_only_check rfl

theorem make_sample_ok {fields : SampleFields} (checked : fields.check = .ok ()) :
    makeNodeMetricSample fields = .ok ⟨fields, checked⟩ := by
  unfold makeNodeMetricSample
  split
  · rfl
  · rename_i raised
    rw [checked] at raised
    cases raised

theorem make_sample_error {fields : SampleFields}
    (checked : fields.check = .error err) : makeNodeMetricSample fields = .error err := by
  unfold makeNodeMetricSample
  split
  · rename_i passed
    rw [checked] at passed
    cases passed
  · rename_i raised
    rw [checked] at raised
    cases raised
    rfl

theorem make_counters_raise (items : List PathMetricPayload) :
    RaisesOnly (fun err => err.isValueError = true) (items.mapM makeCounter) := by
  induction items with
  | nil => exact raises_only_ok
  | cons item rest ih =>
    rw [List.mapM_cons]
    refine raises_only_bind ?_ fun _ _ => raises_only_bind ih fun _ _ => raises_only_ok
    unfold makeCounter makePathMetricCounters
    split
    · split
      · exact raises_only_ok
      · exact raises_only_error rfl
    · exact raises_only_error rfl

theorem closed_empty (resp : MediaResponsePayload) :
    RaisesOnly (fun err => err.isMediaNodeError = true) (emptyResponse resp) := by
  unfold emptyResponse
  split
  · exact raises_only_error rfl
  · exact raises_only_ok

theorem path_response_raises (name : PublicId) (resp : MediaResponsePayload) :
    RaisesOnly (fun err => err.isMediaNodeError = true) (pathResponse name resp) := by
  unfold pathResponse
  split
  · exact raises_only_error rfl
  split
  · exact raises_only_ok
  split
  · split
    · split
      · exact raises_only_error rfl
      · split
        · exact raises_only_error rfl
        · exact raises_only_ok
    · exact raises_only_error rfl
  · exact raises_only_error rfl

theorem path_response_sound {name : PublicId} {found : Option MediaPathConfig}
    (ret : pathResponse name resp = .ok found) :
    ∀ path ∈ found, path.name = name ∧ (path.maxReaders = -1 ∨ path.maxReaders = 1) := by
  unfold pathResponse at ret
  rintro path rfl
  split at ret
  · cases ret
  split at ret
  · cases ret
  split at ret
  · split at ret
    · split at ret
      · cases ret
      · split at ret
        · cases ret
        · rename_i isName
          cases ret
          exact ⟨not_not.mp isName, by assumption⟩
    · cases ret
  · cases ret

theorem inventory_response_raises (resp : MediaResponsePayload) :
    RaisesOnly (fun err => err.isMediaNodeError = true) (inventoryResponse resp) := by
  unfold inventoryResponse
  split
  · exact raises_only_error rfl
  split
  · exact raises_only_error rfl
  split
  · exact raises_only_error rfl
  dsimp only
  split
  · exact raises_only_error rfl
  · exact raises_only_ok

theorem sorted_by_text (publicIds : List PublicId) :
    (publicIds.insertionSort fun left right => left.value ≤ right.value).Pairwise
      fun left right => left.value ≤ right.value := by
  have total : Std.Total fun left right : PublicId => left.value ≤ right.value :=
    ⟨fun left right => String.le_total left.value right.value⟩
  have transitive : IsTrans PublicId fun left right => left.value ≤ right.value :=
    ⟨fun _ _ _ => String.le_trans⟩
  exact List.pairwise_insertionSort _ publicIds

theorem inventory_response_sound {inventory : MediaPathInventory}
    (ret : inventoryResponse resp = .ok inventory) :
    inventory.cameraIds = sortedSet inventory.cameraIds := by
  unfold inventoryResponse at ret
  split at ret
  · cases ret
  split at ret
  · cases ret
  split at ret
  · cases ret
  dsimp only at ret
  split at ret
  · cases ret
  · rename_i distinct
    cases ret
    rw [sortedSet, List.Nodup.dedup (not_not.mp distinct)]
    exact (sorted_by_text _).insertionSort_eq.symm

theorem runtime_response_raises (resp : MediaResponsePayload) :
    RaisesOnly (fun err => err.isMediaNodeError = true) (runtimeResponse resp) := by
  unfold runtimeResponse
  split
  · exact raises_only_error rfl
  · exact raises_only_ok

theorem runtime_response_sound {found : Option (Bool × Int)}
    (decoded : decodeResponse pydantic raw = .ok resp)
    (ret : runtimeResponse resp = .ok found) : ∀ status ∈ found, 0 ≤ status.2 := by
  obtain ⟨_, isRead⟩ := decode_response_read decoded
  unfold runtimeResponse at ret
  split at ret
  · cases ret
  cases ret
  intro status mem
  obtain ⟨runtime, isRuntime, rfl⟩ := Option.map_eq_some_iff.mp mem
  exact (read_response_parts isRead).1 runtime isRuntime

theorem metrics_response_closed_iff
    (identified : ∀ metrics, resp.metrics = some metrics → metrics.process.IsValid) :
    IsClosed .metrics (metricsResponse resp) ↔ ∀ metrics pathCounters, resp.metrics = some metrics →
        ¬ (resp.inventory ≠ none ∨ resp.path ≠ none ∨ resp.runtime ≠ none) →
        metrics.pathCounters.mapM makeCounter = .ok pathCounters →
        (sampleFields metrics pathCounters).check = .ok () := by
  unfold metricsResponse
  split
  · rename_i missing
    refine iff_of_true rfl ?_
    intro metrics _ isMetrics
    rw [missing] at isMetrics
    cases isMetrics
  rename_i metrics present
  split
  · rename_i others
    exact iff_of_true rfl fun _ _ _ alone => absurd others alone
  rename_i alone
  split
  · rename_i err raised
    have isValueError := make_counters_raise metrics.pathCounters err raised
    rw [if_pos isValueError]
    refine iff_of_true rfl ?_
    intro other pathCounters isMetrics _ made
    rw [present] at isMetrics
    rw [← Option.some.inj isMetrics, raised] at made
    cases made
  · rename_i pathCounters made
    have cond : (∀ other counters, resp.metrics = some other →
        ¬ (resp.inventory ≠ none ∨ resp.path ≠ none ∨ resp.runtime ≠ none) →
        other.pathCounters.mapM makeCounter = .ok counters →
        (sampleFields other counters).check = .ok ()) ↔
          (sampleFields metrics pathCounters).check = .ok () := by
      refine ⟨fun each => each metrics pathCounters present alone made, ?_⟩
      intro isValid other counters isMetrics _ isMade
      rw [present] at isMetrics
      obtain rfl := Option.some.inj isMetrics
      rw [made] at isMade
      rw [← Except.ok.inj isMade]
      exact isValid
    rw [cond]
    cases checked : (sampleFields metrics pathCounters).check with
    | error err =>
      have isRaised : makeNodeMetricSample (sampleFields metrics pathCounters) = .error err :=
        make_sample_error checked
      rw [bind_of_error isRaised]
      refine iff_of_false ?_ (fun isOk => by cases isOk)
      have isOther := check_raises _ err checked
      intro isNodeError
      exact absurd (isOther.symm.trans isNodeError) (by decide)
    | ok _ =>
      refine iff_of_true ?_ rfl
      have identity := identified metrics present
      rw [bind_of_ok (make_sample_ok checked), makeNodeMetricObservation, dif_pos identity]
      exact ⟨checked, identity⟩

theorem closed_request {cmd : MediaPathCommand}
    {read : MediaResponsePayload → Except Raised cmd.Value}
    (raises : ∀ resp, RaisesOnly (fun err => err.isMediaNodeError = true) (read resp))
    (sound : ∀ raw resp value, decodeResponse pydantic raw = .ok resp →
      read resp = .ok value → cmd.Sound value) :
    IsClosed cmd (request pydantic wire spec operation path >>= read) := by
  cases out : request pydantic wire spec operation path >>= read with
  | error err =>
    rcases bind_error.mp out with isRequest | ⟨resp, _, isRead⟩
    · exact request_error isRequest
    · exact raises resp err isRead
  | ok value =>
    obtain ⟨resp, ret, isRead⟩ := bind_ok.mp out
    obtain ⟨raw, _, decoded⟩ := request_ok.mp ret
    exact sound raw resp value decoded isRead

/-- The condition: an accepted line of metrics makes a sample. -/
theorem decoding_closed_iff (pydantic : Pydantic) (wire : Wire) (spec : SpecFields)
    (cmd : MediaPathCommand) :
    IsClosed cmd (cmd.run pydantic wire spec) ↔
      (cmd = .metrics → ∀ raw, Replied wire spec .metrics none raw →
        MetricsMakeSample pydantic raw) := by
  cases cmd with
  | put path =>
    refine iff_of_true ?_ (fun isMetrics => by cases isMetrics)
    exact closed_request closed_empty fun _ _ _ _ _ => trivial
  | delete name =>
    refine iff_of_true ?_ (fun isMetrics => by cases isMetrics)
    exact closed_request closed_empty fun _ _ _ _ _ => trivial
  | get name =>
    refine iff_of_true ?_ (fun isMetrics => by cases isMetrics)
    exact closed_request (path_response_raises name) fun _ _ _ _ ret =>
      path_response_sound ret
  | inventory =>
    refine iff_of_true ?_ (fun isMetrics => by cases isMetrics)
    exact closed_request inventory_response_raises fun _ _ _ _ ret =>
      inventory_response_sound ret
  | runtime name =>
    refine iff_of_true ?_ (fun isMetrics => by cases isMetrics)
    exact closed_request runtime_response_raises fun _ _ _ decoded ret =>
      runtime_response_sound decoded ret
  | metrics =>
    change IsClosed .metrics (request pydantic wire spec .metrics none >>= metricsResponse) ↔ _
    cases out : request pydantic wire spec .metrics none with
    | error err =>
      refine iff_of_true (request_error out) ?_
      intro _ raw replied resp metrics pathCounters decoded
      rw [request_ok.mpr ⟨raw, replied, decoded⟩] at out
      cases out
    | ok resp =>
      obtain ⟨raw, replied, decoded⟩ := request_ok.mp out
      obtain ⟨_, isRead⟩ := decode_response_read decoded
      rw [bind_of_ok rfl, metrics_response_closed_iff (read_response_parts isRead).2]
      constructor
      · intro each _ other repliedOther found metrics pathCounters decodedOther
        have same := request_ok.mpr ⟨other, repliedOther, decodedOther⟩
        rw [out] at same
        obtain rfl := Except.ok.inj same
        exact each metrics pathCounters
      · intro each metrics pathCounters
        exact each rfl raw replied resp metrics pathCounters decoded

end Client

def unoccupiedResponse : Json :=
  .obj [("error", .null), ("inventory", .null),
    ("metrics", .obj [("active_sources", .int 0), ("occupied_public_ids", .arr []),
      ("occupied_streams", .int 1), ("path_counters", .arr []),
      ("process_boot_id", .str "00000000-0000-0000-0000-000000000001"), ("process_id", .int 1),
      ("process_start_ticks", .int 1), ("received_bytes_total", .int 0), ("release_id", .str "r1"),
      ("sent_bytes_total", .int 0)]),
    ("ok", .bool true), ("path", .null), ("runtime", .null), ("schema_version", .int 1)]

def unoccupiedLine : List UInt8 := encodeLine unoccupiedResponse

def unoccupiedPydantic : Pydantic where
  json raw := if raw = unoccupiedLine then some unoccupiedResponse else none
  uuid text := if text = Uuid.uuidText 1 then some 1 else none

def unoccupiedWire : Wire := ⟨false, 1, fun _ => some unoccupiedLine⟩

def unoccupiedSpec : SpecFields := ⟨1, 8554, 9997, 9998, 1, "r1", ""⟩

def raisedBy {Value : Type} : Except Raised Value → Option Raised
  | .error err => some err
  | .ok _ => none

theorem escapes {cmd : MediaPathCommand} {out : Except Raised cmd.Value} {err : Raised}
    (raised : raisedBy out = some err) (isOther : err.isMediaNodeError = false) :
    ¬ IsClosed cmd out := by
  cases out with
  | ok value => cases raised
  | error found =>
    cases raised
    intro isNodeError
    exact absurd (isOther.symm.trans isNodeError) Bool.false_ne_true

/-- The client raises a `ValueError`. -/
theorem unoccupied_metrics_escape :
    ¬ IsClosed .metrics
      (MediaPathCommand.metrics.run unoccupiedPydantic unoccupiedWire unoccupiedSpec) := by
  have raised : raisedBy
      (MediaPathCommand.metrics.run unoccupiedPydantic unoccupiedWire unoccupiedSpec) =
        some (.valueError "occupied_public_ids_invalid") := by decide +kernel
  exact escapes raised rfl

end RtspProxy.Media
