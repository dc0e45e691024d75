import RtspProxy.Lib.Schema
import RtspProxy.Media.Records

/-!
# The payloads of the helper

The pydantic models of `node_runtime.py`, all of them strict and closed to other
keys. What pydantic reads from the bytes before it looks at the model, and how it
reads a UUID, is a parameter.
-/

namespace RtspProxy.Media

open Nodes Lib Lib.Schema

/-- The parts of pydantic that are its own: JSON from bytes, every key once, and UUIDs. -/
structure Pydantic where
  json : List UInt8 → Option Json
  uuid : String → Option UUID

def encodeUtf8 (text : List Char) : List UInt8 := text.flatMap String.utf8EncodeChar

/-- `json.dumps(payload, separators=(",", ":"), sort_keys=True) + "\n"`, encoded. -/
def encodeLine (payload : Json) : List UInt8 :=
  encodeUtf8 (Json.dumps true payload.sortKeys ++ ['\n'])

def maxRuntimeMessageBytes : Nat := 65536

structure MediaPathPayload where
  name : String
  sourceUrl : Option String
  maxReaders : Option Int
  deriving DecidableEq

structure MediaInventoryPayload where
  cameraIds : List String
  noOracleMatcherPresent : Bool
  deriving DecidableEq

structure MediaRuntimePayload where
  ready : Bool
  readerCount : Int
  deriving DecidableEq

structure PathMetricPayload where
  publicId : String
  receivedBytesTotal : Int
  sentBytesTotal : Int
  ready : Option Bool
  deriving DecidableEq

structure MediaMetricsPayload where
  activeSources : Int
  occupiedStreams : Int
  receivedBytesTotal : Int
  sentBytesTotal : Int
  pathCounters : List PathMetricPayload
  occupiedPublicIds : List String
  process : ProcessIdentity
  deriving DecidableEq

structure MediaResponsePayload where
  schemaVersion : Int
  ok : Bool
  path : Option MediaPathPayload
  inventory : Option MediaInventoryPayload
  runtime : Option MediaRuntimePayload
  metrics : Option MediaMetricsPayload
  error : Option String
  deriving DecidableEq

/-- `Field(ge=least)`. -/
def atLeast (least : Int) : Reader Int := satisfying (least ≤ ·) integer

/-- `Field(ge=least, le=most)`. -/
def between (least most : Int) : Reader Int :=
  satisfying (fun value => least ≤ value ∧ value ≤ most) integer

/-- `Field(min_length=least, max_length=most)`. -/
def textOfLength (least most : Nat) : Reader String :=
  satisfying (fun value => least ≤ value.length ∧ value.length ≤ most) text

def uuid (pydantic : Pydantic) : Reader UUID := fun json => (text json).bind pydantic.uuid

/-- `_MediaPathPayload`, with its validator. -/
def readMediaPath : Reader MediaPathPayload := fun json => do
  let members ← fieldsOf ["name", "source_url", "max_readers"] json
  let name ← required text members "name"
  let sourceUrl ← required (nullable text) members "source_url"
  let maxReaders ← defaulted (nullable (between (-1) 1)) none members "max_readers"
  guard (maxReaders ∈ [none, some (-1), some 1])
  return ⟨name, sourceUrl, maxReaders⟩

def readMediaInventory : Reader MediaInventoryPayload := fun json => do
  let members ← fieldsOf ["camera_ids", "no_oracle_matcher_present"] json
  let cameraIds ← required (list text) members "camera_ids"
  let noOracleMatcherPresent ← required boolean members "no_oracle_matcher_present"
  return ⟨cameraIds, noOracleMatcherPresent⟩

def readMediaRuntime : Reader MediaRuntimePayload := fun json => do
  let members ← fieldsOf ["ready", "reader_count"] json
  let ready ← required boolean members "ready"
  let readerCount ← required (atLeast 0) members "reader_count"
  return ⟨ready, readerCount⟩

def readPathMetric : Reader PathMetricPayload := fun json => do
  let members ← fieldsOf ["public_id", "received_bytes_total", "sent_bytes_total", "ready"] json
  let publicId ← required (textOfLength 26 26) members "public_id"
  let receivedBytesTotal ← required (atLeast 0) members "received_bytes_total"
  let sentBytesTotal ← required (atLeast 0) members "sent_bytes_total"
  let ready ← defaulted (nullable boolean) none members "ready"
  return ⟨publicId, receivedBytesTotal, sentBytesTotal, ready⟩

section Uuid

variable (pydantic : Pydantic)

def readMediaMetrics : Reader MediaMetricsPayload := fun json => do
  let members ← fieldsOf
    ["active_sources", "occupied_streams", "received_bytes_total", "sent_bytes_total",
      "path_counters", "occupied_public_ids", "process_id", "process_start_ticks",
      "process_boot_id", "release_id"] json
  let activeSources ← required (between 0 100) members "active_sources"
  let occupiedStreams ← required (between 0 100) members "occupied_streams"
  let receivedBytesTotal ← required (atLeast 0) members "received_bytes_total"
  let sentBytesTotal ← required (atLeast 0) members "sent_bytes_total"
  let pathCounters ← required (list readPathMetric) members "path_counters"
  let occupiedPublicIds ← required (list text) members "occupied_public_ids"
  let processId ← required (atLeast 1) members "process_id"
  let processStartTicks ← required (atLeast 1) members "process_start_ticks"
  let processBootId ← required (uuid pydantic) members "process_boot_id"
  let releaseId ← required (textOfLength 1 128) members "release_id"
  return {
    activeSources := activeSources
    occupiedStreams := occupiedStreams
    receivedBytesTotal := receivedBytesTotal
    sentBytesTotal := sentBytesTotal
    pathCounters := pathCounters
    occupiedPublicIds := occupiedPublicIds
    process := ⟨processId, processStartTicks, processBootId, releaseId⟩ }

def readMediaResponse : Reader MediaResponsePayload := fun json => do
  let members ← fieldsOf
    ["schema_version", "ok", "path", "inventory", "runtime", "metrics", "error"] json
  let schemaVersion ← required integer members "schema_version"
  let ok ← required boolean members "ok"
  let path ← required (nullable readMediaPath) members "path"
  let inventory ← required (nullable readMediaInventory) members "inventory"
  let runtime ← defaulted (nullable readMediaRuntime) none members "runtime"
  let metrics ← defaulted (nullable (readMediaMetrics pydantic)) none members "metrics"
  let error ← required (nullable text) members "error"
  return ⟨schemaVersion, ok, path, inventory, runtime, metrics, error⟩

end Uuid

end RtspProxy.Media
