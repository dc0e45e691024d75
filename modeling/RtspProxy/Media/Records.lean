import Mathlib.Data.List.Dedup
import Mathlib.Data.List.Sort
import RtspProxy.Reconcile.World

/-!
# What is told about a media node

`PathMetricCounters`, `NodeMetricSample` and `NodeMetricObservation` of
`observability.py` and `NodeDisruptionObservation` of `nodes.py`. A record is built
by checks that may raise, and one that exists has passed them. The bit rates and
the two flags of the counters are left out: neither the client nor the helper sets
them.
-/

namespace RtspProxy.Media

open Nodes Lib

/-- The exceptions of the media client, of the helper, and of the block the client serves. -/
inductive Raised
  | mediaNodeUnavailable (code : String)
  | mediaNodeProtocolError (code : String)
  | nodeSupervisorError (code : String)
  | valueError (code : String)
  | invalidPublicId
  | typeError
  | other (name : String)
  deriving DecidableEq

namespace Raised

def isMediaNodeError : Raised → Bool
  | mediaNodeUnavailable _ | mediaNodeProtocolError _ => true
  | _ => false

/-- `InvalidPublicId` is a `ValueError`. -/
def isValueError : Raised → Bool
  | valueError _ | invalidPublicId => true
  | _ => false

end Raised

def parsePublicId (value : String) : Except Raised PublicId :=
  if canonical : isCanonicalPublicId value = true then .ok ⟨value, canonical⟩
  else .error .invalidPublicId

/-- `sorted(set(public_ids), key=str)`. -/
def sortedSet (publicIds : List PublicId) : List PublicId :=
  publicIds.dedup.insertionSort fun left right => left.value ≤ right.value

structure PathMetricCounters where
  publicId : String
  receivedBytesTotal : Int
  sentBytesTotal : Int
  ready : Option Bool
  canonical : isCanonicalPublicId publicId = true
  counted : 0 ≤ receivedBytesTotal ∧ 0 ≤ sentBytesTotal

def makePathMetricCounters (publicId : String) (receivedBytesTotal sentBytesTotal : Int)
    (ready : Option Bool) : Except Raised PathMetricCounters :=
  if canonical : isCanonicalPublicId publicId = true then
    if counted : 0 ≤ receivedBytesTotal ∧ 0 ≤ sentBytesTotal then
      .ok ⟨publicId, receivedBytesTotal, sentBytesTotal, ready, canonical, counted⟩
    else .error (.valueError "path_metric_counter_invalid")
  else .error (.valueError "path_metric_public_id_invalid")

namespace PathMetricCounters

/-- The first three fields, the first that differs decides. -/
def SameKey (left right : PathMetricCounters) : Prop :=
  left.publicId = right.publicId ∧ left.receivedBytesTotal = right.receivedBytesTotal ∧
    left.sentBytesTotal = right.sentBytesTotal

instance (left right : PathMetricCounters) : Decidable (SameKey left right) :=
  inferInstanceAs (Decidable (_ ∧ _ ∧ _))

/-- `None` and a boolean are not compared. -/
def Incomparable (left right : PathMetricCounters) : Prop :=
  SameKey left right ∧ left.ready.isSome ≠ right.ready.isSome

instance (left right : PathMetricCounters) : Decidable (Incomparable left right) :=
  inferInstanceAs (Decidable (_ ∧ _))

/-- `left < right`, where the two can be compared. -/
def Before (left right : PathMetricCounters) : Prop :=
  left.publicId < right.publicId ∨ left.publicId = right.publicId ∧
      (left.receivedBytesTotal < right.receivedBytesTotal ∨
        left.receivedBytesTotal = right.receivedBytesTotal ∧
          (left.sentBytesTotal < right.sentBytesTotal ∨ left.sentBytesTotal = right.sentBytesTotal ∧
              left.ready = some false ∧ right.ready = some true))

instance (left right : PathMetricCounters) : Decidable (Before left right) :=
  inferInstanceAs (Decidable (_ ∨ _ ∧ (_ ∨ _ ∧ (_ ∨ _ ∧ _ ∧ _))))

end PathMetricCounters

structure SampleFields where
  activeSources : Int
  occupiedStreams : Int
  receivedBytesTotal : Int
  sentBytesTotal : Int
  pathCounters : List PathMetricCounters
  occupiedPublicIds : Option (List String)

namespace SampleFields

open Raising

/-- `tuple(sorted(path_counters)) != path_counters`, after the check of their number. Sorting compares
what stands next to each other in the end. -/
def checkOrder (fields : SampleFields) : Except Raised Unit := do
  raiseIf (100 < fields.pathCounters.length) (.valueError "path_metric_counters_invalid")
  raiseIf (∃ left ∈ fields.pathCounters, ∃ right ∈ fields.pathCounters, left.Incomparable right)
    .typeError
  raiseIf (¬ fields.pathCounters.Pairwise fun left right => ¬ right.Before left)
    (.valueError "path_metric_counters_invalid")

def checkOccupied (fields : SampleFields) (occupied : List String) : Except Raised Unit := do
  raiseIf (¬ occupied.Nodup ∨ ¬ occupied.Pairwise (· ≤ ·) ∨
    (occupied.length : Int) ≠ fields.occupiedStreams) (.valueError "occupied_public_ids_invalid")
  raiseIf (∃ publicId ∈ occupied, isCanonicalPublicId publicId = false) .invalidPublicId
  raiseIf (fields.pathCounters ≠ [] ∧
    ∃ publicId ∈ occupied, publicId ∉ fields.pathCounters.map (·.publicId))
    (.valueError "occupied_public_ids_invalid")

def checkReaders (fields : SampleFields) : Except Raised Unit :=
  match fields.occupiedPublicIds with
  | some occupied => fields.checkOccupied occupied
  | none => .ok ()

/-- `NodeMetricSample.__post_init__`. -/
def check (fields : SampleFields) : Except Raised Unit := do
  raiseIf (¬ (0 ≤ fields.activeSources ∧ fields.activeSources ≤ 100))
    (.valueError "active_sources_invalid")
  raiseIf (¬ (0 ≤ fields.occupiedStreams ∧ fields.occupiedStreams ≤ 100))
    (.valueError "occupied_streams_invalid")
  raiseIf (fields.receivedBytesTotal < 0 ∨ fields.sentBytesTotal < 0)
    (.valueError "byte_counter_invalid")
  fields.checkOrder
  raiseIf (¬ (fields.pathCounters.map (·.publicId)).Nodup)
    (.valueError "path_metric_counters_invalid")
  fields.checkReaders
  raiseIf (fields.pathCounters ≠ [] ∧
    ((fields.pathCounters.map (·.receivedBytesTotal)).sum ≠ fields.receivedBytesTotal ∨
      (fields.pathCounters.map (·.sentBytesTotal)).sum ≠ fields.sentBytesTotal ∨
      (∀ counter ∈ fields.pathCounters, counter.ready ≠ none) ∧
        (fields.pathCounters.countP (·.ready == some true) : Int) ≠ fields.activeSources))
    (.valueError "path_metric_aggregate_invalid")
  raiseIf (∃ occupied ∈ fields.occupiedPublicIds, ∃ counter ∈ fields.pathCounters,
    counter.publicId ∈ occupied ∧ counter.ready = some false)
    (.valueError "occupied_public_ids_invalid")

end SampleFields

structure NodeMetricSample extends SampleFields where
  valid : toSampleFields.check = .ok ()

def makeNodeMetricSample (fields : SampleFields) : Except Raised NodeMetricSample :=
  match valid : fields.check with
  | .ok () => .ok ⟨fields, valid⟩
  | .error error => .error error

structure ProcessIdentity where
  processId : Int
  processStartTicks : Int
  processBootId : UUID
  releaseId : String
  deriving DecidableEq

def ProcessIdentity.IsValid (process : ProcessIdentity) : Prop :=
  1 ≤ process.processId ∧ 1 ≤ process.processStartTicks ∧ process.releaseId ≠ ""

instance (process : ProcessIdentity) : Decidable process.IsValid :=
  inferInstanceAs (Decidable (_ ∧ _ ∧ _))

structure NodeMetricObservation where
  sample : NodeMetricSample
  process : ProcessIdentity
  valid : process.IsValid

def makeNodeMetricObservation (sample : NodeMetricSample) (process : ProcessIdentity) :
    Except Raised NodeMetricObservation :=
  if valid : process.IsValid then .ok ⟨sample, process, valid⟩
  else .error (.valueError "node_metric_process_identity_invalid")

structure NodeDisruptionObservation where
  activeReaderPublicIds : List PublicId
  observedAt : Datetime
  process : ProcessIdentity
  valid : process.IsValid
  few : activeReaderPublicIds.length ≤ 100
  ordered : activeReaderPublicIds = sortedSet activeReaderPublicIds

def makeNodeDisruptionObservation (activeReaderPublicIds : List PublicId) (observedAt : Datetime)
    (process : ProcessIdentity) : Except Raised NodeDisruptionObservation :=
  if valid : process.IsValid ∧ activeReaderPublicIds.length ≤ 100 ∧
      activeReaderPublicIds = sortedSet activeReaderPublicIds then
    .ok ⟨activeReaderPublicIds, observedAt, process, valid.1, valid.2.1, valid.2.2⟩
  else .error (.valueError "node_disruption_observation_invalid")

end RtspProxy.Media
