import RtspProxy.Lib.Attempts
import RtspProxy.Media.Records

/-!
# The disruption fence

`UnixNodeDisruptionObserver.fence` of `node_runtime.py`, with the block it guards
as one call of its own. The media node is a table of paths, and what is read is
what is there; a write may leave anything under its name, even when it returns.
Every call may fail, before or after it took effect. `original` is filled in while
the paths are closed, so the part that closes them hands it on even when it raises.
-/

namespace RtspProxy.Media

open Nodes Lib.Program Lib.Program.Prog

open Reconcile (MediaPathConfig)

structure PathEntry where
  sourceUrl : String
  maxReaders : Int
  deriving DecidableEq

def entryOf (path : MediaPathConfig) : PathEntry := ⟨path.sourceUrl, path.maxReaders⟩

abbrev PathTable := PublicId → Option PathEntry

/-- The two tables differ at most in what is there under the name. -/
def DiffersAt (name : PublicId) (pre post : PathTable) : Prop :=
  ∀ other, other ≠ name → post other = pre other

/-- The end of the fenced block: how it ended, and whether it called `lease.complete()`. -/
structure BlockEnd where
  outcome : Except Raised Unit
  completed : Bool

/-- The paths, and what no code reads: the paths as they were when the lease was handed out, and
whether the lease was completed. -/
structure FencedNode where
  table : PathTable
  handedOut : Option PathTable
  completed : Bool

inductive FenceCall
  | forNodeUntil
  | getPath (name : PublicId)
  | putPath (path : MediaPathConfig)
  | nodeMetrics
  /-- The block; it may do what it likes to the paths that are closed for it. -/
  | block (closed : List PublicId)

abbrev FenceAnswer : FenceCall → Type
  | .getPath _ => Option MediaPathConfig
  | .nodeMetrics => NodeMetricObservation
  | .block _ => BlockEnd
  | _ => Unit

abbrev FenceProg := Prog FenceCall FenceAnswer Raised

abbrev FenceTrial := Trial FencedNode FenceCall

inductive FenceEffect (st : FencedNode) :
    (request : FenceCall) → Except Raised (FenceAnswer request) → FencedNode → Prop
  | forNodeUntil : FenceEffect st .forNodeUntil (.ok ()) st
  | noPath {name : PublicId} (missing : st.table name = none) :
      FenceEffect st (.getPath name) (.ok none) st
  | path {name : PublicId} {path : MediaPathConfig} (isName : path.name = name)
      (present : st.table name = some (entryOf path)) :
      FenceEffect st (.getPath name) (.ok (some path)) st
  -- Another limit than -1 and 1 is no valid response.
  | invalidPath {name : PublicId} {entry : PathEntry} (present : st.table name = some entry)
      (invalid : ¬ (entry.maxReaders = -1 ∨ entry.maxReaders = 1)) :
      FenceEffect st (.getPath name)
        (.error (.mediaNodeProtocolError "node_media_response_invalid")) st
  | putPath {path : MediaPathConfig} {table : PathTable}
      (others : DiffersAt path.name st.table table) :
      FenceEffect st (.putPath path) (.ok ()) { st with table := table }
  | nodeMetrics (obs : NodeMetricObservation) :
      FenceEffect st .nodeMetrics (.ok obs) st
  | block {closed : List PublicId} (ended : BlockEnd) (table : PathTable)
      (others : ∀ name, name ∉ closed → table name = st.table name) :
      FenceEffect st (.block closed) (.ok ended) ⟨table, some st.table, ended.completed⟩

/-- A call may raise whatever it likes; the block ends as its `BlockEnd` says. -/
def FenceLost : FenceCall → Raised → Prop
  | .block _, _ => False
  | _, _ => True

def fenceTools : Tools FenceCall FenceAnswer Raised FencedNode where
  effect := FenceEffect
  lost := FenceLost

section Programs

abbrev attempt (request : FenceCall) : FenceProg (FenceAnswer request) := ask request

def protocolError {Result : Type} (code : String) : FenceProg Result :=
  raise (.mediaNodeProtocolError code)

def fenced (configured : MediaPathConfig) : MediaPathConfig :=
  { configured with maxReaders := -1, limit := .inl rfl }

def writePath (path : MediaPathConfig) (code : String) : FenceProg Unit :=
  attempt (.putPath path) >>= fun _ =>
  attempt (.getPath path.name) >>= fun observed =>
    if observed ≠ some path then protocolError code else pure ()

/-- What the closing loop leaves in `original`, and how it ended. -/
abbrev Closing := List MediaPathConfig × Except Raised Unit

def closePaths : List PublicId → List MediaPathConfig → FenceProg Closing
  | [], original => pure (original, .ok ())
  | publicId :: rest, original =>
    (attempt (.getPath publicId)).andThen fun ans =>
      match ans with
      | .error err => pure (original, .error err)
      | .ok none => closePaths rest original
      | .ok (some configured) =>
        if configured.maxReaders ≠ 1 then
          pure (original, .error (.mediaNodeProtocolError "node_media_fence_path_invalid"))
        else
          (writePath (fenced configured) "node_media_fence_unverified").andThen fun outcome =>
            match outcome with
            | .ok _ => closePaths rest (original ++ [configured])
            | .error err => pure (original ++ [configured], .error err)

/-- `_observation`; `observedAt` is what the clock says. -/
def disruptionObservation (observedAt : Datetime) (metrics : NodeMetricObservation) :
    Except Raised NodeDisruptionObservation :=
  let invalid := .error (.mediaNodeProtocolError "node_media_reader_inventory_invalid")
  match metrics.sample.occupiedPublicIds with
  | none => invalid
  | some occupied =>
    if (occupied.length : Int) ≠ metrics.sample.occupiedStreams then invalid
    else
      match occupied.mapM parsePublicId >>= fun publicIds =>
          makeNodeDisruptionObservation publicIds observedAt metrics.process with
      | .ok obs => .ok obs
      | .error err => if err.isValueError = true then invalid else .error err

/-- The lease: `NodeDisruptionFenceLease.__post_init__` after `_observation`. -/
def makeLease (observedAt : Datetime) (workDeadlineUnixMs : Int) (metrics : NodeMetricObservation) :
    Except Raised Unit :=
  disruptionObservation observedAt metrics >>= fun _ =>
    if workDeadlineUnixMs < 1 then .error (.valueError "node_disruption_deadline_invalid")
    else .ok ()

def leased (observedAt : Datetime) (workDeadlineUnixMs : Int) (original : List MediaPathConfig) :
    FenceProg BlockEnd :=
  attempt .nodeMetrics >>= fun metrics =>
    match makeLease observedAt workDeadlineUnixMs metrics with
    | .error err => raise err
    | .ok () => attempt (.block (original.map (·.name)))

/-- `for configured in reversed(original)`, with `restore_error`. -/
def restorePaths : List MediaPathConfig → Option Raised → FenceProg (Option Raised)
  | [], restoreError => pure restoreError
  | configured :: rest, restoreError =>
    (writePath configured "node_media_fence_restore_unverified").andThen fun outcome =>
      match outcome with
      | .ok _ => restorePaths rest restoreError
      | .error err => restorePaths rest (some err)

/-- The restoration, and how the fence then ends if it does not fail. -/
def restoring (original : List MediaPathConfig) (outcome : Except Raised Unit) : FenceProg Unit :=
  (attempt .forNodeUntil).andThen fun client =>
    (match client with
      | .error err => pure (some err)
      | .ok _ => restorePaths original.reverse none) >>= fun restoreError =>
    if restoreError ≠ none then protocolError "node_media_fence_restore_failed"
    else .done outcome

def leaving (original : List MediaPathConfig) (ended : BlockEnd) : FenceProg Unit :=
  if ended.completed = false ∧ original ≠ [] then restoring original ended.outcome
  else .done ended.outcome

/-- `UnixNodeDisruptionObserver.fence`, the block included. -/
def fence (observedAt : Datetime) (workDeadlineUnixMs : Int) (affected : List PublicId) :
    FenceProg Unit :=
  if affected ≠ sortedSet affected then protocolError "node_media_fence_inventory_invalid"
  else
    attempt .forNodeUntil >>= fun _ =>
    closePaths affected [] >>= fun closing =>
      match closing.2 with
      | .error err => leaving closing.1 ⟨.error err, false⟩
      | .ok () =>
        (leased observedAt workDeadlineUnixMs closing.1).andThen fun outcome =>
          match outcome with
          | .ok ended => leaving closing.1 ended
          | .error err => leaving closing.1 ⟨.error err, false⟩

end Programs

end RtspProxy.Media
