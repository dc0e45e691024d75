import Mathlib.Data.Prod.Lex
import RtspProxy.Lib.Sql
import RtspProxy.Nodes.Registration

/-!
# Placement in the database

The selections of `PostgresNodeStore` for a new camera, over the rows of
`media_nodes` and `node_port_change_sagas`. Whatever order the rows are found in,
they select what `InMemoryNodeStore` selects among the same nodes at the same
clock reading.
-/

namespace RtspProxy.Nodes

open Lib Lib.RecordTable List

/-- A row of `media_nodes`. Columns that are not `NOT NULL` are options. -/
structure MediaNodeRow where
  id : UUID
  name : String
  externalPort : Int
  apiPort : Int
  metricsPort : Int
  releaseId : String
  mediamtxBinarySha256 : String
  creationMode : String
  state : String
  runtimeState : String
  health : String
  registeredCameras : Int
  cameraCapacity : Int
  activeSources : Int
  maintenance : Bool
  managementFresh : Bool
  managementObservedAt : Option Datetime
  runtimeObservedAt : Option Datetime
  configCompatible : Bool
  desiredRevision : Int
  appliedRevision : Int
  processId : Option Int
  processStartTicks : Option Int
  processBootId : Option UUID
  observedConfigSha256 : Option String
  observedReleaseId : Option String

/-- What the selections read of a row of `node_port_change_sagas`. -/
structure NodePortChangeSaga where
  nodeId : UUID
  state : String

def NodeHealth.value : NodeHealth → String
  | .unknown => "unknown"
  | .healthy => "healthy"
  | .unhealthy => "unhealthy"

def NodePortChangeState.value : NodePortChangeState → String
  | .prepared => "prepared"
  | .complete => "complete"
  | .aborted => "aborted"

def ofValue {Member : Type} (members : List Member) (value : Member → String) (text : String) :
    Option Member :=
  members.find? fun mem => value mem = text

def nodeStates : List NodeState :=
  [.provisioning, .stopped, .stopping, .starting, .running, .draining, .maintenance, .failed,
    .deleting]

/-- `_media_node`; `none` where the text of an enumeration names no member. -/
def mediaNode (row : MediaNodeRow) : Option MediaNode := do
  let creationMode ← ofValue [.operator, .automatic] NodeCreationMode.value row.creationMode
  let state ← ofValue nodeStates NodeState.value row.state
  let runtimeState ← ofValue nodeStates NodeState.value row.runtimeState
  let health ← ofValue [.unknown, .healthy, .unhealthy] NodeHealth.value row.health
  return { row with creationMode, state, runtimeState, health }

/-- The rows; the primary key is unique. -/
structure PlacementTables where
  mediaNodes : List MediaNodeRow
  nodePortChangeSagas : List NodePortChangeSaga
  ids : (mediaNodes.map (·.id)).Nodup

/-- The store has the nodes and the port changes of the rows, in any order. -/
structure PlacementTables.Represents (tables : PlacementTables) (store : InMemoryNodeStore) :
    Prop where
  nodes : (tables.mediaNodes.map mediaNode).Perm (store.nodes.map some)
  changes : tables.nodePortChangeSagas.Perm
    (store.portChanges.map fun change => ⟨change.nodeId, change.state.value⟩)

namespace PlacementTables

/-- The `WHERE` clause of both selections at a reading of `clock_timestamp()`. -/
def eligible (tables : PlacementTables) (freshness : Int) (now : Datetime)
    (row : MediaNodeRow) : Sql.Truth :=
  Sql.allOf
    [Sql.compare (· = ·) (some row.state) (some NodeState.running.value),
      Sql.compare (· = ·) (some row.runtimeState) (some NodeState.running.value),
      Sql.compare (· = ·) (some row.health) (some NodeHealth.healthy.value),
      Sql.isTruth true (some row.managementFresh),
      Sql.compare (fun observedAt bound => decide (bound ≤ observedAt)) row.managementObservedAt
        (some (now - timedeltaSeconds freshness)),
      Sql.isTruth true (some row.configCompatible),
      Sql.compare (· = ·) (some row.appliedRevision) (some row.desiredRevision),
      Sql.isTruth false (some row.maintenance),
      Sql.compare (fun registered capacity => decide (registered < capacity))
        (some row.registeredCameras) (some row.cameraCapacity),
      Sql.notIn (some row.id) ((Sql.where (fun saga => Sql.compare (· = ·) (some saga.state)
        (some NodePortChangeState.prepared.value)) tables.nodePortChangeSagas).map
          fun saga => some saga.nodeId)]

/-- `ORDER BY registered_cameras, active_sources, id`. -/
def rowKeyLess (left right : MediaNodeRow) : Bool :=
  left.registeredCameras < right.registeredCameras ||
    (left.registeredCameras = right.registeredCameras &&
      (left.activeSources < right.activeSources ||
        (left.activeSources = right.activeSources && left.id.int < right.id.int)))

def CreationTargets (tables : PlacementTables) (freshness : Int)
    (now : Datetime) (res : List MediaNodeRow) : Prop :=
  Sql.IsOrdered rowKeyLess
    (Sql.where (tables.eligible freshness now) tables.mediaNodes) res

/-- The row `place_camera_automatically` may read: the same with `LIMIT 1`. -/
def AutomaticTarget (tables : PlacementTables) (freshness : Int)
    (now : Datetime) (selected : Option MediaNodeRow) : Prop :=
  ∃ res, tables.CreationTargets freshness now res ∧ res.head? = selected

end PlacementTables

def InMemoryNodeStore.listCameraCreationTargets (store : InMemoryNodeStore)
    (freshness : Int) (now : Datetime) : List MediaNode :=
  (store.placementCandidates freshness now).mergeSort
    fun left right => !placementKeyLess right left

def placementKey (node : MediaNode) : Int ×ₗ Int ×ₗ Nat :=
  toLex (node.registeredCameras, toLex (node.activeSources, node.id.int))

theorem placement_key_less_iff {left right : MediaNode} :
    placementKeyLess left right = true ↔ placementKey left < placementKey right := by
  simp [placementKeyLess, placementKey, Prod.Lex.toLex_lt_toLex]

theorem placement_key_id {left right : MediaNode} (same : placementKey left = placementKey right) :
    left.id = right.id := by
  simp only [placementKey, toLex_inj, Prod.mk.injEq] at same
  exact BitVec.eq_of_toNat_eq same.2.2

theorem least_loaded_fold_least (start : MediaNode) (nodes : List MediaNode) :
    ∀ node ∈ start :: nodes, placementKey (nodes.foldl
      (fun best other => if placementKeyLess other best then other else best) start) ≤
        placementKey node := by
  induction nodes generalizing start with
  | nil => simp
  | cons next rest ih =>
    intro node mem
    simp only [foldl_cons]
    have least := ih (if placementKeyLess next start then next else start)
    have better := least _ mem_cons_self
    rcases mem_cons.mp mem with rfl | later
    · refine better.trans ?_
      split_ifs with less
      · exact (placement_key_less_iff.mp less).le
      · exact le_rfl
    rcases mem_cons.mp later with rfl | inRest
    · refine better.trans ?_
      split_ifs with less
      · exact le_rfl
      · exact not_lt.mp fun lower => less (placement_key_less_iff.mpr lower)
    · exact least node (mem_cons_of_mem _ inRest)

section Ordered

variable {nodes ordered : List MediaNode}

theorem ordered_unique {others : List MediaNode}
    (distinct : DistinctKeys MediaNode.id nodes) (perm : ordered.Perm nodes)
    (othersPerm : others.Perm nodes)
    (inOrder : ordered.Pairwise fun left right => placementKey left ≤ placementKey right)
    (othersInOrder : others.Pairwise fun left right => placementKey left ≤ placementKey right) :
    ordered = others := by
  refine Perm.eq_of_pairwise ?_ inOrder othersInOrder (perm.trans othersPerm.symm)
  intro left right leftMember rightMember pre post
  exact distinct_eq distinct (perm.subset leftMember) (othersPerm.subset rightMember)
    (placement_key_id (le_antisymm pre post))

theorem least_loaded_eq_head (distinct : DistinctKeys MediaNode.id nodes)
    (perm : ordered.Perm nodes)
    (inOrder : ordered.Pairwise fun left right => placementKey left ≤ placementKey right) :
    leastLoaded nodes = ordered.head? := by
  cases nodes with
  | nil => rw [perm.eq_nil]; rfl
  | cons node rest =>
    cases ordered with
    | nil => exact absurd perm.symm.eq_nil (cons_ne_nil _ _)
    | cons first later =>
      have mem := least_loaded_fold_mem node rest
      have least := least_loaded_fold_least node rest
      refine congrArg some (distinct_eq distinct mem
        (perm.subset mem_cons_self) (placement_key_id (le_antisymm
          (least first (perm.subset mem_cons_self)) ?_)))
      rcases mem_cons.mp (perm.symm.subset mem) with same | inLater
      · exact (congrArg placementKey same).ge
      · exact (pairwise_cons.mp inOrder).1 _ inLater

end Ordered

section Agreement

variable {tables : PlacementTables} {store : InMemoryNodeStore} {row : MediaNodeRow}
  {node : MediaNode} {freshness : Int} {now : Datetime}

theorem of_value_eq {Member : Type} {members : List Member} {value : Member → String}
    {text : String} {mem : Member} (found : ofValue members value text = some mem) :
    text = value mem := by
  have isValue := find?_some found
  exact (of_decide_eq_true isValue).symm

theorem media_node_fields (decoded : mediaNode row = some node) :
    ∃ creationMode state runtimeState health,
      node = { row with creationMode, state, runtimeState, health } ∧
      row.state = NodeState.value state ∧ row.runtimeState = NodeState.value runtimeState ∧
      row.health = NodeHealth.value health := by
  simp only [mediaNode, Option.bind_eq_bind, Option.bind_eq_some_iff, Option.pure_def,
    Option.some.injEq] at decoded
  obtain ⟨creationMode, _, state, isState, runtimeState, isRuntime, health, isHealth, same⟩ :=
    decoded
  exact ⟨creationMode, state, runtimeState, health, same.symm, of_value_eq isState,
    of_value_eq isRuntime, of_value_eq isHealth⟩

theorem running_value {state : NodeState} :
    state.value = NodeState.running.value ↔ state = .running := by
  cases state <;> decide

theorem healthy_value {health : NodeHealth} :
    health.value = NodeHealth.healthy.value ↔ health = .healthy := by
  cases health <;> decide

theorem prepared_value {state : NodePortChangeState} :
    state.value = NodePortChangeState.prepared.value ↔ state = .prepared := by
  cases state <;> decide

variable (represents : tables.Represents store)

include represents

theorem not_prepared_iff {nodeId : UUID} :
    nodeId ∉ (Sql.where (fun saga => Sql.compare (· = ·) (some saga.state)
      (some NodePortChangeState.prepared.value)) tables.nodePortChangeSagas).map
        NodePortChangeSaga.nodeId ↔ store.nodeHasPreparedPortChange nodeId = false := by
  rw [← not_iff_not, not_not, Bool.not_eq_false, InMemoryNodeStore.nodeHasPreparedPortChange,
    any_eq_true]
  simp only [mem_map, Sql.where, mem_filter, represents.changes.mem_iff]
  constructor
  · rintro ⟨_, ⟨⟨change, mem, rfl⟩, isPrepared⟩, rfl⟩
    refine ⟨change, mem, ?_⟩
    simpa [prepared_value] using isPrepared
  · rintro ⟨change, mem, matching⟩
    simp only [decide_eq_true_eq] at matching
    exact ⟨_, ⟨⟨change, mem, rfl⟩, by simp [matching.2]⟩, matching.1⟩

theorem eligible_true_iff (decoded : mediaNode row = some node) :
    tables.eligible freshness now row = some true ↔ isNodeEligible node freshness now = true ∧
        store.nodeHasPreparedPortChange node.id = false := by
  obtain ⟨_, state, runtimeState, health, rfl, isState, isRuntime, isHealth⟩ :=
    media_node_fields decoded
  rw [← not_prepared_iff represents, ← Sql.not_in_true_iff, map_map]
  simp only [PlacementTables.eligible, Sql.all_of_true_iff, forall_mem_cons, isState, isRuntime,
    isHealth, isNodeEligible, Bool.and_eq_true, decide_eq_true_eq]
  cases observed : row.managementObservedAt <;>
    simp [running_value, healthy_value, and_assoc, Function.comp_def]

theorem represents_decodes (mem : row ∈ tables.mediaNodes) :
    ∃ node, mediaNode row = some node := by
  obtain ⟨node, _, decoded⟩ := mem_map.mp
    (represents.nodes.subset (mem_map_of_mem mem))
  exact ⟨node, decoded.symm⟩

theorem represents_nodes :
    (tables.mediaNodes.filterMap mediaNode).Perm store.nodes := by
  simpa [filterMap_map] using represents.nodes.filterMap id

theorem represents_distinct :
    DistinctKeys MediaNode.id store.nodes := by
  refine ((represents_nodes represents).map MediaNode.id).nodup_iff.mp ?_
  refine pairwise_map.mpr (pairwise_filterMap.mpr ?_)
  refine (pairwise_map.mp tables.ids).imp fun differ node decoded other otherDecoded => ?_
  obtain ⟨_, _, _, _, rfl, _⟩ := media_node_fields decoded
  obtain ⟨_, _, _, _, rfl, _⟩ := media_node_fields otherDecoded
  exact differ

omit represents

theorem decoded_map {rows : List MediaNodeRow}
    (decodes : ∀ row ∈ rows, ∃ node, mediaNode row = some node) :
    rows.map mediaNode = (rows.filterMap mediaNode).map some := by
  induction rows with
  | nil => rfl
  | cons row rest ih =>
    obtain ⟨node, decoded⟩ := decodes row mem_cons_self
    simp [decoded, ih fun other mem => decodes other (mem_cons_of_mem _ mem)]

theorem creation_targets_ordered (represents : tables.Represents store) {res : List MediaNodeRow}
    (ret : tables.CreationTargets freshness now res) :
    ∃ nodes : List MediaNode, res.map mediaNode = nodes.map some ∧
      nodes.Perm (store.placementCandidates freshness now) ∧
      nodes.Pairwise fun left right => placementKey left ≤ placementKey right := by
  obtain ⟨selected, inOrder⟩ := ret
  refine ⟨res.filterMap mediaNode, decoded_map fun row mem => represents_decodes represents
    (mem_filter.mp (selected.subset mem)).1, ?_, ?_⟩
  · refine (selected.filterMap mediaNode).trans ?_
    have cands : (Sql.where (tables.eligible freshness now)
        tables.mediaNodes).filterMap mediaNode = (tables.mediaNodes.filterMap mediaNode).filter
          fun node => isNodeEligible node freshness now ∧
            store.nodeHasPreparedPortChange node.id = false := by
      rw [Sql.where, filterMap_filter, filter_filterMap]
      refine filterMap_congr fun row mem => ?_
      obtain ⟨node, decoded⟩ := represents_decodes represents mem
      simp only [decoded, Option.filter_some, eligible_true_iff represents decoded,
        decide_eq_true_eq]
    rw [cands]
    exact (represents_nodes represents).filter _
  · rw [pairwise_filterMap]
    refine inOrder.imp fun {row otherRow} notLess node decoded other otherDecoded =>
      not_lt.mp fun less => ?_
    obtain ⟨_, _, _, _, rfl, _⟩ := media_node_fields decoded
    obtain ⟨_, _, _, _, rfl, _⟩ := media_node_fields otherDecoded
    have sooner : PlacementTables.rowKeyLess otherRow row = true := placement_key_less_iff.mpr less
    rw [notLess] at sooner
    cases sooner

/-- The two stores select the same nodes for new cameras, in the same order, and the same one to
place a camera on. -/
theorem placement_selection_agrees (represents : tables.Represents store) :
    (∀ res, tables.CreationTargets freshness now res →
      res.map mediaNode = (store.listCameraCreationTargets freshness now).map some) ∧
    ∀ selected, tables.AutomaticTarget freshness now selected → selected.map mediaNode =
        (leastLoaded (store.placementCandidates freshness now)).map some := by
  have distinct : DistinctKeys MediaNode.id
      (store.placementCandidates freshness now) :=
    (represents_distinct represents).sublist (filter_sublist.map _)
  have sorted : (store.listCameraCreationTargets freshness now).Pairwise
      fun left right => placementKey left ≤ placementKey right := by
    refine (pairwise_mergeSort (fun left middle right => ?_) (fun left right => ?_) _).imp
      fun {left right} => ?_
    · simp only [Bool.not_eq_true', Bool.eq_false_iff, ne_eq, placement_key_less_iff, not_lt]
      exact le_trans
    · simp only [Bool.or_eq_true, Bool.not_eq_true', Bool.eq_false_iff, ne_eq,
        placement_key_less_iff, not_lt]
      exact le_total _ _
    · simp only [Bool.not_eq_true', Bool.eq_false_iff, ne_eq, placement_key_less_iff, not_lt]
      exact id
  constructor
  · intro res ret
    obtain ⟨nodes, same, perm, inOrder⟩ := creation_targets_ordered represents ret
    rw [same, ordered_unique distinct perm (mergeSort_perm _ _) inOrder sorted]
    rfl
  · rintro selected ⟨res, ret, rfl⟩
    obtain ⟨nodes, same, perm, inOrder⟩ := creation_targets_ordered represents ret
    rw [least_loaded_eq_head distinct perm inOrder, ← head?_map, ← head?_map, same]

def sampleRow (id : UUID) (registeredCameras activeSources : Int)
    (managementObservedAt : Option Datetime) : MediaNodeRow :=
  { id, registeredCameras, activeSources, managementObservedAt
    name := "node", externalPort := 8554, apiPort := 20000, metricsPort := 20100
    releaseId := "0.1.0", mediamtxBinarySha256 := "", creationMode := "operator"
    state := "running", runtimeState := "running", health := "healthy", cameraCapacity := 100
    maintenance := false, managementFresh := true, runtimeObservedAt := none
    configCompatible := true, desiredRevision := 1, appliedRevision := 1, processId := none
    processStartTicks := none, processBootId := none, observedConfigSha256 := none
    observedReleaseId := none }

/-- One node was never observed and one changes its port. -/
def sampleTables : PlacementTables where
  mediaNodes := [sampleRow 3 2 0 (some 0), sampleRow 2 1 0 none, sampleRow 1 1 5 (some 0),
    sampleRow 4 0 0 (some 0)]
  nodePortChangeSagas := [⟨4, "prepared"⟩, ⟨1, "complete"⟩]
  ids := by decide

def sampleStore : InMemoryNodeStore :=
  { nodes := sampleTables.mediaNodes.filterMap mediaNode
    portChanges := [4, 1].map fun nodeId : UUID =>
      { id := nodeId, nodeId, oldPort := 8554, newPort := 8555, sourceRevision := 1
        targetRevision := 2, registeredCameras := 0, blastRadiusSha256 := ""
        state := if nodeId = 4 then .prepared else .complete } }

/-- Two nodes are left to choose from; the one with fewer cameras is chosen. -/
theorem placement_selection_agrees_sample :
    (some (sampleRow 1 1 5 (some 0))).map mediaNode =
      (leastLoaded (sampleStore.placementCandidates 30 0)).map some := by
  have represents : sampleTables.Represents sampleStore :=
    ⟨Perm.of_eq rfl, Perm.refl _⟩
  refine (placement_selection_agrees represents).2 _ ⟨[sampleRow 1 1 5 (some 0),
    sampleRow 3 2 0 (some 0)], ⟨?_, by decide⟩, rfl⟩
  exact Perm.swap _ _ []

end Agreement

end RtspProxy.Nodes
