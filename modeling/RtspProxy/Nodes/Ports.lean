import RtspProxy.Nodes.Capacity

/-!
# Port uniqueness

External ports are reserved by two kinds of record: by a node for the port it
has, and by a prepared port change for the port it wants. Cameras carry a copy
of their node's port. The abort of a port change writes the old port back into
the node, and the invariant says why this is no second allocation: while a
change is prepared, its node still has the old port.
-/

namespace RtspProxy.Nodes

open Lib InMemoryNodeStore Lib.RecordTable List

def Separate {Record : Type} (port : Record → Int) (records : List Record) : Prop :=
  ∀ left ∈ records, ∀ right ∈ records, port left = port right → left = right

structure PortsKept (nodes : List MediaNode) (cameras : List CameraPlacement)
    (changes : List NodePortChange) : Prop where
  external : Separate MediaNode.externalPort nodes
  api : Separate MediaNode.apiPort nodes
  metrics : Separate MediaNode.metricsPort nodes
  changeIds : DistinctKeys NodePortChange.id changes
  /-- Prepared changes of two nodes want two ports. -/
  wanted : ∀ left ∈ changes, ∀ right ∈ changes, left.state = .prepared → right.state = .prepared →
    left.newPort = right.newPort → left = right
  unused : ∀ node ∈ nodes, ∀ change ∈ changes, change.state = .prepared →
    node.externalPort ≠ change.newPort
  onePrepared : ∀ left ∈ changes, ∀ right ∈ changes, left.state = .prepared →
    right.state = .prepared → left.nodeId = right.nodeId → left = right
  /-- A prepared change has not touched its node yet. -/
  oldPort : ∀ node ∈ nodes, ∀ change ∈ changes, change.state = .prepared →
    change.nodeId = node.id → node.externalPort = change.oldPort
  published : ∀ cam ∈ cameras, cam.state ≠ .deleted → ∀ node ∈ nodes,
    node.id = cam.nodeId → cam.nodePort = node.externalPort

section Tables

variable {nodes : List MediaNode} {cams nextCameras : List CameraPlacement}
  {changes : List NodePortChange}

variable {node : MediaNode}

variable {upd : MediaNode}

theorem separate_replace (port : MediaNode → Int)
    (separate : Separate port nodes) (distinct : DistinctKeys MediaNode.id nodes)
    (present : node ∈ nodes) (sameId : upd.id = node.id)
    (free : ∀ other ∈ nodes, other.id ≠ node.id → port other ≠ port upd) :
    Separate port (replace MediaNode.id upd nodes) := by
  have memNodes {other : MediaNode} :
      other ∈ replace MediaNode.id upd nodes ↔ other = upd ∨ other ∈ nodes ∧ other.id ≠ upd.id :=
    mem_replace distinct present sameId.symm
  intro left leftMember right rightMember same
  rcases memNodes.mp leftMember with rfl | ⟨leftOld, leftOther⟩ <;>
    rcases memNodes.mp rightMember with rfl | ⟨rightOld, rightOther⟩
  · rfl
  · exact absurd same.symm (free right rightOld (sameId ▸ rightOther))
  · exact absurd same (free left leftOld (sameId ▸ leftOther))
  · exact separate left leftOld right rightOld same

theorem separate_same_port (port : MediaNode → Int)
    (separate : Separate port nodes) (distinct : DistinctKeys MediaNode.id nodes)
    (present : node ∈ nodes) (sameId : upd.id = node.id) (samePort : port upd = port node) :
    Separate port (replace MediaNode.id upd nodes) := by
  refine separate_replace port separate distinct present sameId ?_
  intro other mem differ same
  exact differ (congrArg MediaNode.id
    (separate other mem node present (same.trans samePort)))

theorem ports_same_node (upd : MediaNode) (holds : PortsKept nodes cams changes)
    (distinct : DistinctKeys MediaNode.id nodes) (present : node ∈ nodes)
    (sameId : upd.id = node.id)
    (samePorts : upd.externalPort = node.externalPort ∧ upd.apiPort = node.apiPort ∧
      upd.metricsPort = node.metricsPort) :
    PortsKept (replace MediaNode.id upd nodes) cams changes := by
  refine ⟨separate_same_port _ holds.external distinct present sameId samePorts.1,
    separate_same_port _ holds.api distinct present sameId samePorts.2.1,
    separate_same_port _ holds.metrics distinct present sameId samePorts.2.2,
    holds.changeIds, holds.wanted, ?_, holds.onePrepared, ?_, ?_⟩
  · intro other mem change changeMember prepared
    rcases mem_of_mem_replace mem with rfl | inNodes
    · rw [samePorts.1]
      exact holds.unused node present change changeMember prepared
    · exact holds.unused other inNodes change changeMember prepared
  · intro other mem change changeMember prepared onNode
    rcases mem_of_mem_replace mem with rfl | inNodes
    · rw [samePorts.1]
      exact holds.oldPort node present change changeMember prepared (onNode.trans sameId)
    · exact holds.oldPort other inNodes change changeMember prepared onNode
  · intro cam cameraMember live other mem onNode
    rcases mem_of_mem_replace mem with rfl | inNodes
    · rw [samePorts.1]
      exact holds.published cam cameraMember live node present (sameId.symm.trans onNode)
    · exact holds.published cam cameraMember live other inNodes onNode

theorem separate_append {Record : Type} {port : Record → Int} {records : List Record}
    {record : Record} (separate : Separate port records)
    (free : ∀ other ∈ records, port other ≠ port record) : Separate port (records ++ [record]) := by
  intro left leftMember right rightMember same
  simp only [mem_append, mem_singleton] at leftMember rightMember
  rcases leftMember with leftOld | rfl <;> rcases rightMember with rightOld | rfl
  · exact separate left leftOld right rightOld same
  · exact absurd same (free left leftOld)
  · exact absurd same.symm (free right rightOld)
  · rfl

theorem ports_register (holds : PortsKept nodes cams changes)
    (externalFree : ∀ other ∈ nodes, other.externalPort ≠ node.externalPort)
    (notWanted : ∀ change ∈ changes, change.state = .prepared → node.externalPort ≠ change.newPort)
    (apiFree : ∀ other ∈ nodes, other.apiPort ≠ node.apiPort)
    (metricsFree : ∀ other ∈ nodes, other.metricsPort ≠ node.metricsPort)
    (unplaced : ∀ cam ∈ cams, cam.nodeId ≠ node.id)
    (unchanged : ∀ change ∈ changes, change.nodeId ≠ node.id) :
    PortsKept (nodes ++ [node]) cams changes := by
  refine ⟨separate_append holds.external externalFree, separate_append holds.api apiFree,
    separate_append holds.metrics metricsFree, holds.changeIds, holds.wanted, ?_,
    holds.onePrepared, ?_, ?_⟩
  · intro other mem change changeMember prepared
    rcases mem_append.mp mem with inNodes | isNew
    · exact holds.unused other inNodes change changeMember prepared
    · rw [mem_singleton.mp isNew]
      exact notWanted change changeMember prepared
  · intro other mem change changeMember prepared onNode
    rcases mem_append.mp mem with inNodes | isNew
    · exact holds.oldPort other inNodes change changeMember prepared onNode
    · rw [mem_singleton.mp isNew] at onNode
      exact absurd onNode (unchanged change changeMember)
  · intro cam cameraMember live other mem onNode
    rcases mem_append.mp mem with inNodes | isNew
    · exact holds.published cam cameraMember live other inNodes onNode
    · rw [mem_singleton.mp isNew] at onNode
      exact absurd onNode.symm (unplaced cam cameraMember)

theorem ports_sublist {fewer : List MediaNode} (sublist : ∀ node ∈ fewer, node ∈ nodes)
    (holds : PortsKept nodes cams changes) : PortsKept fewer cams changes := by
  refine ⟨?_, ?_, ?_, holds.changeIds, holds.wanted, ?_, holds.onePrepared, ?_, ?_⟩
  · intro left leftMember right rightMember same
    exact holds.external left (sublist left leftMember) right (sublist right rightMember) same
  · intro left leftMember right rightMember same
    exact holds.api left (sublist left leftMember) right (sublist right rightMember) same
  · intro left leftMember right rightMember same
    exact holds.metrics left (sublist left leftMember) right (sublist right rightMember) same
  · intro node mem
    exact holds.unused node (sublist node mem)
  · intro node mem
    exact holds.oldPort node (sublist node mem)
  · intro cam cameraMember live node mem
    exact holds.published cam cameraMember live node (sublist node mem)

theorem ports_cameras (holds : PortsKept nodes cams changes)
    (published : ∀ cam ∈ nextCameras, cam.state ≠ .deleted → ∀ node ∈ nodes,
      node.id = cam.nodeId → cam.nodePort = node.externalPort) :
    PortsKept nodes nextCameras changes :=
  ⟨holds.external, holds.api, holds.metrics, holds.changeIds, holds.wanted, holds.unused,
    holds.onePrepared, holds.oldPort, published⟩

theorem ports_same_camera {cam upd : CameraPlacement}
    (holds : PortsKept nodes cams changes) (present : cam ∈ cams)
    (samePlace : upd.nodeId = cam.nodeId ∧ upd.nodePort = cam.nodePort)
    (live : upd.state ≠ .deleted → cam.state ≠ .deleted) :
    PortsKept nodes (replace CameraPlacement.id upd cams) changes := by
  apply ports_cameras holds
  intro other mem otherLive node nodeMember onNode
  rcases mem_of_mem_replace mem with rfl | inCameras
  · rw [samePlace.2]
    exact holds.published cam present (live otherLive) node nodeMember
      (onNode.trans samePlace.1)
  · exact holds.published other inCameras otherLive node nodeMember onNode

theorem ports_camera_on {target : MediaNode} {placed : CameraPlacement}
    (holds : PortsKept nodes cams changes)
    (distinct : DistinctKeys MediaNode.id nodes) (present : target ∈ nodes)
    (onNode : placed.nodeId = target.id) (port : placed.nodePort = target.externalPort)
    (others : ∀ cam ∈ nextCameras, cam = placed ∨ cam ∈ cams) :
    PortsKept nodes nextCameras changes := by
  apply ports_cameras holds
  intro cam mem live node nodeMember sameNode
  rcases others cam mem with rfl | inCameras
  · have isTarget : node = target :=
      distinct_eq distinct nodeMember present (sameNode.trans onNode)
    rw [port, isTarget]
  · exact holds.published cam inCameras live node nodeMember sameNode

theorem ports_begin {change : NodePortChange} (holds : PortsKept nodes cams changes)
    (distinct : DistinctKeys MediaNode.id nodes) (present : node ∈ nodes)
    (fresh : ∀ other ∈ changes, other.id ≠ change.id) (onNode : change.nodeId = node.id)
    (oldPort : change.oldPort = node.externalPort)
    (portChanged : node.externalPort ≠ change.newPort)
    (portFree : ∀ other ∈ nodes, other.externalPort = change.newPort → other.id = node.id)
    (portUnreserved : ∀ other ∈ changes, other.newPort = change.newPort → other.state ≠ .prepared)
    (none : ∀ other ∈ changes, other.nodeId = node.id → other.state ≠ .prepared) :
    PortsKept nodes cams (changes ++ [change]) := by
  refine ⟨holds.external, holds.api, holds.metrics,
    distinct_append_singleton holds.changeIds fresh, ?_, ?_, ?_, ?_, holds.published⟩
  · intro left leftMember right rightMember leftPrepared rightPrepared same
    simp only [mem_append, mem_singleton] at leftMember rightMember
    rcases leftMember with leftOld | rfl <;> rcases rightMember with rightOld | rfl
    · exact holds.wanted left leftOld right rightOld leftPrepared rightPrepared same
    · exact absurd leftPrepared (portUnreserved left leftOld same)
    · exact absurd rightPrepared (portUnreserved right rightOld same.symm)
    · rfl
  · intro other mem otherChange changeMember prepared same
    rcases mem_append.mp changeMember with inChanges | isNew
    · exact holds.unused other mem otherChange inChanges prepared same
    · rw [mem_singleton.mp isNew] at same
      have isNode : other = node :=
        distinct_eq distinct mem present (portFree other mem same)
      exact portChanged (isNode ▸ same)
  · intro left leftMember right rightMember leftPrepared rightPrepared same
    simp only [mem_append, mem_singleton] at leftMember rightMember
    rcases leftMember with leftOld | rfl <;> rcases rightMember with rightOld | rfl
    · exact holds.onePrepared left leftOld right rightOld leftPrepared rightPrepared same
    · exact absurd leftPrepared (none left leftOld (same.trans onNode))
    · exact absurd rightPrepared (none right rightOld (same.symm.trans onNode))
    · rfl
  · intro other mem otherChange changeMember prepared sameNode
    rcases mem_append.mp changeMember with inChanges | isNew
    · exact holds.oldPort other mem otherChange inChanges prepared sameNode
    · rw [mem_singleton.mp isNew] at sameNode ⊢
      have isNode : other = node :=
        distinct_eq distinct mem present (sameNode.symm.trans onNode)
      rw [isNode, oldPort]

theorem ports_settle {settled : NodePortChange} (holds : PortsKept nodes cams changes)
    (done : settled.state ≠ .prepared) :
    PortsKept nodes cams (replace NodePortChange.id settled changes) := by
  have stillPrepared : ∀ other ∈ replace NodePortChange.id settled changes,
      other.state = .prepared → other ∈ changes := by
    intro other mem prepared
    rcases mem_of_mem_replace mem with rfl | inChanges
    · exact absurd prepared done
    · exact inChanges
  refine ⟨holds.external, holds.api, holds.metrics,
    distinct_replace.mpr holds.changeIds, ?_, ?_, ?_, ?_, holds.published⟩
  · intro left leftMember right rightMember leftPrepared rightPrepared
    exact holds.wanted left (stillPrepared left leftMember leftPrepared) right
      (stillPrepared right rightMember rightPrepared) leftPrepared rightPrepared
  · intro node mem other otherMember prepared
    exact holds.unused node mem other (stillPrepared other otherMember prepared) prepared
  · intro left leftMember right rightMember leftPrepared rightPrepared
    exact holds.onePrepared left (stillPrepared left leftMember leftPrepared) right
      (stillPrepared right rightMember rightPrepared) leftPrepared rightPrepared
  · intro node mem other otherMember prepared
    exact holds.oldPort node mem other (stillPrepared other otherMember prepared) prepared

/-- A node without a prepared change takes a port nobody has or wants, and its
cameras are published there. -/
theorem ports_republish (holds : PortsKept nodes cams changes)
    (distinct : DistinctKeys MediaNode.id nodes) (present : node ∈ nodes)
    (sameId : upd.id = node.id)
    (sameManagement : upd.apiPort = node.apiPort ∧ upd.metricsPort = node.metricsPort)
    (free : ∀ other ∈ nodes, other.externalPort ≠ upd.externalPort)
    (notWanted : ∀ change ∈ changes, change.state = .prepared → upd.externalPort ≠ change.newPort)
    (idle : ∀ change ∈ changes, change.state = .prepared → change.nodeId ≠ node.id) :
    PortsKept (replace MediaNode.id upd nodes)
      (cams.map fun cam =>
        if cam.nodeId = node.id ∧ cam.state ≠ .deleted then
          { cam with nodePort := upd.externalPort }
        else cam) changes := by
  have memNodes {other : MediaNode} :
      other ∈ replace MediaNode.id upd nodes ↔ other = upd ∨ other ∈ nodes ∧ other.id ≠ upd.id :=
    mem_replace distinct present sameId.symm
  refine ⟨separate_replace _ holds.external distinct present sameId fun other mem _ =>
      free other mem,
    separate_same_port _ holds.api distinct present sameId sameManagement.1,
    separate_same_port _ holds.metrics distinct present sameId sameManagement.2,
    holds.changeIds, holds.wanted, ?_, holds.onePrepared, ?_, ?_⟩
  · intro other mem change changeMember prepared
    rcases memNodes.mp mem with rfl | ⟨inNodes, _⟩
    · exact notWanted change changeMember prepared
    · exact holds.unused other inNodes change changeMember prepared
  · intro other mem change changeMember prepared onNode
    rcases memNodes.mp mem with rfl | ⟨inNodes, _⟩
    · exact absurd (onNode.trans sameId) (idle change changeMember prepared)
    · exact holds.oldPort other inNodes change changeMember prepared onNode
  · intro published cameraMember live other mem onNode
    obtain ⟨cam, original, rfl⟩ := mem_map.mp cameraMember
    rcases memNodes.mp mem with rfl | ⟨inNodes, differ⟩
    · -- The live cameras of the node itself have just been rewritten.
      split_ifs at live onNode ⊢ with here
      · rfl
      · exact absurd ⟨onNode.symm.trans sameId, live⟩ here
    · split_ifs at live onNode ⊢ with here
      · exact absurd ((onNode.trans here.1).trans sameId.symm) differ
      · exact holds.published cam original live other inNodes onNode

end Tables

section Steps

variable {store post : InMemoryNodeStore}

/-- After a change has been settled its node has none prepared, and its port is wanted by none. -/
theorem settled_change {change : NodePortChange} (settled : NodePortChange)
    (holds : PortsKept store.nodes store.cameras store.portChanges)
    (present : change ∈ store.portChanges) (prepared : change.state = .prepared)
    (sameId : settled.id = change.id) (done : settled.state ≠ .prepared) :
    ∀ other ∈ replace NodePortChange.id settled store.portChanges,
      other.state = .prepared → change.newPort ≠ other.newPort ∧ other.nodeId ≠ change.nodeId := by
  intro other mem otherPrepared
  rcases (mem_replace holds.changeIds present sameId.symm).mp mem with
    rfl | ⟨inChanges, differ⟩
  · exact absurd otherPrepared done
  · have apart : other ≠ change := by
      rintro rfl
      exact differ sameId.symm
    refine ⟨?_, ?_⟩
    · intro same
      exact apart (holds.wanted other inChanges change present otherPrepared prepared same.symm)
    · intro same
      exact apart (holds.onePrepared other inChanges change present otherPrepared prepared same)

theorem ports_kept_step (distinct : DistinctKeys MediaNode.id store.nodes)
    (lifecycle : Lifecycle store.cameras store.cameraMoves)
    (holds : PortsKept store.nodes store.cameras store.portChanges) {label : StepLabel}
    (step : StoreStep store label post) :
    PortsKept post.nodes post.cameras post.portChanges := by
  have recounted {node : MediaNode} (upd : MediaNode) (present : node ∈ store.nodes)
      (sameId : upd.id = node.id)
      (samePorts : upd.externalPort = node.externalPort ∧ upd.apiPort = node.apiPort ∧
        upd.metricsPort = node.metricsPort) :=
    ports_same_node upd holds distinct present sameId samePorts
  cases step with
  | requests | sourceCleaned | abortMove => exact holds
  | registerNode node _ fresh externalFree apiFree metricsFree =>
    simp only [occupiedPorts, mem_append, mem_map, listIncompletePortChanges,
      mem_filter, decide_eq_true_eq, not_or, not_exists, not_and] at externalFree
    simp only [occupiedManagementPorts, mem_flatMap, mem_cons, not_mem_nil,
      or_false, not_exists, not_and, not_or] at apiFree metricsFree
    refine ports_register holds externalFree.1 ?_ ?_ ?_ fresh.cameraNode fresh.portChangeNode
    · intro change mem prepared same
      exact externalFree.2 change ⟨mem, prepared⟩ same.symm
    · intro other mem
      exact Ne.symm (apiFree other mem).1
    · intro other mem
      exact Ne.symm (metricsFree other mem).2
  | commandNode node upd found sameId samePorts =>
    exact recounted upd (lookup_mem found) sameId samePorts
  | removeNode node => exact ports_sublist (fun _ mem => mem_of_mem_erase mem) holds
  | beginPortChange node change found fresh onNode prepared oldPort portChanged portFree
      portUnreserved _ _ none =>
      refine ports_begin holds distinct (lookup_mem found) fresh.portChange onNode
        oldPort portChanged portFree portUnreserved ?_
      intro other mem sameNode otherPrepared
      have busy := node_has_prepared_iff.mpr ⟨other, mem, sameNode, otherPrepared⟩
      rw [none] at busy
      cases busy
  | completePortChange change node obs observedAt changeFound found onNode prepared =>
    have present := lookup_mem changeFound
    have others := settled_change { change with state := .complete } holds present prepared rfl
      (by simp)
    refine ports_republish (ports_settle holds (by simp)) distinct
      (lookup_mem found) rfl ⟨rfl, rfl⟩ ?_ ?_ ?_
    · intro other mem
      exact holds.unused other mem change present prepared
    · intro other mem otherPrepared
      exact (others other mem otherPrepared).1
    · intro other mem otherPrepared
      rw [← onNode]
      exact (others other mem otherPrepared).2
  | abortPortChange change node obs observedAt changeFound found onNode prepared =>
    have present := lookup_mem changeFound
    have nodePresent := lookup_mem found
    have oldPort := holds.oldPort node nodePresent change present prepared onNode
    exact ports_settle (recounted _ nodePresent rfl ⟨oldPort.symm, rfl, rfl⟩) (by simp)
  | placeCamera selected cam _ found capacity fresh onNode port =>
    have present := lookup_mem found
    have counted := recounted { selected with
      registeredCameras := selected.registeredCameras + 1 } present rfl ⟨rfl, rfl, rfl⟩
    refine ports_camera_on counted (distinct_replace.mpr distinct)
      (updated_mem_replace present rfl) onNode port ?_
    intro other mem
    rcases mem_append.mp mem with inCameras | isNew
    · exact .inr inCameras
    · exact .inl (mem_singleton.mp isNew)
  | editCamera cam upd found live _ _ _ samePlacement =>
    exact ports_same_camera holds (lookup_mem found)
      ⟨samePlacement.1, samePlacement.2.1⟩ fun _ => live.1
  | markApplied cam found =>
    exact ports_same_camera holds (lookup_mem found) ⟨rfl, rfl⟩ id
  | markDeleted cam node found nodeFound =>
    refine ports_same_camera (recounted _ (lookup_mem nodeFound) rfl ⟨rfl, rfl, rfl⟩)
      (lookup_mem found) ⟨rfl, rfl⟩ ?_
    intro live
    exact absurd rfl live
  | createMove cam move source target found =>
    exact ports_same_camera holds (lookup_mem found) ⟨rfl, rfl⟩ id
  | switchMove move cam source target moveFound found sourceFound targetFound preparing fence =>
    have active : cameraMoveIsTerminal move.state = false := by rw [preparing]; rfl
    have pins := found_camera_pinned lifecycle (lookup_mem moveFound) active found
    have differ : target.id ≠ source.id := by
      rw [find_node_id targetFound, find_node_id sourceFound]
      exact Ne.symm pins.twoNodes
    let released : MediaNode := { source with registeredCameras := source.registeredCameras - 1 }
    have targetPresent : target ∈ replace MediaNode.id released store.nodes :=
      mem_replace_of_ne (lookup_mem targetFound) differ
    have distinctReleased : DistinctKeys MediaNode.id
        (replace MediaNode.id released store.nodes) :=
      distinct_replace.mpr distinct
    have afterRelease := recounted released (lookup_mem sourceFound) rfl ⟨rfl, rfl, rfl⟩
    have afterReceipt := ports_same_node { target with
      registeredCameras := target.registeredCameras + 1 } afterRelease distinctReleased
      targetPresent rfl ⟨rfl, rfl, rfl⟩
    exact ports_camera_on afterReceipt (distinct_replace.mpr distinctReleased)
      (updated_mem_replace targetPresent rfl) rfl rfl
      fun other mem => mem_of_mem_replace mem
  | requestAbort move cam reason moveFound found =>
    dsimp only [putMove]
    split_ifs
    · exact ports_same_camera holds (lookup_mem found) ⟨rfl, rfl⟩ id
    · exact holds
  | completeMove move cam moveFound found =>
    exact ports_same_camera holds (lookup_mem found) ⟨rfl, rfl⟩ id

end Steps

variable {nodes : List MediaNode}

theorem separate_of_distinct {port : MediaNode → Int}
    (distinct : DistinctKeys port nodes) : Separate port nodes := by
  intro left leftMember right rightMember same
  exact distinct_eq distinct leftMember rightMember same

theorem ports_kept_initial (init : InitialNodes nodes) :
    PortsKept nodes [] [] := by
  refine ⟨separate_of_distinct init.externalPorts, separate_of_distinct init.apiPorts,
    separate_of_distinct init.metricsPorts, nodup_nil, ?_, ?_, ?_, ?_, ?_⟩
  · intro left mem
    cases mem
  · intro node _ change mem
    cases mem
  · intro left mem
    cases mem
  · intro node _ change mem
    cases mem
  · intro cam mem
    cases mem

theorem reachable_ports_kept [PythonText] (init : InitialNodes nodes)
    {store : InMemoryNodeStore} (reached : Reachable nodes store) :
    DistinctKeys MediaNode.id store.nodes ∧
      PortsKept store.nodes store.cameras store.portChanges := by
  have holds := reachable_induction init
    (fun store => Lifecycle store.cameras store.cameraMoves ∧
      PortsKept store.nodes store.cameras store.portChanges)
    ⟨lifecycle_initial nodes, ports_kept_initial init⟩
    (fun _ _ _ distinct both step =>
      ⟨(lifecycle_step both.1 step).1, ports_kept_step distinct both.1 both.2 step⟩) reached
  exact ⟨holds.1, holds.2.2⟩

theorem occupied_ports_nodup {store : InMemoryNodeStore}
    (distinct : DistinctKeys MediaNode.id store.nodes)
    (holds : PortsKept store.nodes store.cameras store.portChanges) :
    store.occupiedPorts.Nodup := by
  refine Nodup.append (Nodup.map_on holds.external (Nodup.of_map _ distinct)) ?_ ?_
  · refine Nodup.map_on ?_ (Nodup.filter _ (Nodup.of_map _ holds.changeIds))
    intro left leftMember right rightMember same
    simp only [listIncompletePortChanges, mem_filter, decide_eq_true_eq] at leftMember rightMember
    exact holds.wanted left leftMember.1 right rightMember.1 leftMember.2 rightMember.2 same
  · intro port ofNode ofChange
    obtain ⟨node, nodeMember, rfl⟩ := mem_map.mp ofNode
    obtain ⟨change, changeMember, same⟩ := mem_map.mp ofChange
    simp only [listIncompletePortChanges, mem_filter, decide_eq_true_eq] at changeMember
    exact holds.unused node nodeMember change changeMember.1 changeMember.2 same.symm

/-- External ports of nodes and wanted ports of prepared changes are pairwise
distinct, so are API and metrics ports; a node has at most one prepared change,
and every camera is published at the port of its node. -/
theorem ports_unique_and_published [PythonText] {nodes : List MediaNode}
    (init : InitialNodes nodes) {store : InMemoryNodeStore} (reached : Reachable nodes store) :
    (store.nodes.map (·.externalPort) ++
      (store.portChanges.filter fun change => change.state = .prepared).map (·.newPort)).Nodup ∧
      (store.nodes.map (·.apiPort)).Nodup ∧ (store.nodes.map (·.metricsPort)).Nodup ∧
      (DistinctKeys NodePortChange.id store.portChanges ∧
        ∀ left ∈ store.portChanges, ∀ right ∈ store.portChanges, left.state = .prepared →
          right.state = .prepared → left.nodeId = right.nodeId → left = right) ∧
      ∀ cam ∈ store.cameras, cam.state ≠ .deleted →
        ∃ node ∈ store.nodes, node.id = cam.nodeId ∧ cam.nodePort = node.externalPort := by
  obtain ⟨distinct, holds⟩ := reachable_ports_kept init reached
  have noRepeats := Nodup.of_map _ distinct
  refine ⟨occupied_ports_nodup distinct holds, Nodup.map_on holds.api noRepeats,
    Nodup.map_on holds.metrics noRepeats, ⟨holds.changeIds, holds.onePrepared⟩, ?_⟩
  intro cam mem live
  obtain ⟨node, nodeMember, onNode⟩ := (reachable_counted init reached).housed cam mem live
  exact ⟨node, nodeMember, onNode, holds.published cam mem live node nodeMember onNode⟩

def changingStore : InMemoryNodeStore :=
  @StoreOperation.applyAll plainText
    [.beginPortChange 30 1 8560 [8554, 8555, 8560] 1 0
      "e3b0c44298fc1c149afbf4c8996fb92427ae41e4649b934ca495991b7852b855"] { nodes := sampleNodes }

theorem changing_store_reachable : @Reachable plainText sampleNodes changingStore :=
  @reachable_apply_all _ plainText _ _ (@Reachable.start plainText _) (by decide)

theorem ports_unique_and_published_changing :
    changingStore.occupiedPorts = [8554, 8555, 8560] ∧ changingStore.occupiedPorts.Nodup := by
  refine ⟨?_, ?_⟩
  · decide +kernel
  · exact (@ports_unique_and_published plainText _ sample_nodes_initial _
      changing_store_reachable).1

end RtspProxy.Nodes
