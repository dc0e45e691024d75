import RtspProxy.Nodes.Lifecycle

/-!
# Capacity accounting

`registered_cameras` is a denormalised counter. It is written by placement, by
the switch of a move and by the final step of a deletion, each time on its own;
the invariant ties it to the camera table it stands for. Only the switch needs
more than its own checks: that the moved camera is not deleted follows from the
camera lifecycle.
-/

namespace RtspProxy.Nodes

open Lib InMemoryNodeStore Lib.RecordTable List

/-- The number of cameras on a node that are not deleted. -/
def liveOn (cameras : List CameraPlacement) (nodeId : UUID) : Nat :=
  cameras.countP fun cam => cam.nodeId = nodeId ∧ cam.state ≠ .deleted

theorem live_on_eq_length (store : InMemoryNodeStore) (nodeId : UUID) :
    liveOn store.cameras nodeId = (store.camerasOn nodeId).length := by
  simp only [liveOn, camerasOn, countP_eq_length_filter]

structure Counted (nodes : List MediaNode) (cameras : List CameraPlacement) : Prop where
  count : ∀ node ∈ nodes, node.registeredCameras = liveOn cameras node.id
  capacity : ∀ node ∈ nodes, node.registeredCameras ≤ node.cameraCapacity
  housed : ∀ cam ∈ cameras, cam.state ≠ .deleted → ∃ node ∈ nodes, node.id = cam.nodeId

section Tables

variable {nodes : List MediaNode} {cameras nextCameras : List CameraPlacement}

def SameSite (cam upd : CameraPlacement) : Prop :=
  upd.id = cam.id ∧ upd.nodeId = cam.nodeId ∧ (upd.state = .deleted ↔ cam.state = .deleted)

variable {cam upd : CameraPlacement}

theorem live_on_replace (nodeId : UUID)
    (distinct : DistinctKeys CameraPlacement.id cameras) (present : cam ∈ cameras)
    (sameId : upd.id = cam.id) :
    liveOn (replace CameraPlacement.id upd cameras) nodeId +
        (if cam.nodeId = nodeId ∧ cam.state ≠ .deleted then 1 else 0) =
      liveOn cameras nodeId +
        if upd.nodeId = nodeId ∧ upd.state ≠ .deleted then 1 else 0 := by
  have moved := countP_replace distinct present sameId.symm
    fun cam => decide (cam.nodeId = nodeId ∧ cam.state ≠ .deleted)
  simpa only [liveOn, decide_eq_true_eq] using moved

theorem live_on_same_site (nodeId : UUID)
    (distinct : DistinctKeys CameraPlacement.id cameras) (present : cam ∈ cameras)
    (same : SameSite cam upd) :
    liveOn (replace CameraPlacement.id upd cameras) nodeId = liveOn cameras nodeId := by
  have moved := live_on_replace nodeId distinct present same.1
  simp only [same.2.1, ne_eq, same.2.2] at moved
  omega

theorem counted_same_site (holds : Counted nodes cameras)
    (distinct : DistinctKeys CameraPlacement.id cameras) (present : cam ∈ cameras)
    (same : SameSite cam upd) :
    Counted nodes (replace CameraPlacement.id upd cameras) := by
  refine ⟨?_, holds.capacity, ?_⟩
  · intro node mem
    rw [live_on_same_site node.id distinct present same]
    exact holds.count node mem
  · intro other mem live
    rcases mem_of_mem_replace mem with rfl | inCameras
    · rw [same.2.1]
      exact holds.housed cam present fun deleted => live (same.2.2.mpr deleted)
    · exact holds.housed other inCameras live

theorem counted_publish (publish : CameraPlacement → CameraPlacement)
    (keeps : ∀ cam, SameSite cam (publish cam)) (holds : Counted nodes cameras) :
    Counted nodes (cameras.map publish) := by
  refine ⟨?_, holds.capacity, ?_⟩
  · intro node mem
    rw [holds.count node mem]
    congr 1
    simp only [liveOn, countP_map]
    apply countP_congr
    intro cam _
    simp only [Function.comp_apply, (keeps cam).2.1, (keeps cam).2.2, ne_eq]
  · intro published mem live
    obtain ⟨cam, cameraMember, rfl⟩ := mem_map.mp mem
    rw [(keeps cam).2.1]
    exact holds.housed cam cameraMember fun deleted => live ((keeps cam).2.2.mpr deleted)

variable {node : MediaNode}

/-- A node record is rewritten together with the camera table: its own counter
follows, the counters of the other nodes stand. -/
theorem counted_rewrite {upd : MediaNode} (holds : Counted nodes cameras)
    (distinct : DistinctKeys MediaNode.id nodes) (present : node ∈ nodes)
    (sameId : upd.id = node.id) (count : upd.registeredCameras = liveOn nextCameras node.id)
    (capacity : upd.registeredCameras ≤ upd.cameraCapacity)
    (others : ∀ other ∈ nodes, other.id ≠ node.id →
      liveOn nextCameras other.id = liveOn cameras other.id)
    (housed : ∀ cam ∈ nextCameras, cam.state ≠ .deleted → ∃ other ∈ nodes, other.id = cam.nodeId) :
    Counted (replace MediaNode.id upd nodes) nextCameras := by
  have memNodes {other : MediaNode} :
      other ∈ replace MediaNode.id upd nodes ↔ other = upd ∨ other ∈ nodes ∧ other.id ≠ upd.id :=
    mem_replace distinct present sameId.symm
  refine ⟨?_, ?_, ?_⟩
  · intro other mem
    rcases memNodes.mp mem with rfl | ⟨inNodes, differ⟩
    · rw [count, sameId]
    · rw [others other inNodes (sameId ▸ differ)]
      exact holds.count other inNodes
  · intro other mem
    rcases memNodes.mp mem with rfl | ⟨inNodes, _⟩
    · exact capacity
    · exact holds.capacity other inNodes
  · intro cam mem live
    obtain ⟨house, houseMember, houseId⟩ := housed cam mem live
    by_cases same : house.id = upd.id
    · exact ⟨upd, updated_mem_replace present sameId.symm, same ▸ houseId⟩
    · exact ⟨house, mem_replace_of_ne houseMember same, houseId⟩

theorem counted_command {upd : MediaNode} (holds : Counted nodes cameras)
    (distinct : DistinctKeys MediaNode.id nodes) (present : node ∈ nodes)
    (sameId : upd.id = node.id) (sameCount : upd.registeredCameras = node.registeredCameras)
    (sameCapacity : upd.cameraCapacity = node.cameraCapacity) :
    Counted (replace MediaNode.id upd nodes) cameras := by
  refine counted_rewrite holds distinct present sameId ?_ ?_ (fun _ _ _ => rfl) holds.housed
  · rw [sameCount]
    exact holds.count node present
  · rw [sameCount, sameCapacity]
    exact holds.capacity node present

theorem counted_register (holds : Counted nodes cameras)
    (unplaced : ∀ cam ∈ cameras, cam.nodeId ≠ node.id) (empty : node.registeredCameras = 0)
    (capacity : 0 ≤ node.cameraCapacity) : Counted (nodes ++ [node]) cameras := by
  have noneOn : liveOn cameras node.id = 0 := by
    rw [liveOn, countP_eq_zero]
    intro cam mem
    simp [unplaced cam mem]
  refine ⟨?_, ?_, ?_⟩
  · intro other mem
    rcases mem_append.mp mem with inNodes | isNew
    · exact holds.count other inNodes
    · rw [mem_singleton.mp isNew, noneOn, empty]
      rfl
  · intro other mem
    rcases mem_append.mp mem with inNodes | isNew
    · exact holds.capacity other inNodes
    · rw [mem_singleton.mp isNew, empty]
      exact capacity
  · intro cam mem live
    obtain ⟨house, houseMember, houseId⟩ := holds.housed cam mem live
    exact ⟨house, mem_append_left _ houseMember, houseId⟩

theorem counted_remove (holds : Counted nodes cameras) (present : node ∈ nodes)
    (empty : node.registeredCameras = 0) : Counted (nodes.erase node) cameras := by
  have noneOn : liveOn cameras node.id = 0 := by
    have counted := holds.count node present
    omega
  refine ⟨?_, ?_, ?_⟩
  · intro other mem
    exact holds.count other (mem_of_mem_erase mem)
  · intro other mem
    exact holds.capacity other (mem_of_mem_erase mem)
  · intro cam mem live
    obtain ⟨house, houseMember, houseId⟩ := holds.housed cam mem live
    refine ⟨house, (mem_erase_of_ne ?_).mpr houseMember, houseId⟩
    rintro rfl
    rw [liveOn, countP_eq_zero] at noneOn
    exact noneOn cam mem (by simp [houseId, live])

theorem counted_place (holds : Counted nodes cameras)
    (distinct : DistinctKeys MediaNode.id nodes) (present : node ∈ nodes)
    (onNode : cam.nodeId = node.id) (enabled : cam.state = .enabled)
    (room : node.registeredCameras < node.cameraCapacity) :
    Counted (replace MediaNode.id
      { node with registeredCameras := node.registeredCameras + 1 } nodes)
      (cameras ++ [cam]) := by
  have added (nodeId : UUID) : liveOn (cameras ++ [cam]) nodeId =
      liveOn cameras nodeId + if node.id = nodeId then 1 else 0 := by
    simp [liveOn, countP_append, countP_cons, onNode, enabled]
  have counted := holds.count node present
  refine counted_rewrite holds distinct present rfl ?_ ?_ ?_ ?_
  · rw [added, if_pos rfl]
    push_cast
    rw [counted]
  · dsimp only
    omega
  · intro other _ differ
    rw [added, if_neg (Ne.symm differ), Nat.add_zero]
  · intro other mem live
    rcases mem_append.mp mem with inCameras | isNew
    · exact holds.housed other inCameras live
    · rw [mem_singleton.mp isNew, onNode]
      exact ⟨node, present, rfl⟩

theorem counted_delete {deleted : CameraPlacement} (holds : Counted nodes cameras)
    (distinct : DistinctKeys MediaNode.id nodes)
    (cameraIds : DistinctKeys CameraPlacement.id cameras) (present : node ∈ nodes)
    (mem : cam ∈ cameras) (onNode : cam.nodeId = node.id) (live : cam.state ≠ .deleted)
    (sameId : deleted.id = cam.id) (gone : deleted.state = .deleted) :
    Counted (replace MediaNode.id
      { node with registeredCameras := node.registeredCameras - 1 } nodes)
      (replace CameraPlacement.id deleted cameras) := by
  have moved (nodeId : UUID) := live_on_replace nodeId cameraIds mem sameId
  simp only [onNode, live, gone, ne_eq, not_true_eq_false, and_false, not_false_eq_true, and_true,
    if_false, Nat.add_zero] at moved
  have counted := holds.count node present
  have bounded := holds.capacity node present
  refine counted_rewrite holds distinct present rfl ?_ ?_ ?_ ?_
  · have own := moved node.id
    rw [if_pos rfl] at own
    dsimp only
    omega
  · dsimp only
    omega
  · intro other _ differ
    have own := moved other.id
    rw [if_neg (Ne.symm differ)] at own
    omega
  · intro other otherMember otherLive
    rcases mem_of_mem_replace otherMember with rfl | inCameras
    · exact absurd gone otherLive
    · exact holds.housed other inCameras otherLive

theorem counted_arrive {arrived : CameraPlacement} (holds : Counted nodes cameras)
    (distinct : DistinctKeys MediaNode.id nodes)
    (cameraIds : DistinctKeys CameraPlacement.id cameras) (present : node ∈ nodes)
    (mem : cam ∈ cameras) (gone : cam.state = .deleted) (sameId : arrived.id = cam.id)
    (onNode : arrived.nodeId = node.id) (live : arrived.state ≠ .deleted)
    (room : node.registeredCameras < node.cameraCapacity) :
    Counted (replace MediaNode.id
      { node with registeredCameras := node.registeredCameras + 1 } nodes)
      (replace CameraPlacement.id arrived cameras) := by
  have moved (nodeId : UUID) := live_on_replace nodeId cameraIds mem sameId
  simp only [onNode, live, gone, ne_eq, not_true_eq_false, and_false, not_false_eq_true, and_true,
    if_false, Nat.add_zero] at moved
  have counted := holds.count node present
  refine counted_rewrite holds distinct present rfl ?_ ?_ ?_ ?_
  · have own := moved node.id
    rw [if_pos rfl] at own
    dsimp only
    omega
  · dsimp only
    omega
  · intro other _ differ
    have own := moved other.id
    rw [if_neg (Ne.symm differ)] at own
    omega
  · intro other otherMember otherLive
    rcases mem_of_mem_replace otherMember with rfl | inCameras
    · exact ⟨node, present, onNode.symm⟩
    · exact holds.housed other inCameras otherLive

theorem counted_switch {source target : MediaNode} {switched : CameraPlacement}
    (holds : Counted nodes cameras) (distinct : DistinctKeys MediaNode.id nodes)
    (cameraIds : DistinctKeys CameraPlacement.id cameras)
    (sourcePresent : source ∈ nodes) (targetPresent : target ∈ nodes)
    (twoNodes : source.id ≠ target.id) (mem : cam ∈ cameras)
    (onSource : cam.nodeId = source.id) (live : cam.state ≠ .deleted)
    (sameId : switched.id = cam.id) (onTarget : switched.nodeId = target.id)
    (stillLive : switched.state ≠ .deleted)
    (room : target.registeredCameras < target.cameraCapacity) :
    Counted (replace MediaNode.id
      { target with registeredCameras := target.registeredCameras + 1 }
      (replace MediaNode.id
        { source with registeredCameras := source.registeredCameras - 1 } nodes))
      (replace CameraPlacement.id switched cameras) := by
  -- Between the two halves the camera counts nowhere, as a deleted one would.
  let between : CameraPlacement := { cam with state := .deleted }
  have left := counted_delete holds distinct cameraIds sourcePresent mem onSource live
    (show between.id = cam.id from rfl) rfl
  have arrived := counted_arrive left
    (distinct_replace.mpr distinct) (distinct_replace.mpr cameraIds)
    (mem_replace_of_ne targetPresent (Ne.symm twoNodes))
    (updated_mem_replace mem rfl) rfl sameId onTarget stillLive room
  rwa [replace_replace (show between.id = switched.id from sameId.symm)] at arrived

end Tables

theorem counted_step {store post : InMemoryNodeStore}
    (distinct : DistinctKeys MediaNode.id store.nodes)
    (lifecycle : Lifecycle store.cameras store.cameraMoves)
    (holds : Counted store.nodes store.cameras) {label : StepLabel}
    (step : StoreStep store label post) :
    Counted post.nodes post.cameras := by
  have sameSite {cam upd : CameraPlacement} (mem : cam ∈ store.cameras)
      (same : SameSite cam upd) :=
    counted_same_site holds lifecycle.cameraIds mem same
  cases step with
  | requests | beginPortChange | sourceCleaned | abortMove => exact holds
  | registerNode node _ fresh _ _ _ empty capacity =>
    exact counted_register holds fresh.cameraNode empty capacity
  | commandNode node upd found sameId _ sameCount sameCapacity =>
    exact counted_command holds distinct (lookup_mem found) sameId sameCount sameCapacity
  | removeNode node found empty => exact counted_remove holds (lookup_mem found) empty
  | completePortChange change node obs observedAt changeFound found =>
    refine counted_publish _ ?_
      (counted_command holds distinct (lookup_mem found) rfl rfl rfl)
    intro cam
    split_ifs <;> exact ⟨rfl, rfl, Iff.rfl⟩
  | abortPortChange change node obs observedAt changeFound found =>
    exact counted_command holds distinct (lookup_mem found) rfl rfl rfl
  | placeCamera selected cam _ found capacity fresh onNode port enabled =>
    exact counted_place holds distinct (lookup_mem found) onNode enabled capacity
  | editCamera cam upd found live _ sameId _ samePlacement _ _ stillLive =>
    exact sameSite (lookup_mem found) ⟨sameId, samePlacement.1, iff_of_false stillLive live.1⟩
  | markApplied cam found =>
    exact sameSite (lookup_mem found) ⟨rfl, rfl, Iff.rfl⟩
  | markDeleted cam node found nodeFound onNode idle deleting =>
    refine counted_delete holds distinct lifecycle.cameraIds (lookup_mem nodeFound)
      (lookup_mem found) onNode ?_ rfl rfl
    rw [deleting]
    decide
  | createMove cam move source target found =>
    exact sameSite (lookup_mem found) ⟨rfl, rfl, Iff.rfl⟩
  | switchMove move cam source target moveFound found sourceFound targetFound preparing fence
      capacity =>
      have active : cameraMoveIsTerminal move.state = false := by rw [preparing]; rfl
      have pins := found_camera_pinned lifecycle (lookup_mem moveFound) active found
      have live : cam.state ≠ .deleted := by
        rw [pins.enabled]
        decide
      have sourceId := find_node_id sourceFound
      refine counted_switch holds distinct lifecycle.cameraIds (lookup_mem sourceFound)
        (lookup_mem targetFound) ?_ (lookup_mem found) ?_ live rfl rfl live
        capacity
      · rw [sourceId, find_node_id targetFound]
        exact pins.twoNodes
      · rw [sourceId]
        exact fence.1
  | requestAbort move cam reason moveFound found =>
    dsimp only [putMove]
    split_ifs
    · exact sameSite (lookup_mem found) ⟨rfl, rfl, Iff.rfl⟩
    · exact holds
  | completeMove move cam moveFound found =>
    exact sameSite (lookup_mem found) ⟨rfl, rfl, Iff.rfl⟩

theorem counted_initial {nodes : List MediaNode} (init : InitialNodes nodes) :
    Counted nodes [] := by
  refine ⟨?_, ?_, ?_⟩
  · intro node mem
    exact (init.empty node mem).1
  · intro node mem
    rw [(init.empty node mem).1]
    exact (init.empty node mem).2
  · intro cam mem
    cases mem

theorem reachable_counted [PythonText] {nodes : List MediaNode} (init : InitialNodes nodes)
    {store : InMemoryNodeStore} (reached : Reachable nodes store) :
    Counted store.nodes store.cameras := by
  have holds := (reachable_induction init
    (fun store => Lifecycle store.cameras store.cameraMoves ∧ Counted store.nodes store.cameras)
    ⟨lifecycle_initial nodes, counted_initial init⟩
    (fun _ _ _ distinct both step =>
      ⟨(lifecycle_step both.1 step).1, counted_step distinct both.1 both.2 step⟩) reached).2
  exact holds.2

/-- The counter of every node is the number of its cameras that are not
deleted, within its capacity, and every such camera is on an existing node. -/
theorem registered_cameras_exact [PythonText] {nodes : List MediaNode} (init : InitialNodes nodes)
    {store : InMemoryNodeStore} (reached : Reachable nodes store) :
    (∀ node ∈ store.nodes, node.registeredCameras = (store.camerasOn node.id).length ∧
      0 ≤ node.registeredCameras ∧ node.registeredCameras ≤ node.cameraCapacity) ∧
      ∀ cam ∈ store.cameras, cam.state ≠ .deleted → ∃ node ∈ store.nodes, node.id = cam.nodeId := by
  have holds := reachable_counted init reached
  refine ⟨?_, holds.housed⟩
  intro node mem
  have count := holds.count node mem
  rw [live_on_eq_length] at count
  exact ⟨count, by omega, holds.capacity node mem⟩

theorem registered_cameras_exact_moving :
    ∃ node ∈ movingStore.nodes, node.registeredCameras = 1 ∧
      node.registeredCameras = (movingStore.camerasOn node.id).length := by
  refine ⟨movingStore.nodes.head (by decide), by decide, by decide, ?_⟩
  exact ((@registered_cameras_exact plainText _ sample_nodes_initial _ moving_store_reachable).1 _
    (by decide)).1

end RtspProxy.Nodes
