import RtspProxy.Nodes.Steps

/-!
# Camera lifecycle and the move state machine

The joint invariant of the camera and move tables: a move that is under way
holds its camera still, so that every camera operation has to refuse while it
runs. A step advances one camera, one move, or one of each; the invariant is
proved for these shapes and then read off for every store step.
-/

namespace RtspProxy.Nodes

open Lib InMemoryNodeStore Lib.RecordTable List

/-- Where the camera of a move stands in each state of the move. The abort
request itself is one more desired revision, so that the restored source path
is verified again before it counts as applied. -/
def PlacedFor (move : CameraMove) (cam : CameraPlacement) : Prop :=
  match move.state with
  | .prepareTarget =>
    cam.nodeId = move.sourceNodeId ∧ cam.placementGeneration = move.sourceGeneration ∧
      cam.desiredRevision = move.desiredRevision
  | .cleanupTarget =>
    cam.nodeId = move.sourceNodeId ∧ cam.placementGeneration = move.sourceGeneration ∧
      cam.desiredRevision = move.desiredRevision + 1
  | .cleanupSource | .activateTarget =>
    cam.nodeId = move.targetNodeId ∧ cam.placementGeneration = move.targetGeneration ∧
      cam.desiredRevision = move.desiredRevision
  | .complete | .aborted => True

/-- What a move under way fixes of its camera. -/
structure Pins (move : CameraMove) (cam : CameraPlacement) : Prop where
  ofCamera : cam.id = move.cameraId
  enabled : cam.state = .enabled
  pending : cam.appliedRevision < cam.desiredRevision
  publicId : cam.publicId = move.publicId
  sourceUrl : cam.sourceUrl = move.sourceUrl
  twoNodes : move.sourceNodeId ≠ move.targetNodeId
  generation : move.targetGeneration = move.sourceGeneration + 1
  placed : PlacedFor move cam

structure Lifecycle (cameras : List CameraPlacement) (moves : List CameraMove) : Prop where
  cameraIds : DistinctKeys CameraPlacement.id cameras
  moveIds : DistinctKeys CameraMove.id moves
  revisions : ∀ cam ∈ cameras,
    0 ≤ cam.appliedRevision ∧ cam.appliedRevision ≤ cam.desiredRevision
  oneMove : ∀ move ∈ moves, ∀ other ∈ moves, cameraMoveIsTerminal move.state = false →
    cameraMoveIsTerminal other.state = false → move.cameraId = other.cameraId → move = other
  pinned : ∀ move ∈ moves, cameraMoveIsTerminal move.state = false →
    ∃ cam ∈ cameras, Pins move cam

/-- The operations allowed on one camera across a step. -/
structure CameraEvolves (pre after : CameraPlacement) : Prop where
  sameId : after.id = pre.id
  samePublicId : after.publicId = pre.publicId
  desired : pre.desiredRevision ≤ after.desiredRevision
  generation : pre.placementGeneration ≤ after.placementGeneration
  deleted : pre.state = .deleted → after.state = .deleted
  /-- Within one revision neither the source nor an enabled state changes. -/
  fenced : after.desiredRevision = pre.desiredRevision →
    after.sourceUrl = pre.sourceUrl ∧ (pre.state = .enabled ↔ after.state = .enabled)

def MoveEdge : CameraMoveState → CameraMoveState → Prop
  | .prepareTarget, .cleanupSource | .cleanupSource, .activateTarget
  | .activateTarget, .complete | .prepareTarget, .cleanupTarget
  | .cleanupTarget, .aborted => True
  | pre, after => pre = after

structure MoveEvolves (pre after : CameraMove) : Prop where
  /-- Only the state and the abort reason change. -/
  samePlan : after = { pre with state := after.state, abortReason := after.abortReason }
  edge : MoveEdge pre.state after.state

theorem MoveEvolves.sameId {pre after : CameraMove} (evolves : MoveEvolves pre after) :
    after.id = pre.id := by
  rw [evolves.samePlan]

theorem MoveEvolves.sameCamera {pre after : CameraMove} (evolves : MoveEvolves pre after) :
    after.cameraId = pre.cameraId := by
  rw [evolves.samePlan]

/-- Cameras and moves are never removed, change as above, and a new move starts
by preparing its target. -/
structure Evolves (cameras nextCameras : List CameraPlacement) (moves nextMoves : List CameraMove) :
    Prop where
  camerasEvolve : ∀ cam ∈ cameras, ∃ later ∈ nextCameras, CameraEvolves cam later
  movesEvolve : ∀ move ∈ moves, ∃ later ∈ nextMoves, MoveEvolves move later
  movesStarted : ∀ later ∈ nextMoves,
    later.state = .prepareTarget ∨ ∃ move ∈ moves, MoveEvolves move later

theorem camera_evolves_refl (cam : CameraPlacement) : CameraEvolves cam cam :=
  ⟨rfl, rfl, le_rfl, le_rfl, id, fun _ => ⟨rfl, Iff.rfl⟩⟩

theorem camera_evolves_trans {first second third : CameraPlacement}
    (early : CameraEvolves first second) (late : CameraEvolves second third) :
    CameraEvolves first third := by
  refine ⟨late.sameId.trans early.sameId, late.samePublicId.trans early.samePublicId,
    early.desired.trans late.desired, early.generation.trans late.generation,
    fun deleted => late.deleted (early.deleted deleted), ?_⟩
  intro same
  -- Revisions only grow, so the one in the middle is the same too.
  have sameEarly : second.desiredRevision = first.desiredRevision := by
    have := early.desired
    have := late.desired
    omega
  have fencedEarly := early.fenced sameEarly
  have fencedLate := late.fenced (same.trans sameEarly.symm)
  exact ⟨fencedLate.1.trans fencedEarly.1, fencedEarly.2.trans fencedLate.2⟩

theorem move_evolves_refl (move : CameraMove) : MoveEvolves move move := by
  refine ⟨rfl, ?_⟩
  cases move.state <;> simp [MoveEdge]

variable {cam upd : CameraPlacement} {move : CameraMove}

section Tables

variable {cams : List CameraPlacement} {moves : List CameraMove}

theorem replace_camera_evolves (distinct : DistinctKeys CameraPlacement.id cams)
    (present : cam ∈ cams) (evolves : CameraEvolves cam upd) :
    ∀ pre ∈ cams, ∃ later ∈ replace CameraPlacement.id upd cams, CameraEvolves pre later := by
  intro pre mem
  by_cases same : pre.id = upd.id
  · have sameCamera : pre = cam :=
      distinct_eq distinct mem present (same.trans evolves.sameId)
    subst sameCamera
    exact ⟨upd, updated_mem_replace present same, evolves⟩
  · exact ⟨pre, mem_replace_of_ne mem same, camera_evolves_refl pre⟩

theorem replace_move_evolves {upd : CameraMove}
    (distinct : DistinctKeys CameraMove.id moves) (present : move ∈ moves)
    (evolves : MoveEvolves move upd) :
    ∀ pre ∈ moves, ∃ later ∈ replace CameraMove.id upd moves, MoveEvolves pre later := by
  intro pre mem
  by_cases same : pre.id = upd.id
  · have sameMove : pre = move :=
      distinct_eq distinct mem present (same.trans evolves.sameId)
    subst sameMove
    exact ⟨upd, updated_mem_replace present same, evolves⟩
  · exact ⟨pre, mem_replace_of_ne mem same, move_evolves_refl pre⟩

variable (holds : Lifecycle cams moves)

include holds

theorem lifecycle_idle_camera (sameId : upd.id = cam.id)
    (idle : ∀ move ∈ moves, cameraMoveIsTerminal move.state = false → move.cameraId ≠ cam.id)
    (revisions : 0 ≤ upd.appliedRevision ∧ upd.appliedRevision ≤ upd.desiredRevision) :
    Lifecycle (replace CameraPlacement.id upd cams) moves := by
  refine ⟨distinct_replace.mpr holds.cameraIds, holds.moveIds, ?_, holds.oneMove, ?_⟩
  · intro other mem
    rcases mem_of_mem_replace mem with rfl | inCameras
    · exact revisions
    · exact holds.revisions other inCameras
  · intro move mem active
    obtain ⟨pinnedCamera, pinnedMember, pins⟩ := holds.pinned move mem active
    refine ⟨pinnedCamera, mem_replace_of_ne pinnedMember ?_, pins⟩
    rw [pins.ofCamera, sameId]
    exact idle move mem active

theorem lifecycle_advance {nextMove : CameraMove} {nextCamera : CameraPlacement}
    (moveMember : move ∈ moves)
    (active : cameraMoveIsTerminal move.state = false) (mem : cam ∈ cams)
    (ofCamera : cam.id = move.cameraId) (sameMove : nextMove.id = move.id)
    (sameCamera : nextMove.cameraId = move.cameraId) (sameId : nextCamera.id = cam.id)
    (revisions : 0 ≤ nextCamera.appliedRevision ∧
      nextCamera.appliedRevision ≤ nextCamera.desiredRevision)
    (pins : cameraMoveIsTerminal nextMove.state = false → Pins nextMove nextCamera) :
    Lifecycle (replace CameraPlacement.id nextCamera cams)
      (replace CameraMove.id nextMove moves) := by
  have memMoves {other : CameraMove} :
      other ∈ replace CameraMove.id nextMove moves ↔
        other = nextMove ∨ other ∈ moves ∧ other.id ≠ nextMove.id :=
    mem_replace holds.moveIds moveMember sameMove.symm
  refine ⟨distinct_replace.mpr holds.cameraIds, distinct_replace.mpr holds.moveIds, ?_, ?_, ?_⟩
  · intro other otherMember
    rcases mem_of_mem_replace otherMember with rfl | inCameras
    · exact revisions
    · exact holds.revisions other inCameras
  · -- Another active move of the same camera would have been `move` itself.
    have alone : ∀ other ∈ moves, cameraMoveIsTerminal other.state = false →
        other.id ≠ nextMove.id → other.cameraId ≠ nextMove.cameraId := by
      intro other otherMember otherActive differ same
      have isMove := holds.oneMove other otherMember move moveMember otherActive active
        (same.trans sameCamera)
      exact differ (isMove ▸ sameMove.symm)
    intro left leftMember right rightMember leftActive rightActive same
    rcases memMoves.mp leftMember with rfl | ⟨leftOld, leftOther⟩ <;>
      rcases memMoves.mp rightMember with rfl | ⟨rightOld, rightOther⟩
    · rfl
    · exact absurd same.symm (alone right rightOld rightActive rightOther)
    · exact absurd same (alone left leftOld leftActive leftOther)
    · exact holds.oneMove left leftOld right rightOld leftActive rightActive same
  · intro other otherMember otherActive
    rcases memMoves.mp otherMember with rfl | ⟨otherOld, differ⟩
    · exact ⟨nextCamera, updated_mem_replace mem sameId.symm, pins otherActive⟩
    · obtain ⟨pinnedCamera, pinnedMember, otherPins⟩ := holds.pinned other otherOld otherActive
      refine ⟨pinnedCamera, mem_replace_of_ne pinnedMember ?_, otherPins⟩
      intro sameCameraId
      have sameOwner : other.cameraId = move.cameraId := by
        rw [← otherPins.ofCamera, sameCameraId, sameId, ofCamera]
      have isMove := holds.oneMove other otherOld move moveMember otherActive active sameOwner
      exact differ (isMove ▸ sameMove.symm)

theorem lifecycle_place (fresh : ∀ other ∈ cams, other.id ≠ cam.id)
    (revisions : 0 ≤ cam.appliedRevision ∧ cam.appliedRevision ≤ cam.desiredRevision) :
    Lifecycle (cams ++ [cam]) moves := by
  refine ⟨distinct_append_singleton holds.cameraIds fresh, holds.moveIds, ?_, holds.oneMove, ?_⟩
  · intro other mem
    rcases mem_append.mp mem with inCameras | isNew
    · exact holds.revisions other inCameras
    · rw [mem_singleton.mp isNew]
      exact revisions
  · intro move mem active
    obtain ⟨pinnedCamera, pinnedMember, pins⟩ := holds.pinned move mem active
    exact ⟨pinnedCamera, mem_append_left _ pinnedMember, pins⟩

theorem lifecycle_create (present : cam ∈ cams)
    (sameId : upd.id = cam.id) (fresh : ∀ other ∈ moves, other.id ≠ move.id)
    (idle : ∀ other ∈ moves, cameraMoveIsTerminal other.state = false → other.cameraId ≠ cam.id)
    (revisions : 0 ≤ upd.appliedRevision ∧ upd.appliedRevision ≤ upd.desiredRevision)
    (pins : Pins move upd) :
    Lifecycle (replace CameraPlacement.id upd cams) (moves ++ [move]) := by
  have base := lifecycle_idle_camera holds sameId idle revisions
  have ofCamera : move.cameraId = cam.id := pins.ofCamera.symm.trans sameId
  refine ⟨base.cameraIds, distinct_append_singleton holds.moveIds fresh, base.revisions, ?_, ?_⟩
  · intro left leftMember right rightMember leftActive rightActive same
    simp only [mem_append, mem_singleton] at leftMember rightMember
    rcases leftMember with leftOld | rfl <;> rcases rightMember with rightOld | rfl
    · exact holds.oneMove left leftOld right rightOld leftActive rightActive same
    · exact absurd (same.trans ofCamera) (idle left leftOld leftActive)
    · exact absurd (same.symm.trans ofCamera) (idle right rightOld rightActive)
    · rfl
  · intro other otherMember active
    simp only [mem_append, mem_singleton] at otherMember
    rcases otherMember with otherOld | rfl
    · exact base.pinned other otherOld active
    · exact ⟨upd, updated_mem_replace present sameId.symm, pins⟩

omit holds

theorem lifecycle_publish (publish : CameraPlacement → CameraPlacement)
    (keeps : ∀ cam, ∃ port, publish cam = { cam with nodePort := port })
    (holds : Lifecycle cams moves) : Lifecycle (cams.map publish) moves := by
  refine ⟨?_, holds.moveIds, ?_, holds.oneMove, ?_⟩
  · have sameIds : (cams.map publish).map CameraPlacement.id = cams.map CameraPlacement.id := by
      rw [map_map]
      apply map_congr_left
      intro cam _
      obtain ⟨port, published⟩ := keeps cam
      simp [published]
    simpa only [DistinctKeys, sameIds] using holds.cameraIds
  · intro cam mem
    obtain ⟨original, originalMember, rfl⟩ := mem_map.mp mem
    obtain ⟨port, published⟩ := keeps original
    rw [published]
    exact holds.revisions original originalMember
  · intro move mem active
    obtain ⟨cam, cameraMember, pins⟩ := holds.pinned move mem active
    refine ⟨publish cam, mem_map_of_mem cameraMember, ?_⟩
    obtain ⟨port, published⟩ := keeps cam
    rw [published]
    exact ⟨pins.ofCamera, pins.enabled, pins.pending, pins.publicId, pins.sourceUrl, pins.twoNodes,
      pins.generation, pins.placed⟩

theorem same_cameras_evolve :
    ∀ cam ∈ cams, ∃ later ∈ cams, CameraEvolves cam later := by
  intro cam mem
  exact ⟨cam, mem, camera_evolves_refl cam⟩

theorem same_moves_evolve : ∀ move ∈ moves, ∃ later ∈ moves, MoveEvolves move later := by
  intro move mem
  exact ⟨move, mem, move_evolves_refl move⟩

theorem same_moves_started : ∀ later ∈ moves,
    later.state = .prepareTarget ∨ ∃ move ∈ moves, MoveEvolves move later := by
  intro later mem
  exact .inr ⟨later, mem, move_evolves_refl later⟩

theorem replace_move_started {upd : CameraMove} (present : move ∈ moves)
    (evolves : MoveEvolves move upd) :
    ∀ later ∈ replace CameraMove.id upd moves,
      later.state = .prepareTarget ∨ ∃ move ∈ moves, MoveEvolves move later := by
  intro later mem
  rcases mem_of_mem_replace mem with rfl | inMoves
  · exact .inr ⟨move, present, evolves⟩
  · exact same_moves_started later inMoves

end Tables

section Steps

variable {store after : InMemoryNodeStore}

/-- Both halves at once: the invariant after the step, and how the tables changed. -/
def KeepsLifecycle (store after : InMemoryNodeStore) : Prop :=
  Lifecycle after.cameras after.cameraMoves ∧
    Evolves store.cameras after.cameras store.cameraMoves after.cameraMoves

theorem keeps_same_tables (holds : Lifecycle store.cameras store.cameraMoves)
    (sameCameras : after.cameras = store.cameras) (sameMoves : after.cameraMoves = store.cameraMoves) :
    KeepsLifecycle store after := by
  unfold KeepsLifecycle
  rw [sameCameras, sameMoves]
  exact ⟨holds, same_cameras_evolve, same_moves_evolve, same_moves_started⟩

theorem idle_of_no_active_move {cameraId : UUID}
    (idle : store.cameraHasActiveMove cameraId = false) :
    ∀ move ∈ store.cameraMoves, cameraMoveIsTerminal move.state = false →
      move.cameraId ≠ cameraId := by
  intro move mem active same
  have busy := camera_has_active_move_iff.mpr ⟨move, ⟨mem, active⟩, same⟩
  rw [idle] at busy
  cases busy

theorem keeps_idle_camera (replaced : after.cameras = replace CameraPlacement.id upd store.cameras)
    (sameMoves : after.cameraMoves = store.cameraMoves)
    (holds : Lifecycle store.cameras store.cameraMoves)
    (found : store.findCamera cam.id = some cam)
    (idle : store.cameraHasActiveMove cam.id = false) (evolves : CameraEvolves cam upd)
    (revisions : 0 ≤ upd.appliedRevision ∧ upd.appliedRevision ≤ upd.desiredRevision) :
    KeepsLifecycle store after := by
  unfold KeepsLifecycle
  rw [replaced, sameMoves]
  have present := lookup_mem found
  exact ⟨lifecycle_idle_camera holds evolves.sameId (idle_of_no_active_move idle) revisions,
    replace_camera_evolves holds.cameraIds present evolves, same_moves_evolve, same_moves_started⟩

theorem found_camera_pinned (holds : Lifecycle store.cameras store.cameraMoves)
    (mem : move ∈ store.cameraMoves) (active : cameraMoveIsTerminal move.state = false)
    (found : store.findCamera move.cameraId = some cam) : Pins move cam := by
  obtain ⟨pinned, pinnedMember, pins⟩ := holds.pinned move mem active
  have same : pinned = cam := by
    refine distinct_eq holds.cameraIds pinnedMember (lookup_mem found) ?_
    rw [pins.ofCamera, lookup_key found]
  exact same ▸ pins

theorem pinned_camera_found (holds : Lifecycle store.cameras store.cameraMoves)
    (mem : move ∈ store.cameraMoves) (active : cameraMoveIsTerminal move.state = false) :
    ∃ cam, store.findCamera move.cameraId = some cam ∧ Pins move cam := by
  obtain ⟨cam, cameraMember, pins⟩ := holds.pinned move mem active
  refine ⟨cam, ?_, pins⟩
  rw [← pins.ofCamera]
  exact lookup_of_mem holds.cameraIds cameraMember

theorem keeps_advance {nextMove : CameraMove} {nextCamera : CameraPlacement}
    (cams : after.cameras = replace CameraPlacement.id nextCamera store.cameras)
    (moves : after.cameraMoves = replace CameraMove.id nextMove store.cameraMoves)
    (holds : Lifecycle store.cameras store.cameraMoves)
    (moveFound : store.findMove move.id = some move)
    (found : store.findCamera move.cameraId = some cam)
    (active : cameraMoveIsTerminal move.state = false) (moveEvolves : MoveEvolves move nextMove)
    (evolves : CameraEvolves cam nextCamera) (revisions : 0 ≤ nextCamera.appliedRevision ∧
      nextCamera.appliedRevision ≤ nextCamera.desiredRevision)
    (pins : cameraMoveIsTerminal nextMove.state = false → Pins nextMove nextCamera) :
    KeepsLifecycle store after := by
  unfold KeepsLifecycle
  rw [cams, moves]
  have moveMember := lookup_mem moveFound
  have mem := lookup_mem found
  exact ⟨lifecycle_advance holds moveMember active mem (lookup_key found)
      moveEvolves.sameId moveEvolves.sameCamera evolves.sameId revisions pins,
    replace_camera_evolves holds.cameraIds mem evolves,
    replace_move_evolves holds.moveIds moveMember moveEvolves,
    replace_move_started moveMember moveEvolves⟩

theorem keeps_advance_move {nextMove : CameraMove} (sameCameras : after.cameras = store.cameras)
    (moves : after.cameraMoves = replace CameraMove.id nextMove store.cameraMoves)
    (holds : Lifecycle store.cameras store.cameraMoves)
    (moveFound : store.findMove move.id = some move)
    (active : cameraMoveIsTerminal move.state = false) (moveEvolves : MoveEvolves move nextMove)
    (pins : ∀ cam, Pins move cam → cameraMoveIsTerminal nextMove.state = false →
      Pins nextMove cam) : KeepsLifecycle store after := by
  obtain ⟨cam, found, cameraPins⟩ :=
    pinned_camera_found holds (lookup_mem moveFound) active
  have unchanged : replace CameraPlacement.id cam store.cameras = store.cameras := by
    apply replace_same
    rw [cameraPins.ofCamera]
    exact found
  exact keeps_advance (sameCameras.trans unchanged.symm) moves holds moveFound found active
    moveEvolves (camera_evolves_refl cam) (holds.revisions cam (lookup_mem found))
    (pins cam cameraPins)

variable (holds : Lifecycle store.cameras store.cameraMoves)

include holds

theorem keeps_placement (fresh : store.Unused cam.id)
    (revisions : cam.desiredRevision = 1 ∧ cam.appliedRevision = 0)
    (cams : after.cameras = store.cameras ++ [cam])
    (sameMoves : after.cameraMoves = store.cameraMoves) : KeepsLifecycle store after := by
  unfold KeepsLifecycle
  rw [cams, sameMoves]
  refine ⟨lifecycle_place holds fresh.camera (by omega), ?_, same_moves_evolve, same_moves_started⟩
  intro earlier mem
  exact ⟨earlier, mem_append_left _ mem, camera_evolves_refl earlier⟩

theorem keeps_new_move
    (found : store.findCamera cam.id = some cam) (fresh : store.Unused move.id)
    (idle : store.cameraHasActiveMove cam.id = false) (preparing : move.state = .prepareTarget)
    (pins : Pins move { cam with desiredRevision := cam.desiredRevision + 1 })
    (cams : after.cameras = replace CameraPlacement.id
      { cam with desiredRevision := cam.desiredRevision + 1 } store.cameras)
    (moves : after.cameraMoves = store.cameraMoves ++ [move]) : KeepsLifecycle store after := by
  unfold KeepsLifecycle
  rw [cams, moves]
  have present := lookup_mem found
  have ordered := holds.revisions cam present
  refine ⟨lifecycle_create holds present rfl fresh.move (idle_of_no_active_move idle)
    (by dsimp only; omega) pins, ?_, ?_, ?_⟩
  · refine replace_camera_evolves holds.cameraIds present ⟨rfl, rfl, ?_, le_rfl, id, ?_⟩
    · dsimp only
      omega
    · intro same
      dsimp only at same
      omega
  · intro earlier mem
    exact ⟨earlier, mem_append_left _ mem, move_evolves_refl earlier⟩
  · intro later mem
    rcases mem_append.mp mem with old | new
    · exact same_moves_started later old
    · rw [mem_singleton.mp new]
      exact .inl preparing

theorem keeps_publish {nodeId : UUID} {port : Int}
    (cams : after.cameras = (store.publishPort nodeId port).cameras)
    (sameMoves : after.cameraMoves = store.cameraMoves) : KeepsLifecycle store after := by
  unfold KeepsLifecycle
  rw [cams, sameMoves]
  have keeps : ∀ cam : CameraPlacement, ∃ newPort,
      (if cam.nodeId = nodeId ∧ cam.state ≠ .deleted then { cam with nodePort := port }
        else cam) = { cam with nodePort := newPort } := by
    intro cam
    split_ifs
    · exact ⟨port, rfl⟩
    · exact ⟨cam.nodePort, rfl⟩
  refine ⟨lifecycle_publish _ keeps holds, ?_, same_moves_evolve, same_moves_started⟩
  intro cam mem
  refine ⟨_, mem_map_of_mem mem, ?_⟩
  obtain ⟨newPort, published⟩ := keeps cam
  rw [published]
  exact ⟨rfl, rfl, le_rfl, le_rfl, id, fun _ => ⟨rfl, Iff.rfl⟩⟩

theorem lifecycle_step {label : StepLabel}
    (step : StoreStep store label after) : KeepsLifecycle store after := by
  cases step with
  | requests | registerNode | commandNode | removeNode | beginPortChange | abortPortChange =>
    exact keeps_same_tables holds rfl rfl
  | completePortChange => exact keeps_publish holds rfl rfl
  | placeCamera selected cam _ found capacity fresh onNode port enabled generation revisions =>
    exact keeps_placement holds fresh revisions rfl rfl
  | editCamera cam upd found live idle sameId samePublicId samePlacement sameApplied
      revision stillLive =>
      have ordered := holds.revisions cam (lookup_mem found)
      refine keeps_idle_camera rfl rfl holds found idle ⟨sameId, samePublicId, by omega,
        samePlacement.2.2.ge, ?_, ?_⟩ (by omega)
      · intro deleted
        exact absurd deleted live.1
      · intro same
        omega
  | markApplied cam found idle notDeleting =>
    have ordered := holds.revisions cam (lookup_mem found)
    exact keeps_idle_camera rfl rfl holds found idle
      ⟨rfl, rfl, le_rfl, le_rfl, id, fun _ => ⟨rfl, Iff.rfl⟩⟩ ⟨ordered.1.trans ordered.2, le_rfl⟩
  | markDeleted cam node found nodeFound onNode idle deleting =>
    have ordered := holds.revisions cam (lookup_mem found)
    refine keeps_idle_camera rfl rfl holds found idle
      ⟨rfl, rfl, le_rfl, le_rfl, fun _ => rfl, ?_⟩ ⟨ordered.1.trans ordered.2, le_rfl⟩
    intro _
    refine ⟨rfl, iff_of_false ?_ ?_⟩
    · rw [deleting]
      decide
    · dsimp only
      decide
  | createMove cam move source target found sourceFound targetFound fresh enabled idle ofCamera
      fromSource generation toOther revision preparing =>
      refine keeps_new_move holds found fresh idle preparing ?_ rfl rfl
      have ordered := holds.revisions cam (lookup_mem found)
      refine ⟨ofCamera.1.symm, enabled, Int.lt_add_one_of_le ordered.2, ofCamera.2.1.symm,
        ofCamera.2.2.symm, ?_, ?_, ?_⟩
      · rw [fromSource.1]
        exact toOther.symm
      · rw [generation, fromSource.2]
      · simp only [PlacedFor, preparing]
        exact ⟨fromSource.1.symm, fromSource.2.symm, revision.symm⟩
  | switchMove move cam source target moveFound found sourceFound targetFound preparing fence
      capacity =>
      have active : cameraMoveIsTerminal move.state = false := by rw [preparing]; rfl
      have pins := found_camera_pinned holds (lookup_mem moveFound) active found
      refine keeps_advance rfl rfl holds moveFound found active ⟨rfl, ?_⟩
        ⟨rfl, rfl, le_rfl, ?_, id, fun _ => ⟨rfl, Iff.rfl⟩⟩
        (holds.revisions cam (lookup_mem found)) ?_
      · rw [preparing]
        trivial
      · have next := pins.generation
        dsimp only
        omega
      · intro _
        exact ⟨pins.ofCamera, pins.enabled, pins.pending, pins.publicId, pins.sourceUrl, pins.twoNodes,
          pins.generation, find_node_id targetFound, rfl, fence.2.2⟩
  | sourceCleaned move moveFound switched =>
    refine keeps_advance_move rfl rfl holds moveFound (by rw [switched]; rfl) ⟨rfl, ?_⟩ ?_
    · rw [switched]
      trivial
    · intro cam pins _
      refine ⟨pins.ofCamera, pins.enabled, pins.pending, pins.publicId, pins.sourceUrl, pins.twoNodes,
        pins.generation, ?_⟩
      have placed := pins.placed
      simp only [PlacedFor, switched] at placed
      exact placed
  | requestAbort move cam reason moveFound found preparing =>
    have active : cameraMoveIsTerminal move.state = false := by rw [preparing]; rfl
    have pins := found_camera_pinned holds (lookup_mem moveFound) active found
    have ordered := holds.revisions cam (lookup_mem found)
    have placed := pins.placed
    simp only [PlacedFor, preparing] at placed
    rw [if_pos placed.2.2]
    refine keeps_advance rfl rfl holds moveFound found active ⟨rfl, ?_⟩
      ⟨rfl, rfl, ?_, le_rfl, id, ?_⟩ ?_ ?_
    · rw [preparing]
      trivial
    · dsimp only
      omega
    · intro same
      dsimp only at same
      omega
    · dsimp only
      omega
    · intro _
      refine ⟨pins.ofCamera, pins.enabled, Int.lt_add_one_of_le ordered.2, pins.publicId,
        pins.sourceUrl, pins.twoNodes, pins.generation, placed.1, placed.2.1, ?_⟩
      dsimp only
      omega
  | abortMove move moveFound aborting =>
    refine keeps_advance_move rfl rfl holds moveFound (by rw [aborting]; rfl) ⟨rfl, ?_⟩ ?_
    · rw [aborting]
      trivial
    · intro cam _ active
      cases active
  | completeMove move cam moveFound found activating =>
    have active : cameraMoveIsTerminal move.state = false := by rw [activating]; rfl
    have pins := found_camera_pinned holds (lookup_mem moveFound) active found
    have ordered := holds.revisions cam (lookup_mem found)
    have placed := pins.placed
    simp only [PlacedFor, activating] at placed
    refine keeps_advance rfl rfl holds moveFound found active ⟨rfl, ?_⟩
      ⟨rfl, rfl, le_rfl, le_rfl, id, fun _ => ⟨rfl, Iff.rfl⟩⟩ ?_ ?_
    · rw [activating]
      trivial
    · dsimp only
      omega
    · intro stillActive
      cases stillActive

omit holds

end Steps

theorem lifecycle_initial (nodes : List MediaNode) :
    Lifecycle ({ nodes := nodes } : InMemoryNodeStore).cameras [] := by
  refine ⟨nodup_nil, nodup_nil, ?_, ?_, ?_⟩ <;> intro _ mem <;> cases mem

theorem reachable_lifecycle [PythonText] {nodes : List MediaNode} (init : InitialNodes nodes)
    {store : InMemoryNodeStore} (reached : Reachable nodes store) :
    Lifecycle store.cameras store.cameraMoves :=
  (reachable_induction init (fun store => Lifecycle store.cameras store.cameraMoves)
    (lifecycle_initial nodes) (fun _ _ _ _ holds step => (lifecycle_step holds step).1) reached).2

/-- In every reachable state the revisions are ordered, a camera has at most
one move under way and that move pins it; every operation moves cameras and
moves only forwards. -/
theorem camera_lifecycle [PythonText] {nodes : List MediaNode} (init : InitialNodes nodes)
    {store : InMemoryNodeStore} (reached : Reachable nodes store) :
    Lifecycle store.cameras store.cameraMoves ∧ ∀ op : StoreOperation, op.Fresh store →
        Evolves store.cameras (op.apply store).cameras store.cameraMoves
          (op.apply store).cameraMoves := by
  have holds := reachable_lifecycle init reached
  refine ⟨holds, ?_⟩
  intro op fresh
  have distinct := (reachable_induction init (fun _ => True) trivial
    (fun _ _ _ _ _ _ => trivial) reached).1
  exact (lifecycle_step holds (apply_step distinct fresh)).2

/-- A camera placed on the first node, with a move to the second one requested. -/
def movingStore : InMemoryNodeStore :=
  @StoreOperation.applyAll plainText
    [.placeCameraManually 1 samplePlacement, .createCameraMove sampleMove] { nodes := sampleNodes }

theorem moving_store_reachable : @Reachable plainText sampleNodes movingStore :=
  @reachable_apply_all _ plainText _ _ (@Reachable.start plainText _) (by decide)

theorem camera_lifecycle_moving : ∃ move ∈ movingStore.cameraMoves, move.state = .prepareTarget ∧
    Lifecycle movingStore.cameras movingStore.cameraMoves := by
  refine ⟨movingStore.cameraMoves.head (by decide), by decide, by decide, ?_⟩
  exact (@camera_lifecycle plainText _ sample_nodes_initial _ moving_store_reachable).1

/-- Source values until the switch and target values after it, the desired
revision of the move being one of the source values. -/
def PinnedToSourceOrTarget (move : CameraMove) (cam : CameraPlacement) : Prop :=
  if move.state = .cleanupSource ∨ move.state = .activateTarget then
    cam.nodeId = move.targetNodeId ∧ cam.placementGeneration = move.targetGeneration
  else
    cam.nodeId = move.sourceNodeId ∧ cam.placementGeneration = move.sourceGeneration ∧
      cam.desiredRevision = move.desiredRevision

instance (move : CameraMove) (cam : CameraPlacement) :
    Decidable (PinnedToSourceOrTarget move cam) := by
  unfold PinnedToSourceOrTarget
  infer_instance

/-- The abort request bumps the camera past the revision of its move. -/
theorem abort_request_passes_move_revision :
    ∃ store, @Reachable plainText sampleNodes store ∧
      ¬∀ move ∈ store.cameraMoves, cameraMoveIsTerminal move.state = false →
        ∃ cam ∈ store.cameras, cam.id = move.cameraId ∧ PinnedToSourceOrTarget move cam :=
  ⟨@StoreOperation.apply plainText (.requestCameraMoveAbort 20 "cancelled" false) movingStore,
    @Reachable.operate plainText _ _ moving_store_reachable _ (by decide), by decide⟩

end RtspProxy.Nodes
