import RtspProxy.Reconcile.Sites

/-!
# The protocol between the reconcilers

What every thread may rely on: a guard is taken away from nobody, the table of
a guarded node and the saga of a move between guarded nodes are left to the
holder of the guards, and the log only grows. What every thread has to see to
before a call: a path is put only where it is admitted, a site is given up only
when it is clear, and a revision is recorded as applied only after its path has
been read back.
-/

namespace RtspProxy.Reconcile

open Nodes Lib Lib.Program InMemoryNodeStore CameraReconciler Lib.RecordTable
  CameraMoveReconciler

/-- The path was read back on the node after the revision had been written. -/
def Checked (log : List Event) (cameraId : UUID) (revision : Int) (nodeId : UUID)
    (path : MediaPathConfig) : Prop :=
  ∃ newer older, log = newer ++ Event.read nodeId path.name (some path) :: older ∧
    Event.wrote cameraId revision ∈ older

/-- The current revision was recorded as applied after its path had been read back. -/
def Verified (log : List Event) (cam : CameraPlacement) : Prop :=
  ∃ newer older generation, log = newer ++ Event.applied cam.id cam.desiredRevision generation
      cam.desiredRevision generation :: older ∧
    Checked older cam.id cam.desiredRevision cam.nodeId (cameraPath cam)

/-- Nothing was recorded as applied that was computed from another revision or generation. -/
def StampsCurrent (log : List Event) : Prop :=
  ∀ cameraId computedRevision computedGeneration currentRevision currentGeneration,
    Event.applied cameraId computedRevision computedGeneration currentRevision currentGeneration ∈
      log → computedRevision = currentRevision ∧ computedGeneration = currentGeneration

theorem checked_mono {log : List Event} {cameraId : UUID} {revision : Int} {nodeId : UUID}
    {path : MediaPathConfig} (added : List Event)
    (checked : Checked log cameraId revision nodeId path) :
    Checked (added ++ log) cameraId revision nodeId path := by
  obtain ⟨newer, older, rfl, wrote⟩ := checked
  exact ⟨added ++ newer, older, by rw [List.append_assoc], wrote⟩

theorem verified_mono {log : List Event} {cam : CameraPlacement} (added : List Event)
    (verified : Verified log cam) : Verified (added ++ log) cam := by
  obtain ⟨newer, older, generation, rfl, checked⟩ := verified
  exact ⟨added ++ newer, older, generation, by rw [List.append_assoc], checked⟩

section Steps

variable {store post : InMemoryNodeStore} {label : StepLabel}

theorem step_cameras_from (step : StoreStep store label post) :
    (∀ later ∈ post.cameras, ∃ cam ∈ store.cameras,
      later.id = cam.id ∧ later.publicId = cam.publicId) ∨
      ∃ placed, label = .place placed.publicId ∧ post.cameras = store.cameras ++ [placed] := by
  have replaced {cam upd : CameraPlacement} (present : cam ∈ store.cameras)
      (sameId : upd.id = cam.id) (samePublicId : upd.publicId = cam.publicId) :
      ∀ later ∈ replace CameraPlacement.id upd store.cameras,
        ∃ cam ∈ store.cameras, later.id = cam.id ∧ later.publicId = cam.publicId := by
    intro later mem
    rcases mem_of_mem_replace mem with rfl | inCameras
    · exact ⟨cam, present, sameId, samePublicId⟩
    · exact ⟨later, inCameras, rfl, rfl⟩
  cases step with
  | requests | registerNode | commandNode | removeNode | beginPortChange | abortPortChange
  | sourceCleaned | abortMove =>
    exact .inl fun later mem => ⟨later, mem, rfl, rfl⟩
  | completePortChange =>
    refine .inl ?_
    intro later mem
    obtain ⟨cam, original, rfl⟩ := List.mem_map.mp mem
    refine ⟨cam, original, ?_⟩
    split_ifs <;> exact ⟨rfl, rfl⟩
  | placeCamera selected cam => exact .inr ⟨cam, rfl, rfl⟩
  | editCamera cam upd found live idle sameId samePublicId =>
    exact .inl (replaced (lookup_mem found) sameId samePublicId)
  | markApplied cam found => exact .inl (replaced (lookup_mem found) rfl rfl)
  | markDeleted cam node found => exact .inl (replaced (lookup_mem found) rfl rfl)
  | createMove cam move source target found =>
    exact .inl (replaced (lookup_mem found) rfl rfl)
  | switchMove move cam source target moveFound found =>
    exact .inl (replaced (lookup_mem found) rfl rfl)
  | requestAbort move cam reason moveFound found =>
    refine .inl ?_
    dsimp only [putMove]
    split_ifs
    · exact replaced (lookup_mem found) rfl rfl
    · exact fun later mem => ⟨later, mem, rfl, rfl⟩
  | completeMove move cam moveFound found =>
    exact .inl (replaced (lookup_mem found) rfl rfl)

theorem step_camera_nodes (lifecycle : Lifecycle store.cameras store.cameraMoves)
    (step : StoreStep store label post) :
    ∀ cam ∈ store.cameras, ∃ later ∈ post.cameras, later.id = cam.id ∧
      (later.nodeId = cam.nodeId ∨ ∃ move, label = .switchMove move.id ∧
        store.findMove move.id = some move ∧ move.state = .prepareTarget ∧
        cam.nodeId = move.sourceNodeId) := by
  have stays {cam : CameraPlacement} (upd : CameraPlacement)
      (found : store.findCamera cam.id = some cam) (sameId : upd.id = cam.id)
      (sameNode : upd.nodeId = cam.nodeId) :
      ∀ other ∈ store.cameras, ∃ later ∈ replace CameraPlacement.id upd store.cameras,
          later.id = other.id ∧ (later.nodeId = other.nodeId ∨ ∃ move, label = .switchMove move.id ∧
            store.findMove move.id = some move ∧ move.state = .prepareTarget ∧
            other.nodeId = move.sourceNodeId) := by
    intro other mem
    by_cases same : other.id = upd.id
    · have isCamera : other = cam := distinct_eq lifecycle.cameraIds mem
        (lookup_mem found) (same.trans sameId)
      subst isCamera
      exact ⟨upd, updated_mem_replace mem same, sameId, .inl sameNode⟩
    · exact ⟨other, mem_replace_of_ne mem same, rfl, .inl rfl⟩
  have ofMove {cameraId : UUID} {cam : CameraPlacement}
      (found : store.findCamera cameraId = some cam) :
      store.findCamera cam.id = some cam := by
    rw [find_camera_id found]
    exact found
  cases step with
  | requests | registerNode | commandNode | removeNode | beginPortChange | abortPortChange
  | sourceCleaned | abortMove =>
    exact fun cam mem => ⟨cam, mem, rfl, .inl rfl⟩
  | completePortChange =>
    intro cam mem
    refine ⟨_, List.mem_map_of_mem mem, ?_⟩
    split_ifs <;> exact ⟨rfl, .inl rfl⟩
  | placeCamera selected cam =>
    exact fun other mem => ⟨other, List.mem_append_left _ mem, rfl, .inl rfl⟩
  | editCamera cam upd found live idle sameId samePublicId samePlacement =>
    exact stays _ found sameId samePlacement.1
  | markApplied cam found => exact stays _ found rfl rfl
  | markDeleted cam node found => exact stays _ found rfl rfl
  | createMove cam move source target found => exact stays _ found rfl rfl
  | switchMove move cam source target moveFound found sourceFound targetFound preparing fence =>
    intro other mem
    by_cases same : other.id = cam.id
    · have isCamera : other = cam :=
        distinct_eq lifecycle.cameraIds mem (lookup_mem found) same
      subst isCamera
      exact ⟨_, updated_mem_replace mem rfl, rfl, .inr ⟨move, rfl, moveFound, preparing, fence.1⟩⟩
    · exact ⟨other, mem_replace_of_ne mem same, rfl, .inl rfl⟩
  | requestAbort move cam reason moveFound found =>
    by_cases cur : cam.desiredRevision = move.desiredRevision
    · rw [if_pos cur]
      exact stays { cam with desiredRevision := cam.desiredRevision + 1 } (ofMove found) rfl
        rfl
    · rw [if_neg cur]
      exact fun other mem => ⟨other, mem, rfl, .inl rfl⟩
  | completeMove move cam moveFound found => exact stays _ (ofMove found) rfl rfl

/-- The operations that carry a move on, each from the state it starts in. -/
def Advances (label : StepLabel) (move : CameraMove) : Prop :=
  label = .switchMove move.id ∧ move.state = .prepareTarget ∨
    label = .sourceCleaned move.id ∧ move.state = .cleanupSource ∨
    label = .abortMove move.id ∧ move.state = .cleanupTarget ∨
    label = .completeMove move.id ∧ move.state = .activateTarget

theorem step_move_states (lifecycle : Lifecycle store.cameras store.cameraMoves)
    (step : StoreStep store label post) :
    ∀ move ∈ store.cameraMoves, ∃ later ∈ post.cameraMoves, later.id = move.id ∧
      (later.state = move.state ∨ move.state = .prepareTarget ∧ later.state = .cleanupTarget ∨
        Advances label move) := by
  have advanced {move next : CameraMove} (moveFound : store.findMove move.id = some move)
      (sameId : next.id = move.id)
      (allowed : move.state = .prepareTarget ∧ next.state = .cleanupTarget ∨ Advances label move) :
      ∀ other ∈ store.cameraMoves,
        ∃ later ∈ replace CameraMove.id next store.cameraMoves, later.id = other.id ∧
          (later.state = other.state ∨
            other.state = .prepareTarget ∧ later.state = .cleanupTarget ∨ Advances label other) := by
    intro other mem
    by_cases same : other.id = next.id
    · have isMove : other = move := distinct_eq lifecycle.moveIds mem
        (lookup_mem moveFound) (same.trans sameId)
      subst isMove
      exact ⟨next, updated_mem_replace mem same, sameId, .inr allowed⟩
    · exact ⟨other, mem_replace_of_ne mem same, rfl, .inl rfl⟩
  cases step with
  | requests | registerNode | commandNode | removeNode | beginPortChange | completePortChange
  | abortPortChange | placeCamera | editCamera | markApplied | markDeleted =>
    exact fun move mem => ⟨move, mem, rfl, .inl rfl⟩
  | createMove =>
    exact fun move mem => ⟨move, List.mem_append_left _ mem, rfl, .inl rfl⟩
  | switchMove move cam source target moveFound found sourceFound targetFound preparing =>
    exact advanced moveFound rfl (.inr (.inl ⟨rfl, preparing⟩))
  | sourceCleaned move moveFound switched =>
    exact advanced moveFound rfl (.inr (.inr (.inl ⟨rfl, switched⟩)))
  | requestAbort move cam reason moveFound found preparing =>
    by_cases cur : cam.desiredRevision = move.desiredRevision
    · rw [if_pos cur]
      exact advanced moveFound rfl (.inl ⟨preparing, rfl⟩)
    · rw [if_neg cur]
      exact advanced moveFound rfl (.inl ⟨preparing, rfl⟩)
  | abortMove move moveFound aborting =>
    exact advanced moveFound rfl (.inr (.inr (.inr (.inl ⟨rfl, aborting⟩))))
  | completeMove move cam moveFound found activating =>
    exact advanced moveFound rfl (.inr (.inr (.inr (.inr ⟨rfl, activating⟩))))

end Steps

end RtspProxy.Reconcile
