import RtspProxy.Reconcile.Protocol

/-!
# The invariant of the reconcilers and what each call does to it

The invariant joins the store, the path tables and the log. Calls that only
touch the tables or the guards are easy; a store operation is followed through
the step it takes. `protocol` at the end packs the invariant, the effect a call
may have on other threads, and the permission each call needs.
-/

namespace RtspProxy.Reconcile

open Nodes Lib Lib.Program InMemoryNodeStore CameraReconciler Lib.RecordTable List Option
  CameraMoveReconciler
open StoreOperation (label)

/-- What holds of the store on its own. -/
structure StoreFacts (store : InMemoryNodeStore) : Prop where
  nodeIds : DistinctKeys MediaNode.id store.nodes
  lifecycle : Lifecycle store.cameras store.cameraMoves
  publicIds : ∀ left ∈ store.cameras, ∀ right ∈ store.cameras, left.publicId = right.publicId →
    left.id = right.id
  /-- Every move, also one that has ended, is of a camera and between two nodes. -/
  moveRecords : ∀ move ∈ store.cameraMoves, move.sourceNodeId ≠ move.targetNodeId ∧
    ∃ cam ∈ store.cameras, cam.id = move.cameraId ∧ cam.publicId = move.publicId

theorem one_camera {store : InMemoryNodeStore} (facts : StoreFacts store)
    {cam other : CameraPlacement} (mem : cam ∈ store.cameras) (isOther : other ∈ store.cameras)
    (same : cam.publicId = other.publicId) : cam = other :=
  distinct_eq facts.lifecycle.cameraIds mem isOther (facts.publicIds cam mem other isOther same)

structure Invariant (w : World) : Prop where
  facts : StoreFacts w.store
  tables : ∀ nodeId, DistinctKeys MediaPathConfig.name (w.media nodeId)
  admitted : AllAdmitted w.store w.media
  written : ∀ cam ∈ w.store.cameras, Event.wrote cam.id cam.desiredRevision ∈ w.log
  verified : ∀ cam ∈ w.store.cameras, cam.state = .enabled →
    cam.appliedRevision = cam.desiredRevision → Verified w.log cam
  stamps : StampsCurrent w.log

def HoldsBoth (tid : Nat) (w : World) (move : CameraMove) : Prop :=
  w.guards move.sourceNodeId = some tid ∧ w.guards move.targetNodeId = some tid

/-- What the other threads may see of a step of `actor`. -/
structure Effect (actor : Nat) (pre after : World) : Prop where
  guards : ∀ nodeId tid, pre.guards nodeId = some tid → tid ≠ actor →
    after.guards nodeId = some tid
  media : ∀ nodeId, pre.guards nodeId ≠ some actor → after.media nodeId = pre.media nodeId
  log : ∃ added, after.log = added ++ pre.log
  cameras : ∀ cam ∈ pre.store.cameras, ∃ later ∈ after.store.cameras, CameraEvolves cam later ∧
      (later.nodeId = cam.nodeId ∨ pre.guards cam.nodeId = some actor)
  moves : ∀ move ∈ pre.store.cameraMoves, ∃ later ∈ after.store.cameraMoves,
    MoveEvolves move later ∧
      (later.state = move.state ∨ move.state = .prepareTarget ∧ later.state = .cleanupTarget ∨
        HoldsBoth actor pre move)
  started : ∀ later ∈ after.store.cameraMoves, later.state = .prepareTarget ∨
    ∃ move ∈ pre.store.cameraMoves, later.id = move.id

def Permitted (tid : Nat) (w : World) : Call → Prop
  | .putPath nodeId path => w.guards nodeId = some tid ∧ Admitted w.store nodeId path
  | .deletePath nodeId _ => w.guards nodeId = some tid
  | .markCameraApplied cameraId nodeId placementGeneration desired =>
    ∀ cam ∈ w.store.cameras, cam.id = cameraId → cam.nodeId = nodeId →
      cam.placementGeneration = placementGeneration →
      cam.desiredRevision = desired → cam.state = .enabled →
      Checked w.log cameraId desired nodeId (cameraPath cam)
  | .switchCameraMove moveId => ∀ move, w.store.findMove moveId = some move →
      move.state = .prepareTarget → HoldsBoth tid w move ∧
        ∀ path ∈ w.media move.sourceNodeId, path.name = move.publicId → ¬path.IsOpen
  | .markCameraMoveSourceCleaned moveId => ∀ move, w.store.findMove moveId = some move →
      move.state = .cleanupSource → HoldsBoth tid w move ∧
        ∀ path ∈ w.media move.sourceNodeId, path.name ≠ move.publicId
  | .abortCameraMove moveId => ∀ move, w.store.findMove moveId = some move →
      move.state = .cleanupTarget → HoldsBoth tid w move ∧
        ∀ path ∈ w.media move.targetNodeId, path.name ≠ move.publicId
  | .completeCameraMove moveId => ∀ move, w.store.findMove moveId = some move →
      move.state = .activateTarget → HoldsBoth tid w move ∧
        Checked w.log move.cameraId move.desiredRevision move.targetNodeId (openPath move)
  | .operate op =>
    match op.label with
    | .command | .register _ | .place _ | .settlePort _ => True
    | _ => False
  | _ => True

section Facts

variable {store after : InMemoryNodeStore} {label : StepLabel}

theorem public_ids_step (facts : StoreFacts store)
    (fresh : ∀ publicId, label = .place publicId → ∀ cam ∈ store.cameras, cam.publicId ≠ publicId)
    (step : StoreStep store label after) :
    ∀ left ∈ after.cameras, ∀ right ∈ after.cameras, left.publicId = right.publicId →
      left.id = right.id := by
  intro left leftMember right rightMember same
  rcases step_cameras_from step with fromOld | ⟨placed, isPlace, cameras⟩
  · obtain ⟨leftOld, leftOldMember, leftId, leftName⟩ := fromOld left leftMember
    obtain ⟨rightOld, rightOldMember, rightId, rightName⟩ := fromOld right rightMember
    rw [leftId, rightId]
    refine facts.publicIds leftOld leftOldMember rightOld rightOldMember ?_
    rw [← leftName, same, rightName]
  · have unused := fresh placed.publicId isPlace
    rw [cameras, mem_append, mem_singleton] at leftMember rightMember
    rcases leftMember with leftOld | rfl <;> rcases rightMember with rightOld | rfl
    · exact facts.publicIds left leftOld right rightOld same
    · exact absurd same (unused left leftOld)
    · exact absurd same.symm (unused right rightOld)
    · rfl

theorem move_records_step (facts : StoreFacts store) (step : StoreStep store label after) :
    ∀ move ∈ after.cameraMoves, move.sourceNodeId ≠ move.targetNodeId ∧
      ∃ cam ∈ after.cameras, cam.id = move.cameraId ∧ cam.publicId = move.publicId := by
  obtain ⟨lifecycle, evolves⟩ := lifecycle_step facts.lifecycle step
  intro later mem
  rcases evolves.movesStarted later mem with preparing | ⟨move, old, moveEvolves⟩
  · have active : cameraMoveIsTerminal later.state = false := by rw [preparing]; rfl
    obtain ⟨cam, cameraMember, pins⟩ := lifecycle.pinned later mem active
    exact ⟨pins.twoNodes, cam, cameraMember, pins.ofCamera, pins.publicId⟩
  · obtain ⟨twoNodes, cam, cameraMember, ofCamera, named⟩ := facts.moveRecords move old
    obtain ⟨laterCamera, laterMember, cameraEvolves⟩ := evolves.camerasEvolve cam cameraMember
    rw [moveEvolves.samePlan]
    exact ⟨twoNodes, laterCamera, laterMember, cameraEvolves.sameId.trans ofCamera,
      cameraEvolves.samePublicId.trans named⟩

theorem store_facts_step (facts : StoreFacts store)
    (fresh : ∀ publicId, label = .place publicId → ∀ cam ∈ store.cameras, cam.publicId ≠ publicId)
    (step : StoreStep store label after) : StoreFacts after :=
  ⟨step_node_ids step facts.nodeIds, (lifecycle_step facts.lifecycle step).1,
    public_ids_step facts fresh step, move_records_step facts step⟩

end Facts

section Log

variable [PythonText] {w : World} {op : StoreOperation}

variable {log : List Event}

omit [PythonText] in
theorem written_step {pre after : InMemoryNodeStore} {rest : List Event}
    (written : ∀ cam ∈ pre.cameras, Event.wrote cam.id cam.desiredRevision ∈ log) :
    ∀ cam ∈ after.cameras, Event.wrote cam.id cam.desiredRevision ∈
      revisionsWritten pre after ++ rest ++ log := by
  intro cam mem
  by_cases old : ∃ earlier ∈ pre.cameras,
      earlier.id = cam.id ∧ earlier.desiredRevision = cam.desiredRevision
  · obtain ⟨earlier, earlierMember, sameId, sameRevision⟩ := old
    rw [← sameId, ← sameRevision]
    exact mem_append_right _ (written earlier earlierMember)
  · refine mem_append_left _ (mem_append_left _ ?_)
    refine mem_map.mpr ⟨cam, mem_filter.mpr ⟨mem, ?_⟩, rfl⟩
    simpa using old

variable {store : InMemoryNodeStore}

omit [PythonText] in
theorem records_applied_current (op : StoreOperation)
    (lifecycle : Lifecycle store.cameras store.cameraMoves) :
    StampsCurrent (recordsApplied store op) := by
  intro cameraId computedRevision computedGeneration currentRevision currentGeneration mem
  unfold recordsApplied at mem
  split at mem
  · next markedId nodeId placementGeneration desired =>
      split at mem
      · next after ran =>
          unfold stamp at mem
          split at mem
          · next cam found =>
              simp only [mem_singleton, Event.applied.injEq] at mem
              obtain ⟨rfl, rfl, rfl, rfl, rfl⟩ := mem
              simp only [markCameraApplied, found, Raising.ite_ok, Raising.pure_ok, Prod.mk_inj,
                Bool.false_eq_true, false_and, and_false, false_or, not_or, not_not] at ran
              exact ⟨ran.1.2.2.symm, ran.1.2.1.symm⟩
          · cases mem
      · cases mem
  · next moveId =>
      split at mem
      · next move moveFound =>
          split_ifs at mem with activating
          · unfold stamp at mem
            split at mem
            · next cam found =>
                simp only [mem_singleton, Event.applied.injEq] at mem
                obtain ⟨rfl, rfl, rfl, rfl, rfl⟩ := mem
                have active : cameraMoveIsTerminal move.state = false := by rw [activating]; rfl
                have pins := found_camera_pinned lifecycle (lookup_mem moveFound) active found
                have placed := pins.placed
                simp only [PlacedFor, activating] at placed
                exact ⟨placed.2.2.symm, placed.2.1.symm⟩
            · cases mem
          · cases mem
      · cases mem
  · cases mem

variable {cam : CameraPlacement}

omit [PythonText] in
theorem verified_congr {other : CameraPlacement} (sameId : other.id = cam.id)
    (sameRevision : other.desiredRevision = cam.desiredRevision)
    (sameNode : other.nodeId = cam.nodeId) (samePath : cameraPath other = cameraPath cam)
    (verified : Verified log cam) : Verified log other := by
  unfold Verified
  rw [sameId, sameRevision, sameNode, samePath]
  exact verified

omit [PythonText] in
theorem label_mark {cameraId nodeId : UUID} {gen revision : Int}
    (isMark : op.label = .mark cameraId nodeId gen revision) :
    op = .markCameraApplied cameraId nodeId gen revision := by
  cases op <;> simp_all [label]

omit [PythonText] in
theorem label_complete {moveId : UUID} (isComplete : op.label = .completeMove moveId) :
    op = .completeCameraMove moveId := by
  cases op <;> simp_all [label]

omit [PythonText] in
theorem records_mark (found : store.findCamera cam.id = some cam)
    (idle : store.cameraHasActiveMove cam.id = false) (notDeleting : cam.state ≠ .deleting) :
    recordsApplied store (.markCameraApplied cam.id cam.nodeId cam.placementGeneration
        cam.desiredRevision) =
      [.applied cam.id cam.desiredRevision cam.placementGeneration cam.desiredRevision
        cam.placementGeneration] := by
  have marked : store.markCameraApplied cam.id cam.nodeId cam.placementGeneration
      cam.desiredRevision = .ok (true, store.putCamera
        { cam with appliedRevision := cam.desiredRevision }) := by
    simp [markCameraApplied, found, idle, notDeleting, pure, Except.pure]
  simp only [recordsApplied, marked, stamp, found]

omit [PythonText] in
theorem records_complete {move : CameraMove} (moveFound : store.findMove move.id = some move)
    (found : store.findCamera move.cameraId = some cam)
    (activating : move.state = .activateTarget) :
    recordsApplied store (.completeCameraMove move.id) =
      [.applied move.cameraId move.desiredRevision move.targetGeneration cam.desiredRevision
        cam.placementGeneration] := by
  simp only [recordsApplied, moveFound, activating, if_true, stamp, found]

omit [PythonText] in
theorem verified_stamp {newer : List Event} (gen : Int)
    (checked : Checked log cam.id cam.desiredRevision cam.nodeId (cameraPath cam)) :
    Verified (newer ++ [.applied cam.id cam.desiredRevision gen cam.desiredRevision
      gen] ++ log) cam :=
  ⟨newer, log, gen, by rw [append_assoc]; rfl, checked⟩

omit [PythonText] in
theorem verified_step {after : InMemoryNodeStore} {label : StepLabel}
    (isLabel : op.label = label) (facts : StoreFacts store)
    (verified : ∀ cam ∈ store.cameras, cam.state = .enabled →
      cam.appliedRevision = cam.desiredRevision → Verified log cam)
    (marks : ∀ cameraId nodeId gen revision, label = .mark cameraId nodeId gen revision →
      ∀ cam ∈ store.cameras, cam.id = cameraId → cam.nodeId = nodeId →
        cam.placementGeneration = gen → cam.desiredRevision = revision →
        cam.state = .enabled → Checked log cameraId revision nodeId (cameraPath cam))
    (completes : ∀ moveId, label = .completeMove moveId → ∀ move,
      store.findMove moveId = some move → move.state = .activateTarget →
      Checked log move.cameraId move.desiredRevision move.targetNodeId (openPath move))
    (step : StoreStep store label after) :
    ∀ cam ∈ after.cameras, cam.state = .enabled → cam.appliedRevision = cam.desiredRevision →
      Verified (revisionsWritten store after ++ recordsApplied store op ++ log) cam := by
  have kept : ∀ cam ∈ store.cameras, cam.state = .enabled →
      cam.appliedRevision = cam.desiredRevision →
      Verified (revisionsWritten store after ++ recordsApplied store op ++ log) cam := by
    intro cam mem enabled cur
    exact verified_mono _ (verified cam mem enabled cur)
  have replaced {upd : CameraPlacement}
      (holds : upd.state = .enabled → upd.appliedRevision = upd.desiredRevision →
        Verified (revisionsWritten store after ++ recordsApplied store op ++ log) upd) :
      ∀ cam ∈ replace CameraPlacement.id upd store.cameras,
        cam.state = .enabled → cam.appliedRevision = cam.desiredRevision →
        Verified (revisionsWritten store after ++ recordsApplied store op ++ log) cam := by
    intro cam mem enabled cur
    rcases mem_of_mem_replace mem with rfl | inCameras
    · exact holds enabled cur
    · exact kept cam inCameras enabled cur
  have ordered {cameraId : UUID} {cam : CameraPlacement}
      (found : store.findCamera cameraId = some cam) :=
    facts.lifecycle.revisions cam (lookup_mem found)
  cases step with
  | requests | registerNode | commandNode | removeNode | beginPortChange | abortPortChange
  | sourceCleaned | abortMove => exact kept
  | completePortChange =>
    intro published mem enabled cur
    obtain ⟨cam, original, rfl⟩ := mem_map.mp mem
    split_ifs at enabled cur ⊢ with here
    · exact verified_congr rfl rfl rfl rfl (kept cam original enabled cur)
    · exact kept cam original enabled cur
  | placeCamera selected placed cameraRequests found capacity fresh onNode port enabled gen
      revisions =>
      intro cam mem isEnabled cur
      rcases mem_append.mp mem with inCameras | isNew
      · exact kept cam inCameras isEnabled cur
      · rw [mem_singleton.mp isNew] at cur
        omega
  | editCamera cam upd found live idle sameId samePublicId samePlacement sameApplied
      revision =>
      refine replaced ?_
      intro _ cur
      have := ordered found
      omega
  | markApplied cam found idle notDeleting =>
    refine replaced ?_
    intro enabled _
    have checked := marks _ _ _ _ rfl cam (lookup_mem found) rfl rfl rfl rfl enabled
    rw [label_mark isLabel, records_mark found idle notDeleting]
    exact verified_stamp cam.placementGeneration checked
  | markDeleted cam node found =>
    refine replaced ?_
    intro enabled
    cases enabled
  | createMove cam move source target found =>
    refine replaced ?_
    intro _ cur
    have := ordered found
    dsimp only at cur
    omega
  | switchMove move cam source target moveFound found sourceFound targetFound preparing =>
    have active : cameraMoveIsTerminal move.state = false := by rw [preparing]; rfl
    have pins := found_camera_pinned facts.lifecycle (lookup_mem moveFound) active found
    refine replaced ?_
    intro _ cur
    exact absurd cur (ne_of_lt pins.pending)
  | requestAbort move cam reason moveFound found preparing =>
    have active : cameraMoveIsTerminal move.state = false := by rw [preparing]; rfl
    have pins := found_camera_pinned facts.lifecycle (lookup_mem moveFound) active found
    have placed := pins.placed
    simp only [PlacedFor, preparing] at placed
    simp only [if_pos placed.2.2] at replaced ⊢
    refine replaced ?_
    intro _ cur
    have := ordered found
    dsimp only at cur
    omega
  | completeMove move cam moveFound found activating =>
    have active : cameraMoveIsTerminal move.state = false := by rw [activating]; rfl
    have pins := found_camera_pinned facts.lifecycle (lookup_mem moveFound) active found
    have placed := pins.placed
    simp only [PlacedFor, activating] at placed
    have checked := completes _ rfl move moveFound activating
    have samePath : cameraPath cam = openPath move := by
      simp only [cameraPath, openPath, pins.publicId, pins.sourceUrl]
    refine replaced ?_
    intro _ _
    rw [label_complete isLabel, records_complete moveFound found activating, ← pins.ofCamera,
      ← placed.2.1, ← placed.2.2]
    refine verified_stamp cam.placementGeneration ?_
    rw [← pins.ofCamera, ← placed.1, ← placed.2.2, ← samePath] at checked
    exact checked

end Log

section Calls

variable [PythonText] {tid : Nat} {w after : World}

omit [PythonText] in
theorem effect_refl (tid : Nat) (w : World) : Effect tid w w := by
  refine ⟨fun _ _ held _ => held, fun _ _ => rfl, ⟨[], rfl⟩, ?_, ?_, ?_⟩
  · exact fun cam mem => ⟨cam, mem, camera_evolves_refl cam, .inl rfl⟩
  · exact fun move mem => ⟨move, mem, move_evolves_refl move, .inl rfl⟩
  · exact fun later mem => .inr ⟨later, mem, rfl⟩

omit [PythonText] in
theorem stamps_append {newer older : List Event} (newerCurrent : StampsCurrent newer)
    (olderCurrent : StampsCurrent older) : StampsCurrent (newer ++ older) := by
  intro cameraId computedRevision computedGeneration currentRevision currentGeneration mem
  rcases mem_append.mp mem with inNewer | inOlder
  · exact newerCurrent _ _ _ _ _ inNewer
  · exact olderCurrent _ _ _ _ _ inOlder

omit [PythonText] in
theorem stamps_written (pre after : InMemoryNodeStore) :
    StampsCurrent (revisionsWritten pre after) := by
  intro cameraId computedRevision computedGeneration currentRevision currentGeneration mem
  obtain ⟨cam, _, isWrote⟩ := mem_map.mp mem
  cases isWrote

/-- What a store operation needs from its caller. -/
structure OperationReady (tid : Nat) (w : World) (op : StoreOperation) : Prop where
  fresh : op.Fresh w.store
  freshName : ∀ publicId, op.label = .place publicId → ∀ cam ∈ w.store.cameras,
    cam.publicId ≠ publicId
  cleared : SitesCleared w.store w.media op.label
  held : ∀ move ∈ w.store.cameraMoves, Advances op.label move → HoldsBoth tid w move
  marks : ∀ cameraId nodeId generation revision,
    op.label = .mark cameraId nodeId generation revision →
    ∀ cam ∈ w.store.cameras, cam.id = cameraId → cam.nodeId = nodeId →
      cam.placementGeneration = generation → cam.desiredRevision = revision →
      cam.state = .enabled → Checked w.log cameraId revision nodeId (cameraPath cam)
  completes : ∀ moveId, op.label = .completeMove moveId → ∀ move,
    w.store.findMove moveId = some move → move.state = .activateTarget →
    Checked w.log move.cameraId move.desiredRevision move.targetNodeId (openPath move)

variable {op : StoreOperation}

theorem operated_invariant (inv : Invariant w)
    (ready : OperationReady tid w op) : Invariant (w.operated op) := by
  have step := apply_step inv.facts.nodeIds ready.fresh
  refine ⟨store_facts_step inv.facts ready.freshName step, inv.tables,
    admitted_step inv.facts.lifecycle ready.cleared step inv.admitted,
    written_step inv.written,
    verified_step rfl inv.facts inv.verified ready.marks ready.completes step, ?_⟩
  exact stamps_append (stamps_append (stamps_written _ _)
    (records_applied_current op inv.facts.lifecycle)) inv.stamps

theorem operated_effect (inv : Invariant w) (ready : OperationReady tid w op) :
    Effect tid w (w.operated op) := by
  have step := apply_step inv.facts.nodeIds ready.fresh
  obtain ⟨lifecycle, evolves⟩ := lifecycle_step inv.facts.lifecycle step
  refine ⟨fun _ _ held _ => held, fun _ _ => rfl, ⟨_, rfl⟩, ?_, ?_, ?_⟩
  · intro cam mem
    obtain ⟨later, laterMember, cameraEvolves⟩ := evolves.camerasEvolve cam mem
    refine ⟨later, laterMember, cameraEvolves, ?_⟩
    obtain ⟨moved, movedMember, sameId, stays⟩ :=
      step_camera_nodes inv.facts.lifecycle step cam mem
    have isLater : moved = later := distinct_eq lifecycle.cameraIds movedMember
      laterMember (sameId.trans cameraEvolves.sameId.symm)
    subst isLater
    rcases stays with sameNode | ⟨move, isSwitch, moveFound, preparing, leaving⟩
    · exact .inl sameNode
    · have held := ready.held move (lookup_mem moveFound)
        (.inl ⟨isSwitch, preparing⟩)
      exact .inr (leaving ▸ held.1)
  · intro move mem
    obtain ⟨later, laterMember, moveEvolves⟩ := evolves.movesEvolve move mem
    refine ⟨later, laterMember, moveEvolves, ?_⟩
    obtain ⟨moved, movedMember, sameId, states⟩ :=
      step_move_states inv.facts.lifecycle step move mem
    have isLater : moved = later := distinct_eq lifecycle.moveIds movedMember
      laterMember (sameId.trans moveEvolves.sameId.symm)
    subst isLater
    rcases states with same | requested | advances
    · exact .inl same
    · exact .inr (.inl requested)
    · exact .inr (.inr (ready.held move mem advances))
  · intro later mem
    rcases evolves.movesStarted later mem with preparing | ⟨move, old, moveEvolves⟩
    · exact .inl preparing
    · exact .inr ⟨move, old, moveEvolves.sameId⟩

theorem mutate_sound (fault : Fault) (inv : Invariant w) (ready : OperationReady tid w op) :
    Invariant (mutate fault op w).2 ∧ Effect tid w (mutate fault op w).2 := by
  cases fault with
  | before => exact ⟨inv, effect_refl tid w⟩
  | none | after => exact ⟨operated_invariant inv ready, operated_effect inv ready⟩

omit [PythonText] in
theorem set_table_sound {nodeId : UUID} {table : List MediaPathConfig} (inv : Invariant w)
    (held : w.guards nodeId = some tid) (distinct : DistinctKeys MediaPathConfig.name table)
    (admitted : ∀ path ∈ table, Admitted w.store nodeId path) :
    Invariant (setTable w nodeId table) ∧ Effect tid w (setTable w nodeId table) := by
  refine ⟨⟨inv.facts, ?_, ?_, inv.written, inv.verified, inv.stamps⟩,
    ⟨fun _ _ held _ => held, ?_, ⟨[], rfl⟩, (effect_refl tid w).cameras,
      (effect_refl tid w).moves, (effect_refl tid w).started⟩⟩
  · intro other
    dsimp only [setTable]
    split_ifs
    · exact distinct
    · exact inv.tables other
  · intro other path mem
    dsimp only [setTable] at mem
    split_ifs at mem with same
    · exact same ▸ admitted path mem
    · exact inv.admitted other path mem
  · intro other notHeld
    dsimp only [setTable]
    rw [if_neg]
    rintro rfl
    exact notHeld held

omit [PythonText] in
theorem change_table_sound {nodeId : UUID} (fault : Fault)
    (change : List MediaPathConfig → List MediaPathConfig) (inv : Invariant w)
    (held : w.guards nodeId = some tid)
    (distinct : DistinctKeys MediaPathConfig.name (change (w.media nodeId)))
    (admitted : ∀ path ∈ change (w.media nodeId), Admitted w.store nodeId path) :
    Invariant (changeTable fault nodeId change w).2 ∧
      Effect tid w (changeTable fault nodeId change w).2 := by
  cases fault with
  | before => exact ⟨inv, effect_refl tid w⟩
  | none | after => exact set_table_sound inv held distinct admitted

omit [PythonText] in
/-- Guards are no part of the invariant. -/
theorem guards_sound (guards : UUID → Option Nat) (inv : Invariant w)
    (others : ∀ nodeId owner, w.guards nodeId = some owner → owner ≠ tid →
      guards nodeId = some owner) :
    Invariant { w with guards := guards } ∧ Effect tid w { w with guards := guards } :=
  ⟨⟨inv.facts, inv.tables, inv.admitted, inv.written, inv.verified, inv.stamps⟩,
    ⟨others, fun _ _ => rfl, ⟨[], rfl⟩, (effect_refl tid w).cameras,
      (effect_refl tid w).moves, (effect_refl tid w).started⟩⟩

omit [PythonText] in
theorem read_logged_sound {nodeId : UUID} {name : PublicId} {path : Option MediaPathConfig}
    (inv : Invariant w) :
    Invariant { w with log := .read nodeId name path :: w.log } ∧
      Effect tid w { w with log := .read nodeId name path :: w.log } := by
  refine ⟨⟨inv.facts, inv.tables, inv.admitted, ?_, ?_, ?_⟩,
    ⟨fun _ _ held _ => held, fun _ _ => rfl, ⟨[_], rfl⟩, (effect_refl tid w).cameras,
      (effect_refl tid w).moves, (effect_refl tid w).started⟩⟩
  · intro cam mem
    exact mem_cons_of_mem _ (inv.written cam mem)
  · intro cam mem enabled cur
    exact verified_mono [_] (inv.verified cam mem enabled cur)
  · intro cameraId computedRevision computedGeneration currentRevision currentGeneration mem
    rcases mem_cons.mp mem with isRead | inLog
    · cases isRead
    · exact inv.stamps _ _ _ _ _ inLog

omit [PythonText] in
theorem advanced_found {label : StepLabel} {move : CameraMove} (inv : Invariant w)
    (mem : move ∈ w.store.cameraMoves) (advances : Advances label move) :
    ∃ moveId, w.store.findMove moveId = some move ∧
      (label = .switchMove moveId ∧ move.state = .prepareTarget ∨
        label = .sourceCleaned moveId ∧ move.state = .cleanupSource ∨
        label = .abortMove moveId ∧ move.state = .cleanupTarget ∨
        label = .completeMove moveId ∧ move.state = .activateTarget) :=
  ⟨move.id, lookup_of_mem inv.facts.lifecycle.moveIds mem, advances⟩

omit [PythonText] in
theorem ready_of_label (inv : Invariant w) (noId : op.generatedId = none)
    (notPlace : ∀ publicId, op.label ≠ .place publicId)
    (cleared : SitesCleared w.store w.media op.label)
    (held : ∀ moveId move, w.store.findMove moveId = some move →
      (op.label = .switchMove moveId ∧ move.state = .prepareTarget ∨
        op.label = .sourceCleaned moveId ∧ move.state = .cleanupSource ∨
        op.label = .abortMove moveId ∧ move.state = .cleanupTarget ∨
        op.label = .completeMove moveId ∧ move.state = .activateTarget) →
      HoldsBoth tid w move) (marks : ∀ cameraId nodeId gen revision,
      op.label = .mark cameraId nodeId gen revision →
      Permitted tid w (.markCameraApplied cameraId nodeId gen revision))
    (completes : ∀ moveId, op.label = .completeMove moveId →
      Permitted tid w (.completeCameraMove moveId)) :
    OperationReady tid w op := by
  refine ⟨?_, ?_, cleared, ?_, marks, ?_⟩
  · intro id given
    rw [noId] at given
    cases given
  · intro publicId isPlace
    exact absurd isPlace (notPlace publicId)
  · intro move mem advances
    obtain ⟨moveId, found, kinds⟩ := advanced_found inv mem advances
    exact held moveId move found kinds
  · intro moveId isComplete move found activating
    exact (completes moveId isComplete move found activating).2

omit [PythonText] in
theorem ready_client (fresh : FreshCall w (.operate op)) (client : Permitted tid w (.operate op)) :
    OperationReady tid w op := by
  obtain ⟨freshIds, freshNames⟩ := fresh
  have notSaga : (∀ cameraId nodeId gen revision,
      op.label ≠ .mark cameraId nodeId gen revision) ∧ ∀ moveId,
      op.label ≠ .switchMove moveId ∧ op.label ≠ .sourceCleaned moveId ∧
        op.label ≠ .abortMove moveId ∧ op.label ≠ .completeMove moveId := by
    simp only [Permitted] at client
    split at client <;> simp_all
  refine ⟨freshIds, fun publicId isPlace => (freshNames publicId isPlace).1, ?_, ?_, ?_, ?_⟩
  · simp only [Permitted] at client
    split at client <;> simp_all [SitesCleared]
  · intro move _ advances
    have apart := notSaga.2 move.id
    rcases advances with ⟨isLabel, _⟩ | ⟨isLabel, _⟩ | ⟨isLabel, _⟩ | ⟨isLabel, _⟩
    · exact absurd isLabel apart.1
    · exact absurd isLabel apart.2.1
    · exact absurd isLabel apart.2.2.1
    · exact absurd isLabel apart.2.2.2
  · intro cameraId nodeId gen revision isMark
    exact absurd isMark (notSaga.1 cameraId nodeId gen revision)
  · intro moveId isComplete
    exact absurd isComplete (notSaga.2 moveId).2.2.2

theorem call_sound {req : Call} {ans : Except Raised (Answer req)}
    (inv : Invariant w) (permitted : Permitted tid w req)
    (executed : machine.exec tid w req ans after) :
    Invariant after ∧ Effect tid w after := by
  have unchanged : Invariant w ∧ Effect tid w w :=
    ⟨inv, effect_refl tid w⟩
  have mutated {op : StoreOperation} (fault : Fault)
      (ready : OperationReady tid w op) :=
    mutate_sound fault inv ready
  obtain ⟨fresh, choice, resp⟩ := executed
  cases req with
  | cancelled =>
    simp only [respond, some.injEq, Prod.mk_inj] at resp
    exact resp.2 ▸ unchanged
  | acquire nodeId =>
    simp only [respond] at resp
    split_ifs at resp
    · exact (Prod.mk.inj (some.inj resp)).2 ▸ unchanged
    · exact (Prod.mk.inj (some.inj resp)).2 ▸ unchanged
    · split at resp
      · next free =>
          rw [← (Prod.mk.inj (some.inj resp)).2]
          refine guards_sound (setGuard w nodeId (some tid)).guards inv ?_
          intro other owner owned _
          refine (if_neg ?_).trans owned
          rintro rfl
          rw [free] at owned
          cases owned
      · cases resp
  | release nodeId =>
    simp only [respond, some.injEq, Prod.mk_inj] at resp
    rw [← resp.2]
    split_ifs with own
    · refine guards_sound (setGuard w nodeId none).guards inv ?_
      intro other owner owned differ
      refine (if_neg ?_).trans owned
      rintro rfl
      rw [own] at owned
      exact differ (some.inj owned).symm
    · exact unchanged
  | getNode | getCameraMove | listNodeCameras | listNodeActiveMoves =>
    simp only [respond, readStore] at resp
    split at resp <;> (try split at resp) <;> exact (Prod.mk.inj (some.inj resp)).2 ▸ unchanged
  | inventoryPaths | pathRuntimeStatus =>
    simp only [respond, readMedia] at resp
    split at resp <;> exact (Prod.mk.inj (some.inj resp)).2 ▸ unchanged
  | iterate =>
    simp only [respond, some.injEq, Prod.mk_inj] at resp
    exact resp.2 ▸ unchanged
  | getPath nodeId name =>
    simp only [respond, readMedia] at resp
    split at resp
    · exact (Prod.mk.inj (some.inj resp)).2 ▸ read_logged_sound inv
    · exact (Prod.mk.inj (some.inj resp)).2 ▸ unchanged
    · exact (Prod.mk.inj (some.inj resp)).2 ▸ unchanged
  | putPath nodeId path =>
    rw [← (Prod.mk.inj (some.inj resp)).2]
    refine change_table_sound choice.fault
      (fun table => path :: table.filter fun other => other.name ≠ path.name) inv
      permitted.1 ?_ ?_
    · refine distinct_cons.mpr ⟨?_, distinct_filter _ (inv.tables nodeId)⟩
      intro other mem
      simpa using (mem_filter.mp mem).2
    · intro other mem
      rcases mem_cons.mp mem with rfl | inTable
      · exact permitted.2
      · exact inv.admitted nodeId other (mem_of_mem_filter inTable)
  | deletePath nodeId name =>
    rw [← (Prod.mk.inj (some.inj resp)).2]
    refine change_table_sound choice.fault
      (fun table => table.filter fun other => other.name ≠ name) inv permitted
      (distinct_filter _ (inv.tables nodeId)) ?_
    intro other mem
    exact inv.admitted nodeId other (mem_of_mem_filter mem)
  | markCameraApplied cameraId nodeId placementGeneration desired =>
    rw [← (Prod.mk.inj (some.inj resp)).2]
    refine mutated choice.fault (ready_of_label inv rfl ?_ trivial ?_ ?_ ?_) <;>
      simp only [label]
    · simp
    · simp
    · rintro _ _ _ _ ⟨rfl, rfl, rfl, rfl⟩
      exact permitted
    · simp
  | switchCameraMove moveId =>
    rw [← (Prod.mk.inj (some.inj resp)).2]
    refine mutated choice.fault (ready_of_label inv rfl ?_ ?_ ?_ ?_ ?_)
    · simp [label]
    · intro move found preparing
      exact (permitted move found preparing).2
    · simp only [label]
      rintro _ move found (⟨same, preparing⟩ | ⟨⟨⟩, _⟩ | ⟨⟨⟩, _⟩ | ⟨⟨⟩, _⟩)
      cases same
      exact (permitted move found preparing).1
    · simp [label]
    · simp [label]
  | requestCameraMoveAbort moveId reason =>
    rw [← (Prod.mk.inj (some.inj resp)).2]
    refine mutated choice.fault (ready_of_label inv rfl ?_ trivial ?_ ?_ ?_) <;>
      simp [label]
  | markCameraMoveSourceCleaned moveId =>
    rw [← (Prod.mk.inj (some.inj resp)).2]
    refine mutated choice.fault (ready_of_label inv rfl ?_ ?_ ?_ ?_ ?_)
    · simp [label]
    · intro move found switched
      exact (permitted move found switched).2
    · simp only [label]
      rintro _ move found (⟨⟨⟩, _⟩ | ⟨same, switched⟩ | ⟨⟨⟩, _⟩ | ⟨⟨⟩, _⟩)
      cases same
      exact (permitted move found switched).1
    · simp [label]
    · simp [label]
  | abortCameraMove moveId =>
    rw [← (Prod.mk.inj (some.inj resp)).2]
    refine mutated choice.fault (ready_of_label inv rfl ?_ ?_ ?_ ?_ ?_)
    · simp [label]
    · intro move found aborting
      exact (permitted move found aborting).2
    · simp only [label]
      rintro _ move found (⟨⟨⟩, _⟩ | ⟨⟨⟩, _⟩ | ⟨same, aborting⟩ | ⟨⟨⟩, _⟩)
      cases same
      exact (permitted move found aborting).1
    · simp [label]
    · simp [label]
  | completeCameraMove moveId =>
    rw [← (Prod.mk.inj (some.inj resp)).2]
    refine mutated choice.fault (ready_of_label inv rfl ?_ trivial ?_ ?_ ?_)
    · simp [label]
    · simp only [label]
      rintro _ move found (⟨⟨⟩, _⟩ | ⟨⟨⟩, _⟩ | ⟨⟨⟩, _⟩ | ⟨same, activating⟩)
      cases same
      exact (permitted move found activating).1
    · simp [label]
    · simp only [label]
      rintro _ ⟨⟩
      exact permitted
  | operate op =>
    rw [← (Prod.mk.inj (some.inj resp)).2]
    exact mutated choice.fault (ready_client fresh permitted)

theorem leave_sound (tid : Nat) (inv : Invariant w) :
    Invariant (machine.leave tid w) ∧ Effect tid w (machine.leave tid w) := by
  refine guards_sound (releaseAll tid w).guards inv ?_
  intro nodeId owner owned differ
  refine (if_neg ?_).trans owned
  rw [owned]
  exact fun same => differ (some.inj same)

def protocol : Protocol machine where
  invariant := Invariant
  effect := Effect
  permitted := Permitted
  sound := call_sound
  leaves := fun tid _ invariant => leave_sound tid invariant

end Calls

end RtspProxy.Reconcile
