import RtspProxy.Reconcile.Resume

/-!
# The reconcilers as a system

Any number of threads resume moves, reconcile nodes and operate on the store
for other clients, one call at a time. A thread may end between any two of its
calls, every call may fail, and a guard is held by one thread at most. The
results hold in every state such a system reaches from empty nodes.
-/

namespace RtspProxy.Reconcile

open Nodes Lib Lib.Program Lib.Program.Prog
  InMemoryNodeStore CameraReconciler CameraMoveReconciler

/-- Operations that belong to no saga: those of the registration, the node commands and the
camera commands. Marking, switching, cleaning, aborting and completing are left to the
reconcilers, which are their only callers. -/
def ClientOperation (op : StoreOperation) : Prop :=
  match op.label with
  | .command | .register _ | .place _ | .settlePort _ => True
  | _ => False

instance (op : StoreOperation) : Decidable (ClientOperation op) := by
  unfold ClientOperation
  split <;> infer_instance

inductive Starts : Program Unit → Prop
  | resume (moveId : UUID) : Starts (do let _ ← resume moveId)
  | reconcileNode (nodeId : UUID) : Starts (do let _ ← reconcileNode nodeId)
  | client (op : StoreOperation) (isClient : ClientOperation op) :
      Starts (do let _ ← send (.operate op))

def emptyWorld (nodes : List MediaNode) : World where
  store := { nodes := nodes }
  media := fun _ => []
  guards := fun _ => none
  log := []

variable {w : World} {prog : Program Unit}

section System

variable [PythonText]

abbrev SystemOf (nodes : List MediaNode) : SystemState Call Answer Raised Unit World → Prop :=
  SystemReachable machine Starts (· = emptyWorld nodes)

omit [PythonText] in
theorem empty_world_invariant {nodes : List MediaNode} (initial : InitialNodes nodes) :
    Invariant (emptyWorld nodes) := by
  refine ⟨⟨initial.ids, lifecycle_initial nodes, ?_, ?_⟩, ?_, ?_, ?_, ?_, ?_⟩
  · intro left mem
    cases mem
  · intro move mem
    cases mem
  · intro nodeId
    exact List.nodup_nil
  · intro nodeId path mem
    cases mem
  · intro cam mem
    cases mem
  · intro cam mem
    cases mem
  · intro cameraId computedRevision computedGeneration currentRevision currentGeneration mem
    cases mem

theorem starts_safe (tid : Nat) (w : World) (prog : Program Unit) (starts : Starts prog) :
    SafeAmong protocol tid (fun _ _ => True) prog w := by
  have andReturn {Result : Type} {body : Program Result}
      (safe : SafeAmong protocol tid (fun _ _ => True) body w) :
      SafeAmong protocol tid (fun _ _ => True) (do let _ ← body) w := by
    refine safe_and_then safe ?_
    intro out post _
    cases out with
    | ok res => trivial
    | error error => trivial
  cases starts with
  | resume moveId => exact andReturn (safe_resume moveId w)
  | reconcileNode nodeId => exact andReturn (safe_reconcile_node nodeId w)
  | client op isClient =>
    refine andReturn ?_
    intro cur _
    exact ⟨isClient, fun _ _ _ => trivial⟩

variable {nodes : List MediaNode} {st : SystemState Call Answer Raised Unit World}

theorem system_safe (initial : InitialNodes nodes) (reached : SystemOf nodes st) :
    AllSafe protocol st := by
  have started : ∀ w, w = emptyWorld nodes → protocol.invariant w := by
    rintro w rfl
    exact empty_world_invariant initial
  exact all_safe_reachable started (fun tid w prog starts _ =>
    starts_safe tid w prog starts) reached

theorem system_invariant (initial : InitialNodes nodes) (reached : SystemOf nodes st) :
    Invariant st.world :=
  (system_safe initial reached).1

/-- An operation of another client, whose ids have to be new. -/
def Call.isOperate : Call → Bool
  | .operate _ => true
  | _ => false

/-- The first calls of a thread that nothing disturbs; then the thread ends. -/
def runCalls {Result : Type} (tid : Nat) : Nat → Program Result → World → Option World
  | 0, _, w => some (releaseAll tid w)
  | _ + 1, .done _, w => some (releaseAll tid w)
  | calls + 1, .call req next, w =>
    if req.isOperate = true then none
    else
      match respond tid {} w req with
      | some (ans, post) => runCalls tid calls (next ans) post
      | none => none

section Runs

omit [PythonText] in
theorem fresh_internal {req : Call} (w : World) (internal : ¬req.isOperate = true) :
    FreshCall w req := by
  cases req with
  | operate op => exact absurd rfl internal
  | _ => trivial

/-- The state in which thread `0` runs the program, if any, and no other thread runs. -/
def alone (w : World) (prog : Option (Program Unit)) :
    SystemState Call Answer Raised Unit World where
  world := w
  threads := setThread (fun _ => none) 0 prog

omit [PythonText] in
theorem alone_continues (w post : World) (prog next : Option (Program Unit)) :
    { world := post, threads := setThread (alone w prog).threads 0 next } =
      alone post next := by
  simp only [alone, SystemState.mk.injEq, true_and]
  funext other
  unfold setThread
  split_ifs <;> rfl

theorem alone_ends (reached : SystemOf nodes (alone w (some prog))) :
    SystemOf nodes (alone (releaseAll 0 w) none) := by
  have left := reached.step (.leave 0 prog rfl)
  rw [alone_continues] at left
  exact left

theorem alone_starts (starts : Starts prog) (reached : SystemOf nodes (alone w none)) :
    SystemOf nodes (alone w (some prog)) := by
  have started := reached.step (.start 0 prog starts rfl)
  rw [alone_continues] at started
  exact started

theorem alone_calls {req : Call} {next : Except Raised (Answer req) → Program Unit}
    {ans : Except Raised (Answer req)} {post : World}
    (reached : SystemOf nodes (alone w (some (.call req next))))
    (ran : machine.exec 0 w req ans post) :
    SystemOf nodes (alone post (some (next ans))) := by
  have called := reached.step (.call 0 req next ans post rfl ran)
  rw [alone_continues] at called
  exact called

theorem alone_runs {calls : Nat} {post : World} (reached : SystemOf nodes (alone w (some prog)))
    (ran : runCalls 0 calls prog w = some post) : SystemOf nodes (alone post none) := by
  induction calls generalizing prog w with
  | zero =>
    cases ran
    exact alone_ends reached
  | succ calls ih =>
    cases prog with
    | done out =>
      cases ran
      exact alone_ends reached
    | call req next =>
      simp only [runCalls] at ran
      split_ifs at ran with operates
      split at ran
      · next ans middle resp =>
          exact ih (alone_calls reached ⟨fresh_internal w operates, {}, resp⟩) ran
      · cases ran

theorem alone_operates (op : StoreOperation) (isClient : ClientOperation op)
    (fresh : FreshCall w (.operate op)) (reached : SystemOf nodes (alone w none)) :
    SystemOf nodes (alone (releaseAll 0 (w.operated op)) none) :=
  alone_ends (alone_calls (alone_starts (.client op isClient) reached) ⟨fresh, {}, rfl⟩)

theorem alone_initially : SystemOf nodes (alone (emptyWorld nodes) none) := by
  have started : SystemOf nodes { world := emptyWorld nodes, threads := fun _ => none } :=
    .initial rfl
  have same : (fun _ => none : Nat → Option (Program Unit)) = setThread (fun _ => none) 0 none := by
    funext other
    unfold setThread
    split_ifs <;> rfl
  rw [same] at started
  exact started

end Runs

omit [PythonText] in
theorem open_paths_unique (inv : Invariant w) {first second : UUID}
    {left right : MediaPathConfig} (leftMember : left ∈ w.media first)
    (rightMember : right ∈ w.media second) (sameName : left.name = right.name)
    (leftOpen : left.IsOpen) (rightOpen : right.IsOpen) : first = second := by
  obtain ⟨cam, mem, named, _, openSite⟩ := inv.admitted first left leftMember
  obtain ⟨other, otherMember, otherNamed, _, otherSite⟩ :=
    inv.admitted second right rightMember
  have same := one_camera inv.facts mem otherMember
    (named.trans (sameName.trans otherNamed.symm))
  subst same
  exact open_site_unique (openSite leftOpen) (otherSite rightOpen)

/-- A later move takes the camera of `move` back and has not been switched. -/
def MovingBack (move back : CameraMove) : Prop :=
  back.cameraId = move.cameraId ∧ back.sourceNodeId = move.targetNodeId ∧
    back.targetNodeId = move.sourceNodeId ∧
    (back.state = .prepareTarget ∨ back.state = .cleanupTarget)

omit [PythonText] in
theorem path_at_source_moves_back (inv : Invariant w) {move : CameraMove}
    (mem : move ∈ w.store.cameraMoves) {openPath sourcePath : MediaPathConfig}
    (onTarget : openPath ∈ w.media move.targetNodeId) (named : openPath.name = move.publicId)
    (isOpen : openPath.IsOpen) (onSource : sourcePath ∈ w.media move.sourceNodeId)
    (sourceNamed : sourcePath.name = move.publicId) :
    ∃ back ∈ w.store.cameraMoves, MovingBack move back := by
  obtain ⟨twoNodes, cam, cameraMember, ofCamera, publicId⟩ :=
    inv.facts.moveRecords move mem
  have isCamera {path : MediaPathConfig} {nodeId : UUID} (admitted : Admitted w.store nodeId path)
      (pathNamed : path.name = move.publicId) : Site w.store.cameraMoves cam nodeId ∧
        (path.IsOpen → OpenSite w.store.cameraMoves cam nodeId) := by
    obtain ⟨other, otherMember, otherNamed, sites⟩ := admitted
    have same := one_camera inv.facts otherMember cameraMember
      (otherNamed.trans (pathNamed.trans publicId.symm))
    rw [same] at sites
    exact sites
  have openSite := (isCamera (inv.admitted _ openPath onTarget) named).2 isOpen
  have site := (isCamera (inv.admitted _ sourcePath onSource) sourceNamed).1
  by_cases idle : Idle w.store.cameraMoves cam.id
  · exact absurd ((site.idle idle).trans (openSite.idle idle).symm) twoNodes
  · simp only [Idle, not_forall, not_not] at idle
    obtain ⟨back, backMember, active, backOf⟩ := idle
    have inSites := site.moving back backMember active backOf
    have atOpen := openSite.moving back backMember active backOf
    refine ⟨back, backMember, backOf.trans ofCamera, ?_⟩
    cases st : back.state <;>
      simp only [moveSites, moveOpenSite, st, List.mem_cons, List.not_mem_nil, or_false,
        Option.some.injEq, reduceCtorEq] at inSites atOpen
    case prepareTarget | cleanupTarget =>
      rcases inSites with atSource | atTarget
      · exact absurd (atSource.trans atOpen) twoNodes
      · exact ⟨atOpen, atTarget.symm, by simp⟩
    case activateTarget => exact absurd (inSites.trans atOpen) twoNodes

/-- A move that has been switched: its target is open only while its source has no path, or
while the camera is being moved back and the source has a closed path; and no two nodes ever
have an open path of one name. -/
theorem switched_move_safe {nodes : List MediaNode} (initial : InitialNodes nodes)
    {st : SystemState Call Answer Raised Unit World} (reached : SystemOf nodes st) :
    (∀ move ∈ st.world.store.cameraMoves,
      move.state = .cleanupSource ∨ move.state = .activateTarget ∨ move.state = .complete →
      (∃ path ∈ st.world.media move.targetNodeId, path.name = move.publicId ∧ path.IsOpen) →
      (∀ path ∈ st.world.media move.sourceNodeId, path.name ≠ move.publicId) ∨
        (∃ back ∈ st.world.store.cameraMoves, MovingBack move back) ∧
          ∀ path ∈ st.world.media move.sourceNodeId, path.name = move.publicId → ¬path.IsOpen) ∧
    ∀ first second : UUID, ∀ left ∈ st.world.media first, ∀ right ∈ st.world.media second,
      left.name = right.name → left.IsOpen → right.IsOpen → first = second := by
  have invariant := system_invariant initial reached
  refine ⟨?_, ?_⟩
  · rintro move mem _ ⟨path, onTarget, named, isOpen⟩
    by_cases absent : ∀ path ∈ st.world.media move.sourceNodeId, path.name ≠ move.publicId
    · exact .inl absent
    · refine .inr ⟨?_, ?_⟩
      · simp only [not_forall, not_not] at absent
        obtain ⟨sourcePath, onSource, sourceNamed⟩ := absent
        exact path_at_source_moves_back invariant mem onTarget named isOpen onSource sourceNamed
      · intro sourcePath onSource sourceNamed sourceOpen
        exact (invariant.facts.moveRecords move mem).1 (open_paths_unique invariant onSource
          onTarget (sourceNamed.trans named.symm) sourceOpen isOpen)
  · intro first second left leftMember right rightMember sameName leftOpen rightOpen
    exact open_paths_unique invariant leftMember rightMember sameName leftOpen rightOpen

/-- An enabled camera whose desired revision is recorded as applied was read back with exactly
its path after that revision had been written and before it was recorded, and nothing computed
from another revision or another generation is ever recorded. -/
theorem applied_revision_verified {nodes : List MediaNode} (initial : InitialNodes nodes)
    {st : SystemState Call Answer Raised Unit World} (reached : SystemOf nodes st) :
    (∀ cam ∈ st.world.store.cameras, cam.state = .enabled →
      cam.appliedRevision = cam.desiredRevision → Verified st.world.log cam) ∧
      StampsCurrent st.world.log := by
  have invariant := system_invariant initial reached
  exact ⟨invariant.verified, invariant.stamps⟩

/-- Two nodes have a path of one name only while the camera of that name is being moved between
just these two, and before its source has been cleaned. -/
theorem two_nodes_only_while_moving (initial : InitialNodes nodes) (reached : SystemOf nodes st)
    {first second : UUID} (differ : first ≠ second) {left right : MediaPathConfig}
    (leftMember : left ∈ st.world.media first) (rightMember : right ∈ st.world.media second)
    (sameName : left.name = right.name) :
    ∃ move ∈ st.world.store.cameraMoves, move.publicId = left.name ∧
      (move.state = .prepareTarget ∨ move.state = .cleanupTarget ∨ move.state = .cleanupSource) ∧
      (first = move.sourceNodeId ∧ second = move.targetNodeId ∨
        first = move.targetNodeId ∧ second = move.sourceNodeId) := by
  have invariant := system_invariant initial reached
  obtain ⟨cam, mem, named, site, _⟩ := invariant.admitted first left leftMember
  obtain ⟨other, otherMember, otherNamed, otherSite, _⟩ :=
    invariant.admitted second right rightMember
  obtain rfl := one_camera invariant.facts mem otherMember
    (named.trans (sameName.trans otherNamed.symm))
  by_cases idle : Idle st.world.store.cameraMoves cam.id
  · exact absurd ((site.idle idle).trans (otherSite.idle idle).symm) differ
  · simp only [Idle, not_forall, not_not] at idle
    obtain ⟨move, moveMember, active, ofCamera⟩ := idle
    have firstSite := site.moving move moveMember active ofCamera
    have secondSite := otherSite.moving move moveMember active ofCamera
    obtain ⟨_, owner, ownerMember, isOwner, publicId⟩ := invariant.facts.moveRecords move moveMember
    obtain rfl : owner = cam := RecordTable.distinct_eq invariant.facts.lifecycle.cameraIds
      ownerMember mem (isOwner.trans ofCamera)
    refine ⟨move, moveMember, publicId.symm.trans named, ?_⟩
    unfold moveSites at firstSite secondSite
    cases isState : move.state <;> simp only [isState] at firstSite secondSite ⊢ <;> grind

/-- A step of a thread is guarded by that thread: a node's paths change only by the holder of its
guard, a guard is taken from nobody, a camera leaves its node only under the guard of that node, and
a move goes on, unless it is turned back, only under the guards of both its nodes. -/
theorem steps_are_guarded (initial : InitialNodes nodes) (reached : SystemOf nodes st)
    (tid : Nat) (next : SystemState Call Answer Raised Unit World)
    (step : ThreadStep machine Starts tid st next) : Effect tid st.world next.world := by
  rcases thread_step_effect (system_safe initial reached) step with same | effect
  · rw [same]
    exact effect_refl tid _
  · exact effect

end System

section Sample

local instance : PythonText := plainText

def placedWorld : World :=
  releaseAll 0 ((emptyWorld sampleNodes).operated (.placeCameraManually 1 samplePlacement))

def requestedWorld : World :=
  releaseAll 0 (placedWorld.operated (.createCameraMove sampleMove))

def movedWorld : World :=
  (runCalls 0 100 (do let _ ← resume 20) requestedWorld).getD requestedWorld

def sampleReturn : CreateMoveArguments :=
  { sampleMove with moveId := 21, targetNodeId := 1, expectedRevision := 2 }

/-- The move back is requested, and its thread ends right after it has prepared node `1`. -/
def returningWorld : World :=
  (runCalls 0 10 (do let _ ← resume 21)
    (releaseAll 0 (movedWorld.operated (.createCameraMove sampleReturn)))).getD movedWorld

theorem placed_world_reachable : SystemOf sampleNodes (alone placedWorld none) := by
  refine alone_operates (.placeCameraManually 1 samplePlacement) trivial ⟨by decide, ?_⟩
    alone_initially
  rintro publicId ⟨⟩
  exact ⟨by decide, fun nodeId path mem => by cases mem⟩

theorem requested_world_reachable : SystemOf sampleNodes (alone requestedWorld none) := by
  refine alone_operates (.createCameraMove sampleMove) trivial ⟨by decide, ?_⟩
    placed_world_reachable
  rintro publicId ⟨⟩

theorem runs_to {calls : Nat} {other : World}
    (finishes : (runCalls 0 calls prog w).isSome = true) :
    runCalls 0 calls prog w = some ((runCalls 0 calls prog w).getD other) := by
  obtain ⟨post, ran⟩ := Option.isSome_iff_exists.mp finishes
  rw [ran]
  rfl

theorem moved_world_facts :
    (runCalls 0 100 (do let _ ← resume 20) requestedWorld).isSome = true ∧
      (∃ move ∈ movedWorld.store.cameraMoves, move.state = .complete ∧
        ∃ path ∈ movedWorld.media move.targetNodeId, path.name = move.publicId ∧ path.IsOpen) ∧
      ∃ cam ∈ movedWorld.store.cameras, cam.state = .enabled ∧ cam.desiredRevision = 2 ∧
        cam.appliedRevision = cam.desiredRevision := by
  decide +kernel

theorem moved_world_reachable : SystemOf sampleNodes (alone movedWorld none) :=
  alone_runs (alone_starts (.resume 20) requested_world_reachable) (runs_to moved_world_facts.1)

theorem returning_world_facts :
    (StoreOperation.createCameraMove sampleReturn).Fresh movedWorld.store ∧
      (runCalls 0 10 (do let _ ← resume 21)
        (releaseAll 0 (movedWorld.operated (.createCameraMove sampleReturn)))).isSome = true ∧
      (∃ move ∈ returningWorld.store.cameraMoves, move.state = .complete ∧
        (∃ path ∈ returningWorld.media move.targetNodeId,
          path.name = move.publicId ∧ path.IsOpen) ∧
        ∃ path ∈ returningWorld.media move.sourceNodeId, path.name = move.publicId) ∧
      ∃ move ∈ returningWorld.store.cameraMoves, move.sourceNodeId ≠ move.targetNodeId ∧
        ∃ left ∈ returningWorld.media move.sourceNodeId,
          ∃ right ∈ returningWorld.media move.targetNodeId, left.name = right.name := by
  decide +kernel

theorem returning_world_reachable : SystemOf sampleNodes (alone returningWorld none) := by
  have requested := alone_operates (.createCameraMove sampleReturn) trivial
    ⟨returning_world_facts.1, by rintro publicId ⟨⟩⟩ moved_world_reachable
  exact alone_runs (alone_starts (.resume 21) requested) (runs_to returning_world_facts.2.1)

theorem switched_move_safe_moved :
    (∃ move ∈ movedWorld.store.cameraMoves, move.state = .complete ∧
      ∃ path ∈ movedWorld.media move.targetNodeId, path.name = move.publicId ∧ path.IsOpen) ∧
    ∀ first second : UUID, ∀ left ∈ movedWorld.media first, ∀ right ∈ movedWorld.media second,
      left.name = right.name → left.IsOpen → right.IsOpen → first = second :=
  ⟨moved_world_facts.2.1, (switched_move_safe sample_nodes_initial moved_world_reachable).2⟩

theorem applied_revision_verified_moved :
    ∃ cam ∈ movedWorld.store.cameras, cam.state = .enabled ∧ cam.desiredRevision = 2 ∧
      Verified movedWorld.log cam := by
  obtain ⟨cam, mem, enabled, revision, cur⟩ := moved_world_facts.2.2
  exact ⟨cam, mem, enabled, revision,
    (applied_revision_verified sample_nodes_initial moved_world_reachable).1 cam mem enabled cur⟩

/-- The camera is open on the target of a complete move while the source holds a path again. -/
theorem return_prepares_source_of_complete_move :
    ∃ st, SystemOf sampleNodes st ∧ ∃ move ∈ st.world.store.cameraMoves,
      move.state = .complete ∧
      (∃ path ∈ st.world.media move.targetNodeId, path.name = move.publicId ∧ path.IsOpen) ∧
      ∃ path ∈ st.world.media move.sourceNodeId, path.name = move.publicId :=
  ⟨alone returningWorld none, returning_world_reachable, returning_world_facts.2.2.1⟩

theorem two_nodes_only_while_moving_back :
    ∃ move ∈ returningWorld.store.cameraMoves, move.state = .prepareTarget ∨
      move.state = .cleanupTarget ∨ move.state = .cleanupSource := by
  obtain ⟨_, _, differ, left, onSource, right, onTarget, sameName⟩ := returning_world_facts.2.2.2
  obtain ⟨back, mem, _, isState, _⟩ := two_nodes_only_while_moving sample_nodes_initial
    returning_world_reachable differ onSource onTarget sameName
  exact ⟨back, mem, isState⟩

/-- What a call does when nothing disturbs it; the ids of operations have to be new. -/
def performUndisturbed (tid : Nat) (w : World) (req : Call) (_ : Unit) :
    Option (Except Raised (Answer req) × World) :=
  if req.isOperate = true then none else respond tid {} w req

theorem perform_undisturbed_executes {tid : Nat} {req : Call} {choice : Unit}
    {ans : Except Raised (Answer req)} {post : World}
    (acted : performUndisturbed tid w req choice = some (ans, post)) :
    machine.exec tid w req ans post := by
  unfold performUndisturbed at acted
  split_ifs at acted with operates
  exact ⟨fresh_internal w operates, {}, acted⟩

/-- The next call of the ninth world of the move puts the path on its target. -/
theorem putting_plays :
    ((advance performUndisturbed (fun _ => ()) 0 9
      (alone requestedWorld (some (do let _ ← resume 20)))).bind fun st =>
        (advance performUndisturbed (fun _ => ()) 0 1 st).map fun next =>
          decide (st.world.media 2 = [] ∧ next.world.media 2 ≠ [])) = some true := by
  decide +kernel

theorem steps_are_guarded_of_a_put : ∃ st next : SystemState Call Answer Raised Unit World,
    SystemOf sampleNodes st ∧ ThreadStep machine Starts 0 st next ∧
      st.world.media 2 = [] ∧ next.world.media 2 ≠ [] ∧ Effect 0 st.world next.world := by
  obtain ⟨st, begun, stepped⟩ := Option.bind_eq_some_iff.mp putting_plays
  obtain ⟨next, advanced, put⟩ := Option.map_eq_some_iff.mp stepped
  obtain ⟨absent, present⟩ := of_decide_eq_true put
  have reached : SystemOf sampleNodes st := advance_reachable perform_undisturbed_executes 9
    (alone_starts (.resume 20) requested_world_reachable) begun
  rcases advance_one perform_undisturbed_executes advanced with same | step
  · rw [same] at present
    exact absurd absent present
  · exact ⟨st, next, reached, step, absent, present,
      steps_are_guarded sample_nodes_initial reached 0 next step⟩

end Sample

end RtspProxy.Reconcile
