import RtspProxy.Reconcile.Invariant

/-!
# The reconcilers keep the protocol

Each program is walked through once, call by call. Between its calls a thread
only knows facts that the others cannot take from it: the guards it holds, and
under these guards the state of the move or the placement of the camera it
works on. Calls that anybody may make keep such facts whoever makes them, which
is what `keeps_neutral` says; only writes to a path table and the operations
that carry a move on need more.
-/

namespace RtspProxy.Reconcile

open Nodes Lib Lib.Program Lib.Program.Prog Lib.RecordTable Option Lib.Raising
  InMemoryNodeStore CameraReconciler CameraMoveReconciler

variable [PythonText] {tid : Nat}

/-- The program keeps the fact, also when it raises, and ends as stated when it returns. -/
def Keeps {Result : Type} (tid : Nat) (fact : World → Prop) (prog : Program Result)
    (ret : Result → World → Prop) : Prop :=
  ∀ w, fact w → SafeAmong protocol tid
    (Returns (fun res after => fact after ∧ ret res after) fun _ after => fact after)
    prog w

variable {fact : World → Prop} {w : World}

variable {Result : Type}

variable {ret : Result → World → Prop}

variable {prog : Program Result}

theorem keeps_then {Final : Type} {next : Result → Program Final}
    {post : Except Raised Final → World → Prop} (first : Keeps tid fact prog ret)
    (raised : ∀ err w, fact w → post (.error err) w) (continues : ∀ res w, fact w → ret res w →
      SafeAmong protocol tid post (next res) w) (holds : fact w) :
    SafeAmong protocol tid post (prog >>= next) w := by
  refine safe_then (first w holds) raised ?_
  intro res after kept
  exact continues res after kept.1 kept.2

theorem keeps_bind {Final : Type} {next : Result → Program Final}
    {final : Final → World → Prop} (first : Keeps tid fact prog ret)
    (continues : ∀ res w, fact w → ret res w → SafeAmong protocol tid
      (Returns (fun res after => fact after ∧ final res after) fun _ after => fact after)
      (next res) w) : Keeps tid fact (prog >>= next) final :=
  fun _ holds => keeps_then first (fun _ _ kept => kept) continues holds

theorem keeps_pure {res : Result} (holds : ∀ w, fact w → ret res w) :
    Keeps tid fact (pure res) ret :=
  fun w isFact => safe_pure ⟨isFact, holds w isFact⟩

theorem keeps_raise {err : Raised} :
    Keeps tid fact (raise err) ret :=
  fun _ isFact => safe_raise isFact

theorem keeps_weaken {ret weaker : Result → World → Prop} (keeps : Keeps tid fact prog ret)
    (weaken : ∀ res w, fact w → ret res w → weaker res w) :
    Keeps tid fact prog weaker := by
  intro w holds
  refine safe_weaken (keeps w holds) ?_
  intro out after post
  cases out with
  | ok res => exact ⟨post.1, weaken res after post.1 post.2⟩
  | error err => exact post

theorem keeps_with (extra : World → Prop) (keeps : Keeps tid (fun w => fact w ∧ extra w) prog ret)
    (isFact : fact w) (isExtra : extra w) : SafeAmong protocol tid
      (Returns (fun res after => fact after ∧ ret res after) fun _ after => fact after)
      prog w := by
  refine safe_weaken (keeps w ⟨isFact, isExtra⟩) ?_
  intro out after post
  cases out with
  | ok res => exact ⟨post.1.1, post.2⟩
  | error err => exact post.1

theorem keeps_except_media {body handler : Program Result} (keeps : Keeps tid fact body ret)
    (handled : Keeps tid fact handler ret) :
    Keeps tid fact (exceptMedia body handler) ret := by
  intro w holds
  refine safe_handle (fun _ after => fact after) (keeps w holds) ?_
  intro err after kept
  split_ifs
  · exact handled after kept
  · exact safe_raise kept

def Neutral : Call → Prop
  | .acquire _ | .release _ => False
  | _ => True

variable {after : World}

theorem exec_any_thread {req : Call} (neutral : Neutral req)
    {ans : Except Raised (Answer req)} (other : Nat) (ran : machine.exec tid w req ans after) :
    machine.exec other w req ans after := by
  cases req with
  | acquire nodeId => cases neutral
  | release nodeId => cases neutral
  | _ => exact ran

theorem keeps_neutral (req : Call) (neutral : Neutral req) (stable : Stable protocol tid fact)
    (permitted : ∀ w, Invariant w → fact w → ∀ other, Permitted other w req) :
    Keeps tid fact (send req) fun ans after =>
      ∃ pre, Invariant pre ∧ fact pre ∧ machine.exec tid pre req (.ok ans) after := by
  intro w holds
  refine safe_ask stable holds (fun cur inv isFact => permitted cur inv isFact tid) ?_
  intro cur ans after inv isFact ran
  have byOther := exec_any_thread neutral (tid + 1) ran
  obtain ⟨invariantAfter, effect⟩ :=
    call_sound inv (permitted cur inv isFact (tid + 1)) byOther
  have kept := stable cur after inv invariantAfter ⟨tid + 1, Nat.succ_ne_self tid, effect⟩ isFact
  cases ans with
  | ok ans => exact ⟨kept, cur, inv, isFact, ran⟩
  | error err => exact kept

theorem keeps_continue_or_cancel (stable : Stable protocol tid fact) :
    Keeps tid fact continueOrCancel fun _ _ => True := by
  refine keeps_bind (keeps_neutral _ trivial stable fun _ _ _ _ => trivial) ?_
  intro stop w isFact _
  split_ifs
  · exact keeps_raise w isFact
  · exact keeps_pure (fun _ _ => trivial) w isFact

variable {nodeId : UUID} {name : PublicId}

theorem exec_get_path {pre : World} {path : Option MediaPathConfig}
    (ran : machine.exec tid pre (.getPath nodeId name) (.ok path) after) :
    after.pathOn nodeId name = path ∧ after.log = .read nodeId name path :: pre.log := by
  obtain ⟨_, choice, resp⟩ := ran
  simp only [respond, readMedia] at resp
  split at resp
  · simp only [some.injEq, Prod.mk.injEq, Except.ok.injEq] at resp
    obtain ⟨rfl, rfl⟩ := resp
    exact ⟨rfl, rfl⟩
  · cases (Prod.mk.inj (some.inj resp)).1
  · cases (Prod.mk.inj (some.inj resp)).1

theorem keeps_get_path (stable : Stable protocol tid fact) (nodeId : UUID) (name : PublicId) :
    Keeps tid fact (send (.getPath nodeId name)) fun path after =>
      after.pathOn nodeId name = path ∧ ∃ pre, Invariant pre ∧ fact pre ∧
        after.log = .read nodeId name path :: pre.log := by
  refine keeps_weaken (keeps_neutral _ trivial stable fun _ _ _ _ => trivial) ?_
  rintro path after _ ⟨pre, inv, isFact, ran⟩
  obtain ⟨found, logged⟩ := exec_get_path ran
  exact ⟨found, pre, inv, isFact, logged⟩

/-- The fact says nothing about the path table of the node. -/
def FreeOf (nodeId : UUID) (fact : World → Prop) : Prop :=
  ∀ w table, fact w → fact (setTable w nodeId table)

omit [PythonText] in
theorem exec_change_table (free : FreeOf nodeId fact) (fault : Fault)
    (change : List MediaPathConfig → List MediaPathConfig) (isFact : fact w) :
    fact (changeTable fault nodeId change w).2 := by
  cases fault with
  | before => exact isFact
  | none | after => exact free w _ isFact

theorem keeps_put_path {path : MediaPathConfig} (stable : Stable protocol tid fact)
    (free : FreeOf nodeId fact) (permitted : ∀ w, Invariant w → fact w →
      Permitted tid w (.putPath nodeId path)) :
    Keeps tid fact (send (.putPath nodeId path)) fun _ _ => True := by
  intro w holds
  refine safe_ask stable holds permitted ?_
  intro cur ans after inv isFact ran
  obtain ⟨_, choice, resp⟩ := ran
  have kept : fact after := by
    rw [← (Prod.mk.inj (some.inj resp)).2]
    exact exec_change_table free choice.fault
      (fun table => path :: table.filter fun other => other.name ≠ path.name) isFact
  cases ans with
  | ok ans => exact ⟨kept, trivial⟩
  | error err => exact kept

theorem keeps_delete_path (stable : Stable protocol tid fact) (free : FreeOf nodeId fact)
    (held : ∀ w, fact w → w.guards nodeId = some tid) :
    Keeps tid fact (send (.deletePath nodeId name)) fun _ _ => True := by
  intro w holds
  refine safe_ask stable holds (fun cur _ isFact => held cur isFact) ?_
  intro cur ans after inv isFact ran
  obtain ⟨_, choice, resp⟩ := ran
  have kept : fact after := by
    rw [← (Prod.mk.inj (some.inj resp)).2]
    exact exec_change_table free choice.fault
      (fun table => table.filter fun other => other.name ≠ name) isFact
  cases ans with
  | ok ans => exact ⟨kept, trivial⟩
  | error err => exact kept

theorem stable_and {first second : World → Prop} (firstStable : Stable protocol tid first)
    (secondStable : Stable protocol tid second) :
    Stable protocol tid fun w => first w ∧ second w := by
  intro pre after inv invariantAfter others holds
  exact ⟨firstStable pre after inv invariantAfter others holds.1,
    secondStable pre after inv invariantAfter others holds.2⟩

theorem stable_guard (nodeId : UUID) :
    Stable protocol tid fun w => w.guards nodeId = some tid := by
  rintro pre after _ _ ⟨other, differ, effect⟩ held
  exact effect.guards nodeId tid held (Ne.symm differ)

theorem stable_logged (event : Event) : Stable protocol tid fun w => event ∈ w.log := by
  rintro pre after _ _ ⟨other, _, effect⟩ logged
  obtain ⟨added, grown⟩ := effect.log
  rw [grown]
  exact List.mem_append_right added logged

theorem stable_checked (cameraId : UUID) (revision : Int) (nodeId : UUID) (path : MediaPathConfig) :
    Stable protocol tid fun w => Checked w.log cameraId revision nodeId path := by
  rintro pre after _ _ ⟨other, _, effect⟩ checked
  obtain ⟨added, grown⟩ := effect.log
  rw [grown]
  exact checked_mono added checked

theorem stable_table (prop : List MediaPathConfig → Prop) (stable : Stable protocol tid fact)
    (held : ∀ w, fact w → w.guards nodeId = some tid) :
    Stable protocol tid fun w => fact w ∧ prop (w.media nodeId) := by
  rintro pre after inv invariantAfter ⟨other, differ, effect⟩ ⟨isFact, holds⟩
  refine ⟨stable pre after inv invariantAfter ⟨other, differ, effect⟩ isFact, ?_⟩
  rw [effect.media nodeId]
  · exact holds
  · rw [held pre isFact]
    exact fun same => differ (some.inj same).symm

def Absent (name : PublicId) (table : List MediaPathConfig) : Prop :=
  ∀ path ∈ table, path.name ≠ name

omit [PythonText] in
theorem absent_of_path_on (none : w.pathOn nodeId name = none) :
    Absent name (w.media nodeId) :=
  lookup_eq_none.mp none

theorem keeps_safe_get (stable : Stable protocol tid fact) (client : UUID) (name : PublicId) :
    Keeps tid fact (safeGet client name) fun path after => after.pathOn client name = path := by
  refine keeps_except_media ?_ keeps_raise
  refine keeps_bind (keeps_continue_or_cancel stable) ?_
  intro _ w isFact _
  exact keeps_weaken (keeps_get_path stable client name) (fun _ _ _ read => read.1) w isFact

variable {client : UUID}

theorem keeps_remove_disabled_path (stable : Stable protocol tid fact)
    (free : FreeOf client fact) (held : ∀ w, fact w → w.guards client = some tid) :
    Keeps tid fact (removeDisabledPath client name) fun _ after =>
      Absent name (after.media client) := by
  have again := keeps_continue_or_cancel stable
  have get := keeps_weaken (keeps_get_path stable client name) fun _ _ _ read => read.1
  -- The last read, whichever branch it comes from, says what remains.
  have remaining : Keeps tid fact
      (exceptMedia
        (do
          continueOrCancel
          if (← send (.getPath client name)) = none then
            return none
          else
            continueOrCancel
            send (.deletePath client name)
            continueOrCancel
            send (.getPath client name))
        (safeGet client name))
      fun path after => after.pathOn client name = path := by
    refine keeps_except_media ?_ (keeps_safe_get stable client name)
    refine keeps_bind again ?_
    intro _ w isFact _
    refine keeps_bind get ?_ w isFact
    intro path w isFact found
    split_ifs with none
    · exact safe_pure ⟨isFact, found.trans none⟩
    · refine keeps_bind again ?_ w isFact
      intro _ w isFact _
      refine keeps_bind (keeps_delete_path stable free held) ?_ w isFact
      intro _ w isFact _
      refine keeps_bind again ?_ w isFact
      intro _ w isFact _
      exact get w isFact
  refine keeps_bind remaining ?_
  intro path w isFact found
  split_ifs with present
  · exact keeps_raise w isFact
  · exact safe_pure ⟨isFact, absent_of_path_on (found.trans (not_not.mp present))⟩

section ReconcileNode

/-- A camera read from the store is still on the node, and no move of it has come further
than its preparation or its abort. -/
def Located (nodeId : UUID) (seen : CameraPlacement) (w : World) : Prop :=
  ∃ cur ∈ w.store.cameras, CameraEvolves seen cur ∧ cur.nodeId = nodeId ∧
    ∀ move ∈ w.store.cameraMoves, cameraMoveIsTerminal move.state = false →
      move.cameraId = seen.id → move.state = .prepareTarget ∨ move.state = .cleanupTarget

omit [PythonText] in
theorem terminal_stays {pre after : CameraMove} (evolves : MoveEvolves pre after)
    (ended : cameraMoveIsTerminal pre.state = true) :
    cameraMoveIsTerminal after.state = true := by
  have edge := evolves.edge
  cases states : pre.state <;> rw [states] at ended edge <;> cases ended <;>
    cases later : after.state <;> rw [later] at edge <;> first | rfl | cases edge

variable {cam : CameraPlacement}

omit [PythonText] in
theorem source_of_waiting {move : CameraMove} (inv : Invariant w)
    (mem : move ∈ w.store.cameraMoves) (cameraMember : cam ∈ w.store.cameras)
    (ofCamera : move.cameraId = cam.id)
    (waiting : move.state = .prepareTarget ∨ move.state = .cleanupTarget) :
    move.sourceNodeId = cam.nodeId := by
  have active : cameraMoveIsTerminal move.state = false := by
    rcases waiting with state | state <;> rw [state] <;> rfl
  obtain ⟨pinned, pinnedMember, pins⟩ := inv.facts.lifecycle.pinned move mem active
  have isCamera : pinned = cam := distinct_eq inv.facts.lifecycle.cameraIds
    pinnedMember cameraMember (pins.ofCamera.trans ofCamera)
  subst isCamera
  have placed := pins.placed
  rcases waiting with state | state <;> simp only [PlacedFor, state] at placed <;>
    exact placed.1.symm

theorem stable_located (nodeId : UUID) (seen : CameraPlacement) :
    Stable protocol tid fun w => w.guards nodeId = some tid ∧ Located nodeId seen w := by
  rintro pre after inv invariantAfter ⟨other, differ, effect⟩ ⟨held, located⟩
  refine ⟨effect.guards nodeId tid held (Ne.symm differ), ?_⟩
  have notOther : pre.guards nodeId ≠ some other := by
    rw [held]
    exact fun same => differ (some.inj same).symm
  obtain ⟨cur, mem, evolves, onNode, waiting⟩ := located
  obtain ⟨later, laterMember, laterEvolves, stays⟩ := effect.cameras cur mem
  refine ⟨later, laterMember, camera_evolves_trans evolves laterEvolves, ?_, ?_⟩
  · rcases stays with sameNode | taken
    · exact sameNode.trans onNode
    · exact absurd (onNode ▸ taken) notOther
  · intro move moveMember active ofCamera
    rcases effect.started move moveMember with preparing | ⟨old, oldMember, sameId⟩
    · exact .inl preparing
    · obtain ⟨next, nextMember, moveEvolves, states⟩ := effect.moves old oldMember
      have isMove : next = move := distinct_eq invariantAfter.facts.lifecycle.moveIds
        nextMember moveMember (moveEvolves.sameId.trans sameId.symm)
      subst isMove
      have oldActive : cameraMoveIsTerminal old.state = false := by
        cases ended : cameraMoveIsTerminal old.state with
        | false => rfl
        | true =>
          rw [terminal_stays moveEvolves ended] at active
          cases active
      have ofSeen : old.cameraId = seen.id := moveEvolves.sameCamera.symm.trans ofCamera
      have oldWaiting := waiting old oldMember oldActive ofSeen
      rcases states with same | ⟨_, requested⟩ | both
      · rw [same]
        exact oldWaiting
      · exact .inr requested
      · have atSource := source_of_waiting inv oldMember mem
          (ofSeen.trans evolves.sameId.symm) oldWaiting
        exact absurd (onNode ▸ atSource ▸ both.1) notOther

omit [PythonText] in
theorem located_admitted {seen : CameraPlacement} (inv : Invariant w)
    (located : Located nodeId seen w) : Admitted w.store nodeId (cameraPath seen) := by
  obtain ⟨cur, mem, evolves, onNode, waiting⟩ := located
  have atSource : ∀ move ∈ w.store.cameraMoves, cameraMoveIsTerminal move.state = false →
      move.cameraId = cur.id →
      (move.state = .prepareTarget ∨ move.state = .cleanupTarget) ∧ move.sourceNodeId = nodeId := by
    intro move moveMember active ofCamera
    have moveWaiting := waiting move moveMember active (ofCamera.trans evolves.sameId)
    exact ⟨moveWaiting, (source_of_waiting inv moveMember mem ofCamera moveWaiting).trans onNode⟩
  refine ⟨cur, mem, evolves.samePublicId, ⟨?_, fun _ => onNode.symm⟩,
    fun _ => ⟨?_, fun _ => onNode.symm⟩⟩
  · intro move moveMember active ofCamera
    obtain ⟨state | state, here⟩ := atSource move moveMember active ofCamera <;>
      simp [moveSites, state, here]
  · intro move moveMember active ofCamera
    obtain ⟨state | state, here⟩ := atSource move moveMember active ofCamera <;>
      simp [moveOpenSite, state, here]

omit [PythonText] in
theorem mark_permitted {seen : CameraPlacement} (other : Nat) (inv : Invariant w)
    (located : Located nodeId seen w) (checked : seen.state = .enabled →
      Checked w.log seen.id seen.desiredRevision nodeId (cameraPath seen)) :
    Permitted other w (.markCameraApplied seen.id nodeId seen.placementGeneration
      seen.desiredRevision) := by
  intro cam mem sameId _ _ sameRevision enabled
  obtain ⟨cur, currentMember, evolves, _, _⟩ := located
  have isCurrent : cam = cur := distinct_eq
    inv.facts.lifecycle.cameraIds mem currentMember (sameId.trans evolves.sameId.symm)
  subst isCurrent
  obtain ⟨sameUrl, sameState⟩ := evolves.fenced sameRevision
  have samePath : cameraPath cam = cameraPath seen := by
    simp only [cameraPath, evolves.samePublicId, sameUrl]
  rw [samePath]
  exact checked (sameState.mpr enabled)

theorem keeps_apply_path {path : MediaPathConfig}
    (stable : Stable protocol tid fact) (free : FreeOf client fact)
    (permitted : ∀ w, Invariant w → fact w → Permitted tid w (.putPath client path)) :
    Keeps tid fact (applyPath client path) fun out after => out.1 = some path →
      ∃ pre, fact pre ∧ after.log = .read client path.name (some path) :: pre.log := by
  have again := keeps_continue_or_cancel stable
  have get := keeps_get_path stable client path.name
  -- The tail after the optional put.
  have readBack (changed : Bool) : Keeps tid fact
      (do
        continueOrCancel
        let verified ← send (.getPath client path.name)
        return (verified, changed))
      fun out after => out.1 = some path →
        ∃ pre, fact pre ∧ after.log = .read client path.name (some path) :: pre.log := by
    refine keeps_bind again ?_
    intro _ w isFact _
    refine keeps_bind get ?_ w isFact
    rintro verified w isFact ⟨_, pre, _, isBefore, logged⟩
    refine safe_pure ⟨isFact, ?_⟩
    rintro rfl
    exact ⟨pre, isBefore, logged⟩
  refine keeps_except_media ?_ ?_
  · refine keeps_bind get ?_
    intro actual w isFact _
    dsimp only
    split_ifs
    · refine keeps_bind again ?_ w isFact
      intro _ w isFact _
      refine keeps_bind (keeps_put_path stable free permitted) ?_ w isFact
      intro _ w isFact _
      exact readBack _ w isFact
    · exact readBack _ w isFact
  · have handled : Keeps tid fact (safeReadBack client path) fun read after =>
        ∃ pre, fact pre ∧ after.log = .read client path.name read :: pre.log := by
      refine keeps_except_media ?_ keeps_raise
      refine keeps_bind again ?_
      intro _ w isFact _
      refine keeps_weaken get ?_ w isFact
      rintro read w _ ⟨_, pre, _, isBefore, logged⟩
      exact ⟨pre, isBefore, logged⟩
    refine keeps_bind handled ?_
    rintro verified w isFact ⟨pre, isBefore, logged⟩
    refine safe_pure ⟨isFact, ?_⟩
    rintro rfl
    exact ⟨pre, isBefore, logged⟩

theorem keeps_mark_applied (stable : Stable protocol tid fact)
    (permitted : ∀ w, Invariant w → fact w → ∀ other, Permitted other w
      (.markCameraApplied cam.id nodeId cam.placementGeneration cam.desiredRevision)) :
    Keeps tid fact (markApplied nodeId cam) fun _ _ => True := by
  refine keeps_bind (keeps_neutral _ trivial stable permitted) ?_
  intro marked w isFact _
  split_ifs
  · exact keeps_raise w isFact
  · exact keeps_pure (fun _ _ => trivial) w isFact

/-- What the loop over the desired cameras knows of those it has to apply. -/
def Work (tid : Nat) (nodeId : UUID) (moveCameraIds : List UUID)
    (desired : List CameraPlacement) (w : World) : Prop :=
  w.guards nodeId = some tid ∧ ∀ cam ∈ desired, cam.id ∉ moveCameraIds →
    Located nodeId cam w ∧ Event.wrote cam.id cam.desiredRevision ∈ w.log

theorem stable_work (nodeId : UUID) (moveCameraIds : List UUID) (desired : List CameraPlacement) :
    Stable protocol tid (Work tid nodeId moveCameraIds desired) := by
  intro pre after inv invariantAfter others work
  refine ⟨stable_guard nodeId pre after inv invariantAfter others work.1, ?_⟩
  intro cam mem notMoving
  obtain ⟨located, wrote⟩ := work.2 cam mem notMoving
  exact ⟨(stable_located nodeId cam pre after inv invariantAfter others
      ⟨work.1, located⟩).2,
    stable_logged _ pre after inv invariantAfter others wrote⟩

omit [PythonText] in
theorem free_work (nodeId client : UUID) (moveCameraIds : List UUID)
    (desired : List CameraPlacement) : FreeOf client (Work tid nodeId moveCameraIds desired) :=
  fun _ _ work => work

variable {desired : List CameraPlacement}

theorem keeps_reconcile_camera {moveCameraIds : List UUID}
    (mem : cam ∈ desired) (applied unchanged : Nat) :
    Keeps tid (Work tid nodeId moveCameraIds desired)
      (reconcileCamera nodeId moveCameraIds cam applied unchanged) fun _ _ => True := by
  have stable : Stable protocol tid (Work tid nodeId moveCameraIds desired) :=
    stable_work nodeId moveCameraIds desired
  have free : FreeOf nodeId (Work tid nodeId moveCameraIds desired) :=
    free_work nodeId nodeId moveCameraIds desired
  refine keeps_bind (keeps_continue_or_cancel stable) ?_
  intro _ w isWork _
  split_ifs with moving disabled
  · exact keeps_pure (fun _ _ => trivial) w isWork
  · refine keeps_bind (keeps_remove_disabled_path stable free fun _ work => work.1) ?_ w isWork
    intro _ w isWork _
    refine keeps_bind (keeps_mark_applied stable ?_) ?_ w isWork
    · intro cur inv work other
      exact mark_permitted other inv (work.2 cam mem moving).1
        fun enabled => absurd enabled disabled
    · intro _ w isWork _
      exact keeps_pure (fun _ _ => trivial) w isWork
  · refine keeps_bind (keeps_apply_path stable free ?_) ?_ w isWork
    · intro cur inv work
      exact ⟨work.1, located_admitted inv (work.2 cam mem moving).1⟩
    · rintro ⟨verified, changed⟩ w isWork readBack
      by_cases differs : verified ≠ some (cameraPath cam)
      · dsimp only
        rw [if_pos differs]
        exact keeps_raise w isWork
      · obtain ⟨pre, workBefore, logged⟩ := readBack (not_not.mp differs)
        dsimp only
        rw [if_neg differs]
        have checked : Checked w.log cam.id cam.desiredRevision nodeId
            (cameraPath cam) :=
          ⟨[], pre.log, logged, (workBefore.2 cam mem moving).2⟩
        refine keeps_with (fun w => Checked w.log cam.id cam.desiredRevision nodeId
          (cameraPath cam)) ?_ isWork checked
        refine keeps_bind (keeps_mark_applied (stable_and stable (stable_checked _ _ _ _)) ?_) ?_
        · intro cur inv work other
          exact mark_permitted other inv (work.1.2 cam mem moving).1 fun _ => work.2
        · intro _ w isWork _
          split_ifs <;> exact keeps_pure (fun _ _ => trivial) w isWork

theorem keeps_reconcile_cameras {moveCameraIds : List UUID}
    (rest : List CameraPlacement) (among : ∀ cam ∈ rest, cam ∈ desired) (applied unchanged : Nat) :
    Keeps tid (Work tid nodeId moveCameraIds desired)
      (reconcileCameras nodeId moveCameraIds rest applied unchanged) fun _ _ => True := by
  induction rest generalizing applied unchanged with
  | nil => exact keeps_pure fun _ _ => trivial
  | cons cam rest ih =>
    refine keeps_bind (keeps_reconcile_camera (among cam List.mem_cons_self) applied unchanged) ?_
    rintro ⟨nextApplied, nextUnchanged⟩ w isWork _
    exact ih (fun other mem => among other (List.mem_cons_of_mem _ mem)) nextApplied
      nextUnchanged w isWork

theorem keeps_delete_orphans (stable : Stable protocol tid fact)
    (free : FreeOf client fact) (held : ∀ w, fact w → w.guards client = some tid)
    (orphans : List PublicId) (deleted : Nat) :
    Keeps tid fact (deleteOrphans client orphans deleted) fun _ _ => True := by
  have again := keeps_continue_or_cancel stable
  induction orphans generalizing deleted with
  | nil => exact keeps_pure fun _ _ => trivial
  | cons orphan rest ih =>
    have removed : Keeps tid fact
        (exceptMedia
          (do
            send (.deletePath client orphan)
            continueOrCancel
            send (.getPath client orphan))
          (safeGet client orphan)) fun _ _ => True := by
      refine keeps_except_media ?_
        (keeps_weaken (keeps_safe_get stable client orphan) fun _ _ _ _ => trivial)
      refine keeps_bind (keeps_delete_path stable free held) ?_
      intro _ w isFact _
      refine keeps_bind again ?_ w isFact
      intro _ w isFact _
      exact keeps_weaken (keeps_get_path stable client orphan) (fun _ _ _ _ => trivial) w isFact
    refine keeps_bind again ?_
    intro _ w isFact _
    refine keeps_bind removed ?_ w isFact
    intro remaining w isFact _
    split_ifs
    · exact keeps_raise w isFact
    · exact ih (deleted + 1) w isFact

/-- The cameras that were listed are still on the guarded node. -/
def Listed (tid : Nat) (nodeId : UUID) (desired : List CameraPlacement) (w : World) : Prop :=
  w.guards nodeId = some tid ∧ ∀ cam ∈ desired,
    (∃ cur ∈ w.store.cameras, CameraEvolves cam cur ∧ cur.nodeId = nodeId) ∧
      Event.wrote cam.id cam.desiredRevision ∈ w.log

theorem stable_listed (nodeId : UUID) (desired : List CameraPlacement) :
    Stable protocol tid (Listed tid nodeId desired) := by
  rintro pre after inv invariantAfter ⟨other, differ, effect⟩ ⟨held, listed⟩
  refine ⟨effect.guards nodeId tid held (Ne.symm differ), ?_⟩
  intro cam mem
  obtain ⟨⟨cur, currentMember, evolves, onNode⟩, wrote⟩ := listed cam mem
  refine ⟨?_, stable_logged _ pre after inv invariantAfter ⟨other, differ, effect⟩ wrote⟩
  obtain ⟨later, laterMember, laterEvolves, stays⟩ := effect.cameras cur currentMember
  refine ⟨later, laterMember, camera_evolves_trans evolves laterEvolves, ?_⟩
  rcases stays with sameNode | taken
  · exact sameNode.trans onNode
  · rw [onNode, held] at taken
    exact absurd (some.inj taken).symm differ

omit [PythonText] in
theorem active_move_touches {move : CameraMove} (inv : Invariant w)
    (mem : move ∈ w.store.cameraMoves) (active : cameraMoveIsTerminal move.state = false)
    (cameraMember : cam ∈ w.store.cameras) (ofCamera : move.cameraId = cam.id) :
    cam.nodeId = move.sourceNodeId ∨ cam.nodeId = move.targetNodeId := by
  obtain ⟨pinned, pinnedMember, pins⟩ := inv.facts.lifecycle.pinned move mem active
  have isCamera : pinned = cam := distinct_eq inv.facts.lifecycle.cameraIds
    pinnedMember cameraMember (pins.ofCamera.trans ofCamera)
  subst isCamera
  have placed := pins.placed
  cases state : move.state <;> simp only [PlacedFor, state] at placed
  case prepareTarget | cleanupTarget => exact .inl placed.1
  case cleanupSource | activateTarget => exact .inr placed.1
  all_goals (rw [state] at active; cases active)

omit [PythonText] in
theorem exec_read_store {Value : Type} {value : Except NodeError Value}
    {fault : Fault} {res : Value} {pre : World}
    (answered : readStore fault value pre = (.ok res, after)) :
    value = .ok res ∧ after = pre := by
  unfold readStore at answered
  split at answered
  · split at answered
    · simp only [Prod.mk.injEq, Except.ok.injEq] at answered
      exact ⟨answered.1 ▸ rfl, answered.2.symm⟩
    · cases (Prod.mk.inj answered).1
  all_goals cases (Prod.mk.inj answered).1

theorem keeps_list_node_cameras (nodeId : UUID) :
    Keeps tid (fun w => w.guards nodeId = some tid) (send (.listNodeCameras nodeId))
      fun desired after => Listed tid nodeId desired after := by
  refine keeps_weaken (keeps_neutral _ trivial (stable_guard nodeId) fun _ _ _ _ => trivial) ?_
  rintro desired after held ⟨pre, inv, _, _, choice, resp⟩
  obtain ⟨listed, rfl⟩ := exec_read_store (some.inj resp)
  refine ⟨held, ?_⟩
  intro cam mem
  have onNode : cam ∈ after.store.cameras ∧ cam.nodeId = nodeId := by
    simp only [InMemoryNodeStore.listNodeCameras, bind_ok, raise_if_ok, pure_ok] at listed
    obtain ⟨_, _, rfl⟩ := listed
    have kept := List.mem_filter.mp mem
    exact ⟨kept.1, (of_decide_eq_true kept.2).1⟩
  exact ⟨⟨cam, onNode.1, camera_evolves_refl cam, onNode.2⟩, inv.written cam onNode.1⟩

theorem keeps_list_node_active_moves (nodeId : UUID) (desired : List CameraPlacement) :
    Keeps tid (Listed tid nodeId desired) (send (.listNodeActiveMoves nodeId))
      fun moves after => Work tid nodeId (moves.map (·.cameraId)) desired after := by
  refine keeps_weaken (keeps_neutral _ trivial (stable_listed nodeId desired) fun _ _ _ _ => trivial)
    ?_
  rintro moves after ⟨held, listed⟩ ⟨pre, inv, _, _, choice, resp⟩
  obtain ⟨isMoves, rfl⟩ := exec_read_store (some.inj resp)
  refine ⟨held, ?_⟩
  intro cam mem notMoving
  obtain ⟨⟨cur, currentMember, evolves, onNode⟩, wrote⟩ := listed cam mem
  refine ⟨⟨cur, currentMember, evolves, onNode, ?_⟩, wrote⟩
  intro move moveMember active ofCamera
  refine absurd (List.mem_map.mpr ⟨move, ?_, ofCamera⟩) notMoving
  have touches := active_move_touches inv moveMember active currentMember
    (ofCamera.trans evolves.sameId.symm)
  rw [onNode] at touches
  rw [← Except.ok.inj isMoves]
  exact List.mem_filter.mpr ⟨moveMember, by simpa using ⟨touches, active⟩⟩

theorem safe_reconcile_locked (nodeId : UUID) (held : w.guards nodeId = some tid) :
    SafeAmong protocol tid (fun _ _ => True) (reconcileLocked nodeId) w := by
  have guarded : Stable protocol tid fun w => w.guards nodeId = some tid :=
    stable_guard nodeId
  refine keeps_then (keeps_neutral (.getNode nodeId) trivial guarded fun _ _ _ _ => trivial)
    (fun _ _ _ => trivial) ?_ held
  intro found w held _
  cases found with
  | none => exact safe_raise trivial
  | some node =>
    dsimp only
    split_ifs with unavailable
    · exact safe_raise trivial
    refine keeps_then (keeps_list_node_cameras nodeId) (fun _ _ _ => trivial) ?_ held
    intro desired w _ listed
    refine keeps_then (keeps_list_node_active_moves nodeId desired) (fun _ _ _ => trivial) ?_ listed
    intro moves w _ work
    have stable : Stable protocol tid (Work tid nodeId (moves.map (·.cameraId)) desired) :=
      stable_work nodeId (moves.map (·.cameraId)) desired
    refine keeps_then
      (keeps_neutral (.inventoryPaths nodeId) trivial stable fun _ _ _ _ => trivial)
      (fun _ _ _ => trivial) ?_ work
    intro inventory w work _
    split_ifs with reserved
    · exact safe_raise trivial
    refine keeps_then (keeps_reconcile_cameras desired (fun _ mem => mem) 0 0)
      (fun _ _ _ => trivial) ?_ work
    rintro ⟨applied, unchanged⟩ w work _
    refine keeps_then (keeps_neutral (.iterate _) trivial stable fun _ _ _ _ => trivial)
      (fun _ _ _ => trivial) ?_ work
    intro orphans w work _
    refine keeps_then (keeps_delete_orphans stable
      (free_work nodeId nodeId (moves.map (·.cameraId)) desired) (fun _ work => work.1) orphans 0)
      (fun _ _ _ => trivial) ?_ work
    intro deleted w _ _
    exact safe_pure trivial

end ReconcileNode

theorem safe_with_guard {body : Program Result} (stable : Stable protocol tid fact)
    (kept : ∀ w, fact w → fact (setGuard w nodeId (some tid)))
    (safe : ∀ w, fact w → w.guards nodeId = some tid →
      SafeAmong protocol tid (fun _ _ => True) body w) (holds : fact w) :
    SafeAmong protocol tid (fun _ _ => True) (withGuard nodeId body) w := by
  have acquired : SafeAmong protocol tid
      (Returns (fun _ after => fact after ∧ after.guards nodeId = some tid) fun _ _ => True)
      (send (.acquire nodeId)) w := by
    refine safe_ask stable holds (fun _ _ _ => trivial) ?_
    rintro cur ans after _ isFact ⟨_, choice, resp⟩
    cases ans with
    | error err => trivial
    | ok ans =>
      simp only [respond] at resp
      split_ifs at resp
      · cases (Prod.mk.inj (some.inj resp)).1
      · cases (Prod.mk.inj (some.inj resp)).1
      · split at resp
        · rw [← (Prod.mk.inj (some.inj resp)).2]
          exact ⟨kept cur isFact, if_pos rfl⟩
        · cases resp
  refine safe_and_then acquired ?_
  intro out after post
  cases out with
  | error err => trivial
  | ok res =>
    refine safe_and_then (safe after post.1 post.2) ?_
    intro out after _ cur _
    exact ⟨trivial, fun _ _ _ => trivial⟩

theorem safe_reconcile_node (nodeId : UUID) (w : World) :
    SafeAmong protocol tid (fun _ _ => True) (reconcileNode nodeId) w := by
  have anything : Stable protocol tid fun _ => True := fun _ _ _ _ _ _ => trivial
  refine keeps_then (keeps_continue_or_cancel anything) (fun _ _ _ => trivial) ?_ trivial
  intro _ w _ _
  refine safe_with_guard anything (fun _ _ => trivial) ?_ trivial
  intro w _ held
  exact safe_reconcile_locked nodeId held

end RtspProxy.Reconcile
