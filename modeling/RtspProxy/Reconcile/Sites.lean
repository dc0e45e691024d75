import RtspProxy.Nodes.Lifecycle
import RtspProxy.Reconcile.Programs

/-!
# Where a camera may have a path

For every camera the store alone decides which nodes may hold a path for its
public id and which single node may hold an open one. Outside a move this is
the node the camera is on. A move adds its target for a closed path, lets no
node have an open one between the switch and the clean-up of the source, and
then leaves the target. The steps of the store keep what is admitted, except
for the three that take a site away.
-/

namespace RtspProxy.Reconcile

open Nodes Lib InMemoryNodeStore Lib.RecordTable List

/-- The nodes on which a path may exist while the move is under way. -/
def moveSites (move : CameraMove) : List UUID :=
  match move.state with
  | .prepareTarget | .cleanupTarget | .cleanupSource => [move.sourceNodeId, move.targetNodeId]
  | .activateTarget => [move.targetNodeId]
  | .complete | .aborted => []

/-- The node on which the path may be open while the move is under way. -/
def moveOpenSite (move : CameraMove) : Option UUID :=
  match move.state with
  | .prepareTarget | .cleanupTarget => some move.sourceNodeId
  | .activateTarget => some move.targetNodeId
  | .cleanupSource | .complete | .aborted => none

def Idle (moves : List CameraMove) (cameraId : UUID) : Prop :=
  ∀ move ∈ moves, cameraMoveIsTerminal move.state = false → move.cameraId ≠ cameraId

structure Site (moves : List CameraMove) (cam : CameraPlacement) (nodeId : UUID) : Prop where
  moving : ∀ move ∈ moves, cameraMoveIsTerminal move.state = false → move.cameraId = cam.id →
    nodeId ∈ moveSites move
  idle : Idle moves cam.id → nodeId = cam.nodeId

structure OpenSite (moves : List CameraMove) (cam : CameraPlacement) (nodeId : UUID) :
    Prop where
  moving : ∀ move ∈ moves, cameraMoveIsTerminal move.state = false → move.cameraId = cam.id →
    moveOpenSite move = some nodeId
  idle : Idle moves cam.id → nodeId = cam.nodeId

/-- The path belongs to a camera that may have it on this node. -/
def Admitted (store : InMemoryNodeStore) (nodeId : UUID) (path : MediaPathConfig) : Prop :=
  ∃ cam ∈ store.cameras, cam.publicId = path.name ∧ Site store.cameraMoves cam nodeId ∧
    (path.IsOpen → OpenSite store.cameraMoves cam nodeId)

def AllAdmitted (store : InMemoryNodeStore) (media : UUID → List MediaPathConfig) : Prop :=
  ∀ nodeId, ∀ path ∈ media nodeId, Admitted store nodeId path

theorem open_site_unique {moves : List CameraMove} {cam : CameraPlacement} {first second : UUID}
    (firstOpen : OpenSite moves cam first) (secondOpen : OpenSite moves cam second) :
    first = second := by
  by_cases idle : Idle moves cam.id
  · rw [firstOpen.idle idle, secondOpen.idle idle]
  · simp only [Idle, not_forall, not_not] at idle
    obtain ⟨move, mem, active, ofCamera⟩ := idle
    have one := firstOpen.moving move mem active ofCamera
    have two := secondOpen.moving move mem active ofCamera
    exact Option.some.inj (one.symm.trans two)

section Tables

variable {moves nextMoves : List CameraMove} {cam upd : CameraPlacement} {nodeId : UUID}

theorem site_same (sameId : upd.id = cam.id) (sameNode : upd.nodeId = cam.nodeId)
    (site : Site moves cam nodeId) : Site moves upd nodeId := by
  refine ⟨?_, ?_⟩
  · intro move mem active ofCamera
    exact site.moving move mem active (ofCamera.trans sameId)
  · intro idle
    rw [sameNode]
    exact site.idle (sameId ▸ idle)

theorem open_site_same (sameId : upd.id = cam.id) (sameNode : upd.nodeId = cam.nodeId)
    (site : OpenSite moves cam nodeId) : OpenSite moves upd nodeId := by
  refine ⟨?_, ?_⟩
  · intro move mem active ofCamera
    exact site.moving move mem active (ofCamera.trans sameId)
  · intro idle
    rw [sameNode]
    exact site.idle (sameId ▸ idle)

/-- The active moves of the camera are the same in both tables. -/
def SameMoves (moves nextMoves : List CameraMove) (cameraId : UUID) : Prop :=
  ∀ move : CameraMove, cameraMoveIsTerminal move.state = false → move.cameraId = cameraId →
    (move ∈ moves ↔ move ∈ nextMoves)

theorem idle_of_same_moves {cameraId : UUID} (same : SameMoves moves nextMoves cameraId)
    (idle : Idle nextMoves cameraId) : Idle moves cameraId := by
  intro move mem active ofCamera
  exact idle move ((same move active ofCamera).mp mem) active ofCamera

theorem site_same_moves (same : SameMoves moves nextMoves cam.id)
    (site : Site moves cam nodeId) : Site nextMoves cam nodeId := by
  refine ⟨?_, fun idle => site.idle (idle_of_same_moves same idle)⟩
  intro move mem active ofCamera
  exact site.moving move ((same move active ofCamera).mpr mem) active ofCamera

theorem open_site_same_moves (same : SameMoves moves nextMoves cam.id)
    (site : OpenSite moves cam nodeId) : OpenSite nextMoves cam nodeId := by
  refine ⟨?_, fun idle => site.idle (idle_of_same_moves same idle)⟩
  intro move mem active ofCamera
  exact site.moving move ((same move active ofCamera).mpr mem) active ofCamera

theorem same_moves_replace {move next : CameraMove} {cameraId : UUID}
    (distinct : DistinctKeys CameraMove.id moves) (present : move ∈ moves)
    (sameMove : next.id = move.id) (sameCamera : next.cameraId = move.cameraId)
    (other : cameraId ≠ move.cameraId) :
    SameMoves moves (replace CameraMove.id next moves) cameraId := by
  intro cand _ ofCamera
  have apart : cand.cameraId ≠ move.cameraId := ofCamera ▸ other
  constructor
  · intro mem
    refine mem_replace_of_ne mem ?_
    intro sameId
    have isMove := distinct_eq distinct mem present (sameId.trans sameMove)
    exact apart (congrArg CameraMove.cameraId isMove)
  · intro mem
    rcases mem_of_mem_replace mem with rfl | inMoves
    · exact absurd sameCamera apart
    · exact inMoves

end Tables

section Steps

variable {store post : InMemoryNodeStore} {media : UUID → List MediaPathConfig}

theorem admitted_mono (keeps : ∀ cam ∈ store.cameras, ∃ later ∈ post.cameras,
      later.publicId = cam.publicId ∧
        (∀ nodeId, Site store.cameraMoves cam nodeId → Site post.cameraMoves later nodeId) ∧
        ∀ nodeId, OpenSite store.cameraMoves cam nodeId → OpenSite post.cameraMoves later nodeId)
    (admitted : AllAdmitted store media) : AllAdmitted post media := by
  intro nodeId path mem
  obtain ⟨cam, cameraMember, named, site, openSite⟩ := admitted nodeId path mem
  obtain ⟨later, laterMember, samePublicId, keepsSite, keepsOpen⟩ := keeps cam cameraMember
  exact ⟨later, laterMember, samePublicId.trans named, keepsSite nodeId site,
    fun isOpen => keepsOpen nodeId (openSite isOpen)⟩

theorem admitted_same_tables (admitted : AllAdmitted store media)
    (sameCameras : post.cameras = store.cameras)
    (sameMoves : post.cameraMoves = store.cameraMoves) : AllAdmitted post media := by
  refine admitted_mono ?_ admitted
  intro cam mem
  rw [sameCameras, sameMoves]
  exact ⟨cam, mem, rfl, fun _ => id, fun _ => id⟩

theorem admitted_same_sites (admitted : AllAdmitted store media)
    (keeps : ∀ cam ∈ store.cameras, ∃ later ∈ post.cameras, later.id = cam.id ∧
      later.publicId = cam.publicId ∧ later.nodeId = cam.nodeId)
    (sameMoves : post.cameraMoves = store.cameraMoves) : AllAdmitted post media := by
  refine admitted_mono ?_ admitted
  intro cam mem
  obtain ⟨later, laterMember, sameId, samePublicId, sameNode⟩ := keeps cam mem
  rw [sameMoves]
  exact ⟨later, laterMember, samePublicId, fun _ => site_same sameId sameNode,
    fun _ => open_site_same sameId sameNode⟩

theorem replaced_in_place {cam upd : CameraPlacement}
    (distinct : DistinctKeys CameraPlacement.id store.cameras)
    (present : cam ∈ store.cameras) (sameId : upd.id = cam.id)
    (samePublicId : upd.publicId = cam.publicId) (sameNode : upd.nodeId = cam.nodeId) :
    ∀ other ∈ store.cameras, ∃ later ∈ replace CameraPlacement.id upd store.cameras,
        later.id = other.id ∧ later.publicId = other.publicId ∧ later.nodeId = other.nodeId := by
  intro other mem
  by_cases same : other.id = upd.id
  · have isCamera : other = cam :=
      distinct_eq distinct mem present (same.trans sameId)
    subst isCamera
    exact ⟨upd, updated_mem_replace present same, sameId, samePublicId, sameNode⟩
  · exact ⟨other, mem_replace_of_ne mem same, rfl, rfl, rfl⟩

/-- A move under way advances to `next`, its camera to `nextCamera`; the sites of that
camera have to be checked, the other cameras keep theirs. -/
theorem admitted_advance {move next : CameraMove} {cam nextCamera : CameraPlacement}
    (admitted : AllAdmitted store media)
    (cameras : post.cameras = replace CameraPlacement.id nextCamera store.cameras)
    (moves : post.cameraMoves = replace CameraMove.id next store.cameraMoves)
    (lifecycle : Lifecycle store.cameras store.cameraMoves) (moveMember : move ∈ store.cameraMoves)
    (active : cameraMoveIsTerminal move.state = false) (mem : cam ∈ store.cameras)
    (ofCamera : cam.id = move.cameraId) (sameMove : next.id = move.id)
    (sameCamera : next.cameraId = move.cameraId) (sameId : nextCamera.id = cam.id)
    (samePublicId : nextCamera.publicId = cam.publicId)
    (advances : ∀ nodeId, ∀ path ∈ media nodeId, path.name = cam.publicId →
      nodeId ∈ moveSites move → (path.IsOpen → moveOpenSite move = some nodeId) →
      if cameraMoveIsTerminal next.state then nodeId = nextCamera.nodeId
      else nodeId ∈ moveSites next ∧ (path.IsOpen → moveOpenSite next = some nodeId)) :
    AllAdmitted post media := by
  have onlyNext : ∀ other ∈ post.cameraMoves, cameraMoveIsTerminal other.state = false →
      other.cameraId = nextCamera.id → other = next := by
    intro other otherMember otherActive otherCamera
    rw [moves] at otherMember
    rcases (mem_replace lifecycle.moveIds moveMember sameMove.symm).mp otherMember with
      rfl | ⟨old, differ⟩
    · rfl
    · have isMove := lifecycle.oneMove other old move moveMember otherActive active
        (otherCamera.trans (sameId.trans ofCamera))
      exact absurd (isMove ▸ sameMove.symm) differ
  have nextMember : next ∈ post.cameraMoves := by
    rw [moves]
    exact updated_mem_replace moveMember sameMove.symm
  intro nodeId path pathMember
  obtain ⟨holder, holderMember, named, site, openSite⟩ := admitted nodeId path pathMember
  by_cases own : holder.id = cam.id
  · have isCamera : holder = cam :=
      distinct_eq lifecycle.cameraIds holderMember mem own
    subst isCamera
    have moved := advances nodeId path pathMember named.symm
      (site.moving move moveMember active ofCamera.symm)
      (fun isOpen => (openSite isOpen).moving move moveMember active ofCamera.symm)
    have nextCameraMember : nextCamera ∈ post.cameras := by
      rw [cameras]
      exact updated_mem_replace mem sameId.symm
    have whenIdle : Idle post.cameraMoves nextCamera.id → nodeId = nextCamera.nodeId := by
      intro idle
      by_cases ended : cameraMoveIsTerminal next.state = true
      · rwa [if_pos ended] at moved
      · exact absurd (sameCamera.trans (ofCamera.symm.trans sameId.symm))
          (idle next nextMember (Bool.eq_false_iff.mpr ended))
    refine ⟨nextCamera, nextCameraMember, samePublicId.trans named, ⟨?_, whenIdle⟩,
      fun isOpen => ⟨?_, whenIdle⟩⟩
    · intro other otherMember otherActive otherCamera
      obtain rfl := onlyNext other otherMember otherActive otherCamera
      rw [otherActive] at moved
      exact moved.1
    · intro other otherMember otherActive otherCamera
      obtain rfl := onlyNext other otherMember otherActive otherCamera
      rw [otherActive] at moved
      exact moved.2 isOpen
  · have sameMoves : SameMoves store.cameraMoves post.cameraMoves holder.id := by
      rw [moves]
      exact same_moves_replace lifecycle.moveIds moveMember sameMove sameCamera
        (ofCamera ▸ own)
    refine ⟨holder, ?_, named, site_same_moves sameMoves site,
      fun isOpen => open_site_same_moves sameMoves (openSite isOpen)⟩
    rw [cameras]
    exact mem_replace_of_ne holderMember (sameId ▸ own)

/-- What a step that takes a site away has to establish on the media nodes first. -/
def SitesCleared (store : InMemoryNodeStore) (media : UUID → List MediaPathConfig) :
    StepLabel → Prop
  | .switchMove moveId => ∀ move, store.findMove moveId = some move → move.state = .prepareTarget →
      ∀ path ∈ media move.sourceNodeId, path.name = move.publicId → ¬path.IsOpen
  | .sourceCleaned moveId => ∀ move, store.findMove moveId = some move →
      move.state = .cleanupSource → ∀ path ∈ media move.sourceNodeId, path.name ≠ move.publicId
  | .abortMove moveId => ∀ move, store.findMove moveId = some move →
      move.state = .cleanupTarget → ∀ path ∈ media move.targetNodeId, path.name ≠ move.publicId
  | _ => True

theorem admitted_new_move {cam bumped : CameraPlacement} {move : CameraMove}
    (admitted : AllAdmitted store media)
    (cameras : post.cameras = replace CameraPlacement.id bumped store.cameras)
    (moves : post.cameraMoves = store.cameraMoves ++ [move])
    (lifecycle : Lifecycle store.cameras store.cameraMoves) (present : cam ∈ store.cameras)
    (idle : Idle store.cameraMoves cam.id) (ofCamera : move.cameraId = cam.id)
    (fromSource : move.sourceNodeId = cam.nodeId) (preparing : move.state = .prepareTarget)
    (sameId : bumped.id = cam.id) (samePublicId : bumped.publicId = cam.publicId) :
    AllAdmitted post media := by
  have active : cameraMoveIsTerminal move.state = false := by
    rw [preparing]
    rfl
  have newMember : move ∈ post.cameraMoves := by
    rw [moves]
    exact mem_append_right _ (mem_singleton_self move)
  refine admitted_mono ?_ admitted
  intro other mem
  by_cases own : other.id = cam.id
  · have isCamera : other = cam :=
      distinct_eq lifecycle.cameraIds mem present own
    subst isCamera
    have onlyNew : ∀ cand ∈ post.cameraMoves, cameraMoveIsTerminal cand.state = false →
        cand.cameraId = bumped.id → cand = move := by
      intro cand candidateMember candidateActive candidateCamera
      rw [moves] at candidateMember
      rcases mem_append.mp candidateMember with old | isNew
      · exact absurd (candidateCamera.trans sameId) (idle cand old candidateActive)
      · exact mem_singleton.mp isNew
    have busy : ¬Idle post.cameraMoves bumped.id := by
      intro none
      exact none move newMember active (ofCamera.trans sameId.symm)
    refine ⟨bumped, ?_, samePublicId, ?_, ?_⟩
    · rw [cameras]
      exact updated_mem_replace present sameId.symm
    · intro nodeId site
      refine ⟨?_, fun none => absurd none busy⟩
      intro cand candidateMember candidateActive candidateCamera
      rw [onlyNew cand candidateMember candidateActive candidateCamera, moveSites, preparing]
      rw [site.idle idle, ← fromSource]
      exact mem_cons_self
    · intro nodeId site
      refine ⟨?_, fun none => absurd none busy⟩
      intro cand candidateMember candidateActive candidateCamera
      rw [onlyNew cand candidateMember candidateActive candidateCamera, moveOpenSite, preparing]
      rw [site.idle idle, ← fromSource]
  · have sameMoves : SameMoves store.cameraMoves post.cameraMoves other.id := by
      intro cand _ candidateCamera
      rw [moves, mem_append, mem_singleton]
      constructor
      · exact Or.inl
      · rintro (old | rfl)
        · exact old
        · exact absurd (candidateCamera.symm.trans ofCamera) own
    refine ⟨other, ?_, rfl, fun _ => site_same_moves sameMoves, fun _ => open_site_same_moves
      sameMoves⟩
    rw [cameras]
    exact mem_replace_of_ne mem (sameId ▸ own)

theorem admitted_step {label : StepLabel} (lifecycle : Lifecycle store.cameras store.cameraMoves)
    (cleared : SitesCleared store media label) (step : StoreStep store label post)
    (admitted : AllAdmitted store media) : AllAdmitted post media := by
  have inPlace {cam upd : CameraPlacement} (found : store.findCamera cam.id = some cam)
      (sameId : upd.id = cam.id) (samePublicId : upd.publicId = cam.publicId)
      (sameNode : upd.nodeId = cam.nodeId) :=
    replaced_in_place lifecycle.cameraIds (lookup_mem found) sameId samePublicId sameNode
  cases step with
  | requests | registerNode | commandNode | removeNode | beginPortChange | abortPortChange =>
    exact admitted_same_tables admitted rfl rfl
  | completePortChange change node obs observedAt changeFound found onNode prepared =>
    refine admitted_same_sites admitted ?_ rfl
    intro cam mem
    refine ⟨_, mem_map_of_mem mem, ?_⟩
    split_ifs <;> exact ⟨rfl, rfl, rfl⟩
  | placeCamera selected cam =>
    refine admitted_same_sites admitted ?_ rfl
    intro other mem
    exact ⟨other, mem_append_left _ mem, rfl, rfl, rfl⟩
  | editCamera cam upd found live idle sameId samePublicId samePlacement =>
    exact admitted_same_sites admitted (inPlace found sameId samePublicId samePlacement.1) rfl
  | markApplied cam found =>
    exact admitted_same_sites admitted (inPlace found rfl rfl rfl) rfl
  | markDeleted cam node found =>
    exact admitted_same_sites admitted (inPlace found rfl rfl rfl) rfl
  | createMove cam move source target found sourceFound targetFound fresh enabled idle ofCamera
      fromSource generation toOther revision preparing =>
      exact admitted_new_move admitted rfl rfl lifecycle (lookup_mem found)
        (idle_of_no_active_move idle) ofCamera.1 fromSource.1 preparing rfl rfl
  | switchMove move cam source target moveFound found sourceFound targetFound preparing =>
    have active : cameraMoveIsTerminal move.state = false := by rw [preparing]; rfl
    have pins := found_camera_pinned lifecycle (lookup_mem moveFound) active found
    refine admitted_advance admitted rfl rfl lifecycle (lookup_mem moveFound) active
      (lookup_mem found) pins.ofCamera rfl rfl rfl rfl ?_
    intro nodeId path pathMember named site openSite
    rw [if_neg (by simp [cameraMoveIsTerminal])]
    simp only [moveSites, moveOpenSite, preparing] at site openSite ⊢
    refine ⟨site, ?_⟩
    intro isOpen
    -- An open path could only be the source's, and that one has been closed.
    have atSource := Option.some.inj (openSite isOpen)
    exact absurd isOpen (cleared move moveFound preparing path (atSource ▸ pathMember)
      (named.trans pins.publicId))
  | sourceCleaned move moveFound switched =>
    have active : cameraMoveIsTerminal move.state = false := by rw [switched]; rfl
    obtain ⟨cam, found, pins⟩ :=
      pinned_camera_found lifecycle (lookup_mem moveFound) active
    have unchanged : replace CameraPlacement.id cam store.cameras = store.cameras := by
      apply replace_same
      rw [pins.ofCamera]
      exact found
    refine admitted_advance admitted unchanged.symm rfl lifecycle (lookup_mem moveFound)
      active (lookup_mem found) pins.ofCamera rfl rfl rfl rfl ?_
    intro nodeId path pathMember named site openSite
    rw [if_neg (by simp [cameraMoveIsTerminal])]
    simp only [moveSites, moveOpenSite, switched, mem_cons, not_mem_nil,
      or_false] at site openSite ⊢
    rcases site with rfl | rfl
    · exact absurd (named.trans pins.publicId) (cleared move moveFound switched path pathMember)
    · exact ⟨rfl, fun _ => rfl⟩
  | requestAbort move cam reason moveFound found preparing =>
    have active : cameraMoveIsTerminal move.state = false := by rw [preparing]; rfl
    have pins := found_camera_pinned lifecycle (lookup_mem moveFound) active found
    have placed := pins.placed
    simp only [PlacedFor, preparing] at placed
    rw [if_pos placed.2.2]
    refine admitted_advance admitted rfl rfl lifecycle (lookup_mem moveFound) active
      (lookup_mem found) pins.ofCamera rfl rfl rfl rfl ?_
    intro nodeId path pathMember named site openSite
    rw [if_neg (by simp [cameraMoveIsTerminal])]
    simp only [moveSites, moveOpenSite, preparing] at site openSite ⊢
    exact ⟨site, openSite⟩
  | abortMove move moveFound aborting =>
    have active : cameraMoveIsTerminal move.state = false := by rw [aborting]; rfl
    obtain ⟨cam, found, pins⟩ :=
      pinned_camera_found lifecycle (lookup_mem moveFound) active
    have unchanged : replace CameraPlacement.id cam store.cameras = store.cameras := by
      apply replace_same
      rw [pins.ofCamera]
      exact found
    refine admitted_advance admitted unchanged.symm rfl lifecycle (lookup_mem moveFound)
      active (lookup_mem found) pins.ofCamera rfl rfl rfl rfl ?_
    intro nodeId path pathMember named site openSite
    rw [if_pos (by simp [cameraMoveIsTerminal])]
    have placed := pins.placed
    simp only [PlacedFor, aborting] at placed
    simp only [moveSites, aborting, mem_cons, not_mem_nil, or_false] at site
    rcases site with rfl | rfl
    · exact placed.1.symm
    · exact absurd (named.trans pins.publicId) (cleared move moveFound aborting path pathMember)
  | completeMove move cam moveFound found activating =>
    have active : cameraMoveIsTerminal move.state = false := by rw [activating]; rfl
    have pins := found_camera_pinned lifecycle (lookup_mem moveFound) active found
    refine admitted_advance admitted rfl rfl lifecycle (lookup_mem moveFound) active
      (lookup_mem found) pins.ofCamera rfl rfl rfl rfl ?_
    intro nodeId path pathMember named site openSite
    rw [if_pos (by simp [cameraMoveIsTerminal])]
    have placed := pins.placed
    simp only [PlacedFor, activating] at placed
    simp only [moveSites, activating, mem_cons, not_mem_nil, or_false] at site
    exact site.trans placed.1.symm

end Steps

end RtspProxy.Reconcile
