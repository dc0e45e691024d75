import RtspProxy.Reconcile.Safety

/-!
# The move saga keeps the protocol

`resume` takes the guards of both nodes of a move and carries the move on from
whatever state it finds. Under these guards only the thread itself advances the
move; all that others can do is ask a prepared move to abort. That is what a
thread tracks from one call to the next, and each step of the saga returns a
move that is tracked again.
-/

namespace RtspProxy.Reconcile

open Nodes Lib Lib.Program Lib.Program.Prog Lib.RecordTable Option
  InMemoryNodeStore CameraReconciler CameraMoveReconciler

/-- The move as the thread knows it is the move of the store, up to a request to abort. -/
structure Tracks (tid : Nat) (move : CameraMove) (w : World) : Prop where
  both : HoldsBoth tid w move
  twoNodes : move.sourceNodeId ≠ move.targetNodeId
  current : ∃ cur ∈ w.store.cameraMoves,
    cur = { move with state := cur.state, abortReason := cur.abortReason } ∧
      (cur.state = move.state ∨ move.state = .prepareTarget ∧ cur.state = .cleanupTarget)

theorem free_tracks (tid : Nat) (move : CameraMove) (nodeId : UUID) :
    FreeOf nodeId (Tracks tid move) :=
  fun _ _ tracks => ⟨tracks.both, tracks.twoNodes, tracks.current⟩

section Tracked

variable {tid : Nat} {move : CameraMove} {w : World}

theorem tracked_found {found : CameraMove} (inv : Invariant w)
    (tracks : Tracks tid move w) (isFound : w.store.findMove move.id = some found) :
    found = { move with state := found.state, abortReason := found.abortReason } ∧
      (found.state = move.state ∨ move.state = .prepareTarget ∧ found.state = .cleanupTarget) := by
  obtain ⟨cur, mem, samePlan, states⟩ := tracks.current
  have sameId : cur.id = move.id := by rw [samePlan]
  have isCurrent := lookup_of_mem inv.facts.lifecycle.moveIds mem
  rw [sameId] at isCurrent
  have same : found = cur := some.inj (isFound.symm.trans isCurrent)
  rw [same]
  exact ⟨samePlan, states⟩

theorem tracked_admitted {path : MediaPathConfig} {nodeId : UUID} (inv : Invariant w)
    (tracks : Tracks tid move w) (named : path.name = move.publicId)
    (active : cameraMoveIsTerminal move.state = false)
    (site : ∀ state, state = move.state ∨ move.state = .prepareTarget ∧ state = .cleanupTarget →
      nodeId ∈ moveSites { move with state := state } ∧
        (path.IsOpen → moveOpenSite { move with state := state } = some nodeId)) :
    Admitted w.store nodeId path := by
  obtain ⟨cur, mem, samePlan, states⟩ := tracks.current
  have currentActive : cameraMoveIsTerminal cur.state = false := by
    rcases states with same | ⟨_, aborting⟩
    · rw [same]
      exact active
    · rw [aborting]
      rfl
  obtain ⟨cam, cameraMember, pins⟩ := inv.facts.lifecycle.pinned cur mem currentActive
  have sites : nodeId ∈ moveSites cur ∧ (path.IsOpen → moveOpenSite cur = some nodeId) := by
    have allowed := site cur.state states
    rw [samePlan]
    exact allowed
  have one : ∀ other ∈ w.store.cameraMoves, cameraMoveIsTerminal other.state = false →
      other.cameraId = cam.id → other = cur := by
    intro other otherMember otherActive ofCamera
    exact inv.facts.lifecycle.oneMove other otherMember cur mem otherActive
      currentActive (ofCamera.trans pins.ofCamera)
  have notIdle : ¬Idle w.store.cameraMoves cam.id :=
    fun idle => idle cur mem currentActive pins.ofCamera.symm
  refine ⟨cam, cameraMember, ?_, ⟨?_, fun idle => absurd idle notIdle⟩,
    fun isOpen => ⟨?_, fun idle => absurd idle notIdle⟩⟩
  · rw [pins.publicId, named, samePlan]
  · intro other otherMember otherActive ofCamera
    rw [one other otherMember otherActive ofCamera]
    exact sites.1
  · intro other otherMember otherActive ofCamera
    rw [one other otherMember otherActive ofCamera]
    exact sites.2 isOpen

theorem tracked_result {pre after : World} {res : CameraMove} (inv : Invariant after)
    (tracks : Tracks tid move pre) (effect : Effect tid pre after)
    (sameGuards : after.guards = pre.guards)
    (ret : after.store.findMove move.id = some res) : Tracks tid res after := by
  obtain ⟨cur, mem, samePlan, _⟩ := tracks.current
  obtain ⟨later, laterMember, evolves, _⟩ := effect.moves cur mem
  have sameId : later.id = move.id := by rw [evolves.samePlan, samePlan]
  have isResult : res = later := by
    have found := lookup_of_mem inv.facts.lifecycle.moveIds laterMember
    rw [sameId] at found
    exact some.inj (ret.symm.trans found)
  have plan : res = { move with state := res.state, abortReason := res.abortReason } := by
    rw [isResult, evolves.samePlan, samePlan]
  refine ⟨?_, ?_, res, lookup_mem ret, rfl, .inl rfl⟩
  · rw [HoldsBoth, sameGuards, plan]
    exact tracks.both
  · rw [plan]
    exact tracks.twoNodes

end Tracked

variable [PythonText] {tid : Nat} {move : CameraMove}

theorem stable_tracks (move : CameraMove) : Stable protocol tid (Tracks tid move) := by
  rintro pre after _ _ ⟨other, differ, effect⟩ ⟨both, twoNodes, cur⟩
  have notOther : ¬HoldsBoth other pre move := by
    intro taken
    rw [HoldsBoth, both.1] at taken
    exact differ (some.inj taken.1).symm
  refine ⟨⟨effect.guards _ tid both.1 (Ne.symm differ),
    effect.guards _ tid both.2 (Ne.symm differ)⟩, twoNodes, ?_⟩
  obtain ⟨cur, mem, samePlan, states⟩ := cur
  obtain ⟨later, laterMember, evolves, advanced⟩ := effect.moves cur mem
  refine ⟨later, laterMember, ?_, ?_⟩
  · rw [evolves.samePlan, samePlan]
  · rcases advanced with same | ⟨preparing, aborting⟩ | taken
    · rw [same]
      exact states
    · rcases states with state | ⟨_, already⟩
      · exact .inr ⟨state.symm.trans preparing, aborting⟩
      · rw [already] at preparing
        cases preparing
    · refine absurd ?_ notOther
      rw [samePlan] at taken
      exact taken

theorem mutate_ok {op : StoreOperation} {fault : Fault} {pre after : World}
    {res : op.Result} (answered : mutate fault op pre = (.ok res, after)) :
    op.perform pre.store = .ok (res, after.store) ∧ after.guards = pre.guards := by
  cases fault with
  | before => cases (Prod.mk.inj answered).1
  | after => cases (Prod.mk.inj answered).1
  | none =>
    simp only [mutate, Fault.strike, Prod.mk_inj] at answered
    obtain ⟨isResult, rfl⟩ := answered
    cases acted : op.perform pre.store with
    | error err =>
      rw [acted] at isResult
      cases isResult
    | ok out =>
      rw [acted] at isResult
      cases isResult
      simp [World.operated, StoreOperation.apply, StoreOperation.run, acted]

theorem mutate_error {op : StoreOperation} {fault : Fault} {pre after : World}
    {err : Raised} (answered : mutate fault op pre = (.error err, after)) :
    err = .storeUnavailable ∨ after.store = pre.store ∧ after.guards = pre.guards := by
  cases fault with
  | before => exact .inl (Except.error.inj (Prod.mk.inj answered).1).symm
  | after => exact .inl (Except.error.inj (Prod.mk.inj answered).1).symm
  | none =>
    refine .inr ?_
    simp only [mutate, Fault.strike, Prod.mk_inj] at answered
    obtain ⟨isError, rfl⟩ := answered
    cases acted : op.perform pre.store with
    | ok out =>
      rw [acted] at isError
      cases isError
    | error err => simp [World.operated, StoreOperation.apply, StoreOperation.run, acted]

omit [PythonText] in
theorem find_put_move {store : InMemoryNodeStore} {old : CameraMove} (upd : CameraMove)
    (found : store.findMove old.id = some old) (sameId : upd.id = old.id) :
    (store.putMove upd).findMove old.id = some upd := by
  rw [← sameId]
  exact lookup_replace_self (lookup_mem found) sameId.symm

section Returned

open Raising

variable {store after : InMemoryNodeStore} {moveId : UUID} {res : CameraMove}

omit [PythonText] in
theorem switch_returns {cancelled : Bool} {clock now : Datetime}
    (ran : store.switchCameraMove moveId cancelled clock now = .ok (res, after)) :
    after.findMove moveId = some res := by
  simp only [switchCameraMove, bind_ok, or_raise_ok, raise_if_ok, exists_const, ite_ok, pure_ok,
    Prod.mk_inj, not_not] at ran
  obtain ⟨-, found, isFound, ⟨-, rfl, rfl⟩ | ⟨-, -, cam, -, source, -, target, -, -, -, -, -, rfl,
    rfl⟩⟩ := ran
  · exact isFound
  · obtain rfl := find_move_id isFound
    exact find_put_move { found with state := .cleanupSource } isFound rfl

omit [PythonText] in
theorem source_cleaned_returns (ran : store.markCameraMoveSourceCleaned moveId = .ok (res, after)) :
    after.findMove moveId = some res := by
  simp only [markCameraMoveSourceCleaned, bind_ok, or_raise_ok, raise_if_ok, exists_const, ite_ok,
    pure_ok, Prod.mk_inj, not_not] at ran
  obtain ⟨found, isFound, ⟨-, rfl, rfl⟩ | ⟨-, -, rfl, rfl⟩⟩ := ran
  · exact isFound
  · obtain rfl := find_move_id isFound
    exact find_put_move { found with state := .activateTarget } isFound rfl

omit [PythonText] in
theorem request_abort_returns {reason : String} {cancelled : Bool}
    (ran : store.requestCameraMoveAbort moveId reason cancelled = .ok (res, after)) :
    after.findMove moveId = some res := by
  simp only [requestCameraMoveAbort, bind_ok, or_raise_ok, raise_if_ok, exists_const, ite_ok,
    pure_ok, Prod.mk_inj, not_not] at ran
  obtain ⟨-, found, isFound, ⟨-, rfl, rfl⟩ | ⟨-, -, cam, -, rfl, rfl⟩⟩ := ran
  · exact isFound
  · obtain rfl := find_move_id isFound
    refine find_put_move { found with state := .cleanupTarget, abortReason := some reason } ?_ rfl
    split_ifs <;> exact isFound

omit [PythonText] in
theorem abort_returns (ran : store.abortCameraMove moveId = .ok (res, after)) :
    after.findMove moveId = some res := by
  simp only [abortCameraMove, bind_ok, or_raise_ok, raise_if_ok, exists_const, ite_ok, pure_ok,
    Prod.mk_inj, not_not] at ran
  obtain ⟨found, isFound, ⟨-, rfl, rfl⟩ | ⟨-, -, rfl, rfl⟩⟩ := ran
  · exact isFound
  · obtain rfl := find_move_id isFound
    exact find_put_move { found with state := .aborted } isFound rfl

end Returned

/-- A step of the saga is safe while the move is tracked, and the move it returns is tracked. -/
def Carries (tid : Nat) (move : CameraMove) (prog : Program CameraMove) : Prop :=
  ∀ w, Tracks tid move w → SafeAmong protocol tid (Returns (Tracks tid) fun _ _ => True) prog w

variable {w : World}

omit [PythonText] in
theorem tracked_state {found : CameraMove} (inv : Invariant w)
    (tracks : Tracks tid move w) (isFound : w.store.findMove move.id = some found) :
    HoldsBoth tid w found ∧ found.publicId = move.publicId ∧
      found.sourceNodeId = move.sourceNodeId ∧ found.targetNodeId = move.targetNodeId := by
  obtain ⟨samePlan, _⟩ := tracked_found inv tracks isFound
  rw [samePlan]
  exact ⟨tracks.both, rfl, rfl, rfl⟩

theorem keeps_require_node {fact : World → Prop} (stable : Stable protocol tid fact)
    (nodeId : UUID) (code : String) : Keeps tid fact (requireNode nodeId code) fun _ _ => True := by
  refine keeps_bind (keeps_neutral (.getNode nodeId) trivial stable fun _ _ _ _ => trivial) ?_
  intro found w isFact _
  cases found with
  | none => exact keeps_raise w isFact
  | some node => exact keeps_pure (fun _ _ => trivial) w isFact

omit [PythonText] in
theorem closed_permitted {nodeId : UUID} (preparing : move.state = .prepareTarget)
    (inv : Invariant w) (tracks : Tracks tid move w)
    (ofMove : nodeId = move.sourceNodeId ∨ nodeId = move.targetNodeId) :
    Permitted tid w (.putPath nodeId (closedPath move)) := by
  refine ⟨?_, tracked_admitted inv tracks rfl (by rw [preparing]; rfl) ?_⟩
  · rcases ofMove with rfl | rfl
    · exact tracks.both.1
    · exact tracks.both.2
  · rintro state (rfl | ⟨_, rfl⟩)
    · refine ⟨by simpa [moveSites, preparing] using ofMove, ?_⟩
      intro isOpen
      cases isOpen
    · refine ⟨by simpa [moveSites] using ofMove, ?_⟩
      intro isOpen
      cases isOpen

theorem keeps_prepare_and_verify (preparing : move.state = .prepareTarget) :
    Keeps tid (Tracks tid move) (prepareAndVerify move) fun _ _ => True := by
  have stable : Stable protocol tid (Tracks tid move) := stable_tracks move
  have again := keeps_continue_or_cancel stable
  have get := keeps_weaken (keeps_get_path stable move.targetNodeId move.publicId)
    fun _ _ _ _ => trivial
  refine keeps_bind again ?_
  intro _ w tracks _
  refine keeps_bind (keeps_require_node stable _ _) ?_ w tracks
  intro _ w tracks _
  have verified : Keeps tid (Tracks tid move)
      (exceptMedia
        (do
          if (← send (.getPath move.targetNodeId move.publicId)) ≠ some (closedPath move) then
            continueOrCancel
            send (.putPath move.targetNodeId (closedPath move))
          continueOrCancel
          send (.getPath move.targetNodeId move.publicId))
        (safeReadBack move.targetNodeId (closedPath move))) fun _ _ => True := by
    have tail : Keeps tid (Tracks tid move)
        (do
          continueOrCancel
          send (.getPath move.targetNodeId move.publicId)) fun _ _ => True :=
      keeps_bind again fun _ w tracks _ => get w tracks
    refine keeps_except_media ?_ (keeps_except_media tail keeps_raise)
    refine keeps_bind get ?_
    intro actual w tracks _
    split_ifs
    · refine keeps_bind again ?_ w tracks
      intro _ w tracks _
      refine keeps_bind (keeps_put_path stable (free_tracks tid move move.targetNodeId) ?_) ?_
        w tracks
      · intro cur inv tracks
        exact closed_permitted preparing inv tracks (.inr rfl)
      · intro _ w tracks _
        exact tail w tracks
    · exact tail w tracks
  refine keeps_bind verified ?_ w tracks
  intro actual w tracks _
  split_ifs
  · exact keeps_raise w tracks
  · exact keeps_pure (fun _ _ => trivial) w tracks

theorem keeps_quiesce_and_validate_source (preparing : move.state = .prepareTarget) :
    Keeps tid (Tracks tid move) (quiesceAndValidateSource move) fun _ after =>
      lookup MediaPathConfig.name move.publicId (after.media move.sourceNodeId) =
        some (closedPath move) := by
  have stable : Stable protocol tid (Tracks tid move) := stable_tracks move
  have again := keeps_continue_or_cancel stable
  refine keeps_bind again ?_
  intro _ w tracks _
  refine keeps_bind (keeps_require_node stable _ _) ?_ w tracks
  intro _ w tracks _
  refine keeps_bind (keeps_put_path stable (free_tracks tid move move.sourceNodeId) ?_) ?_ w tracks
  · intro cur inv tracks
    exact closed_permitted preparing inv tracks (.inl rfl)
  intro _ w tracks _
  refine keeps_bind again ?_ w tracks
  intro _ w tracks _
  refine keeps_bind (keeps_get_path stable move.sourceNodeId move.publicId) ?_ w tracks
  rintro actual w tracks ⟨found, _⟩
  split_ifs with differs
  · exact keeps_raise w tracks
  -- The read-back stays true while the guard of the source is held.
  have quiesced := found.trans (not_not.mp differs)
  refine keeps_with (fun w => lookup MediaPathConfig.name move.publicId
    (w.media move.sourceNodeId) = some (closedPath move)) ?_ tracks quiesced
  have stableClosed := stable_table (fun table => lookup MediaPathConfig.name
    move.publicId table = some (closedPath move)) stable fun _ tracks => tracks.both.1
  refine keeps_bind (keeps_continue_or_cancel stableClosed) ?_
  intro _ w closed _
  refine keeps_bind (keeps_neutral (.pathRuntimeStatus move.sourceNodeId move.publicId) trivial
    stableClosed fun _ _ _ _ => trivial) ?_ w closed
  intro status w closed _
  dsimp only
  split_ifs
  · exact keeps_raise w closed
  · exact keeps_raise w closed
  · exact keeps_raise w closed
  · exact keeps_pure (fun _ closed => closed.2) w closed

omit [PythonText] in
theorem switch_permitted (inv : Invariant w) (tracks : Tracks tid move w)
    (closed : lookup MediaPathConfig.name move.publicId
      (w.media move.sourceNodeId) = some (closedPath move)) :
    Permitted tid w (.switchCameraMove move.id) := by
  intro found isFound _
  obtain ⟨both, samePublicId, sameSource, _⟩ := tracked_state inv tracks isFound
  refine ⟨both, ?_⟩
  intro path mem named isOpen
  rw [sameSource] at mem
  rw [samePublicId] at named
  have isPath := lookup_of_mem (inv.tables move.sourceNodeId) mem
  rw [named, closed] at isPath
  rw [← some.inj isPath] at isOpen
  cases isOpen

theorem carries_prepare (preparing : move.state = .prepareTarget) :
    Carries tid move (prepareStep move) := by
  have stable : Stable protocol tid (Tracks tid move) := stable_tracks move
  intro w tracks
  refine keeps_then (keeps_prepare_and_verify preparing) (fun _ _ _ => trivial) ?_ tracks
  intro _ w tracks _
  refine safe_handle (fun err after => abortReason err ≠ none → Tracks tid move after) ?_ ?_
  · refine keeps_then (keeps_quiesce_and_validate_source preparing)
      (fun _ _ tracks _ => tracks) ?_ tracks
    intro _ w tracks closed
    have stableClosed := stable_table (fun table => lookup MediaPathConfig.name
      move.publicId table = some (closedPath move)) stable fun _ tracks => tracks.both.1
    refine keeps_then (keeps_continue_or_cancel stableClosed) (fun _ _ closed _ => closed.1) ?_
      ⟨tracks, closed⟩
    intro _ w closed _
    refine safe_ask stableClosed closed
      (fun _ inv closed => switch_permitted inv closed.1 closed.2) ?_
    rintro cur ans after inv ⟨tracks, closed⟩ executed
    obtain ⟨invariantAfter, effect⟩ :=
      call_sound inv (switch_permitted inv tracks closed) executed
    obtain ⟨_, choice, resp⟩ := executed
    cases ans with
    | ok res =>
      obtain ⟨ran, sameGuards⟩ := mutate_ok (some.inj resp)
      exact tracked_result invariantAfter tracks effect sameGuards (switch_returns ran)
    | error err =>
      intro aborts
      rcases mutate_error (some.inj resp) with rfl | ⟨sameStore, sameGuards⟩
      · exact absurd rfl aborts
      · refine ⟨?_, tracks.twoNodes, sameStore ▸ tracks.current⟩
        rw [HoldsBoth, sameGuards]
        exact tracks.both
  · intro err w caught
    split
    · next reason aborts =>
        have tracks := caught (by rw [aborts]; exact some_ne_none reason)
        refine safe_ask stable tracks (fun _ _ _ => trivial) ?_
        intro cur ans after inv tracks executed
        have permitted : Permitted tid cur (.requestCameraMoveAbort move.id reason) := trivial
        obtain ⟨invariantAfter, effect⟩ := call_sound inv permitted executed
        obtain ⟨_, choice, resp⟩ := executed
        cases ans with
        | error err => trivial
        | ok res =>
          obtain ⟨ran, sameGuards⟩ := mutate_ok (some.inj resp)
          exact tracked_result invariantAfter tracks effect sameGuards (request_abort_returns ran)
    · exact safe_raise trivial

theorem stable_absent (move : CameraMove) {nodeId : UUID}
    (ofMove : nodeId = move.sourceNodeId ∨ nodeId = move.targetNodeId) :
    Stable protocol tid fun w =>
      Tracks tid move w ∧ Absent move.publicId (w.media nodeId) := by
  refine stable_table (Absent move.publicId) (stable_tracks move) ?_
  intro w tracks
  rcases ofMove with rfl | rfl
  · exact tracks.both.1
  · exact tracks.both.2

theorem keeps_cleanup_target :
    Keeps tid (Tracks tid move) (cleanupTarget move) fun _ after =>
      Absent move.publicId (after.media move.targetNodeId) := by
  have stable : Stable protocol tid (Tracks tid move) := stable_tracks move
  refine keeps_bind (keeps_continue_or_cancel stable) ?_
  intro _ w tracks _
  refine keeps_bind (keeps_require_node stable _ _) ?_ w tracks
  intro _ w tracks _
  exact keeps_remove_disabled_path stable (free_tracks tid move move.targetNodeId)
    (fun _ tracks => tracks.both.2) w tracks

theorem keeps_cleanup_source :
    Keeps tid (Tracks tid move) (cleanupSource move) fun _ after =>
      Absent move.publicId (after.media move.sourceNodeId) := by
  have stable : Stable protocol tid (Tracks tid move) := stable_tracks move
  refine keeps_bind (keeps_continue_or_cancel stable) ?_
  intro _ w tracks _
  refine keeps_bind (keeps_require_node stable _ _) ?_ w tracks
  intro _ w tracks _
  exact keeps_remove_disabled_path stable (free_tracks tid move move.sourceNodeId)
    (fun _ tracks => tracks.both.1) w tracks

omit [PythonText] in
theorem open_permitted {nodeId : UUID} (inv : Invariant w) (tracks : Tracks tid move w)
    (site : move.state = .cleanupTarget ∧ nodeId = move.sourceNodeId ∨
      move.state = .activateTarget ∧ nodeId = move.targetNodeId) :
    Permitted tid w (.putPath nodeId (openPath move)) := by
  rcases site with ⟨state, rfl⟩ | ⟨state, rfl⟩
  · refine ⟨tracks.both.1, tracked_admitted inv tracks rfl (by rw [state]; rfl) ?_⟩
    rintro _ (rfl | ⟨preparing, _⟩)
    · simp [moveSites, moveOpenSite, state]
    · rw [state] at preparing
      cases preparing
  · refine ⟨tracks.both.2, tracked_admitted inv tracks rfl (by rw [state]; rfl) ?_⟩
    rintro _ (rfl | ⟨preparing, _⟩)
    · simp [moveSites, moveOpenSite, state]
    · rw [state] at preparing
      cases preparing

theorem keeps_restore_source (aborting : move.state = .cleanupTarget) :
    Keeps tid (fun w => Tracks tid move w ∧ Absent move.publicId (w.media move.targetNodeId))
      (restoreSource move) fun _ _ => True := by
  have stable : Stable protocol tid fun w => Tracks tid move w ∧
      Absent move.publicId (w.media move.targetNodeId) := stable_absent move (.inr rfl)
  have again := keeps_continue_or_cancel stable
  refine keeps_bind again ?_
  intro _ w cleared _
  refine keeps_bind (keeps_require_node stable _ _) ?_ w cleared
  intro _ w cleared _
  refine keeps_bind again ?_ w cleared
  intro _ w cleared _
  refine keeps_bind (keeps_put_path stable ?_ ?_) ?_ w cleared
  · rintro w table ⟨tracks, absent⟩
    refine ⟨free_tracks tid move move.sourceNodeId w table tracks, ?_⟩
    dsimp only [setTable]
    rw [if_neg (Ne.symm tracks.twoNodes)]
    exact absent
  · intro cur inv cleared
    exact open_permitted inv cleared.1 (.inl ⟨aborting, rfl⟩)
  intro _ w cleared _
  refine keeps_bind again ?_ w cleared
  intro _ w cleared _
  refine keeps_bind (keeps_get_path stable move.sourceNodeId move.publicId) ?_ w cleared
  intro actual w cleared _
  split_ifs
  · exact keeps_raise w cleared
  · exact keeps_pure (fun _ _ => trivial) w cleared

omit [PythonText] in
theorem abort_permitted (inv : Invariant w) (tracks : Tracks tid move w)
    (absent : Absent move.publicId (w.media move.targetNodeId)) :
    Permitted tid w (.abortCameraMove move.id) := by
  intro found isFound _
  obtain ⟨both, samePublicId, _, sameTarget⟩ := tracked_state inv tracks isFound
  rw [samePublicId, sameTarget]
  exact ⟨both, absent⟩

omit [PythonText] in
theorem source_cleaned_permitted (inv : Invariant w) (tracks : Tracks tid move w)
    (absent : Absent move.publicId (w.media move.sourceNodeId)) :
    Permitted tid w (.markCameraMoveSourceCleaned move.id) := by
  intro found isFound _
  obtain ⟨both, samePublicId, sameSource, _⟩ := tracked_state inv tracks isFound
  rw [samePublicId, sameSource]
  exact ⟨both, absent⟩

theorem carries_cleanup_target (aborting : move.state = .cleanupTarget) :
    Carries tid move (cleanupTargetStep move) := by
  intro w tracks
  refine keeps_then keeps_cleanup_target (fun _ _ _ => trivial) ?_ tracks
  intro _ w tracks absent
  refine keeps_then (keeps_restore_source aborting) (fun _ _ _ => trivial) ?_ ⟨tracks, absent⟩
  intro _ w cleared _
  have stable : Stable protocol tid fun w => Tracks tid move w ∧
      Absent move.publicId (w.media move.targetNodeId) := stable_absent move (.inr rfl)
  refine keeps_then (keeps_continue_or_cancel stable) (fun _ _ _ => trivial) ?_ cleared
  intro _ w cleared _
  refine safe_ask stable cleared
    (fun _ inv cleared => abort_permitted inv cleared.1 cleared.2) ?_
  intro cur ans after inv cleared executed
  obtain ⟨invariantAfter, effect⟩ :=
    call_sound inv (abort_permitted inv cleared.1 cleared.2) executed
  obtain ⟨_, choice, resp⟩ := executed
  cases ans with
  | error err => trivial
  | ok res =>
    obtain ⟨ran, sameGuards⟩ := mutate_ok (some.inj resp)
    exact tracked_result invariantAfter cleared.1 effect sameGuards (abort_returns ran)

theorem carries_cleanup_source : Carries tid move (cleanupSourceStep move) := by
  intro w tracks
  refine keeps_then keeps_cleanup_source (fun _ _ _ => trivial) ?_ tracks
  intro _ w tracks absent
  have stable : Stable protocol tid fun w => Tracks tid move w ∧
      Absent move.publicId (w.media move.sourceNodeId) := stable_absent move (.inl rfl)
  refine keeps_then (keeps_continue_or_cancel stable) (fun _ _ _ => trivial) ?_ ⟨tracks, absent⟩
  intro _ w cleared _
  refine safe_ask stable cleared
    (fun _ inv cleared => source_cleaned_permitted inv cleared.1 cleared.2) ?_
  intro cur ans after inv cleared executed
  obtain ⟨invariantAfter, effect⟩ :=
    call_sound inv (source_cleaned_permitted inv cleared.1 cleared.2) executed
  obtain ⟨_, choice, resp⟩ := executed
  cases ans with
  | error err => trivial
  | ok res =>
    obtain ⟨ran, sameGuards⟩ := mutate_ok (some.inj resp)
    exact tracked_result invariantAfter cleared.1 effect sameGuards (source_cleaned_returns ran)

omit [PythonText] in
theorem switched_revision_written (inv : Invariant w) (tracks : Tracks tid move w)
    (activating : move.state = .activateTarget) :
    Event.wrote move.cameraId move.desiredRevision ∈ w.log := by
  obtain ⟨cur, mem, samePlan, states⟩ := tracks.current
  have state : cur.state = .activateTarget := by
    rcases states with same | ⟨preparing, _⟩
    · exact same.trans activating
    · rw [activating] at preparing
      cases preparing
  obtain ⟨cam, cameraMember, pins⟩ := inv.facts.lifecycle.pinned cur mem
    (by rw [state]; rfl)
  have placed := pins.placed
  simp only [PlacedFor, state] at placed
  have wrote := inv.written cam cameraMember
  rw [pins.ofCamera, placed.2.2, samePlan] at wrote
  exact wrote

theorem keeps_activate_target (activating : move.state = .activateTarget) :
    Keeps tid (Tracks tid move) (activateTarget move) fun _ after =>
      Checked after.log move.cameraId move.desiredRevision move.targetNodeId (openPath move) := by
  have stable : Stable protocol tid (Tracks tid move) := stable_tracks move
  have again := keeps_continue_or_cancel stable
  refine keeps_bind again ?_
  intro _ w tracks _
  refine keeps_bind (keeps_require_node stable _ _) ?_ w tracks
  intro _ w tracks _
  refine keeps_bind (keeps_put_path stable (free_tracks tid move move.targetNodeId) ?_) ?_ w tracks
  · intro cur inv tracks
    exact open_permitted inv tracks (.inr ⟨activating, rfl⟩)
  intro _ w tracks _
  refine keeps_bind again ?_ w tracks
  intro _ w tracks _
  refine keeps_bind (keeps_get_path stable move.targetNodeId move.publicId) ?_ w tracks
  rintro actual w tracks ⟨_, pre, inv, tracksBefore, logged⟩
  split_ifs with differs
  · exact keeps_raise w tracks
  · refine safe_pure ⟨tracks, [], pre.log, ?_, ?_⟩
    · rw [logged, not_not.mp differs]
      rfl
    · exact switched_revision_written inv tracksBefore activating

theorem carries_activate (activating : move.state = .activateTarget) (tracks : Tracks tid move w) :
    SafeAmong protocol tid (fun _ _ => True) (activateStep move) w := by
  refine keeps_then (keeps_activate_target activating) (fun _ _ _ => trivial) ?_ tracks
  intro _ w tracks checked
  have stable : Stable protocol tid fun w => Tracks tid move w ∧
      Checked w.log move.cameraId move.desiredRevision move.targetNodeId (openPath move) :=
    stable_and (stable_tracks move) (stable_checked _ _ _ _)
  refine keeps_then (keeps_continue_or_cancel stable) (fun _ _ _ => trivial) ?_ ⟨tracks, checked⟩
  intro _ w verified _
  refine safe_ask stable verified ?_ fun _ _ _ _ _ _ => trivial
  rintro cur inv ⟨tracks, checked⟩ found isFound _
  refine ⟨(tracked_state inv tracks isFound).1, ?_⟩
  rw [(tracked_found inv tracks isFound).1]
  exact checked

/-- One of the four `if` statements: the step of this state, or the move as it is, and the rest
with a move that is tracked again. -/
theorem safe_stage {state : CameraMoveState} {step : Program CameraMove}
    {next : CameraMove → Program CameraMove}
    (carries : move.state = state → Carries tid move step) (tracks : Tracks tid move w)
    (continues : ∀ move w, Tracks tid move w →
      SafeAmong protocol tid (fun _ _ => True) (next move) w) :
    SafeAmong protocol tid (fun _ _ => True)
      ((if move.state = state then step else pure move) >>= next) w := by
  have stage : SafeAmong protocol tid (Returns (Tracks tid) fun _ _ => True)
      (if move.state = state then step else pure move) w := by
    split_ifs with here
    · exact carries here w tracks
    · exact safe_pure tracks
  exact safe_bind stage continues

theorem safe_advance (tracks : Tracks tid move w) :
    SafeAmong protocol tid (fun _ _ => True) (advance move) w := by
  refine safe_stage carries_prepare tracks ?_
  intro move w tracks
  refine safe_stage carries_cleanup_target tracks ?_
  intro move w tracks
  refine safe_stage (fun _ => carries_cleanup_source) tracks ?_
  intro move w tracks
  split_ifs with activating
  · exact carries_activate activating tracks
  · exact safe_pure trivial

def Between (move : CameraMove) (w : World) : Prop :=
  ∃ cur ∈ w.store.cameraMoves, cur.id = move.id ∧
    cur.sourceNodeId = move.sourceNodeId ∧ cur.targetNodeId = move.targetNodeId

theorem stable_between (move : CameraMove) : Stable protocol tid (Between move) := by
  rintro pre after _ _ ⟨other, _, effect⟩ ⟨cur, mem, sameId, sameSource, sameTarget⟩
  obtain ⟨later, laterMember, evolves, _⟩ := effect.moves cur mem
  refine ⟨later, laterMember, ?_⟩
  rw [evolves.samePlan]
  exact ⟨sameId, sameSource, sameTarget⟩

theorem safe_resume_locked (between : Between move w) (both : HoldsBoth tid w move) :
    SafeAmong protocol tid (fun _ _ => True) (resumeLocked move.id) w := by
  have stable : Stable protocol tid fun w => Between move w ∧
      w.guards move.sourceNodeId = some tid ∧ w.guards move.targetNodeId = some tid :=
    stable_and (stable_between move) (stable_and (stable_guard _) (stable_guard _))
  refine keeps_then (keeps_neutral (.getCameraMove move.id) trivial stable
    fun _ _ _ _ => trivial) (fun _ _ _ => trivial) ?_ ⟨between, both⟩
  rintro found w ⟨between, both⟩ ⟨pre, inv, _, _, choice, resp⟩
  obtain ⟨isFound, rfl⟩ := exec_read_store (some.inj resp)
  cases found with
  | none => exact safe_raise trivial
  | some found =>
    have mem := lookup_mem (Except.ok.inj isFound)
    obtain ⟨cur, currentMember, sameId, sameSource, sameTarget⟩ := between
    have isCurrent : found = cur :=
      distinct_eq inv.facts.lifecycle.moveIds mem currentMember
        ((find_move_id (Except.ok.inj isFound)).trans sameId.symm)
    subst isCurrent
    refine safe_advance ⟨?_, (inv.facts.moveRecords found mem).1, found, mem, rfl, .inl rfl⟩
    rw [HoldsBoth, sameSource, sameTarget]
    exact both

theorem safe_with_guards {Result : Type} {fact : World → Prop} {body : Program Result}
    (stable : Stable protocol tid fact)
    (kept : ∀ w nodeId, fact w → fact (setGuard w nodeId (some tid)))
    (nodeIds taken : List UUID) (safe : ∀ w, fact w →
      (∀ nodeId ∈ taken ++ nodeIds, w.guards nodeId = some tid) →
      SafeAmong protocol tid (fun _ _ => True) body w) (holds : fact w)
    (held : ∀ nodeId ∈ taken, w.guards nodeId = some tid) :
    SafeAmong protocol tid (fun _ _ => True) (withGuards body nodeIds) w := by
  induction nodeIds generalizing taken w with
  | nil =>
    rw [List.append_nil] at safe
    exact safe w holds held
  | cons nodeId rest ih =>
    have stableTaken : Stable protocol tid fun w =>
        fact w ∧ ∀ nodeId ∈ taken, w.guards nodeId = some tid := by
      refine stable_and stable ?_
      intro pre after inv invariantAfter others held nodeId mem
      exact stable_guard nodeId pre after inv invariantAfter others (held nodeId mem)
    refine safe_with_guard stableTaken ?_ ?_ ⟨holds, held⟩
    · rintro w ⟨isFact, held⟩
      refine ⟨kept w nodeId isFact, ?_⟩
      intro other mem
      dsimp only [setGuard]
      split_ifs
      · rfl
      · exact held other mem
    · rintro w ⟨isFact, held⟩ heldNode
      refine ih (taken ++ [nodeId]) ?_ isFact ?_
      · intro w isFact held
        refine safe w isFact ?_
        rw [← List.singleton_append, ← List.append_assoc]
        exact held
      · intro other mem
        rcases List.mem_append.mp mem with inTaken | isNode
        · exact held other inTaken
        · rw [List.mem_singleton.mp isNode]
          exact heldNode

omit [PythonText] in
theorem guard_order_mem (move : CameraMove) :
    move.sourceNodeId ∈ guardOrder move ∧ move.targetNodeId ∈ guardOrder move := by
  unfold guardOrder
  split_ifs with same
  · simp [same]
  · simp
  · simp

theorem safe_resume (moveId : UUID) (w : World) :
    SafeAmong protocol tid (fun _ _ => True) (resume moveId) w := by
  have anything : Stable protocol tid fun _ => True := fun _ _ _ _ _ _ => trivial
  refine keeps_then (keeps_continue_or_cancel anything) (fun _ _ _ => trivial) ?_ trivial
  intro _ w _ _
  refine keeps_then (keeps_neutral (.getCameraMove moveId) trivial anything fun _ _ _ _ => trivial)
    (fun _ _ _ => trivial) ?_ trivial
  rintro found w _ ⟨pre, _, _, _, choice, resp⟩
  obtain ⟨isFound, rfl⟩ := exec_read_store (some.inj resp)
  cases found with
  | none => exact safe_raise trivial
  | some move =>
    obtain rfl := find_move_id (Except.ok.inj isFound)
    dsimp only
    split_ifs with ended
    · exact safe_pure trivial
    · refine safe_with_guards (stable_between move) (fun _ _ between => between)
        (guardOrder move) [] ?_
        ⟨move, lookup_mem (Except.ok.inj isFound), rfl, rfl, rfl⟩ ?_
      · intro w between held
        exact safe_resume_locked between ⟨held _ (guard_order_mem move).1,
          held _ (guard_order_mem move).2⟩
      · intro nodeId mem
        cases mem

end RtspProxy.Reconcile
