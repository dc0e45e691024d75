import RtspProxy.Reconcile.System

/-!
# What one reconciliation of a node achieves

`reconcile_node` on its own: nobody else writes to the store or to the node, and
any call of it may still fail. Every step is described by the paths it may touch
and by what it records in the store. A step whose path is as it should be only
reads, so that a second pass after one that returned has nothing to write.
-/

namespace RtspProxy.Reconcile

open Nodes Lib Lib.Program Lib.Program.Prog Lib.RecordTable Option
  InMemoryNodeStore CameraReconciler

/-- What the record says about the path of the camera has not changed. -/
structure SameTarget (pre after : CameraPlacement) : Prop where
  id : after.id = pre.id
  publicId : after.publicId = pre.publicId
  nodeId : after.nodeId = pre.nodeId
  sourceUrl : after.sourceUrl = pre.sourceUrl
  state : after.state = pre.state

/-- Some cameras were recorded as applied, and those on their way out as deleted. -/
structure Recorded (pre after : InMemoryNodeStore) : Prop where
  moves : after.cameraMoves = pre.cameraMoves
  ids : after.cameras.map (·.id) = pre.cameras.map (·.id)
  enabled : ∀ cam ∈ pre.cameras, cam.state = .enabled →
    ∃ later ∈ after.cameras, SameTarget cam later
  left : ∀ later ∈ after.cameras, later.state ≠ .deleted →
    ∃ cam ∈ pre.cameras, SameTarget cam later

section Recorded

theorem same_target_refl (cam : CameraPlacement) : SameTarget cam cam :=
  ⟨rfl, rfl, rfl, rfl, rfl⟩

theorem same_target_trans {first second third : CameraPlacement} (pre : SameTarget first second)
    (after : SameTarget second third) : SameTarget first third :=
  ⟨after.id.trans pre.id, after.publicId.trans pre.publicId,
    after.nodeId.trans pre.nodeId, after.sourceUrl.trans pre.sourceUrl,
    after.state.trans pre.state⟩

theorem recorded_refl (store : InMemoryNodeStore) : Recorded store store :=
  ⟨rfl, rfl, fun cam mem _ => ⟨cam, mem, same_target_refl cam⟩,
    fun cam mem _ => ⟨cam, mem, same_target_refl cam⟩⟩

theorem recorded_trans {first second third : InMemoryNodeStore} (pre : Recorded first second)
    (after : Recorded second third) : Recorded first third := by
  refine ⟨after.moves.trans pre.moves, after.ids.trans pre.ids, ?_, ?_⟩
  · intro cam mem enabled
    obtain ⟨middle, middleMember, same⟩ := pre.enabled cam mem enabled
    obtain ⟨later, laterMember, sameAgain⟩ :=
      after.enabled middle middleMember (same.state.trans enabled)
    exact ⟨later, laterMember, same_target_trans same sameAgain⟩
  · intro later mem notDeleted
    obtain ⟨middle, middleMember, same⟩ := after.left later mem notDeleted
    obtain ⟨cam, cameraMember, sameAgain⟩ :=
      pre.left middle middleMember (same.state ▸ notDeleted)
    exact ⟨cam, cameraMember, same_target_trans sameAgain same⟩

variable {pre after : InMemoryNodeStore}

theorem recorded_put {old upd : CameraPlacement}
    (distinct : DistinctKeys CameraPlacement.id pre.cameras)
    (mem : old ∈ pre.cameras) (sameId : upd.id = old.id)
    (changed : SameTarget old upd ∨ old.state ≠ .enabled ∧ upd.state = .deleted)
    (cams : after.cameras = replace CameraPlacement.id upd pre.cameras)
    (moves : after.cameraMoves = pre.cameraMoves) : Recorded pre after := by
  refine ⟨moves, ?_, ?_, ?_⟩
  · rw [cams, map_key_replace]
  · intro cam cameraMember enabled
    rw [cams]
    by_cases isOld : cam.id = upd.id
    · have same : cam = old :=
        distinct_eq distinct cameraMember mem (isOld.trans sameId)
      subst same
      rcases changed with target | ⟨notEnabled, _⟩
      · exact ⟨upd, updated_mem_replace mem sameId.symm, target⟩
      · exact absurd enabled notEnabled
    · exact ⟨cam, mem_replace_of_ne cameraMember isOld, same_target_refl cam⟩
  · intro later laterMember notDeleted
    rw [cams] at laterMember
    rcases mem_of_mem_replace laterMember with rfl | unchanged
    · rcases changed with target | ⟨_, deleted⟩
      · exact ⟨old, mem, target⟩
      · exact absurd deleted notDeleted
    · exact ⟨later, unchanged, same_target_refl later⟩

theorem recorded_mark {cameraId nodeId : UUID} {placementGeneration desiredRevision : Int}
    (distinct : DistinctKeys CameraPlacement.id pre.cameras)
    (marked : pre.markCameraApplied cameraId nodeId placementGeneration desiredRevision =
      .ok (true, after)) : Recorded pre after := by
  unfold markCameraApplied at marked
  split at marked
  · cases marked
  rename_i cam found
  have mem := lookup_mem found
  split at marked
  · cases marked
  split at marked
  · cases marked
  split at marked
  · rename_i deleting
    cases located : pre.findNode nodeId with
    | none =>
      rw [located] at marked
      cases marked
    | some node =>
      rw [located] at marked
      cases marked
      refine recorded_put distinct mem ?_ (.inr ⟨?_, ?_⟩) rfl rfl
      · rfl
      · rw [deleting]
        exact fun isEnabled => (by cases isEnabled)
      · rfl
  · cases marked
    refine recorded_put distinct mem ?_ (.inl ?_) rfl rfl
    · rfl
    · exact ⟨rfl, rfl, rfl, rfl, rfl⟩

end Recorded

/-- `put_path` and `delete_path`. -/
def writesMedia : Call → Bool
  | .putPath .. | .deletePath .. => true
  | _ => false

section Calls

variable [PythonText] {tid : Nat} {nodeId : UUID} {writing : Prop} {w : World}

/-- Nobody else runs; the node is written to only where that is allowed. -/
abbrev Alone (tid : Nat) (writing : Prop) {Result : Type}
    (post : Except Raised Result → World → Prop) (prog : Program Result) (w : World) : Prop :=
  Safe machine tid Eq (fun _ req => writesMedia req = true → writing) post prog w

/-- The paths of the node with other names are as they were. -/
structure Progress (nodeId : UUID) (names : List PublicId) (pre after : World) : Prop where
  media : ∀ name, name ∉ names → after.pathOn nodeId name = pre.pathOn nodeId name
  store : Recorded pre.store after.store

omit [PythonText] in
theorem progress_refl (nodeId : UUID) (names : List PublicId) (w : World) :
    Progress nodeId names w w := ⟨fun _ _ => rfl, recorded_refl _⟩

omit [PythonText] in
theorem progress_trans {names others : List PublicId} {first second third : World}
    (pre : Progress nodeId names first second) (after : Progress nodeId others second third) :
    Progress nodeId (names ++ others) first third := by
  refine ⟨?_, recorded_trans pre.store after.store⟩
  intro name away
  rw [List.mem_append, not_or] at away
  exact (after.media name away.2).trans (pre.media name away.1)

omit [PythonText] in
theorem progress_widen {names wider : List PublicId} {pre after : World}
    (progress : Progress nodeId names pre after) (within : names ⊆ wider) :
    Progress nodeId wider pre after :=
  ⟨fun name away => progress.media name fun mem => away (within mem), progress.store⟩

omit [PythonText] in
theorem progress_after {names : List PublicId} {first second third : World}
    (pre : Progress nodeId [] first second) (after : Progress nodeId names second third) :
    Progress nodeId names first third := progress_trans pre after

omit [PythonText] in
theorem progress_then {names : List PublicId} {first second third : World}
    (pre : Progress nodeId names first second) (after : Progress nodeId [] second third) :
    Progress nodeId names first third := by
  have both := progress_trans pre after
  rw [List.append_nil] at both
  exact both

theorem alone_send {req : Call} {post : Except Raised (Answer req) → World → Prop}
    (isAllowed : writesMedia req = true → writing)
    (answers : ∀ choice ans after, respond tid choice w req = some (ans, after) →
      post ans after) : Alone tid writing post (send req) w := by
  rintro cur rfl
  refine ⟨isAllowed, ?_⟩
  rintro ans after ⟨-, choice, resp⟩
  exact answers choice ans after resp

theorem alone_continue :
    Alone tid writing (Returns (fun _ after => after = w) (fun _ after => after = w))
      continueOrCancel w := by
  have asked : Alone tid writing (Returns (fun _ after => after = w)
      (fun _ after => after = w)) (send .cancelled) w := by
    refine alone_send (fun isWrite => (by cases isWrite)) ?_
    intro choice ans after resp
    cases resp
    rfl
  refine safe_then asked (fun _ _ same => same) ?_
  rintro cancelled after same
  split
  · exact same
  · exact same

variable {name : PublicId}

theorem alone_get_path :
    Alone tid writing
      (Returns (fun ans after => ans = w.pathOn nodeId name ∧ Progress nodeId [] w after)
        (fun _ => Progress nodeId [] w)) (send (.getPath nodeId name)) w := by
  refine alone_send (fun isWrite => (by cases isWrite)) ?_
  intro choice ans after resp
  dsimp only [respond, readMedia] at resp
  cases fault : choice.fault with
  | none =>
    rw [fault] at resp
    cases resp
    exact ⟨rfl, fun _ _ => rfl, recorded_refl _⟩
  | before =>
    rw [fault] at resp
    cases resp
    exact progress_refl _ _ _
  | after =>
    rw [fault] at resp
    cases resp
    exact progress_refl _ _ _

omit [PythonText] in
theorem path_on_set_table {table : List MediaPathConfig} :
    (setTable w nodeId table).pathOn nodeId name = lookup MediaPathConfig.name name table :=
  congrArg (lookup MediaPathConfig.name name) (if_pos rfl)

omit [PythonText] in
theorem lookup_filter_ne {name other : PublicId} {table : List MediaPathConfig}
    (away : other ≠ name) :
    lookup MediaPathConfig.name other (table.filter fun path => path.name ≠ name) =
      lookup MediaPathConfig.name other table := by
  unfold lookup
  rw [List.find?_filter]
  refine congrArg (fun test => List.find? test table) ?_
  funext path
  by_cases isOther : path.name = other
  · simp [isOther, away]
  · simp [isOther]

omit [PythonText] in
theorem lookup_filter_self {table : List MediaPathConfig} :
    lookup MediaPathConfig.name name (table.filter fun path => path.name ≠ name) = none := by
  rw [lookup_eq_none]
  intro path mem
  simpa using (List.mem_filter.mp mem).2

omit [PythonText] in
theorem change_table_cases {fault : Fault} {change : List MediaPathConfig → List MediaPathConfig}
    {ans : Except Raised Unit} {after : World}
    (changed : changeTable fault nodeId change w = (ans, after)) :
    after = setTable w nodeId (change (w.media nodeId)) ∨ after = w ∧ ans ≠ .ok () := by
  cases fault with
  | none =>
    cases changed
    exact .inl rfl
  | after =>
    cases changed
    exact .inl rfl
  | before =>
    cases changed
    exact .inr ⟨rfl, fun isOk => (by cases isOk)⟩

theorem alone_put_path {path : MediaPathConfig} (isAllowed : writing) :
    Alone tid writing
      (Returns (fun _ after => after.pathOn nodeId path.name = some path ∧
          Progress nodeId [path.name] w after)
        (fun _ => Progress nodeId [path.name] w)) (send (.putPath nodeId path)) w := by
  refine alone_send (fun _ => isAllowed) ?_
  intro choice ans after resp
  rcases change_table_cases (some.inj resp) with rfl | ⟨rfl, notOk⟩
  · have progress : Progress nodeId [path.name] w (setTable w nodeId
        (path :: (w.media nodeId).filter fun other => other.name ≠ path.name)) := by
      refine ⟨?_, recorded_refl _⟩
      intro name away
      have differs : name ≠ path.name := fun same => away (List.mem_singleton.mpr same)
      rw [path_on_set_table]
      unfold lookup
      rw [List.find?_cons_of_neg (by simpa using Ne.symm differs)]
      exact lookup_filter_ne differs
    cases ans with
    | error err => exact progress
    | ok value =>
      refine ⟨?_, progress⟩
      rw [path_on_set_table]
      unfold lookup
      rw [List.find?_cons_of_pos (by simp)]
  · cases ans with
    | error err => exact progress_refl _ _ _
    | ok value => exact absurd rfl notOk

theorem alone_delete_path (isAllowed : writing) :
    Alone tid writing
      (Returns (fun _ after => after.pathOn nodeId name = none ∧ Progress nodeId [name] w after)
        (fun _ => Progress nodeId [name] w)) (send (.deletePath nodeId name)) w := by
  refine alone_send (fun _ => isAllowed) ?_
  intro choice ans after resp
  rcases change_table_cases (some.inj resp) with rfl | ⟨rfl, notOk⟩
  · have progress : Progress nodeId [name] w (setTable w nodeId
        ((w.media nodeId).filter fun other => other.name ≠ name)) := by
      refine ⟨?_, recorded_refl _⟩
      intro other away
      rw [path_on_set_table]
      exact lookup_filter_ne fun same => away (List.mem_singleton.mpr same)
    cases ans with
    | error err => exact progress
    | ok value =>
      refine ⟨?_, progress⟩
      rw [path_on_set_table]
      exact lookup_filter_self
  · cases ans with
    | error err => exact progress_refl _ _ _
    | ok value => exact absurd rfl notOk

theorem alone_mark_applied {cam : CameraPlacement}
    (distinct : DistinctKeys CameraPlacement.id w.store.cameras) :
    Alone tid writing (Returns (fun _ => Progress nodeId [] w) (fun _ _ => True))
      (markApplied nodeId cam) w := by
  have marks : Alone tid writing
      (Returns (fun ans after => ans = true → Progress nodeId [] w after)
        (fun _ _ => True))
      (send (.markCameraApplied cam.id nodeId cam.placementGeneration
        cam.desiredRevision)) w := by
    refine alone_send (fun isWrite => (by cases isWrite)) ?_
    intro choice ans after resp
    cases ans with
    | error err => trivial
    | ok isMarked =>
      rintro rfl
      have answered := mutate_ok (some.inj resp)
      refine ⟨?_, recorded_mark distinct answered.1⟩
      intro name _
      have media : after.media = w.media := by
        have isAfter := congrArg Prod.snd (some.inj resp)
        cases fault : choice.fault with
        | none =>
          rw [fault] at isAfter
          exact (congrArg World.media isAfter).symm
        | before =>
          rw [fault] at isAfter
          exact (congrArg World.media isAfter).symm
        | after =>
          rw [fault] at isAfter
          exact (congrArg World.media isAfter).symm
      unfold World.pathOn
      rw [media]
  refine safe_then marks (fun _ _ _ => trivial) ?_
  intro isMarked after holds
  split
  · trivial
  · rename_i notFenced
    exact holds (by simpa using notFenced)

end Calls

section Cameras

variable [PythonText] {tid : Nat} {nodeId : UUID} {writing : Prop} {w : World}
  {names : List PublicId}

theorem alone_except_media (nodeId : UUID) (names : List PublicId) {Result : Type}
    {ret : Result → World → Prop} {body handler : Program Result}
    (tries : Alone tid writing (Returns ret (fun _ => Progress nodeId names w)) body w)
    (handles : ∀ middle, Progress nodeId names w middle →
      Alone tid writing (Returns ret (fun _ _ => True)) handler middle) :
    Alone tid writing (Returns ret (fun _ _ => True)) (exceptMedia body handler) w := by
  refine safe_cases tries (fun _ _ holds => holds) ?_
  intro err middle progress
  dsimp only
  split
  · exact handles middle progress
  · trivial

omit [PythonText] in
theorem progress_read {name : PublicId} {middle after : World} {ans : Option MediaPathConfig}
    (progress : Progress nodeId names w middle)
    (read : ans = middle.pathOn nodeId name ∧ Progress nodeId [] middle after) :
    Progress nodeId names w after ∧ ans = after.pathOn nodeId name :=
  ⟨progress_then progress read.2, read.1.trans (read.2.media name List.not_mem_nil).symm⟩

theorem alone_read_again {name : PublicId} {code : String} {middle : World}
    (progress : Progress nodeId names w middle) :
    Alone tid writing
      (Returns (fun ans after => Progress nodeId names w after ∧ ans = after.pathOn nodeId name)
        (fun _ _ => True))
      (exceptMedia (continueOrCancel >>= fun _ => send (.getPath nodeId name))
        (raise (.reconcileRetry code))) middle := by
  refine alone_except_media nodeId names ?_ fun _ _ => trivial
  refine safe_then alone_continue ?_ ?_
  · rintro err after rfl
    exact progress_refl _ _ _
  · rintro _ after rfl
    refine safe_weaken alone_get_path ?_
    rintro (err | ans) last
    · exact fun read => progress_widen read (List.nil_subset _)
    · exact fun read => progress_read progress read

theorem alone_apply_path {path : MediaPathConfig}
    (touches : w.pathOn nodeId path.name = some path ∨ path.name ∈ names ∧ writing) :
    Alone tid writing
      (Returns (fun out after => Progress nodeId names w after ∧
          out.1 = after.pathOn nodeId path.name)
        (fun _ _ => True)) (applyPath nodeId path) w := by
  -- The tail after the optional put.
  have readBack (changed : Bool) {middle : World} (progress : Progress nodeId names w middle) :
      Alone tid writing
        (Returns (fun out after => Progress nodeId names w after ∧
            out.1 = after.pathOn nodeId path.name)
          (fun _ => Progress nodeId names w))
        (do
          continueOrCancel
          let verified ← send (.getPath nodeId path.name)
          return (verified, changed)) middle := by
    refine safe_then alone_continue ?_ ?_
    · rintro err after rfl
      exact progress
    · rintro _ after rfl
      refine safe_then alone_get_path ?_ ?_
      · exact fun err last read => progress_then progress read
      · exact fun verified last read => progress_read progress read
  refine alone_except_media nodeId names ?_ ?_
  · refine safe_then alone_get_path ?_ ?_
    · exact fun err after read => progress_widen read (List.nil_subset _)
    · rintro actual after ⟨isActual, read⟩
      have progress := progress_widen read (List.nil_subset names)
      dsimp only
      split
      · rename_i changed
        obtain ⟨isName, isAllowed⟩ := touches.resolve_left fun settled =>
          of_decide_eq_true changed (isActual.trans settled)
        have within : [path.name] ⊆ names := List.cons_subset.mpr ⟨isName, List.nil_subset _⟩
        refine safe_then alone_continue ?_ ?_
        · rintro err middle rfl
          exact progress
        · rintro _ middle rfl
          refine safe_then (alone_put_path isAllowed) ?_ ?_
          · exact fun err last put => progress_widen (progress_after read put) within
          · exact fun _ last put => readBack _ (progress_widen (progress_after read put.2) within)
      · exact readBack _ progress
  · intro middle progress
    refine safe_then (alone_read_again progress) (fun _ _ _ => trivial) ?_
    exact fun verified last read => read

theorem alone_remove_disabled_path {name : PublicId}
    (touches : w.pathOn nodeId name = none ∨ name ∈ names ∧ writing) :
    Alone tid writing
      (Returns (fun _ after => Progress nodeId names w after ∧ after.pathOn nodeId name = none)
        (fun _ _ => True)) (removeDisabledPath nodeId name) w := by
  have remaining : Alone tid writing
      (Returns (fun remaining after => Progress nodeId names w after ∧
          remaining = after.pathOn nodeId name)
        (fun _ _ => True))
      (exceptMedia
        (do
          continueOrCancel
          if (← send (.getPath nodeId name)) = none then
            return none
          else
            continueOrCancel
            send (.deletePath nodeId name)
            continueOrCancel
            send (.getPath nodeId name))
        (safeGet nodeId name)) w := by
    refine alone_except_media nodeId names ?_ fun middle progress => alone_read_again progress
    refine safe_then alone_continue ?_ ?_
    · rintro err after rfl
      exact progress_refl _ _ _
    · rintro _ after rfl
      refine safe_then alone_get_path ?_ ?_
      · exact fun err last read => progress_widen read (List.nil_subset _)
      · rintro actual middle ⟨isActual, read⟩
        have progress := progress_widen read (List.nil_subset names)
        split
        · rename_i gone
          exact progress_read (progress_refl _ _ _) ⟨gone.symm.trans isActual, read⟩
        · rename_i present
          obtain ⟨isName, isAllowed⟩ := touches.resolve_left fun settled =>
            present (isActual.trans settled)
          have within : [name] ⊆ names := List.cons_subset.mpr ⟨isName, List.nil_subset _⟩
          refine safe_then alone_continue ?_ ?_
          · rintro err last rfl
            exact progress
          rintro _ last rfl
          refine safe_then (alone_delete_path isAllowed) ?_ ?_
          · exact fun err final deleted => progress_widen (progress_after read deleted) within
          rintro _ deletedWorld ⟨_, deleted⟩
          have removed := progress_widen (progress_after read deleted) within
          refine safe_then alone_continue ?_ ?_
          · rintro err final rfl
            exact removed
          rintro _ final rfl
          refine safe_weaken alone_get_path ?_
          rintro (err | ans) finished
          · exact fun again => progress_then removed again
          · exact fun again => progress_read removed again
  refine safe_then remaining (fun _ _ _ => trivial) ?_
  rintro path after ⟨progress, isPath⟩
  split
  · trivial
  · rename_i gone
    exact ⟨progress, isPath.symm.trans (not_not.mp gone)⟩

end Cameras

/-- What the node is to have under the name of a camera that is not moving. -/
def wanted (cam : CameraPlacement) : Option MediaPathConfig :=
  if cam.state = .enabled then some (cameraPath cam) else none

def Settled (nodeId : UUID) (cam : CameraPlacement) (w : World) : Prop :=
  w.pathOn nodeId cam.publicId = wanted cam

def touched (moveCameraIds : List UUID) (cams : List CameraPlacement) : List PublicId :=
  (cams.filter fun cam => cam.id ∉ moveCameraIds).map (·.publicId)

section Loops

variable [PythonText] {tid : Nat} {nodeId : UUID} {writing : Prop} {w : World}
  {names : List PublicId} {moveCameraIds : List UUID}

omit [PythonText] in
theorem progress_distinct {after : World} (progress : Progress nodeId names w after)
    (distinct : DistinctKeys CameraPlacement.id w.store.cameras) :
    DistinctKeys CameraPlacement.id after.store.cameras := by
  unfold DistinctKeys at distinct ⊢
  rw [progress.store.ids]
  exact distinct

theorem alone_reconcile_camera {cam : CameraPlacement} {applied unchanged : Nat}
    (distinct : DistinctKeys CameraPlacement.id w.store.cameras)
    (touches : cam.id ∉ moveCameraIds → Settled nodeId cam w ∨ cam.publicId ∈ names ∧ writing) :
    Alone tid writing
      (Returns (fun _ after => Progress nodeId names w after ∧
          (cam.id ∉ moveCameraIds → Settled nodeId cam after))
        (fun _ _ => True))
      (reconcileCamera nodeId moveCameraIds cam applied unchanged) w := by
  refine safe_then alone_continue (fun _ _ _ => trivial) ?_
  rintro _ after rfl
  split
  · rename_i moving
    exact ⟨progress_refl _ _ _, fun notMoving => absurd moving notMoving⟩
  rename_i notMoving
  -- The record is marked; the path stays as it was verified.
  have marked {Result : Type} {verified : World} {res : Result}
      (progress : Progress nodeId names after verified) (settled : Settled nodeId cam verified) :
      Alone tid writing
        (Returns (fun _ last => Progress nodeId names after last ∧
            (cam.id ∉ moveCameraIds → Settled nodeId cam last))
          (fun _ _ => True))
        (markApplied nodeId cam >>= fun _ => pure res) verified := by
    refine safe_then (alone_mark_applied (progress_distinct progress distinct))
      (fun _ _ _ => trivial) ?_
    intro _ last recorded
    exact ⟨progress_then progress recorded,
      fun _ => (recorded.media _ List.not_mem_nil).trans settled⟩
  split
  · rename_i notEnabled
    have isWanted : wanted cam = none := if_neg notEnabled
    have removes := @alone_remove_disabled_path _ tid nodeId writing after names cam.publicId
      ((touches notMoving).imp_left fun settled => settled.trans isWanted)
    refine safe_then removes (fun _ _ _ => trivial) ?_
    rintro _ removed ⟨progress, gone⟩
    exact marked progress (gone.trans isWanted.symm)
  · rename_i enabled
    have isWanted : wanted cam = some (cameraPath cam) := if_pos (not_not.mp enabled)
    have applies := @alone_apply_path _ tid nodeId writing after names (cameraPath cam)
      ((touches notMoving).imp_left fun settled => settled.trans isWanted)
    refine safe_then applies (fun _ _ _ => trivial) ?_
    rintro ⟨verified, changed⟩ read ⟨progress, isVerified⟩
    dsimp only
    split
    · trivial
    · rename_i isPath
      have settled : Settled nodeId cam read :=
        isVerified.symm.trans ((not_not.mp isPath).trans isWanted.symm)
      cases changed with
      | true => exact marked progress settled
      | false => exact marked progress settled

/-- The loop of a first pass: no camera touches the path of another. -/
theorem alone_reconcile_cameras {cams : List CameraPlacement} {applied unchanged : Nat}
    (isAllowed : writing) (distinct : DistinctKeys CameraPlacement.id w.store.cameras)
    (once : (touched moveCameraIds cams).Nodup) :
    Alone tid writing
      (Returns (fun _ after => Progress nodeId (touched moveCameraIds cams) w after ∧
          ∀ cam ∈ cams, cam.id ∉ moveCameraIds → Settled nodeId cam after)
        (fun _ _ => True))
      (reconcileCameras nodeId moveCameraIds cams applied unchanged) w := by
  induction cams generalizing w applied unchanged with
  | nil => exact ⟨progress_refl _ _ _, fun _ mem => (by cases mem)⟩
  | cons cam rest ih =>
    have split : touched moveCameraIds (cam :: rest) =
        touched moveCameraIds [cam] ++ touched moveCameraIds rest := by
      unfold touched
      rw [← List.map_append, ← List.filter_append, List.singleton_append]
    rw [split] at once ⊢
    have step := @alone_reconcile_camera _ tid nodeId writing w
      (touched moveCameraIds [cam]) moveCameraIds cam applied unchanged distinct
      (fun notMoving => .inr ⟨by simp [touched, notMoving], isAllowed⟩)
    refine safe_then step (fun _ _ _ => trivial) ?_
    rintro ⟨nextApplied, nextUnchanged⟩ middle ⟨progress, settled⟩
    refine safe_weaken (ih (progress_distinct progress distinct) once.of_append_right) ?_
    rintro (err | res) last
    · exact fun _ => trivial
    · rintro ⟨further, restSettled⟩
      refine ⟨progress_trans progress further, ?_⟩
      intro other mem notMoving
      rcases List.mem_cons.mp mem with rfl | isRest
      · refine (further.media _ ?_).trans (settled notMoving)
        have isTouched : other.publicId ∈ touched moveCameraIds [other] := by
          simp [touched, notMoving]
        exact fun again => (List.disjoint_of_nodup_append once) isTouched again
      · exact restSettled other isRest notMoving

theorem alone_reconcile_settled {cams : List CameraPlacement} {applied unchanged : Nat}
    (distinct : DistinctKeys CameraPlacement.id w.store.cameras)
    (settled : ∀ cam ∈ cams, cam.id ∉ moveCameraIds → Settled nodeId cam w) :
    Alone tid writing (fun _ _ => True)
      (reconcileCameras nodeId moveCameraIds cams applied unchanged) w := by
  induction cams generalizing w applied unchanged with
  | nil => trivial
  | cons cam rest ih =>
    have step := @alone_reconcile_camera _ tid nodeId writing w [] moveCameraIds cam
      applied unchanged distinct
      (fun notMoving => .inl (settled cam List.mem_cons_self notMoving))
    refine safe_then step (fun _ _ _ => trivial) ?_
    rintro ⟨nextApplied, nextUnchanged⟩ middle ⟨progress, _⟩
    refine ih (progress_distinct progress distinct) ?_
    intro other mem notMoving
    exact (progress.media _ List.not_mem_nil).trans
      (settled other (List.mem_cons_of_mem _ mem) notMoving)

theorem alone_delete_orphans {orphans : List PublicId} {deleted : Nat} (isAllowed : writing) :
    Alone tid writing
      (Returns (fun _ after => Progress nodeId orphans w after ∧
          ∀ name ∈ orphans, after.pathOn nodeId name = none)
        (fun _ _ => True)) (deleteOrphans nodeId orphans deleted) w := by
  induction orphans generalizing w deleted with
  | nil => exact ⟨progress_refl _ _ _, fun _ mem => (by cases mem)⟩
  | cons orphan rest ih =>
    refine safe_then alone_continue (fun _ _ _ => trivial) ?_
    rintro _ cur rfl
    have remaining : Alone tid writing
        (Returns (fun remaining after => Progress nodeId [orphan] cur after ∧
            remaining = after.pathOn nodeId orphan)
          (fun _ _ => True))
        (exceptMedia
          (do
            send (.deletePath nodeId orphan)
            continueOrCancel
            send (.getPath nodeId orphan))
          (safeGet nodeId orphan)) cur := by
      refine alone_except_media nodeId [orphan] ?_ fun _ progress => alone_read_again progress
      refine safe_then (alone_delete_path isAllowed) (fun _ _ progress => progress) ?_
      rintro _ removed ⟨_, progress⟩
      refine safe_then alone_continue ?_ ?_
      · rintro err last rfl
        exact progress
      · rintro _ last rfl
        refine safe_weaken alone_get_path ?_
        rintro (err | ans) read
        · exact fun again => progress_then progress again
        · exact fun again => progress_read progress again
    refine safe_then remaining (fun _ _ _ => trivial) ?_
    rintro path middle ⟨progress, isPath⟩
    split
    · trivial
    · rename_i gone
      refine safe_weaken ih ?_
      rintro (err | res) last
      · exact fun _ => trivial
      · rintro ⟨further, restGone⟩
        refine ⟨progress_trans progress further, ?_⟩
        intro name mem
        by_cases isRest : name ∈ rest
        · exact restGone name isRest
        · rcases List.mem_cons.mp mem with rfl | inRest
          · exact (further.media _ isRest).trans (isPath.symm.trans (not_not.mp gone))
          · exact absurd inRest isRest

end Loops

/-- The cameras with an active move that has the node as its source or target. -/
def moving (store : InMemoryNodeStore) (nodeId : UUID) : List UUID :=
  (store.listNodeActiveMoves nodeId).map (·.cameraId)

def known (store : InMemoryNodeStore) (nodeId : UUID) : List PublicId :=
  (store.camerasOn nodeId).map (·.publicId) ++
    (store.listNodeActiveMoves nodeId).map (·.publicId)

/-- What a pass that returned has achieved. -/
structure Converged (nodeId : UUID) (pre after : World) : Prop where
  enabled : ∀ cam ∈ pre.store.camerasOn nodeId, cam.id ∉ moving pre.store nodeId →
    cam.state = .enabled → after.pathOn nodeId cam.publicId = some (cameraPath cam)
  notEnabled : ∀ cam ∈ pre.store.camerasOn nodeId, cam.id ∉ moving pre.store nodeId →
    cam.state ≠ .enabled → after.pathOn nodeId cam.publicId = none
  orphans : ∀ name, name ∉ known pre.store nodeId → after.pathOn nodeId name = none
  moves : ∀ move ∈ pre.store.listNodeActiveMoves nodeId,
    after.pathOn nodeId move.publicId = pre.pathOn nodeId move.publicId
  movingCameras : ∀ cam ∈ pre.store.camerasOn nodeId, cam.id ∈ moving pre.store nodeId →
    after.pathOn nodeId cam.publicId = pre.pathOn nodeId cam.publicId

section Pass

variable [PythonText] {tid : Nat} {nodeId : UUID} {writing : Prop} {w : World}

omit [PythonText] in
theorem camera_on {store : InMemoryNodeStore} {cam : CameraPlacement} :
    cam ∈ store.camerasOn nodeId ↔
      cam ∈ store.cameras ∧ cam.nodeId = nodeId ∧ cam.state ≠ .deleted := by
  simp [camerasOn]

omit [PythonText] in
theorem touched_distinct {store : InMemoryNodeStore} (facts : StoreFacts store)
    (moveCameraIds : List UUID) : (touched moveCameraIds (store.camerasOn nodeId)).Nodup := by
  have cams : (store.camerasOn nodeId).Nodup :=
    (List.Nodup.of_map _ facts.lifecycle.cameraIds).filter _
  refine List.Nodup.map_on ?_ (cams.filter _)
  intro left leftMember right rightMember same
  have leftIn := (camera_on.mp (List.mem_of_mem_filter leftMember)).1
  have rightIn := (camera_on.mp (List.mem_of_mem_filter rightMember)).1
  exact one_camera facts leftIn rightIn same

omit [PythonText] in
theorem move_names_camera {store : InMemoryNodeStore} (facts : StoreFacts store)
    {move : CameraMove} (isMove : move ∈ store.listNodeActiveMoves nodeId)
    {cam : CameraPlacement} (isCamera : cam ∈ store.cameras) :
    cam.publicId = move.publicId ↔ cam.id = move.cameraId := by
  obtain ⟨other, isOther, ofMove, named⟩ :=
    (facts.moveRecords move (List.mem_of_mem_filter isMove)).2
  constructor
  · intro same
    exact (facts.publicIds cam isCamera other isOther (same.trans named.symm)).trans ofMove
  · intro same
    have isSame : cam = other := distinct_eq facts.lifecycle.cameraIds isCamera
      isOther (same.trans ofMove.symm)
    rw [isSame]
    exact named

omit [PythonText] in
theorem move_untouched {store : InMemoryNodeStore} (facts : StoreFacts store)
    {move : CameraMove} (isMove : move ∈ store.listNodeActiveMoves nodeId) :
    move.publicId ∉ touched (moving store nodeId) (store.camerasOn nodeId) := by
  intro mem
  obtain ⟨cam, isCamera, named⟩ := List.mem_map.mp mem
  obtain ⟨onNode, notMoving⟩ := List.mem_filter.mp isCamera
  have ofMove := (move_names_camera facts isMove (camera_on.mp onNode).1).mp named
  exact of_decide_eq_true notMoving (List.mem_map.mpr ⟨move, isMove, ofMove.symm⟩)

omit [PythonText] in
theorem settled_enabled {cam : CameraPlacement} (settled : Settled nodeId cam w)
    (enabled : cam.state = .enabled) :
    w.pathOn nodeId cam.publicId = some (cameraPath cam) :=
  settled.trans (if_pos enabled)

omit [PythonText] in
theorem settled_not_enabled {cam : CameraPlacement} (settled : Settled nodeId cam w)
    (notEnabled : cam.state ≠ .enabled) : w.pathOn nodeId cam.publicId = none :=
  settled.trans (if_neg notEnabled)

omit [PythonText] in
theorem path_on_none {name : PublicId} :
    w.pathOn nodeId name = none ↔ ∀ path ∈ w.media nodeId, path.name ≠ name :=
  lookup_eq_none

omit [PythonText] in
theorem converged_of_loops {middle last : World} {orphans : List PublicId}
    (facts : StoreFacts w.store)
    (progress : Progress nodeId (touched (moving w.store nodeId) (w.store.camerasOn nodeId))
      w middle)
    (settled : ∀ cam ∈ w.store.camerasOn nodeId, cam.id ∉ moving w.store nodeId →
      Settled nodeId cam middle) (isOrphan : ∀ name, name ∈ orphans ↔
      (∃ path ∈ w.media nodeId, path.name = name) ∧ name ∉ known w.store nodeId)
    (deleted : Progress nodeId orphans middle last)
    (gone : ∀ name ∈ orphans, last.pathOn nodeId name = none) :
    Converged nodeId w last ∧ Recorded w.store last.store := by
  have isKnown : ∀ cam ∈ w.store.camerasOn nodeId,
      cam.publicId ∈ known w.store nodeId := fun cam mem =>
    List.mem_append_left _ (List.mem_map.mpr ⟨cam, mem, rfl⟩)
  have kept : ∀ name ∈ known w.store nodeId,
      last.pathOn nodeId name = middle.pathOn nodeId name := fun name isName =>
    deleted.media name fun mem => ((isOrphan name).mp mem).2 isName
  have moves : ∀ move ∈ w.store.listNodeActiveMoves nodeId,
      last.pathOn nodeId move.publicId = w.pathOn nodeId move.publicId := by
    intro move isMove
    refine (kept _ (List.mem_append_right _ (List.mem_map.mpr ⟨move, isMove, rfl⟩))).trans ?_
    exact progress.media _ (move_untouched facts isMove)
  have settledLast : ∀ cam ∈ w.store.camerasOn nodeId,
      cam.id ∉ moving w.store nodeId → Settled nodeId cam last :=
    fun cam mem notMoving =>
      (kept _ (isKnown cam mem)).trans (settled cam mem notMoving)
  refine ⟨⟨?_, ?_, ?_, moves, ?_⟩, recorded_trans progress.store deleted.store⟩
  · exact fun cam mem notMoving enabled =>
      settled_enabled (settledLast cam mem notMoving) enabled
  · exact fun cam mem notMoving notEnabled =>
      settled_not_enabled (settledLast cam mem notMoving) notEnabled
  · intro name unknown
    by_cases inTable : ∃ path ∈ w.media nodeId, path.name = name
    · exact gone name ((isOrphan name).mpr ⟨inTable, unknown⟩)
    · have away : name ∉ touched (moving w.store nodeId) (w.store.camerasOn nodeId) := by
        intro mem
        obtain ⟨cam, isCamera, rfl⟩ := List.mem_map.mp mem
        exact unknown (isKnown cam (List.mem_of_mem_filter isCamera))
      refine (deleted.media name fun mem => inTable ((isOrphan name).mp mem).1).trans ?_
      refine (progress.media name away).trans (path_on_none.mpr ?_)
      exact fun path isPath named => inTable ⟨path, isPath, named⟩
  · intro cam mem isMoving
    obtain ⟨move, isMove, ofMove⟩ := List.mem_map.mp isMoving
    have named := (move_names_camera facts isMove (camera_on.mp mem).1).mpr ofMove.symm
    rw [named]
    exact moves move isMove

omit [PythonText] in
theorem converged_rests {after : World} (facts : StoreFacts w.store)
    (converged : Converged nodeId w after) (recorded : Recorded w.store after.store) :
    (∀ cam ∈ after.store.camerasOn nodeId, cam.id ∉ moving after.store nodeId →
      Settled nodeId cam after) ∧
    ∀ path ∈ after.media nodeId, path.name ∈ known after.store nodeId := by
  have sameMoves : after.store.listNodeActiveMoves nodeId =
      w.store.listNodeActiveMoves nodeId := by
    unfold listNodeActiveMoves
    rw [recorded.moves]
  have sameMoving : moving after.store nodeId = moving w.store nodeId :=
    congrArg (List.map CameraMove.cameraId) sameMoves
  refine ⟨?_, ?_⟩
  · intro cam mem notMoving
    obtain ⟨isCamera, onNode, notDeleted⟩ := camera_on.mp mem
    obtain ⟨old, isOld, same⟩ := recorded.left cam isCamera notDeleted
    have oldOn : old ∈ w.store.camerasOn nodeId :=
      camera_on.mpr ⟨isOld, same.nodeId.symm.trans onNode, same.state ▸ notDeleted⟩
    rw [sameMoving, same.id] at notMoving
    unfold Settled
    rw [same.publicId]
    by_cases isEnabled : cam.state = .enabled
    · rw [converged.enabled old oldOn notMoving (same.state ▸ isEnabled)]
      unfold wanted cameraPath
      rw [if_pos isEnabled, same.publicId, same.sourceUrl]
    · rw [converged.notEnabled old oldOn notMoving (same.state ▸ isEnabled)]
      exact (if_neg isEnabled).symm
  · intro path isPath
    have present : after.pathOn nodeId path.name ≠ none := fun absent =>
      path_on_none.mp absent path isPath rfl
    have wasKnown : path.name ∈ known w.store nodeId :=
      not_not.mp fun unknown => present (converged.orphans _ unknown)
    have ofMove : path.name ∈ (w.store.listNodeActiveMoves nodeId).map (·.publicId) →
        path.name ∈ known after.store nodeId := by
      intro mem
      rw [← sameMoves] at mem
      exact List.mem_append_right _ mem
    rcases List.mem_append.mp wasKnown with isCamera | isMove
    · obtain ⟨cam, mem, named⟩ := List.mem_map.mp isCamera
      by_cases isMoving : cam.id ∈ moving w.store nodeId
      · obtain ⟨move, isMove, ofCamera⟩ := List.mem_map.mp isMoving
        have sameName := (move_names_camera facts isMove (camera_on.mp mem).1).mpr ofCamera.symm
        exact ofMove (List.mem_map.mpr ⟨move, isMove, sameName.symm.trans named⟩)
      · have enabled : cam.state = .enabled := by
          refine not_not.mp fun notEnabled => present ?_
          rw [← named]
          exact converged.notEnabled cam mem isMoving notEnabled
        obtain ⟨isCamera, onNode, _⟩ := camera_on.mp mem
        obtain ⟨later, isLater, same⟩ := recorded.enabled cam isCamera enabled
        refine List.mem_append_left _ (List.mem_map.mpr ⟨later, camera_on.mpr ⟨isLater, ?_, ?_⟩, ?_⟩)
        · exact same.nodeId.trans onNode
        · rw [same.state, enabled]
          exact fun isDeleted => (by cases isDeleted)
        · exact same.publicId.trans named
    · exact ofMove isMove

theorem alone_look {req : Call} {answered : Answer req → Prop} (isRead : writesMedia req = false)
    (looks : ∀ choice ans after, respond tid choice w req = some (ans, after) →
      after = w ∧ ∀ res, ans = .ok res → answered res) :
    Alone tid writing
      (Returns (fun res after => after = w ∧ answered res) (fun _ _ => True))
      (send req) w := by
  refine alone_send (fun isWrite => (by rw [isRead] at isWrite; cases isWrite)) ?_
  intro choice ans after resp
  obtain ⟨same, isAnswer⟩ := looks choice ans after resp
  cases ans with
  | error err => trivial
  | ok res => exact ⟨same, isAnswer res rfl⟩

omit [PythonText] in
theorem read_store_same {Value : Type} {fault : Fault} {value : Except NodeError Value}
    {ans : Except Raised Value} {after : World}
    (read : readStore fault value w = (ans, after)) :
    after = w ∧ ∀ res, ans = .ok res → value = .ok res := by
  unfold readStore at read
  split at read
  · split at read
    · cases read
      exact ⟨rfl, fun res isResult => congrArg Except.ok (Except.ok.inj isResult)⟩
    · cases read
      exact ⟨rfl, fun res isResult => (by cases isResult)⟩
  · cases read
    exact ⟨rfl, fun res isResult => (by cases isResult)⟩
  · cases read
    exact ⟨rfl, fun res isResult => (by cases isResult)⟩

omit [PythonText] in
theorem read_media_same {Value : Type} {fault : Fault} {value : Value}
    {ans : Except Raised Value} {after : World}
    (read : readMedia fault value w w = (ans, after)) :
    after = w ∧ ∀ res, ans = .ok res → res = value := by
  cases fault with
  | none =>
    cases read
    exact ⟨rfl, fun res isResult => (Except.ok.inj isResult).symm⟩
  | before =>
    cases read
    exact ⟨rfl, fun res isResult => (by cases isResult)⟩
  | after =>
    cases read
    exact ⟨rfl, fun res isResult => (by cases isResult)⟩

theorem alone_get_node :
    Alone tid writing (Returns (fun _ after => after = w ∧ True) (fun _ _ => True))
      (send (.getNode nodeId)) w := by
  refine alone_look rfl ?_
  intro choice ans after resp
  exact ⟨(read_store_same (some.inj resp)).1, fun _ _ => trivial⟩

theorem alone_list_cameras :
    Alone tid writing
      (Returns (fun desired after => after = w ∧ desired = w.store.camerasOn nodeId)
        (fun _ _ => True)) (send (.listNodeCameras nodeId)) w := by
  refine alone_look rfl ?_
  intro choice ans after resp
  obtain ⟨same, isAnswer⟩ := read_store_same (some.inj resp)
  refine ⟨same, ?_⟩
  intro desired isDesired
  have listed := isAnswer desired isDesired
  unfold listNodeCameras at listed
  obtain ⟨_, _, isList⟩ := Raising.bind_ok.mp listed
  exact (Except.ok.inj isList).symm

theorem alone_list_moves :
    Alone tid writing
      (Returns (fun moves after => after = w ∧ moves = w.store.listNodeActiveMoves nodeId)
        (fun _ _ => True)) (send (.listNodeActiveMoves nodeId)) w := by
  refine alone_look rfl ?_
  intro choice ans after resp
  obtain ⟨same, isAnswer⟩ := read_store_same (some.inj resp)
  exact ⟨same, fun moves isMoves => (Except.ok.inj (isAnswer moves isMoves)).symm⟩

theorem alone_inventory :
    Alone tid writing
      (Returns (fun inventory after => after = w ∧
          inventory.cameraIds = (w.media nodeId).map (·.name))
        (fun _ _ => True)) (send (.inventoryPaths nodeId)) w := by
  refine alone_look rfl ?_
  intro choice ans after resp
  obtain ⟨same, isAnswer⟩ := read_media_same (some.inj resp)
  refine ⟨same, ?_⟩
  intro inventory isInventory
  rw [isAnswer inventory isInventory]

theorem alone_iterate {names : List PublicId} :
    Alone tid writing
      (Returns (fun order after => after = w ∧ order.Perm names) (fun _ _ => True))
      (send (.iterate names)) w := by
  refine alone_look rfl ?_
  intro choice ans after resp
  cases resp
  refine ⟨rfl, ?_⟩
  intro order isOrder
  rw [← Except.ok.inj isOrder]
  split
  · assumption
  · exact List.Perm.refl _

theorem alone_reconcile_locked {middle last : World → Prop}
    (cams : Alone tid writing (Returns (fun _ => middle) (fun _ _ => True))
      (reconcileCameras nodeId (moving w.store nodeId) (w.store.camerasOn nodeId) 0 0) w)
    (deletes : ∀ between orphans, middle between →
      orphans.Perm (((w.media nodeId).map (·.name)).filter
        fun name => name ∉ known w.store nodeId) →
      Alone tid writing (Returns (fun _ => last) (fun _ _ => True))
        (deleteOrphans nodeId orphans 0) between) :
    Alone tid writing (Returns (fun _ => last) (fun _ _ => True)) (reconcileLocked nodeId)
      w := by
  refine safe_then alone_get_node (fun _ _ _ => trivial) ?_
  rintro node _ ⟨rfl, _⟩
  cases node with
  | none => trivial
  | some node =>
    dsimp only
    split
    · trivial
    refine safe_then alone_list_cameras (fun _ _ _ => trivial) ?_
    rintro desired _ ⟨rfl, rfl⟩
    refine safe_then alone_list_moves (fun _ _ _ => trivial) ?_
    rintro activeMoves _ ⟨rfl, rfl⟩
    refine safe_then alone_inventory (fun _ _ _ => trivial) ?_
    rintro inventory _ ⟨rfl, names⟩
    split
    · trivial
    refine safe_then cams (fun _ _ _ => trivial) ?_
    rintro ⟨applied, unchanged⟩ between isBetween
    refine safe_then alone_iterate (fun _ _ _ => trivial) ?_
    rintro orphans _ ⟨rfl, order⟩
    rw [names] at order
    refine safe_then (deletes _ orphans isBetween order) (fun _ _ _ => trivial) ?_
    exact fun deleted after holds => holds

theorem alone_first_pass (isAllowed : writing) (facts : StoreFacts w.store) :
    Alone tid writing
      (Returns (fun _ after => Converged nodeId w after ∧ Recorded w.store after.store)
        (fun _ _ => True)) (reconcileLocked nodeId) w := by
  refine alone_reconcile_locked (alone_reconcile_cameras isAllowed facts.lifecycle.cameraIds
    (touched_distinct facts _)) ?_
  rintro between orphans ⟨progress, settled⟩ order
  refine safe_weaken (alone_delete_orphans isAllowed) ?_
  rintro (err | deleted) last
  · exact fun _ => trivial
  · rintro ⟨further, gone⟩
    refine converged_of_loops facts progress settled ?_ further gone
    intro name
    rw [order.mem_iff, List.mem_filter, List.mem_map, decide_eq_true_eq]

theorem alone_settled_pass (distinct : DistinctKeys CameraPlacement.id w.store.cameras)
    (settled : ∀ cam ∈ w.store.camerasOn nodeId, cam.id ∉ moving w.store nodeId →
      Settled nodeId cam w)
    (noOrphan : ∀ path ∈ w.media nodeId, path.name ∈ known w.store nodeId) :
    Alone tid writing (Returns (fun _ _ => True) (fun _ _ => True)) (reconcileLocked nodeId)
      w := by
  have cams : Alone tid writing (Returns (fun _ _ => True) (fun _ _ => True))
      (reconcileCameras nodeId (moving w.store nodeId) (w.store.camerasOn nodeId) 0 0)
      w := by
    refine safe_weaken (alone_reconcile_settled distinct settled) ?_
    rintro (err | res) after _
    · trivial
    · trivial
  refine alone_reconcile_locked cams ?_
  intro between orphans _ order
  have noNames : ((w.media nodeId).map (·.name)).filter
      (fun name => name ∉ known w.store nodeId) = [] := by
    refine List.filter_eq_nil_iff.mpr ?_
    intro name mem
    obtain ⟨path, isPath, rfl⟩ := List.mem_map.mp mem
    simpa using noOrphan path isPath
  rw [noNames] at order
  rw [order.eq_nil]
  trivial

theorem alone_with_guard {Result : Type} {ret : Result → World → Prop} {body : Program Result}
    (tries : ∀ locked : World, locked.store = w.store → locked.media = w.media →
      Alone tid writing (Returns ret (fun _ _ => True)) body locked)
    (frees : ∀ res after later, later.store = after.store → later.media = after.media →
      ret res after → ret res later) :
    Alone tid writing (Returns ret (fun _ _ => True)) (withGuard nodeId body) w := by
  have acquires : Alone tid writing
      (Returns (fun _ after => after.store = w.store ∧ after.media = w.media)
        (fun _ _ => True)) (send (.acquire nodeId)) w := by
    refine alone_send (fun isWrite => (by cases isWrite)) ?_
    intro choice ans after resp
    dsimp only [respond] at resp
    split at resp
    · cases resp
      trivial
    split at resp
    · cases resp
      trivial
    split at resp
    · cases resp
      exact ⟨rfl, rfl⟩
    · cases resp
  have releases (out : Except Raised Result) {after : World}
      (holds : Returns ret (fun _ _ => True) out after) :
      Alone tid writing (Returns ret (fun _ _ => True))
        ((send (.release nodeId)).andThen fun _ => .done out) after := by
    rintro cur rfl
    refine ⟨fun isWrite => (by cases isWrite), ?_⟩
    rintro ans later ⟨-, choice, resp⟩
    cases out with
    | error err => trivial
    | ok res =>
      refine frees res after later ?_ ?_ holds
      · have isLater := (Prod.mk.inj (some.inj resp)).2
        rw [← isLater]
        split <;> rfl
      · have isLater := (Prod.mk.inj (some.inj resp)).2
        rw [← isLater]
        split <;> rfl
  refine safe_then acquires (fun _ _ _ => trivial) ?_
  rintro _ locked ⟨store, media⟩
  refine safe_and_then (tries locked store media) ?_
  exact fun out after holds => releases out holds

omit [PythonText] in
theorem converged_same {first second after later : World}
    (converged : Converged nodeId first after) (store : first.store = second.store)
    (media : first.media = second.media) (laterMedia : later.media = after.media) :
    Converged nodeId second later := by
  have path : ∀ name, later.pathOn nodeId name = after.pathOn nodeId name := by
    intro name
    unfold World.pathOn
    rw [laterMedia]
  have begun : ∀ name, second.pathOn nodeId name = first.pathOn nodeId name := by
    intro name
    unfold World.pathOn
    rw [media]
  refine ⟨?_, ?_, ?_, ?_, ?_⟩
  · intro cam mem notMoving isEnabled
    rw [← store] at mem notMoving
    exact (path _).trans (converged.enabled cam mem notMoving isEnabled)
  · intro cam mem notMoving notEnabled
    rw [← store] at mem notMoving
    exact (path _).trans (converged.notEnabled cam mem notMoving notEnabled)
  · intro name unknown
    rw [← store] at unknown
    exact (path _).trans (converged.orphans name unknown)
  · intro move mem
    rw [← store] at mem
    exact (path _).trans ((converged.moves move mem).trans (begun _).symm)
  · intro cam mem isMoving
    rw [← store] at mem isMoving
    exact (path _).trans ((converged.movingCameras cam mem isMoving).trans (begun _).symm)

theorem alone_reconcile_node (facts : StoreFacts w.store) :
    Alone tid True
      (Returns (fun _ after => Converged nodeId w after ∧ Recorded w.store after.store)
        (fun _ _ => True)) (reconcileNode nodeId) w := by
  refine safe_then alone_continue (fun _ _ _ => trivial) ?_
  rintro _ _ rfl
  refine alone_with_guard ?_ ?_
  · intro locked store media
    have lockedFacts : StoreFacts locked.store := store ▸ facts
    refine safe_weaken (alone_first_pass trivial lockedFacts) ?_
    rintro (err | report) last
    · exact fun _ => trivial
    · rintro ⟨converged, recorded⟩
      exact ⟨converged_same converged store media rfl, store ▸ recorded⟩
  · rintro report after later store media ⟨converged, recorded⟩
    exact ⟨converged_same converged rfl rfl media, store.symm ▸ recorded⟩

theorem alone_reconcile_again {other : Nat}
    (distinct : DistinctKeys CameraPlacement.id w.store.cameras)
    (settled : ∀ cam ∈ w.store.camerasOn nodeId, cam.id ∉ moving w.store nodeId →
      Settled nodeId cam w)
    (noOrphan : ∀ path ∈ w.media nodeId, path.name ∈ known w.store nodeId) :
    Alone other False (Returns (fun _ _ => True) (fun _ _ => True)) (reconcileNode nodeId) w := by
  refine safe_then alone_continue (fun _ _ _ => trivial) ?_
  rintro _ _ rfl
  refine alone_with_guard ?_ fun _ _ _ _ _ _ => trivial
  intro locked store media
  refine alone_settled_pass ?_ ?_ ?_
  · rw [store]
    exact distinct
  · intro cam mem notMoving
    rw [store] at mem notMoving
    unfold Settled World.pathOn
    rw [media]
    exact settled cam mem notMoving
  · rw [store, media]
    exact noOrphan

/-- A pass that returns, whatever failed on the way: every camera that is enabled and not moving has
exactly its path, every other one that is not moving has none, a path of no camera of the node is
gone, and the paths of moving cameras are as they were. A second pass, by whomever and however it
ends, writes nothing to the node. -/
theorem reconcile_node_converges {after : World} {report : ReconcileReport}
    (facts : StoreFacts w.store)
    (runs : Runs machine tid (reconcileNode nodeId) w (.ok report) after) :
    Converged nodeId w after ∧
    ∀ other made out last,
      RunsAmong machine (fun _ _ => False) other (reconcileNode nodeId) after made out last →
        ∀ call ∈ made, writesMedia call.request = false := by
  have ensured : Converged nodeId w after ∧ Recorded w.store after.store :=
    runs_ensured (safe_ensures (alone_reconcile_node facts)) runs
  obtain ⟨converged, recorded⟩ := ensured
  obtain ⟨settled, noOrphan⟩ := converged_rests facts converged recorded
  have distinct : DistinctKeys CameraPlacement.id after.store.cameras := by
    unfold DistinctKeys
    rw [recorded.ids]
    exact facts.lifecycle.cameraIds
  refine ⟨converged, ?_⟩
  intro other made out last again call mem
  have permitted := runs_alone_permitted (fun _ _ never => never)
    (alone_reconcile_again distinct settled noOrphan) again call mem
  exact Bool.eq_false_iff.mpr permitted

end Pass

section Sample

local instance : PythonText := plainText

def staleName : PublicId := ⟨"baaaaaaaaaaaaaaaaaaaaaaaaa", by decide⟩

/-- Node `1` serves a path of no camera, and nothing for the camera it has. -/
def staleWorld : World :=
  { placedWorld with
    media := fun nodeId =>
      if nodeId = 1 then [{ name := staleName, sourceUrl := "rtsp://camera/old" }] else [] }

def performAlone (tid : Nat) (w : World) (req : Call) (choice : Choice) :
    Option (Except Raised (Answer req) × World) :=
  if req.isOperate = true then none else respond tid choice w req

theorem perform_alone_executes {tid : Nat} {w after : World} {req : Call}
    {choice : Choice} {ans : Except Raised (Answer req)}
    (acted : performAlone tid w req choice = some (ans, after)) :
    machine.exec tid w req ans after := by
  unfold performAlone at acted
  split at acted
  · cases acted
  · rename_i internal
    exact ⟨fresh_internal w internal, choice, acted⟩

def staleRun : Option (Except Raised ReconcileReport × World) :=
  finish performAlone (fun _ => {}) 0 (reconcileNode 1) staleWorld

/-- The stale path is gone and the camera has its path. -/
theorem reconcile_node_converges_stale :
    ∃ report after, staleRun = some (.ok report, after) ∧ after.pathOn 1 staleName = none ∧
      ∃ cam ∈ staleWorld.store.camerasOn 1,
        after.pathOn 1 cam.publicId = some (cameraPath cam) := by
  have facts : StoreFacts staleWorld.store :=
    (system_invariant sample_nodes_initial placed_world_reachable).facts
  have returns : staleRun.any (fun run => run.1.isOk) = true := by decide +kernel
  have cam : ∃ cam ∈ staleWorld.store.camerasOn 1,
      cam.id ∉ moving staleWorld.store 1 ∧ cam.state = .enabled := by decide +kernel
  have unknown : staleName ∉ known staleWorld.store 1 := by decide +kernel
  cases finished : staleRun with
  | none =>
    rw [finished] at returns
    cases returns
  | some run =>
    obtain ⟨out, after⟩ := run
    rw [finished] at returns
    cases out with
    | error err => cases returns
    | ok report =>
      have runs := finish_runs perform_alone_executes finished
      have converged := (reconcile_node_converges facts runs).1
      obtain ⟨placed, mem, notMoving, enabled⟩ := cam
      exact ⟨report, after, rfl, converged.orphans _ unknown, placed, mem,
        converged.enabled placed mem notMoving enabled⟩

end Sample

end RtspProxy.Reconcile
