import RtspProxy.Operations.World

/-!
# What the helpers leave behind

The checks change nothing. A removal and the writing of a new file change one
path; when they raise, the failures they add say whether the file is there.
-/

namespace RtspProxy.Operations

open Lib.Program Lib.Program.Prog List

theorem put_again (st : Ops) (place : Place) (first second : Option File) :
    (st.put place first).put place second = st.put place second := by
  unfold Ops.put
  congr 1
  funext other
  dsimp only
  split <;> rfl

theorem put_same {st : Ops} {place : Place} {file : Option File}
    (isFile : st.files place = file) : st.put place file = st := by
  cases st with
  | mk files transaction exported database =>
    unfold Ops.put
    congr 1
    funext other
    split
    · rename_i isPlace
      rw [isPlace]
      exact isFile.symm
    · rfl

theorem put_at (st : Ops) (place : Place) (file : Option File) :
    (st.put place file).files place = file := if_pos rfl

theorem put_away {place other : Place} (away : other ≠ place) (st : Ops) (file : Option File) :
    (st.put place file).files other = st.files other := if_neg away

section Helpers

variable {tooling : Tooling} {start : Ops} {trial : OpsTrial}

/-- Nothing has been changed so far. -/
structure Idle (start : Ops) (trial : OpsTrial) : Prop where
  states : trial.Always (· = start)
  failures : ∀ failure ∈ trial.failures, failure.left = start
  state : trial.state = start

/-- Nothing has been changed and nothing has failed. -/
structure Ready (start : Ops) (trial : OpsTrial) : Prop where
  idle : Idle start trial
  unfailed : trial.failures = []

theorem ready_start (start : Ops) : Ready start (.start start) :=
  ⟨⟨Trial.always_start rfl, by simp [Trial.start], rfl⟩, rfl⟩

theorem ready_attempt {req : Call} (next : Answer req → Prop) (ready : Ready start trial)
    (effects : ∀ ans left, Effect tooling start req ans left →
      left = start ∧ ∀ val, ans = .ok val → next val) :
    Tries (tools tooling) (Returns (fun val after => Ready start after ∧ next val)
      fun _ => Idle start) (attempt req) trial := by
  have failed : ∀ tookEffect left, left = start → Idle start (trial.failed req tookEffect left) := by
    intro tookEffect left isStart
    refine ⟨Trial.always_failed ready.idle.states isStart, ?_, isStart⟩
    intro failure mem
    rw [Trial.failed_failures, ready.unfailed] at mem
    rw [mem_singleton.mp mem]
    exact isStart
  refine tries_ask ?_ ?_ ?_
  · intro ans left effect
    rw [ready.idle.state] at effect
    obtain ⟨isStart, answered⟩ := effects ans left effect
    have idle : Idle start (trial.moved left) :=
      ⟨Trial.always_moved ready.idle.states isStart, ready.idle.failures, isStart⟩
    cases ans with
    | ok val => exact ⟨⟨idle, ready.unfailed⟩, answered val rfl⟩
    | error err => exact idle
  · intro err _
    exact failed _ _ ready.idle.state
  · intro ans left err effect _
    rw [ready.idle.state] at effect
    exact failed _ _ (effects ans left effect).1

theorem ready_step {req : Call} {Final : Type} {prog : Answer req → OpsProg Final}
    {post : Except Error Final → OpsTrial → Prop} (next : Answer req → Prop)
    (ready : Ready start trial) (effects : ∀ ans left, Effect tooling start req ans left →
      left = start ∧ ∀ val, ans = .ok val → next val)
    (raises : ∀ err after, Idle start after → post (.error err) after)
    (continues : ∀ val after, Ready start after → next val →
      Tries (tools tooling) post (prog val) after) :
    Tries (tools tooling) post (attempt req >>= prog) trial :=
  safe_then (ready_attempt next ready effects) raises
    fun val after holds => continues val after holds.1 holds.2

theorem new_private_output_ready {path : OutputPath} {suffix : String} {place : Place}
    (ready : Ready start trial) :
    Tries (tools tooling) (Returns (fun _ after => Ready start after ∧ start.files place = none)
      fun _ => Idle start) (newPrivateOutput path suffix place) trial := by
  unfold newPrivateOutput
  split
  · exact safe_raise ready.idle
  have asked : Tries (tools tooling) (Returns (fun _ => Ready start) fun _ => Idle start)
      ((attempt (.statParent place)).handle fun err =>
        raise (if err = .osError then .operationsError "operations_output_parent_invalid"
          else err)) trial := by
    refine safe_handle (fun _ => Idle start) ?_ (fun _ _ idle => safe_raise idle)
    refine safe_weaken (ready_attempt (fun _ => True) ready ?_) ?_
    · rintro _ _ ⟨⟩
      exact ⟨rfl, fun _ _ => trivial⟩
    · intro out after holds
      cases out with
      | ok val => exact holds.1
      | error err => exact holds
  refine safe_then asked (fun _ _ idle => idle) ?_
  intro parent after ready
  split
  · exact safe_raise ready.idle
  split
  · exact safe_raise ready.idle
  refine ready_step (fun present => present = (start.files place).isSome) ready ?_
    (fun _ _ idle => idle) ?_
  · rintro _ _ ⟨⟩
    exact ⟨rfl, fun _ isAnswer => by cases isAnswer; rfl⟩
  intro present looked ready isPresent
  split
  · exact safe_raise ready.idle
  · rename_i isAbsent
    refine safe_pure ⟨ready, ?_⟩
    rw [isPresent] at isAbsent
    simpa using isAbsent

theorem load_release_manifest_ready (ready : Ready start trial) :
    Tries (tools tooling) (Returns (fun _ => Ready start) fun _ => Idle start)
      loadReleaseManifest trial := by
  refine ready_step (fun _ => True) ready ?_ (fun _ _ idle => idle) ?_
  · rintro _ _ ⟨⟩
    exact ⟨rfl, fun _ _ => trivial⟩
  intro document after ready _
  split
  · split
    · exact safe_raise ready.idle
    refine ready_step (fun _ => True) ready ?_ (fun _ _ idle => idle) ?_
    · rintro _ _ ⟨⟩
      exact ⟨rfl, fun _ _ => trivial⟩
    intro digest hashed ready _
    exact safe_pure ready
  · exact safe_raise ready.idle

def Removed (place : Place) (trial after : OpsTrial) : Prop :=
  after.failures = trial.failures ∧ after.state = trial.state.put place none

def Refused (place : Place) (trial after : OpsTrial) : Prop :=
  ∃ req tookEffect, (req = .lstatOwned place ∨ req = .unlink place) ∧
    after.failures = trial.failures ++ [⟨req, tookEffect, after.state⟩] ∧
    (after.state = trial.state ∨ (req = .unlink place ∧ after.state = trial.state.put place none))

theorem unlink_if_owned_settled {place : Place}
    (owned : ∀ file, trial.state.files place = some file → file.owned = true) :
    Tries (tools tooling) (Returns (fun _ => Removed place trial) fun _ => Refused place trial)
      (unlinkIfOwned place) trial := by
  have looked : Tries (tools tooling)
      (Returns (fun found after => after.failures = trial.failures ∧ after.state = trial.state ∧
          found = (trial.state.files place).map (·.owned))
        fun _ => Refused place trial) (attempt (.lstatOwned place)) trial := by
    refine tries_ask ?_ ?_ ?_
    · rintro _ _ ⟨⟩
      exact ⟨rfl, rfl, rfl⟩
    · intro err _
      exact ⟨_, _, .inl rfl, rfl, .inl rfl⟩
    · rintro _ _ err ⟨⟩ _
      exact ⟨_, _, .inl rfl, rfl, .inl rfl⟩
  refine safe_then looked (fun _ _ refused => refused) ?_
  rintro found after ⟨isFailures, isState, isFound⟩
  split
  · refine tries_ask ?_ ?_ ?_
    · rintro _ _ ⟨⟩
      exact ⟨isFailures, by rw [Trial.moved_state, isState]⟩
    · intro err _
      exact ⟨_, _, .inr rfl, by rw [Trial.failed_failures, isFailures]; rfl, .inl isState⟩
    · rintro _ _ err ⟨⟩ _
      exact ⟨_, _, .inr rfl, by rw [Trial.failed_failures, isFailures]; rfl,
        .inr ⟨rfl, by rw [Trial.failed_state, isState]⟩⟩
  · rename_i notOwned
    refine safe_pure ⟨isFailures, ?_⟩
    rw [isState]
    refine (put_same ?_).symm
    cases isFile : trial.state.files place with
    | none => rfl
    | some file =>
      rw [isFile, Option.map_some, owned file isFile] at isFound
      exact absurd isFound notOwned

theorem unlink_if_owned_keeps (place : Place) :
    Tries (tools tooling) (fun _ after =>
        (∃ more, after.failures = trial.failures ++ more) ∧
          ∀ other, other ≠ place → after.state.files other = trial.state.files other)
      (unlinkIfOwned place) trial := by
  have looked : Tries (tools tooling)
      (Returns (fun _ after => after.failures = trial.failures ∧ after.state = trial.state)
        fun _ after => (∃ more, after.failures = trial.failures ++ more) ∧
          ∀ other, other ≠ place → after.state.files other = trial.state.files other)
      (attempt (.lstatOwned place)) trial := by
    refine tries_ask ?_ ?_ ?_
    · rintro _ _ ⟨⟩
      exact ⟨rfl, rfl⟩
    · intro err _
      exact ⟨⟨_, rfl⟩, fun _ _ => rfl⟩
    · rintro _ _ err ⟨⟩ _
      exact ⟨⟨_, rfl⟩, fun _ _ => rfl⟩
  refine safe_then looked (fun _ _ kept => kept) ?_
  rintro found after ⟨isFailures, isState⟩
  split
  · refine tries_ask ?_ ?_ ?_
    · rintro _ _ ⟨⟩
      refine ⟨⟨[], by rw [Trial.moved_failures, isFailures, append_nil]⟩, ?_⟩
      intro other away
      rw [Trial.moved_state, put_away away, isState]
    · intro err _
      refine ⟨⟨_, by rw [Trial.failed_failures, isFailures]⟩, ?_⟩
      intro other _
      rw [Trial.failed_state, isState]
    · rintro _ _ err ⟨⟩ _
      refine ⟨⟨_, by rw [Trial.failed_failures, isFailures]⟩, ?_⟩
      intro other away
      rw [Trial.failed_state, put_away away, isState]
  · exact safe_pure ⟨⟨[], by rw [isFailures, append_nil]⟩, fun _ _ => by rw [isState]⟩

/-- The failures after which a new file is not there, or is removed again. -/
def IsUndone (place : Place) (failure : Failure Ops Call) : Prop :=
  match failure.request with
  | .openExclusive other | .lstatOwned other | .unlink other =>
    other = place ∧ failure.left.files place = none
  | .fdopen other | .write other _ | .flush other | .fsyncFile other | .closeFile other =>
    other = place
  | _ => False

/-- The calls that may fail without an attempt to remove the new file. -/
def Call.strands (place : Place) (req : Call) : Prop :=
  req = .openExclusive place ∨ req = .lstatOwned place ∨ req = .unlink place ∨ req = .syncDirectory

def Unwritten (place : Place) (trial after : OpsTrial) : Prop :=
  after.state = trial.state ∧ ∃ more, after.failures = trial.failures ++ more ∧
    ∀ failure ∈ more, IsUndone place failure ∧ ∃ file, failure.left = trial.state.put place file

/-- The writing of the file failed, but the file is there. -/
def Stranded (place : Place) (trial after : OpsTrial) : Prop :=
  ∃ more req tookEffect,
    after.failures = trial.failures ++ more ++ [⟨req, tookEffect, after.state⟩] ∧
    (∀ failure ∈ more, IsUndone place failure) ∧ req.strands place ∧
    ∃ file, after.state = trial.state.put place (some file)

section Writing

variable {place : Place} {base : Ops} {earlier : List (Failure Ops Call)}

def Holding (base : Ops) (place : Place) (earlier : List (Failure Ops Call)) (content : Content)
    (trial : OpsTrial) : Prop :=
  trial.failures = earlier ∧ trial.state = base.put place (some ⟨content, true⟩)

def Dropped (base : Ops) (place : Place) (earlier : List (Failure Ops Call)) (trial : OpsTrial) :
    Prop :=
  ∃ content last, trial.failures = earlier ++ [last] ∧ IsUndone place last ∧
    last.left = trial.state ∧ trial.state = base.put place (some ⟨content, true⟩)

theorem holding_attempt {req : Call} {content : Content} (next : Content)
    (undone : ∀ tookEffect left, IsUndone place ⟨req, tookEffect, left⟩)
    (holding : Holding base place earlier content trial) (effects : ∀ ans left,
      Effect tooling (base.put place (some ⟨content, true⟩)) req ans left →
        (∃ val, ans = .ok val) ∧ left = base.put place (some ⟨next, true⟩)) :
    Tries (tools tooling) (Returns (fun _ => Holding base place earlier next)
      fun _ => Dropped base place earlier) (attempt req) trial := by
  obtain ⟨isFailures, isState⟩ := holding
  refine tries_ask ?_ ?_ ?_
  · intro ans left effect
    rw [isState] at effect
    obtain ⟨⟨val, rfl⟩, isLeft⟩ := effects ans left effect
    exact ⟨isFailures, isLeft⟩
  · intro err _
    exact ⟨content, ⟨req, false, trial.state⟩, by rw [Trial.failed_failures, isFailures],
      undone _ _, rfl, isState⟩
  · intro ans left err effect _
    rw [isState] at effect
    exact ⟨next, ⟨req, true, left⟩, by rw [Trial.failed_failures, isFailures], undone _ _,
      rfl, (effects ans left effect).2⟩

theorem write_file_settled (content : Content) (holding : Holding base place earlier .empty trial) :
    Tries (tools tooling) (Returns (fun _ => Holding base place earlier content)
      fun _ => Dropped base place earlier)
      (attempt (.fdopen place) >>= fun _ =>
        attempt (.write place content) >>= fun _ =>
        attempt (.flush place) >>= fun _ =>
        attempt (.fsyncFile place) >>= fun _ =>
        attempt (.closeFile place)) trial := by
  have rewritten : ∀ first, (base.put place (some ⟨first, true⟩)).put place (some ⟨content, true⟩) =
      base.put place (some ⟨content, true⟩) := fun first => put_again _ _ _ _
  have opened := @holding_attempt tooling _ _ _ _ (.fdopen place) _ .empty (fun _ _ => rfl) holding
    (by rintro _ _ ⟨⟩; exact ⟨⟨_, rfl⟩, rfl⟩)
  refine safe_then opened (fun _ _ dropped => dropped) ?_
  intro _ after holding
  have written := @holding_attempt tooling _ _ _ _ (.write place content) _ content
    (fun _ _ => rfl) holding (by rintro _ _ ⟨⟩; exact ⟨⟨_, rfl⟩, rewritten _⟩)
  refine safe_then written (fun _ _ dropped => dropped) ?_
  intro _ after holding
  have flushed := @holding_attempt tooling _ _ _ _ (.flush place) _ content (fun _ _ => rfl) holding
    (by rintro _ _ ⟨⟩; exact ⟨⟨_, rfl⟩, rfl⟩)
  refine safe_then flushed (fun _ _ dropped => dropped) ?_
  intro _ after holding
  have synced := @holding_attempt tooling _ _ _ _ (.fsyncFile place) _ content (fun _ _ => rfl)
    holding (by rintro _ _ ⟨⟩; exact ⟨⟨_, rfl⟩, rfl⟩)
  refine safe_then synced (fun _ _ dropped => dropped) ?_
  intro _ after holding
  exact @holding_attempt tooling _ _ _ _ (.closeFile place) _ content (fun _ _ => rfl) holding
    (by rintro _ _ ⟨⟩; exact ⟨⟨_, rfl⟩, rfl⟩)

theorem drop_settled {err : Error} (free : base.files place = none)
    (dropped : Dropped base place earlier trial) :
    Tries (tools tooling) (Returns (fun _ _ => False) fun _ after =>
        Unwritten place ⟨base, [], earlier⟩ after ∨ Stranded place ⟨base, [], earlier⟩ after)
      (unlinkIfOwned place >>= fun _ => (raise err : OpsProg Unit)) trial := by
  obtain ⟨content, last, isFailures, undone, isLast, isState⟩ := dropped
  have isFile : trial.state.files place = some ⟨content, true⟩ := by rw [isState, put_at]
  have removed : trial.state.put place none = base := by
    rw [isState, put_again, put_same free]
  have owned : ∀ file, trial.state.files place = some file → file.owned = true := by
    intro file found
    rw [isFile] at found
    cases found
    rfl
  have isPut : last.left = base.put place (some ⟨content, true⟩) := by rw [isLast, isState]
  refine safe_then (unlink_if_owned_settled owned) ?_ ?_
  · rintro _ after ⟨req, tookEffect, isRemoval, failures, out⟩
    rw [isFailures] at failures
    rcases out with isSame | ⟨isUnlink, isGone⟩
    · refine .inr ⟨[last], req, tookEffect, failures, ?_, ?_, ⟨content, true⟩, ?_⟩
      · intro failure mem
        rw [mem_singleton.mp mem]
        exact undone
      · exact .inr (isRemoval.elim .inl fun isUnlink => .inr (.inl isUnlink))
      · rw [isSame, isState]
    · refine .inl ⟨isGone.trans removed, [last, ⟨req, tookEffect, after.state⟩], ?_, ?_⟩
      · rw [failures]
        simp
      · intro failure mem
        rcases mem_cons.mp mem with isFirst | mem
        · rw [isFirst]
          exact ⟨undone, _, isPut⟩
        · rw [mem_singleton.mp mem, isUnlink, isGone, removed]
          exact ⟨⟨rfl, free⟩, none, (put_same free).symm⟩
  · rintro _ after ⟨failures, isGone⟩
    rw [isFailures] at failures
    refine .inl ⟨isGone.trans removed, [last], failures, ?_⟩
    intro failure mem
    rw [mem_singleton.mp mem]
    exact ⟨undone, _, isPut⟩

theorem write_json_exclusive_settled {content : Content} (free : trial.state.files place = none) :
    Tries (tools tooling) (Returns
      (fun _ => Holding trial.state place trial.failures content)
      fun _ after => Unwritten place trial after ∨ Stranded place trial after)
      (writeJsonExclusive place content) trial := by
  have opened : Tries (tools tooling) (Returns
      (fun _ => Holding trial.state place trial.failures .empty)
      fun _ after => Unwritten place trial after ∨ Stranded place trial after)
      (attempt (.openExclusive place)) trial := by
    refine tries_ask ?_ ?_ ?_
    · intro ans left effect
      cases effect with
      | openExclusive _ => exact ⟨rfl, rfl⟩
      | openExists taken =>
        rw [free] at taken
        cases taken
    · intro err _
      refine .inl ⟨rfl, [⟨_, _, _⟩], rfl, ?_⟩
      intro failure mem
      rw [mem_singleton.mp mem]
      exact ⟨⟨rfl, free⟩, none, (put_same free).symm⟩
    · intro ans left err effect _
      cases effect with
      | openExclusive _ =>
        refine .inr ⟨[], _, _, by rw [append_nil]; rfl, ?_, .inl rfl, _, rfl⟩
        intro failure mem
        cases mem
      | openExists taken =>
        rw [free] at taken
        cases taken
  refine safe_then opened (fun _ _ ended => ended) ?_
  intro _ after holding
  have written : Tries (tools tooling) (Returns
      (fun _ => Holding trial.state place trial.failures content)
      fun _ after => Unwritten place trial after ∨ Stranded place trial after)
      ((attempt (.fdopen place) >>= fun _ =>
        attempt (.write place content) >>= fun _ =>
        attempt (.flush place) >>= fun _ =>
        attempt (.fsyncFile place) >>= fun _ =>
        attempt (.closeFile place)).handle fun err =>
          unlinkIfOwned place >>= fun _ => raise err) after := by
    refine safe_handle _ (write_file_settled content holding) ?_
    intro err failed dropped
    refine safe_weaken (drop_settled free dropped) ?_
    intro out ended settled
    cases out with
    | ok res => exact settled.elim
    | error err => exact settled
  refine safe_then written (fun _ _ ended => ended) ?_
  rintro _ closed ⟨isFailures, isState⟩
  have stranded : ∀ tookEffect (left : Ops), left = closed.state →
      Stranded place trial (closed.failed .syncDirectory tookEffect left) := by
    intro tookEffect left isLeft
    refine ⟨[], _, tookEffect, ?_, ?_, .inr (.inr (.inr rfl)), ⟨content, true⟩, ?_⟩
    · rw [Trial.failed_failures, isFailures, append_nil, Trial.failed_state]
    · intro failure mem
      cases mem
    · rw [Trial.failed_state, isLeft, isState]
  refine tries_ask ?_ ?_ ?_
  · rintro _ _ ⟨⟩
    exact ⟨isFailures, isState⟩
  · intro err _
    exact .inr (stranded _ _ rfl)
  · rintro _ _ err ⟨⟩ _
    exact .inr (stranded _ _ rfl)

end Writing

end Helpers

/-- What else the calls meet: the database that is backed up, the release manifest and the metadata
of the paths. -/
structure Surroundings where
  source : DatabaseContent
  release : ReleaseDocument
  parent : ParentStatus
  input : InputStatus

def act (tooling : Tooling) (surroundings : Surroundings) (st : Ops) :
    (req : Call) → Except Error (Answer req) × Ops
  | .statParent _ => (.ok surroundings.parent, st)
  | .pathExists place => (.ok (st.files place).isSome, st)
  | .lstatInput _ => (.ok surroundings.input, st)
  | .readRelease => (.ok surroundings.release, st)
  | .hashRelease => (.ok (tooling.sha256 []), st)
  | .readBackup =>
    match st.files .manifest with
    | some ⟨.backup document, _⟩ => (.ok document, st)
    | _ => (.error (.operationsError "backup_manifest_invalid"), st)
  | .hashFile place =>
    match st.files place with
    | some file => (.ok (tooling.sha256 (file.content.bytes tooling.json),
        (file.content.bytes tooling.json).length), st)
    | none => (.error (.operationsError "operations_input_unreadable"), st)
  | .connect => (.ok (), st)
  | .begin => (.ok (), st)
  | .exportSnapshot => (.ok (some "snapshot"),
      { st with
        transaction := some surroundings.source
        exported := some ("snapshot", surroundings.source) })
  | .inspectTransaction =>
    match st.transaction with
    | some content => (inspectDatabase tooling.toCharacters content, st)
    | none => (.error .psycopgError, st)
  | .pgDump snapshotId =>
    match st.exported with
    | some (exported, content) =>
      if exported = snapshotId then
        (.ok (), st.put .temporary (some ⟨.archive (tooling.dump content), true⟩))
      else (.error (.operationsError "pg_dump_failed"),
        st.put .temporary (some ⟨.archive [], true⟩))
    | none => (.error (.operationsError "pg_dump_failed"),
        st.put .temporary (some ⟨.archive [], true⟩))
  | .commit => (.ok (), { st with transaction := none, exported := none })
  | .closeConnection => (.ok (), st)
  | .requireRegularFile => (.ok true, st)
  | .chmod => (.ok (), st)
  | .pgRestoreList => (.ok (), st)
  | .fsyncFile _ => (.ok (), st)
  | .link =>
    match st.files .temporary, st.files .archive with
    | some file, none => (.ok (), st.put .archive (some file))
    | _, some _ => (.error (.operationsError "operations_output_exists"), st)
    | none, none => (.error .osError, st)
  | .syncDirectory => (.ok (), st)
  | .openExclusive place =>
    if st.files place = none then (.ok (), st.put place (some ⟨.empty, true⟩))
    else (.error (.operationsError "operations_output_exists"), st)
  | .fdopen _ => (.ok (), st)
  | .write place content => (.ok (), st.put place (some ⟨content, true⟩))
  | .flush _ => (.ok (), st)
  | .closeFile _ => (.ok (), st)
  | .lstatOwned place => (.ok ((st.files place).map (·.owned)), st)
  | .unlink place => (.ok (), st.put place none)
  | .connectAdmin => (.ok (), st)
  | .createDatabase =>
    if st.temporaryDatabase.isSome = true then (.error .psycopgError, st)
    else (.ok (), { st with temporaryDatabase := some .new })
  | .dropDatabase =>
    if st.temporaryDatabase.isSome = true then
      (.ok (), { st with temporaryDatabase := none })
    else (.error .psycopgError, st)
  | .closeAdmin => (.ok (), st)
  | .pgRestore =>
    match st.files .archive, st.temporaryDatabase with
    | some ⟨.archive bytes, _⟩, some .new =>
      (.ok (), { st with temporaryDatabase := some (.restored (tooling.restore bytes)) })
    | _, some _ =>
      (.error (.operationsError "pg_restore_failed"),
        { st with temporaryDatabase := some (.restored tooling.template0) })
    | _, none => (.error (.operationsError "pg_restore_failed"), st)
  | .inspectTemporary =>
    match st.temporaryDatabase with
    | some (.restored content) => (inspectDatabase tooling.toCharacters content, st)
    | some .new => (inspectDatabase tooling.toCharacters tooling.template0, st)
    | none => (.error .psycopgError, st)

theorem act_effect (tooling : Tooling) (surroundings : Surroundings) (st : Ops) (req : Call) :
    Effect tooling st req (act tooling surroundings st req).1
      (act tooling surroundings st req).2 := by
  cases req with
  | readBackup =>
    unfold act
    split
    · rename_i isBackup
      exact .readBackup isBackup
    · rename_i noBackup
      exact .noBackup fun document owned isBackup => noBackup document owned isBackup
  | hashFile place =>
    unfold act
    dsimp only
    split
    · rename_i found
      exact .hashFile found
    · rename_i missing
      exact .hashMissing missing
  | inspectTransaction =>
    unfold act
    dsimp only
    split
    · rename_i reads
      exact .inspectTransaction reads
    · rename_i missing
      exact .noTransaction missing
  | pgDump snapshotId =>
    unfold act
    dsimp only
    split
    · rename_i exported content isExported
      split
      · rename_i isSame
        exact .pgDump (isSame ▸ isExported)
      · exact .partialDump _ _ _
    · exact .partialDump _ _ _
  | link =>
    unfold act
    dsimp only
    split
    · rename_i source free
      exact .link source free
    · rename_i taken
      exact .linkExists (by rw [taken]; rfl)
    · rename_i missing _
      exact .linkMissing missing
  | openExclusive place =>
    unfold act
    dsimp only
    split
    · rename_i free
      exact .openExclusive free
    · rename_i taken
      exact .openExists (Option.isSome_iff_ne_none.mpr taken)
  | createDatabase =>
    unfold act
    dsimp only
    split
    · rename_i taken
      exact .createExists taken
    · rename_i free
      exact .createDatabase (by simpa using free)
  | dropDatabase =>
    unfold act
    dsimp only
    split
    · rename_i present
      exact .dropDatabase present
    · rename_i missing
      exact .nothingToDrop (by simpa using missing)
  | pgRestore =>
    unfold act
    dsimp only
    split
    · rename_i isArchive isNew
      exact .pgRestore isArchive isNew
    · rename_i present _
      exact .partialRestore _ _ (by rw [present]; rfl)
    · rename_i missing
      exact .nowhereToRestore _ missing
  | inspectTemporary =>
    unfold act
    dsimp only
    split
    · rename_i reads
      exact .inspectTemporary reads
    · rename_i isNew
      exact .inspectNew isNew
    · rename_i missing
      exact .noTemporaryDatabase missing
  | _ => constructor

/-- What a call raises when it fails, with one code for all tools. -/
def failing : Call → Error
  | .readRelease => .operationsError "release_manifest_invalid"
  | .readBackup => .operationsError "backup_manifest_invalid"
  | .hashRelease | .hashFile _ => .operationsError "operations_input_unreadable"
  | .pgDump _ | .pgRestoreList | .pgRestore => .operationsError "pg_restore_failed"
  | .connect | .begin | .exportSnapshot | .inspectTransaction | .commit | .closeConnection
  | .connectAdmin | .createDatabase | .dropDatabase | .closeAdmin | .inspectTemporary =>
    .psycopgError
  | _ => .osError

theorem failing_lost (req : Call) : Lost req (failing req) := by
  cases req with
  | pgDump snapshotId => exact .inl ⟨_, rfl⟩
  | pgRestoreList => exact ⟨_, rfl⟩
  | pgRestore => exact .inl ⟨_, rfl⟩
  | _ => rfl

theorem act_runs {Result : Type} (tooling : Tooling) (surroundings : Surroundings)
    (prog : OpsProg Result) (script : List (Option Bool)) (st : Ops) :
    Runs (attempting (tools tooling)) 0 prog (.start st)
      (execute (act tooling surroundings) failing prog script (.start st)).1
      (execute (act tooling surroundings) failing prog script (.start st)).2 :=
  execute_runs (act_effect tooling surroundings) failing_lost prog script (.start st)

namespace Sample

def characters : Characters where
  isAlnum char := ('a' ≤ char && char ≤ 'z') || ('0' ≤ char && char ≤ '9')
  isSpace char := char = ' '

def database (rows : Nat) : DatabaseContent where
  revisionRows := [some "0020_probe_observations"]
  tableNames := "alembic_version" :: requiredTables
  count _ := some rows
  invariant _ := some true
  serverVersion := some "16.4"

def tooling : Tooling where
  toCharacters := characters
  sha256 bytes := String.ofList (replicate 63 '0' ++ (Nat.toDigits 16 bytes.length))
  json _ := []
  dump content := replicate ((content.count "cameras").getD 0) 7
  restore bytes := database bytes.length
  template0 := { database 0 with revisionRows := [] }

def surroundings : Surroundings where
  source := database 3
  release :=
    { releaseId := some "0.13.0"
      gitCommit := some (String.ofList (replicate 40 'a'))
      linuxArch := some "amd64"
      minimum := some "0012_operator_sessions"
      maximum := some "0020_probe_observations" }
  parent := ⟨true, true, true, true⟩
  input := ⟨true, true, true⟩

def nothing : Ops := ⟨fun _ => none, none, none, none⟩

end Sample

end RtspProxy.Operations
