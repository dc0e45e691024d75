import RtspProxy.Operations.Restore
import RtspProxy.Operations.Steps

/-!
# What a verification of a restore leaves behind

Nothing is written before the temporary database is dropped, so a run is first
`Working` on unchanged files. It may leak its database where the creation fails
after it took effect, and its report where the writing fails after the content
was written; every other failure is cleaned up after, or the error says that the
cleanup failed.
-/

namespace RtspProxy.Operations

open Lib.Program Lib.Program.Prog Call List Sample

/-- The path has a report that was not there before and says pass. -/
def NewPass (start st : Ops) : Prop :=
  st.files .report ≠ start.files .report ∧
    ∃ report owned, st.files .report = some ⟨.report report, owned⟩ ∧ report.status = "pass"

/-- An archive with the digest of the manifest was restored into a new database, and what was found
there is what the manifest says. -/
def WasRestored (tooling : Tooling) (start : Ops) (states : List Ops) : Prop :=
  ∃ bytes doc described snap archiveOwned manifestOwned,
    start.files .archive = some ⟨.archive bytes, archiveOwned⟩ ∧
    start.files .manifest = some ⟨.backup doc, manifestOwned⟩ ∧
    doc.archive = some described ∧ described.sha256 = some (tooling.sha256 bytes) ∧
    (∃ st ∈ states, st.temporaryDatabase = some .new) ∧
    (∃ st ∈ states, st.temporaryDatabase = some (.restored (tooling.restore bytes))) ∧
    inspectDatabase tooling.toCharacters (tooling.restore bytes) = .ok snap ∧
    doc.database = some (snapshotPayload snap)

/-- A new report that says pass comes from a call that returned and restored what it says. -/
def TellsTruth (tooling : Tooling) (start : Ops) (out : Except Error RestoreReport)
    (after : OpsTrial) : Prop :=
  NewPass start after.state →
    (∃ payload, out = .ok payload) ∧ WasRestored tooling start after.states

/-- The temporary database is gone, or the error says that it could not be dropped. -/
def CleansUp (out : Except Error RestoreReport) (after : OpsTrial) : Prop :=
  after.state.temporaryDatabase = none ∨ out = .error cleanupFailed

/-- The creation of the temporary database, up to the end of its block. -/
def Call.creates (req : Call) : Prop := req = .createDatabase ∨ req = .closeAdmin

def IsHarmless (start : Ops) (failure : Failure Ops Call) : Prop :=
  (failure.request.strands .report → ¬ NewPass start failure.left) ∧
    (failure.request.creates → failure.left.temporaryDatabase = none)

/-- No failing call leaves a new report that says pass without an attempt to remove it, or a
temporary database that the block does not count as created. -/
def FailsHarmlessly (start : Ops) (trial : OpsTrial) : Prop :=
  ∀ failure ∈ trial.failures, IsHarmless start failure

section Restore

variable {tooling : Tooling} {start : Ops} {trial : OpsTrial} {args : RestoreArguments}

/-- The files are as they were; what failed before is listed and harmless. -/
structure Working (start : Ops) (earlier : List (Failure Ops Call)) (fact : Ops → Prop)
    (trial : OpsTrial) : Prop where
  failures : trial.failures = earlier
  harmless : FailsHarmlessly start trial
  files : trial.state.files = start.files
  fact : fact trial.state

/-- The run raised with all files as they were. -/
structure Stopped (start : Ops) (trial : OpsTrial) : Prop where
  harmless : FailsHarmlessly start trial
  files : trial.state.files = start.files

theorem same_files_no_pass {st : Ops} (files : st.files = start.files) :
    ¬ NewPass start st := fun pass => pass.1 (by rw [files])

variable {earlier : List (Failure Ops Call)} {fact : Ops → Prop}

theorem stopped_of_working (working : Working start earlier fact trial) : Stopped start trial :=
  ⟨working.harmless, working.files⟩

theorem working_weaken {weaker : Ops → Prop}
    (working : Working start earlier fact trial) (weaken : ∀ st, fact st → weaker st) :
    Working start earlier weaker trial :=
  { working with fact := weaken _ working.fact }

variable {req : Call}

theorem stopped_failed {tookEffect : Bool} {left : Ops}
    (harmless : FailsHarmlessly start trial) (files : left.files = start.files)
    (created : req.creates → left.temporaryDatabase = none) :
    Stopped start (trial.failed req tookEffect left) := by
  refine ⟨?_, files⟩
  intro failure mem
  rw [Trial.failed_failures] at mem
  rcases mem_append.mp mem with pre | isLast
  · exact harmless failure pre
  · rw [mem_singleton.mp isLast]
    exact ⟨fun _ => same_files_no_pass files, created⟩

theorem working_attempt (next : Answer req → Ops → Prop) (raised : Error → Prop)
    (working : Working start earlier fact trial)
    (pre : req.creates → ∀ st, fact st → st.temporaryDatabase = none)
    (raises : ∀ err, Lost req err → raised err)
    (effects : ∀ st ans left, fact st → st.files = start.files →
      Effect tooling st req ans left → left.files = start.files ∧
        (req.creates → left.temporaryDatabase = none) ∧
        (∀ value, ans = .ok value → next value left) ∧
        ∀ err, ans = .error err → raised err) :
    Tries (tools tooling) (Returns (fun value => Working start earlier (next value))
      fun err after => Stopped start after ∧ raised err) (attempt req) trial := by
  refine tries_ask ?_ ?_ ?_
  · intro ans left effect
    obtain ⟨files, _, answered, failed⟩ := effects _ ans left working.fact working.files effect
    cases ans with
    | ok value => exact ⟨working.failures, working.harmless, files, answered value rfl⟩
    | error err => exact ⟨⟨working.harmless, files⟩, failed err rfl⟩
  · intro err lost
    exact ⟨stopped_failed working.harmless working.files fun creates =>
      pre creates _ working.fact, raises err lost⟩
  · intro ans left err effect lost
    obtain ⟨files, created, _⟩ := effects _ ans left working.fact working.files effect
    exact ⟨stopped_failed working.harmless files created, raises err lost⟩

theorem working_step {Final : Type} {prog : Answer req → OpsProg Final}
    {post : Except Error Final → OpsTrial → Prop} (next : Answer req → Ops → Prop)
    (other : ¬ req.creates) (working : Working start earlier fact trial)
    (effects : ∀ st ans left, fact st → st.files = start.files →
      Effect tooling st req ans left → left.files = start.files ∧
        ∀ value, ans = .ok value → next value left)
    (raises : ∀ err after, Stopped start after → post (.error err) after)
    (continues : ∀ value after, Working start earlier (next value) after →
      Tries (tools tooling) post (prog value) after) :
    Tries (tools tooling) post (attempt req >>= prog) trial := by
  have attempted := @working_attempt tooling start _ earlier fact req next (fun _ => True)
    working (fun creates => absurd creates other) (fun _ _ => trivial) (by
      intro st ans left holds files effect
      obtain ⟨isSame, answered⟩ := effects st ans left holds files effect
      exact ⟨isSame, fun creates => absurd creates other, answered, fun _ _ => trivial⟩)
  exact safe_then attempted (fun err after stopped => raises err after stopped.1) continues

def Leaked (start : Ops) (trial : OpsTrial) : Prop :=
  ¬ FailsHarmlessly start trial ∧ trial.state.temporaryDatabase ≠ none

theorem leaked_failed {tookEffect : Bool} {left : Ops}
    (creates : req.creates) (present : left.temporaryDatabase ≠ none) :
    Leaked start (trial.failed req tookEffect left) := by
  refine ⟨?_, present⟩
  intro harmless
  have isLast := harmless ⟨req, tookEffect, left⟩ (mem_append_right _ mem_cons_self)
  exact present (isLast.2 creates)

def NoDatabase (st : Ops) : Prop := st.temporaryDatabase = none

def createFailed : Error := .operationsError "temporary_restore_database_create_failed"

def dropFailed : Error := .operationsError "temporary_restore_database_drop_failed"

theorem create_database_settled (working : Working start [] NoDatabase trial) :
    Tries (tools tooling) (Returns
      (fun _ after => (∃ url, args.adminUrl = .ok url) ∧
        (∃ st ∈ after.states, st.temporaryDatabase = some .new) ∧
        Working start [] (fun st => st.temporaryDatabase = some .new) after)
      fun err after => (Stopped start after ∧ NoDatabase after.state) ∨
        (Leaked start after ∧ err = createFailed))
      (createDatabase args) trial := by
  have block : Tries (tools tooling) (Returns
      (fun _ after => (∃ url, args.adminUrl = .ok url) ∧
        (∃ st ∈ after.states, st.temporaryDatabase = some .new) ∧
        Working start [] (fun st => st.temporaryDatabase = some .new) after)
      fun err after => (Stopped start after ∧ NoDatabase after.state) ∨
        (Leaked start after ∧ err = .psycopgError))
      (adminBlock args (attempt .createDatabase)) trial := by
    unfold adminBlock
    split
    · exact safe_raise (.inl ⟨stopped_of_working working, working.fact⟩)
    rename_i url isUrl
    have connected : Tries (tools tooling) (Returns (fun _ => Working start [] NoDatabase)
        fun _ after => Stopped start after ∧ NoDatabase after.state)
        (attempt .connectAdmin) trial := by
      have notCreates : ¬ creates .connectAdmin := by simp [creates]
      refine tries_ask ?_ ?_ ?_
      · rintro _ _ ⟨⟩
        exact ⟨working.failures, working.harmless, working.files, working.fact⟩
      · intro err _
        exact ⟨stopped_failed working.harmless working.files (absurd · notCreates), working.fact⟩
      · rintro _ _ err ⟨⟩ _
        exact ⟨stopped_failed working.harmless working.files (absurd · notCreates), working.fact⟩
    refine safe_then connected (fun _ _ stopped => .inl stopped) ?_
    intro _ admin working
    have created : Tries (tools tooling) (Returns
        (fun _ after => (∃ st ∈ after.states, st.temporaryDatabase = some .new) ∧
          Working start [] (fun st => st.temporaryDatabase = some .new) after)
        fun err after => (Stopped start after ∧ NoDatabase after.state) ∨
          (Leaked start after ∧ err = .psycopgError)) (attempt .createDatabase) admin := by
      refine tries_ask ?_ ?_ ?_
      · intro ans left effect
        cases effect with
        | createDatabase _ =>
          exact ⟨⟨_, mem_append_right _ mem_cons_self, rfl⟩, working.failures,
            working.harmless, working.files, rfl⟩
        | createExists taken =>
          rw [show admin.state.temporaryDatabase = none from working.fact] at taken
          cases taken
      · intro err _
        exact .inl ⟨stopped_failed working.harmless working.files fun _ => working.fact,
          working.fact⟩
      · intro ans left err effect lost
        cases effect with
        | createDatabase _ =>
          exact .inr ⟨leaked_failed (.inl rfl) (Option.some_ne_none _), lost⟩
        | createExists taken =>
          rw [show admin.state.temporaryDatabase = none from working.fact] at taken
          cases taken
    refine safe_then created (fun _ _ ended => ended) ?_
    rintro _ after ⟨⟨seen, mem, isNew⟩, working⟩
    have present : after.state.temporaryDatabase ≠ none := by
      rw [working.fact]
      exact Option.some_ne_none _
    refine tries_ask ?_ ?_ ?_
    · rintro _ _ ⟨⟩
      exact ⟨⟨url, isUrl⟩, ⟨seen, mem_append_left _ mem, isNew⟩, working.failures,
        working.harmless, working.files, working.fact⟩
    · intro err lost
      exact .inr ⟨leaked_failed (.inr rfl) present, lost⟩
    · rintro _ _ err ⟨⟩ lost
      exact .inr ⟨leaked_failed (.inr rfl) present, lost⟩
  refine safe_handle _ block ?_
  rintro err after (stopped | ⟨leaked, rfl⟩)
  · exact safe_raise (.inl stopped)
  · exact safe_raise (.inr ⟨leaked, if_pos rfl⟩)

variable {url : String}

theorem drop_database_settled (isUrl : args.adminUrl = .ok url)
    (working : Working start earlier fact trial) :
    Tries (tools tooling) (Returns (fun _ => Working start earlier NoDatabase)
      fun err after => Stopped start after ∧ err = dropFailed)
      (dropDatabase args) trial := by
  have block : Tries (tools tooling) (Returns (fun _ => Working start earlier NoDatabase)
      fun err after => Stopped start after ∧ err = .psycopgError)
      (adminBlock args (attempt .dropDatabase)) trial := by
    unfold adminBlock
    rw [isUrl]
    have connected := @working_attempt tooling _ _ _ _ .connectAdmin (fun _ _ => True)
      (· = .psycopgError) working (by simp [creates]) (fun _ lost => lost) (by
        rintro st _ _ _ files ⟨⟩
        exact ⟨files, by simp [creates], fun _ _ => trivial, fun _ isError => nomatch isError⟩)
    refine safe_then connected (fun _ _ stopped => stopped) ?_
    intro _ admin working
    have dropped := @working_attempt tooling _ _ _ _ .dropDatabase (fun _ => NoDatabase)
      (· = .psycopgError) working (by simp [creates]) (fun _ lost => lost) (by
        intro st ans left _ files effect
        refine ⟨?_, by simp [creates], ?_, ?_⟩
        · cases effect with
          | dropDatabase _ => exact files
          | nothingToDrop _ => exact files
        · cases effect with
          | dropDatabase _ => exact fun _ _ => rfl
          | nothingToDrop _ => exact fun _ isOk => nomatch isOk
        · cases effect with
          | dropDatabase _ => exact fun _ isError => nomatch isError
          | nothingToDrop _ => exact fun _ isError => by cases isError; rfl)
    refine safe_then dropped (fun _ _ stopped => stopped) ?_
    intro _ gone working
    refine working_attempt (fun _ => NoDatabase) (· = .psycopgError) working (fun _ _ none => none)
      (fun _ lost => lost) ?_
    rintro st _ _ none files ⟨⟩
    exact ⟨files, fun _ => none, fun _ _ => none, fun _ isError => nomatch isError⟩
  refine safe_handle _ block ?_
  rintro err after ⟨stopped, rfl⟩
  exact safe_raise ⟨stopped, if_pos rfl⟩

def Described (tooling : Tooling) (start : Ops) (doc : BackupDocument) : Prop :=
  ∃ described file manifestOwned,
    start.files .archive = some file ∧ start.files .manifest = some ⟨.backup doc, manifestOwned⟩ ∧
    doc.archive = some described ∧
    described.sha256 = some (tooling.sha256 (file.content.bytes tooling.json))

def Restored (tooling : Tooling) (start : Ops) (bytes : Bytes) (st : Ops) : Prop :=
  st.temporaryDatabase = some (.restored (tooling.restore bytes)) ∧
    ∃ owned, start.files .archive = some ⟨.archive bytes, owned⟩

variable {doc : BackupDocument} {release : Release}

theorem verify_restored_settled
    (isUrl : args.adminUrl = .ok url) (described : Described tooling start doc)
    (isNew : ∃ st ∈ trial.states, st.temporaryDatabase = some .new)
    (working : Working start [] (fun st => st.temporaryDatabase = some .new) trial) :
    Tries (tools tooling) (Returns
      (fun _ after => Working start [] NoDatabase after ∧ WasRestored tooling start after.states)
      fun _ => Stopped start) (verifyRestored args doc release) trial := by
  unfold verifyRestored
  split
  · exact safe_raise (stopped_of_working working)
  have restored : Tries (tools tooling) (Returns
      (fun _ after => ∃ bytes, Working start [] (Restored tooling start bytes) after ∧
        ∃ st ∈ after.states, st.temporaryDatabase = some (.restored (tooling.restore bytes)))
      fun _ => Stopped start) (attempt .pgRestore) trial := by
    refine tries_ask ?_ ?_ ?_
    · intro ans left effect
      cases effect with
      | pgRestore isArchive _ =>
        rw [working.files] at isArchive
        exact ⟨_, ⟨working.failures, working.harmless, working.files, rfl, _, isArchive⟩, _,
          mem_append_right _ mem_cons_self, rfl⟩
      | partialRestore => exact ⟨working.harmless, working.files⟩
      | nowhereToRestore => exact ⟨working.harmless, working.files⟩
    · intro err _
      exact stopped_failed working.harmless working.files (by simp [creates])
    · intro ans left err effect _
      refine stopped_failed working.harmless ?_ (by simp [creates])
      cases effect with
      | pgRestore => exact working.files
      | partialRestore => exact working.files
      | nowhereToRestore => exact working.files
  refine safe_then (tries_grow restored) (fun _ _ stopped => stopped) ?_
  rintro _ after ⟨⟨bytes, working, isRestored⟩, grows⟩
  obtain ⟨new, newMember, newIs⟩ := isNew
  obtain ⟨held, heldMember, heldIs⟩ := isRestored
  have rest : Tries (tools tooling) (Returns
      (fun _ last => Working start [] NoDatabase last ∧ ∃ snap owned,
        start.files .archive = some ⟨.archive bytes, owned⟩ ∧
        inspectDatabase tooling.toCharacters (tooling.restore bytes) = .ok snap ∧
        doc.database = some (snapshotPayload snap))
      fun _ => Stopped start)
      (attempt .connect >>= fun _ =>
        attempt .inspectTemporary >>= fun snap =>
        attempt .closeConnection >>= fun _ =>
        if doc.database ≠ some (snapshotPayload snap) then
          raiseOperations "restored_database_mismatch"
        else
          requireReleaseSchema release snap.revision >>= fun _ =>
          attempt (.hashFile .archive) >>= fun hashed =>
          dropDatabase args >>= fun _ =>
          pure (restorePayload args release snap hashed.1)) after := by
    refine working_step (fun _ => Restored tooling start bytes) (by simp [creates]) working ?_
      (fun _ _ stopped => stopped) ?_
    · rintro st _ _ holds files ⟨⟩
      exact ⟨files, fun _ _ => holds⟩
    intro _ connected working
    refine working_step (fun snap st => Restored tooling start bytes st ∧
        inspectDatabase tooling.toCharacters (tooling.restore bytes) = .ok snap)
      (by simp [creates]) working ?_ (fun _ _ stopped => stopped) ?_
    · intro st ans left holds files effect
      cases effect with
      | inspectTemporary reads =>
        rw [holds.1] at reads
        cases reads
        exact ⟨files, fun _ inspected => ⟨holds, inspected⟩⟩
      | inspectNew isNew =>
        rw [holds.1] at isNew
        cases isNew
      | noTemporaryDatabase missing =>
        rw [holds.1] at missing
        cases missing
    intro snap inspected working
    refine working_step (fun _ st => Restored tooling start bytes st ∧
        inspectDatabase tooling.toCharacters (tooling.restore bytes) = .ok snap)
      (by simp [creates]) working ?_ (fun _ _ stopped => stopped) ?_
    · rintro st _ _ holds files ⟨⟩
      exact ⟨files, fun _ _ => holds⟩
    intro _ closed working
    split
    · exact safe_raise (stopped_of_working working)
    rename_i isExpected
    rw [ne_eq, not_not] at isExpected
    obtain ⟨⟨_, owned, isArchive⟩, isSnapshot⟩ := working.fact
    have checked : Tries (tools tooling) (Returns (fun _ => Working start [] fun _ => True)
        fun _ => Stopped start) (requireReleaseSchema release snap.revision) closed := by
      unfold requireReleaseSchema
      split
      · exact safe_raise (stopped_of_working working)
      · exact safe_pure (working_weaken working fun _ _ => trivial)
    refine safe_then checked (fun _ _ stopped => stopped) ?_
    intro _ required working
    refine working_step (fun _ _ => True) (by simp [creates]) working ?_
      (fun _ _ stopped => stopped) ?_
    · intro st ans left _ files effect
      cases effect with
      | hashFile => exact ⟨files, fun _ _ => trivial⟩
      | hashMissing => exact ⟨files, fun _ _ => trivial⟩
    intro hashed read working
    refine safe_then (drop_database_settled isUrl working) (fun _ _ stopped => stopped.1) ?_
    intro _ dropped working
    exact safe_pure ⟨working, snap, owned, isArchive, isSnapshot, isExpected⟩
  refine safe_weaken (tries_grow rest) ?_
  intro out last settled
  cases out with
  | error err => exact settled
  | ok payload =>
    obtain ⟨⟨working, snap, owned, isArchive, isSnapshot, isExpected⟩, growsOn⟩ := settled
    obtain ⟨describedAs, file, manifestOwned, isFile, isManifest, isDescribed, isDigest⟩ := described
    rw [isArchive] at isFile
    cases isFile
    exact ⟨working, bytes, doc, describedAs, snap, owned, manifestOwned, isArchive,
      isManifest, isDescribed, isDigest, ⟨new, growsOn new (grows new newMember), newIs⟩,
      ⟨held, growsOn held heldMember, heldIs⟩, isSnapshot, isExpected⟩

theorem while_created_settled
    (isUrl : args.adminUrl = .ok url) (described : Described tooling start doc)
    (isNew : ∃ st ∈ trial.states, st.temporaryDatabase = some .new)
    (working : Working start [] (fun st => st.temporaryDatabase = some .new) trial) :
    Tries (tools tooling) (Returns
      (fun _ after => Working start [] NoDatabase after ∧ WasRestored tooling start after.states)
      fun err after => Stopped start after ∧ (NoDatabase after.state ∨ err = cleanupFailed))
      (whileCreated args (restoring (verifyRestored args doc release))) trial := by
  refine safe_handle (fun _ => Stopped start) ?_ ?_
  · refine safe_handle (fun _ => Stopped start) ?_ (fun _ _ stopped => safe_raise stopped)
    exact verify_restored_settled isUrl described isNew working
  intro err failed stopped
  have isWorking : Working start failed.failures (fun _ => True) failed :=
    ⟨rfl, stopped.harmless, stopped.files, trivial⟩
  have cleaned {reported : Error → Error} (same : reported dropFailed = cleanupFailed) :
      Tries (tools tooling) (Returns (fun _ => Working start failed.failures NoDatabase)
        fun err after => Stopped start after ∧ err = cleanupFailed)
        ((dropDatabase args).handle fun failure => raise (reported failure)) failed := by
    refine safe_handle _ (drop_database_settled isUrl isWorking) ?_
    rintro failure after ⟨stopped, rfl⟩
    exact safe_raise ⟨stopped, same⟩
  refine safe_then (cleaned rfl) (fun _ _ ended => ⟨ended.1, .inr ended.2⟩) ?_
  intro _ after working
  exact safe_raise ⟨stopped_of_working working, .inl working.fact⟩

/-- The run raised while it wrote the report, and left a report that says pass or not. -/
def Unreported (start : Ops) (trial : OpsTrial) : Prop :=
  NoDatabase trial.state ∧ (¬ NewPass start trial.state ↔ FailsHarmlessly start trial)

theorem strands_not_creates {place : Place} (strands : req.strands place) :
    ¬ req.creates := by
  rcases strands with rfl | rfl | rfl | rfl <;> simp [creates]

theorem undone_harmless {failure : Failure Ops Call} (undone : IsUndone .report failure) :
    IsHarmless start failure := by
  refine ⟨?_, ?_⟩
  · rintro strands ⟨_, report, owned, isReport, _⟩
    have isGone : failure.left.files .report = none := by
      rcases strands with isRequest | isRequest | isRequest | isRequest
      · rw [IsUndone, isRequest] at undone
        exact undone.2
      · rw [IsUndone, isRequest] at undone
        exact undone.2
      · rw [IsUndone, isRequest] at undone
        exact undone.2
      · rw [IsUndone, isRequest] at undone
        exact undone.elim
    rw [isGone] at isReport
    cases isReport
  · intro creates
    rcases creates with isRequest | isRequest
    · rw [IsUndone, isRequest] at undone
      exact undone.elim
    · rw [IsUndone, isRequest] at undone
      exact undone.elim

theorem write_report_settled {payload : RestoreReport} (free : start.files .report = none)
    (working : Working start [] NoDatabase trial) :
    Tries (tools tooling) (Returns
      (fun _ after => after.failures = [] ∧ NoDatabase after.state)
      fun _ => Unreported start) (restoring (writeReport payload)) trial := by
  have isFree : trial.state.files .report = none := by rw [working.files, free]
  have written : Tries (tools tooling) (Returns
      (fun _ after => after.failures = [] ∧ NoDatabase after.state)
      fun _ => Unreported start) (writeReport payload) trial := by
    refine safe_then (write_json_exclusive_settled isFree) ?_ ?_
    · rintro err after (⟨isState, more, failures, undone⟩ |
        ⟨more, req, tookEffect, failures, undone, strands, file, isState⟩)
      · refine ⟨by rw [isState]; exact working.fact, iff_of_true ?_ ?_⟩
        · exact same_files_no_pass (by rw [isState, working.files])
        · intro failure mem
          rw [failures, working.failures] at mem
          exact undone_harmless (undone failure mem).1
      · refine ⟨by rw [NoDatabase, isState]; exact working.fact, ?_⟩
        constructor
        · intro noPass failure mem
          rw [failures, working.failures] at mem
          rcases mem_append.mp mem with pre | isLast
          · exact undone_harmless (undone failure pre)
          · rw [mem_singleton.mp isLast]
            exact ⟨fun _ => noPass, fun creates => absurd creates (strands_not_creates strands)⟩
        · intro harmless
          have isLast := harmless ⟨req, tookEffect, after.state⟩ (by simp [failures])
          exact isLast.1 strands
    · rintro _ after ⟨failures, isState⟩
      refine safe_pure ⟨failures.trans working.failures, ?_⟩
      rw [NoDatabase, isState]
      exact working.fact
  refine safe_handle _ written ?_
  intro err after unreported
  exact safe_raise unreported

theorem private_input_ready {path : OutputPath} {place : Place} (ready : Ready start trial) :
    Tries (tools tooling) (Returns (fun _ => Ready start) fun _ => Idle start)
      (privateInput path place) trial := by
  unfold privateInput
  split
  · exact safe_raise ready.idle
  have asked : Tries (tools tooling) (Returns (fun _ => Ready start) fun _ => Idle start)
      ((attempt (.lstatInput place)).handle fun err =>
        raise (if err = .osError then .operationsError "operations_input_missing"
          else err)) trial := by
    refine safe_handle (fun _ => Idle start) ?_ (fun _ _ idle => safe_raise idle)
    refine safe_weaken (ready_attempt (fun _ => True) ready ?_) ?_
    · rintro _ _ ⟨⟩
      exact ⟨rfl, fun _ _ => trivial⟩
    · intro out after holds
      cases out with
      | ok value => exact holds.1
      | error err => exact holds
  refine safe_then asked (fun _ _ idle => idle) ?_
  intro status after ready
  split
  · exact safe_raise ready.idle
  · exact safe_pure ready

theorem validate_backup_manifest_ready {archiveName : String} {manifestOwned : Bool}
    (isManifest : start.files .manifest = some ⟨.backup doc, manifestOwned⟩)
    (ready : Ready start trial) :
    Tries (tools tooling)
      (Returns (fun _ after => Ready start after ∧ Described tooling start doc)
        fun _ => Idle start) (validateBackupManifest doc archiveName release) trial := by
  unfold validateBackupManifest
  split
  · exact safe_raise ready.idle
  rename_i described isDescribed
  split
  · exact safe_raise ready.idle
  refine ready_step (fun hashed => ∃ file, start.files .archive = some file ∧
      hashed.1 = tooling.sha256 (file.content.bytes tooling.json)) ready ?_
    (fun _ _ idle => idle) ?_
  · intro ans left effect
    cases effect with
    | hashFile found =>
      refine ⟨rfl, ?_⟩
      rintro _ ⟨⟩
      exact ⟨_, found, rfl⟩
    | hashMissing _ =>
      refine ⟨rfl, ?_⟩
      rintro _ ⟨⟩
  rintro hashed after ready ⟨file, isFile, isHash⟩
  split
  · exact safe_raise ready.idle
  rename_i agrees
  rw [not_or, not_not, isHash] at agrees
  exact safe_pure ⟨ready, described, file, manifestOwned, isFile, isManifest, isDescribed,
    agrees.1.symm⟩

def Raised (start : Ops) (err : Error) (trial : OpsTrial) : Prop :=
  (Stopped start trial ∧ (NoDatabase trial.state ∨ err = cleanupFailed)) ∨
    (Leaked start trial ∧ err = createFailed) ∨ Unreported start trial

theorem raised_of_idle {err : Error} (fresh : start.temporaryDatabase = none)
    (idle : Idle start trial) : Raised start err trial := by
  refine .inl ⟨⟨?_, by rw [idle.state]⟩, .inl ?_⟩
  · intro failure mem
    have isStart := idle.failures failure mem
    refine ⟨fun _ => same_files_no_pass (by rw [isStart]), fun _ => ?_⟩
    rw [isStart]
    exact fresh
  · rw [NoDatabase, idle.state]
    exact fresh

theorem verify_settled (fresh : start.temporaryDatabase = none) :
    Tries (tools tooling) (Returns
      (fun _ after => after.failures = [] ∧ NoDatabase after.state ∧
        WasRestored tooling start after.states)
      (Raised start)) (verifyDatabaseRestore args) (.start start) := by
  have idles : ∀ err after, Idle start after → Raised start err after :=
    fun _ _ idle => raised_of_idle fresh idle
  refine safe_then (private_input_ready (ready_start start)) idles ?_
  intro _ archive ready
  refine safe_then (private_input_ready ready) idles ?_
  intro _ manifest ready
  refine safe_then (new_private_output_ready ready) idles ?_
  rintro _ report ⟨ready, free⟩
  refine safe_then (load_release_manifest_ready ready) idles ?_
  intro release loaded ready
  refine ready_step (fun doc => ∃ owned,
      start.files .manifest = some ⟨.backup doc, owned⟩) ready ?_ idles ?_
  · intro ans left effect
    cases effect with
    | readBackup isBackup =>
      refine ⟨rfl, ?_⟩
      rintro _ ⟨⟩
      exact ⟨_, isBackup⟩
    | noBackup _ =>
      refine ⟨rfl, ?_⟩
      rintro _ ⟨⟩
  rintro doc read ready ⟨owned, isManifest⟩
  refine safe_then (validate_backup_manifest_ready isManifest ready) idles ?_
  rintro _ validated ⟨ready, described⟩
  have working : Working start [] NoDatabase validated := by
    refine ⟨ready.unfailed, ?_, by rw [ready.idle.state], ?_⟩
    · intro failure mem
      rw [ready.unfailed] at mem
      cases mem
    · rw [NoDatabase, ready.idle.state]
      exact fresh
  have created : Tries (tools tooling) (Returns
      (fun _ after => (∃ url, args.adminUrl = .ok url) ∧
        (∃ st ∈ after.states, st.temporaryDatabase = some .new) ∧
        Working start [] (fun st => st.temporaryDatabase = some .new) after)
      (Raised start)) (restoring (createDatabase args)) validated := by
    refine safe_handle _ (create_database_settled working) ?_
    rintro err after (⟨stopped, none⟩ | ⟨leaked, rfl⟩)
    · exact safe_raise (.inl ⟨stopped, .inl none⟩)
    · exact safe_raise (.inr (.inl ⟨leaked, rfl⟩))
  refine safe_then created (fun _ _ raised => raised) ?_
  rintro _ database ⟨⟨url, isUrl⟩, isNew, working⟩
  refine safe_then (while_created_settled isUrl described isNew working)
    (fun _ _ stopped => .inl stopped) ?_
  rintro payload verified ⟨working, wasRestored⟩
  refine safe_weaken (tries_grow (write_report_settled free working)) ?_
  intro out after settled
  cases out with
  | error err => exact .inr (.inr settled)
  | ok payload =>
    obtain ⟨settled, grows⟩ := settled
    obtain ⟨bytes, doc, described, snap, archiveOwned, manifestOwned, isArchive,
      isManifest, isDescribed, isDigest, ⟨new, newMember, newIs⟩, ⟨held, heldMember, heldIs⟩,
      isSnapshot, isExpected⟩ := wasRestored
    exact ⟨settled.1, settled.2, bytes, doc, described, snap, archiveOwned,
      manifestOwned, isArchive, isManifest, isDescribed, isDigest, ⟨new, grows new newMember, newIs⟩,
      ⟨held, grows held heldMember, heldIs⟩, isSnapshot, isExpected⟩

/-- A verification tells the truth and cleans up exactly if no failing call leaves a new report that
says pass, or a temporary database that the block does not count as created. -/
theorem restore_verification_truthful {out : Except Error RestoreReport} {after : OpsTrial}
    (fresh : start.temporaryDatabase = none)
    (runs : Runs (attempting (tools tooling)) 0 (verifyDatabaseRestore args) (.start start)
      out after) :
    (TellsTruth tooling start out after ∧ CleansUp out after) ↔ FailsHarmlessly start after := by
  have settled := runs_ensured (verify_settled fresh) runs
  cases out with
  | ok payload =>
    obtain ⟨unfailed, none, wasRestored⟩ := settled
    refine iff_of_true ⟨fun _ => ⟨⟨payload, rfl⟩, wasRestored⟩, .inl none⟩ ?_
    intro failure mem
    rw [unfailed] at mem
    cases mem
  | error err =>
    have untrue : TellsTruth tooling start (.error err) after ↔ ¬ NewPass start after.state := by
      constructor
      · intro truth pass
        obtain ⟨⟨payload, isOk⟩, _⟩ := truth pass
        cases isOk
      · exact fun noPass pass => absurd pass noPass
    rw [untrue]
    rcases settled with ⟨stopped, cleaned⟩ | ⟨⟨harmful, present⟩, rfl⟩ | ⟨none, reported⟩
    · refine iff_of_true ⟨same_files_no_pass stopped.files, ?_⟩ stopped.harmless
      rcases cleaned with none | rfl
      · exact .inl none
      · exact .inr rfl
    · refine iff_of_false ?_ harmful
      rintro ⟨_, isGone | isCode⟩
      · exact present isGone
      · exact absurd isCode (by decide)
    · rw [← reported]
      exact ⟨fun both => both.1, fun noPass => ⟨noPass, .inl none⟩⟩

end Restore

namespace Sample

def restoreArguments : RestoreArguments where
  archive := ⟨true, "rtsp_proxy.dump"⟩
  manifest := ⟨true, "rtsp_proxy.dump.manifest.json"⟩
  report := ⟨true, "restore.json"⟩
  adminUrl := .ok "postgresql://rtsp_proxy/postgres"
  restoreUrl := .ok "postgresql://rtsp_proxy/restored"
  startedAt := "2026-02-02T00:00:00+00:00"
  completedAt := "2026-02-02T00:01:00+00:00"

def release : Release where
  releaseId := "0.13.0"
  gitCommit := String.ofList (replicate 40 'a')
  architecture := "amd64"
  manifestSha256 := tooling.sha256 []
  schemaMinimum := "0012_operator_sessions"
  schemaMaximum := "0020_probe_observations"

def doc : BackupDocument where
  schemaVersion := some 1
  status := some "verified"
  startedAt := "2026-02-01T00:00:00+00:00"
  completedAt := "2026-02-01T00:01:00+00:00"
  release := some release
  archive := some ⟨some "rtsp_proxy.dump", some (tooling.sha256 [7, 7, 7]), some 3,
    some "postgresql-custom"⟩
  database := (inspectDatabase characters (database 3)).toOption.map snapshotPayload

def backedUp : Ops :=
  (nothing.put .archive (some ⟨.archive [7, 7, 7], true⟩)).put .manifest
    (some ⟨.backup doc, true⟩)

def verification (script : List (Option Bool)) : Except Error RestoreReport × OpsTrial :=
  execute (act tooling surroundings) failing (verifyDatabaseRestore restoreArguments) script
    (.start backedUp)

/-- The sync of the directory fails after the report was written. -/
def unsyncedReport : List (Option Bool) := replicate 25 none ++ [some false]

def reported (st : Ops) : Option String :=
  match st.files .report with
  | some ⟨.report report, _⟩ => some report.status
  | _ => none

end Sample

theorem new_pass_of_reported {st : Ops} (free : backedUp.files .report = none)
    (passes : reported st = some "pass") : NewPass backedUp st := by
  unfold reported at passes
  split at passes
  · rename_i report owned isReport
    refine ⟨?_, report, owned, isReport, Option.some.inj passes⟩
    rw [isReport, free]
    exact Option.some_ne_none _
  · cases passes

/-- The report says pass although the verification raised. -/
theorem unsynced_report_passes :
    ∃ (out : Except Error RestoreReport) (after : OpsTrial),
      Runs (attempting (tools tooling)) 0 (verifyDatabaseRestore restoreArguments)
        (.start backedUp) out after ∧
      out = .error (.operationsError "database_restore_verification_failed") ∧
      NewPass backedUp after.state ∧
      ¬ (TellsTruth tooling backedUp out after ∧ CleansUp out after) := by
  obtain ⟨isOutcome, passes⟩ : (verification unsyncedReport).1 =
        .error (.operationsError "database_restore_verification_failed") ∧
      reported (verification unsyncedReport).2.state = some "pass" := by
    decide +kernel
  have newPass := new_pass_of_reported rfl passes
  refine ⟨_, _, act_runs _ surroundings _ unsyncedReport _, isOutcome, newPass, ?_⟩
  rintro ⟨truth, _⟩
  obtain ⟨⟨payload, isOk⟩, _⟩ := truth newPass
  exact absurd (isOutcome.symm.trans isOk) (by simp)

theorem restore_verification_truthful_passes :
    (verification []).1.isOk = true ∧ ((TellsTruth tooling backedUp (verification []).1
          (verification []).2 ∧
          CleansUp (verification []).1 (verification []).2) ↔
        FailsHarmlessly backedUp (verification []).2) :=
  ⟨by decide +kernel, restore_verification_truthful rfl (act_runs _ surroundings _ [] _)⟩

end RtspProxy.Operations
