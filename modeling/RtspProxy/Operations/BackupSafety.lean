import RtspProxy.Operations.Backup
import RtspProxy.Operations.Steps

/-!
# What a backup leaves behind

A backup that fails removes its outputs, unless the failure comes after a file
was published and before the flag that says so was set, or is one of the removal
itself. A run is `Preparing` until its archive is published (`Released`). Its
first failure ends it; then either everything is removed (`Unpublished`,
`Published` say what is left to remove), or the run is `Spoiled` and one of the
outputs stays.
-/

namespace RtspProxy.Operations

open Lib.Program Lib.Program.Prog Option Sample

def KeepsOutputs (start st : Ops) : Prop :=
  ∀ place, place = .archive ∨ place = .manifest → start.files place ≠ none →
    st.files place = start.files place

/-- The outputs are as they were, and there is no temporary file. -/
def LeftNothing (start st : Ops) : Prop :=
  st.files .archive = start.files .archive ∧ st.files .manifest = start.files .manifest ∧
    st.files .temporary = none

/-- Both outputs are new; the archive is the dump of the database the manifest describes. -/
def Verified (tooling : Tooling) (args : BackupArguments) (start : Ops)
    (payload : BackupDocument) (st : Ops) : Prop :=
  start.files .archive = none ∧ start.files .manifest = none ∧ st.files .temporary = none ∧
    st.files .manifest = some ⟨.backup payload, true⟩ ∧
    ∃ content snap, st.files .archive = some ⟨.archive (tooling.dump content), true⟩ ∧
      inspectDatabase tooling.toCharacters content = .ok snap ∧
      payload.archive = some ⟨some args.output.name,
        some (tooling.sha256 (tooling.dump content)), some (tooling.dump content).length,
        some "postgresql-custom"⟩ ∧
      payload.database = some (snapshotPayload snap)

/-- A removal of the temporary file that failed and left it there. -/
def leavesTemporary (failure : Failure Ops Call) : Bool :=
  (failure.request = .lstatOwned .temporary || failure.request = .unlink .temporary) &&
    (failure.left.files .temporary).isSome

/-- Every failure with the archive published is one the manifest is written with, and leaves no
manifest that is not removed; and not every removal of the temporary file fails. -/
def FailsTidily (start : Ops) (trial : OpsTrial) : Prop :=
  (∀ failure ∈ trial.failures, failure.left.files .archive ≠ start.files .archive →
      IsUndone .manifest failure) ∧
    trial.failures.countP leavesTemporary ≤ 1

section Backup

variable {tooling : Tooling} {start : Ops} {trial : OpsTrial}

def Harmless (failures : List (Failure Ops Call)) : Prop :=
  ∀ failure ∈ failures, failure.left.files .archive ≠ none → IsUndone .manifest failure

variable {failures : List (Failure Ops Call)} {failure : Failure Ops Call}

theorem harmless_append (harmless : Harmless failures)
    (last : failure.left.files .archive ≠ none → IsUndone .manifest failure) :
    Harmless (failures ++ [failure]) := by
  intro other mem
  rcases List.mem_append.mp mem with before | isLast
  · exact harmless other before
  · rw [List.mem_singleton.mp isLast]
    exact last

theorem harmful_append {more : List (Failure Ops Call)} (harmful : ¬ Harmless failures) :
    ¬ Harmless (failures ++ more) := by
  intro harmless
  exact harmful fun failure mem => harmless failure (List.mem_append_left _ mem)

theorem harmful_last (published : failure.left.files .archive ≠ none)
    (kept : ¬ IsUndone .manifest failure) : ¬ Harmless (failures ++ [failure]) := by
  intro harmless
  exact kept (harmless failure (List.mem_append_right _ List.mem_cons_self) published)

/-- How many removals of the temporary file left it there. -/
def removals (failures : List (Failure Ops Call)) : Nat := failures.countP leavesTemporary

theorem removals_append :
    removals (failures ++ [failure]) =
      removals failures + (if leavesTemporary failure = true then 1 else 0) := by
  unfold removals
  rw [List.countP_append, List.countP_singleton]

variable {req : Call}

variable {tookEffect : Bool} {left : Ops}

theorem leaves_temporary_removal
    (isRemoval : req = .lstatOwned .temporary ∨ req = .unlink .temporary) :
    leavesTemporary ⟨req, tookEffect, left⟩ = (left.files .temporary).isSome := by
  rcases isRemoval with rfl | rfl <;> simp [leavesTemporary]

structure Loose (state : Ops) : Prop where
  archive : state.files .archive = none
  manifest : state.files .manifest = none
  owned : ∀ file, state.files .temporary = some file → file.owned = true

structure Preparing (fact : Ops → Prop) (trial : OpsTrial) : Prop where
  unfailed : trial.failures = []
  loose : Loose trial.state
  fact : fact trial.state

/-- The run raised before anything was published. -/
structure Unpublished (trial : OpsTrial) : Prop where
  harmless : Harmless trial.failures
  removals : removals trial.failures = 0
  loose : Loose trial.state

def Spoiled (place : Place) (trial : OpsTrial) : Prop :=
  ¬ Harmless trial.failures ∧ trial.state.files place ≠ none

structure Released (tooling : Tooling) (content : DatabaseContent) (trial : OpsTrial) : Prop where
  unfailed : trial.failures = []
  archive : trial.state.files .archive = some ⟨.archive (tooling.dump content), true⟩
  temporary : trial.state.files .temporary = some ⟨.archive (tooling.dump content), true⟩
  manifest : trial.state.files .manifest = none

structure Published (trial : OpsTrial) : Prop where
  harmless : Harmless trial.failures
  removals : removals trial.failures = 0
  archive : ∃ content, trial.state.files .archive = some ⟨content, true⟩
  temporary : ∃ content, trial.state.files .temporary = some ⟨content, true⟩
  manifest : trial.state.files .manifest = none

/-- The run raised and removed its outputs; the temporary file is there if its removal failed. -/
structure Cleared (trial : OpsTrial) : Prop where
  harmless : Harmless trial.failures
  loose : Loose trial.state
  removals : removals trial.failures = if trial.state.files .temporary = none then 0 else 1

variable {fact : Ops → Prop}

theorem unpublished_failed (isPreparation : ∀ place, req ≠ .lstatOwned place ∧ req ≠ .unlink place)
    (preparing : Preparing fact trial) (loose : Loose left) :
    Unpublished (trial.failed req tookEffect left) := by
  have isOther : leavesTemporary ⟨req, tookEffect, left⟩ = false := by
    obtain ⟨notLooked, notUnlinked⟩ := isPreparation .temporary
    simp [leavesTemporary, notLooked, notUnlinked]
  refine ⟨?_, ?_, loose⟩
  · rw [Trial.failed_failures, preparing.unfailed]
    exact harmless_append (fun _ mem => nomatch mem)
      fun published => absurd loose.archive published
  · rw [Trial.failed_failures, removals_append, preparing.unfailed, isOther]
    rfl

theorem unpublished_of_preparing (preparing : Preparing fact trial) : Unpublished trial := by
  refine ⟨?_, ?_, preparing.loose⟩
  · rw [preparing.unfailed]
    exact fun _ mem => nomatch mem
  · rw [preparing.unfailed]
    rfl

theorem preparing_attempt (next : Answer req → Ops → Prop)
    (isPreparation : ∀ place, req ≠ .lstatOwned place ∧ req ≠ .unlink place)
    (preparing : Preparing fact trial) (effects : ∀ st ans left, fact st → Loose st →
      Effect tooling st req ans left → Loose left ∧ ∀ value, ans = .ok value → next value left) :
    Tries (tools tooling) (Returns (fun value => Preparing (next value)) fun _ => Unpublished)
      (attempt req) trial := by
  refine tries_ask ?_ ?_ ?_
  · intro ans left effect
    obtain ⟨loose, answered⟩ := effects _ ans left preparing.fact preparing.loose effect
    cases ans with
    | ok value => exact ⟨preparing.unfailed, loose, answered value rfl⟩
    | error err =>
      have moved : Preparing (fun _ => True) (trial.moved left) :=
        ⟨preparing.unfailed, loose, trivial⟩
      exact unpublished_of_preparing moved
  · intro err _
    exact unpublished_failed isPreparation preparing preparing.loose
  · intro ans left err effect _
    obtain ⟨loose, _⟩ := effects _ ans left preparing.fact preparing.loose effect
    exact unpublished_failed isPreparation preparing loose

theorem preparing_step {Final : Type} {prog : Answer req → OpsProg Final}
    {post : Except Error Final → OpsTrial → Prop} (next : Answer req → Ops → Prop)
    (isPreparation : ∀ place, req ≠ .lstatOwned place ∧ req ≠ .unlink place)
    (preparing : Preparing fact trial) (effects : ∀ st ans left, fact st → Loose st →
      Effect tooling st req ans left → Loose left ∧ ∀ value, ans = .ok value → next value left)
    (raises : ∀ err after, Unpublished after → post (.error err) after)
    (continues : ∀ value after, Preparing (next value) after →
      Tries (tools tooling) post (prog value) after) :
    Tries (tools tooling) post (attempt req >>= prog) trial :=
  safe_then (preparing_attempt next isPreparation preparing effects) raises continues

def Reads (content : DatabaseContent) (snapshotId : String) (st : Ops) : Prop :=
  st.transaction = some content ∧ st.exported = some (snapshotId, content)

def Dumped (tooling : Tooling) (content : DatabaseContent) (st : Ops) : Prop :=
  st.files .temporary = some ⟨.archive (tooling.dump content), true⟩

theorem loose_temporary {st : Ops} (loose : Loose st) (content : Content) :
    Loose (st.put .temporary (some ⟨content, true⟩)) := by
  refine ⟨loose.archive, loose.manifest, ?_⟩
  intro file isFile
  rw [put_at] at isFile
  cases isFile
  rfl

variable {release : Release}

theorem dump_database_preparing (preparing : Preparing (fun _ => True) trial) :
    Tries (tools tooling) (Returns
      (fun snap after => ∃ content, inspectDatabase tooling.toCharacters content = .ok snap ∧
        Preparing (Dumped tooling content) after)
      fun _ => Unpublished) (dumpDatabase release) trial := by
  refine preparing_step (fun _ _ => True) (by simp) preparing ?_ (fun _ _ ended => ended) ?_
  · rintro st _ _ _ loose ⟨⟩
    exact ⟨loose, fun _ _ => trivial⟩
  intro _ connected preparing
  refine preparing_step (fun _ _ => True) (by simp) preparing ?_ (fun _ _ ended => ended) ?_
  · rintro st _ _ _ loose ⟨⟩
    exact ⟨loose, fun _ _ => trivial⟩
  intro _ begun preparing
  refine preparing_step
    (fun exported st => ∀ snapshotId, exported = some snapshotId →
      ∃ content, Reads content snapshotId st)
    (by simp) preparing ?_ (fun _ _ ended => ended) ?_
  · intro st ans left _ loose effect
    cases effect with
    | exportSnapshot content snapshotId =>
      refine ⟨⟨loose.archive, loose.manifest, loose.owned⟩, ?_⟩
      rintro _ ⟨⟩ _ ⟨⟩
      exact ⟨content, rfl, rfl⟩
    | nothingExported =>
      refine ⟨loose, ?_⟩
      rintro _ ⟨⟩ _ ⟨⟩
  intro exported read preparing
  cases exported with
  | none => exact safe_raise (unpublished_of_preparing preparing)
  | some snapshotId =>
    obtain ⟨content, reads⟩ := preparing.fact snapshotId rfl
    have reading : Preparing (Reads content snapshotId) read :=
      ⟨preparing.unfailed, preparing.loose, reads⟩
    refine preparing_step (fun snap st => Reads content snapshotId st ∧
      inspectDatabase tooling.toCharacters content = .ok snap) (by simp) reading ?_
      (fun _ _ ended => ended) ?_
    · intro st ans left reads loose effect
      cases effect with
      | inspectTransaction found =>
        rw [reads.1] at found
        cases found
        exact ⟨loose, fun snap inspected => ⟨reads, inspected⟩⟩
      | noTransaction missing =>
        rw [reads.1] at missing
        cases missing
    intro snap inspected preparing
    obtain ⟨_, isSnapshot⟩ := preparing.fact
    have checked : Tries (tools tooling) (Returns
        (fun _ => Preparing (Reads content snapshotId)) fun _ => Unpublished)
        (requireReleaseSchema release snap.revision) inspected := by
      unfold requireReleaseSchema
      split
      · exact safe_raise (unpublished_of_preparing preparing)
      · exact safe_pure ⟨preparing.unfailed, preparing.loose, preparing.fact.1⟩
    refine safe_then checked (fun _ _ ended => ended) ?_
    intro _ required reading
    refine preparing_step (fun _ => Dumped tooling content) (by simp) reading ?_
      (fun _ _ ended => ended) ?_
    · intro st ans left reads loose effect
      cases effect with
      | pgDump exported =>
        rw [reads.2] at exported
        cases exported
        exact ⟨loose_temporary loose _, fun _ _ => put_at _ _ _⟩
      | partialDump =>
        refine ⟨loose_temporary loose _, ?_⟩
        rintro _ ⟨⟩
    intro _ dumped preparing
    refine preparing_step (fun _ => Dumped tooling content) (by simp) preparing ?_
      (fun _ _ ended => ended) ?_
    · rintro st _ _ dumped loose ⟨⟩
      exact ⟨⟨loose.archive, loose.manifest, loose.owned⟩, fun _ _ => dumped⟩
    intro _ committed preparing
    refine preparing_step (fun _ => Dumped tooling content) (by simp) preparing ?_
      (fun _ _ ended => ended) ?_
    · rintro st _ _ dumped loose ⟨⟩
      exact ⟨loose, fun _ _ => dumped⟩
    intro _ closed preparing
    exact safe_pure ⟨content, isSnapshot, preparing⟩

variable {content : DatabaseContent}

theorem link_exclusive_settled (preparing : Preparing (Dumped tooling content) trial) :
    Tries (tools tooling) (Returns (fun _ => Released tooling content)
      fun _ after => Unpublished after ∨ Spoiled .archive after) linkExclusive trial := by
  have linked : Tries (tools tooling) (Returns (fun _ => Released tooling content)
      fun _ after => Unpublished after ∨ Spoiled .archive after) (attempt .link) trial := by
    refine tries_ask ?_ ?_ ?_
    · intro ans left effect
      cases effect with
      | link source _ =>
        rw [preparing.fact] at source
        cases source
        exact ⟨preparing.unfailed, put_at _ _ _, preparing.fact, preparing.loose.manifest⟩
      | linkMissing missing =>
        rw [preparing.fact] at missing
        cases missing
      | linkExists taken =>
        rw [preparing.loose.archive] at taken
        cases taken
    · intro err _
      exact .inl (unpublished_failed (by simp) preparing preparing.loose)
    · intro ans left err effect _
      cases effect with
      | link _ _ =>
        refine .inr ⟨harmful_last ?_ id, ?_⟩
        · rw [put_at]
          exact some_ne_none _
        · rw [Trial.failed_state, put_at]
          exact some_ne_none _
      | linkMissing missing =>
        rw [preparing.fact] at missing
        cases missing
      | linkExists taken =>
        rw [preparing.loose.archive] at taken
        cases taken
  refine safe_then linked (fun _ _ ended => ended) ?_
  intro _ after released
  have isThere : after.state.files .archive ≠ none := by
    rw [released.archive]
    exact some_ne_none _
  refine tries_ask ?_ ?_ ?_
  · rintro _ _ ⟨⟩
    exact ⟨released.unfailed, released.archive, released.temporary, released.manifest⟩
  · intro err _
    exact .inr ⟨harmful_last isThere id, isThere⟩
  · rintro _ _ err ⟨⟩ _
    exact .inr ⟨harmful_last isThere id, isThere⟩

theorem publish_dump_settled (preparing : Preparing (Dumped tooling content) trial) :
    Tries (tools tooling) (Returns
      (fun hashed after => hashed =
          (tooling.sha256 (tooling.dump content), (tooling.dump content).length) ∧
        Released tooling content after)
      fun _ after => Unpublished after ∨ Spoiled .archive after) publishDump trial := by
  refine preparing_step (fun _ => Dumped tooling content) (by simp) preparing ?_
    (fun _ _ ended => .inl ended) ?_
  · rintro st _ _ dumped loose ⟨⟩
    exact ⟨loose, fun _ _ => dumped⟩
  intro isSingle looked preparing
  split
  · exact safe_raise (.inl (unpublished_of_preparing preparing))
  refine preparing_step (fun _ => Dumped tooling content) (by simp) preparing ?_
    (fun _ _ ended => .inl ended) ?_
  · rintro st _ _ dumped loose ⟨⟩
    exact ⟨loose, fun _ _ => dumped⟩
  intro _ narrowed preparing
  refine preparing_step (fun _ => Dumped tooling content) (by simp) preparing ?_
    (fun _ _ ended => .inl ended) ?_
  · rintro st _ _ dumped loose ⟨⟩
    exact ⟨loose, fun _ _ => dumped⟩
  intro _ synced preparing
  refine preparing_step (fun _ => Dumped tooling content) (by simp) preparing ?_
    (fun _ _ ended => .inl ended) ?_
  · rintro st _ _ dumped loose ⟨⟩
    exact ⟨loose, fun _ _ => dumped⟩
  intro _ listed preparing
  refine preparing_step (fun hashed st => Dumped tooling content st ∧
    hashed = (tooling.sha256 (tooling.dump content), (tooling.dump content).length))
    (by simp) preparing ?_ (fun _ _ ended => .inl ended) ?_
  · intro st ans left dumped loose effect
    cases effect with
    | hashFile found =>
      rw [dumped] at found
      cases found
      refine ⟨loose, ?_⟩
      rintro _ ⟨⟩
      exact ⟨dumped, rfl⟩
    | hashMissing missing =>
      rw [dumped] at missing
      cases missing
  intro hashed read preparing
  obtain ⟨_, isHash⟩ := preparing.fact
  have dumped : Preparing (Dumped tooling content) read :=
    ⟨preparing.unfailed, preparing.loose, preparing.fact.1⟩
  refine safe_then (link_exclusive_settled dumped) (fun _ _ ended => ended) ?_
  intro _ after released
  exact safe_pure ⟨isHash, released⟩

theorem publish_archive_settled (preparing : Preparing (fun _ => True) trial) :
    Tries (tools tooling) (Returns
      (fun published after => ∃ content,
        inspectDatabase tooling.toCharacters content = .ok published.1 ∧
        published.2 = (tooling.sha256 (tooling.dump content), (tooling.dump content).length) ∧
        Released tooling content after)
      fun _ after => Unpublished after ∨ Spoiled .archive after) (publishArchive release) trial := by
  refine safe_then (dump_database_preparing preparing) (fun _ _ ended => .inl ended) ?_
  rintro snap dumped ⟨content, isSnapshot, preparing⟩
  refine safe_then (publish_dump_settled preparing) (fun _ _ ended => ended) ?_
  rintro hashed after ⟨isHash, released⟩
  exact safe_pure ⟨content, isSnapshot, isHash, released⟩

theorem spoiled_unlink {place other : Place} (away : place ≠ other) (spoiled : Spoiled place trial) :
    Tries (tools tooling) (fun _ => Spoiled place) (unlinkIfOwned other) trial := by
  refine safe_weaken (unlink_if_owned_keeps other) ?_
  rintro out after ⟨⟨more, failures⟩, kept⟩
  refine ⟨?_, ?_⟩
  · rw [failures]
    exact harmful_append spoiled.1
  · rw [kept place away]
    exact spoiled.2

theorem unpublished_unlink (unpublished : Unpublished trial) :
    Tries (tools tooling) (fun _ => Cleared) (unlinkIfOwned .temporary) trial := by
  refine safe_weaken (unlink_if_owned_settled unpublished.loose.owned) ?_
  intro out after settled
  cases out with
  | ok res =>
    obtain ⟨failures, isGone⟩ := settled
    have noFile : after.state.files .temporary = none := by rw [isGone, put_at]
    refine ⟨?_, ⟨?_, ?_, ?_⟩, ?_⟩
    · rw [failures]
      exact unpublished.harmless
    · rw [isGone]
      exact unpublished.loose.archive
    · rw [isGone]
      exact unpublished.loose.manifest
    · intro file isFile
      rw [noFile] at isFile
      cases isFile
    · rw [failures, unpublished.removals, if_pos noFile]
  | error err =>
    obtain ⟨req, tookEffect, isRemoval, failures, out⟩ := settled
    have loose : Loose after.state := by
      rcases out with isSame | ⟨_, isGone⟩
      · rw [isSame]
        exact unpublished.loose
      · rw [isGone]
        refine ⟨unpublished.loose.archive, unpublished.loose.manifest, ?_⟩
        intro file isFile
        rw [put_at] at isFile
        cases isFile
    refine ⟨?_, loose, ?_⟩
    · rw [failures]
      exact harmless_append unpublished.harmless fun published => absurd loose.archive published
    · rw [failures, removals_append, unpublished.removals, leaves_temporary_removal isRemoval]
      cases after.state.files .temporary <;> rfl

theorem published_unlink (published : Published trial) :
    Tries (tools tooling) (fun _ after => Cleared after ∨ Spoiled .archive after)
      (unlinkIfOwned .temporary >>= fun _ => unlinkIfOwned .archive) trial := by
  obtain ⟨content, isTemporary⟩ := published.temporary
  obtain ⟨archived, isArchive⟩ := published.archive
  have isThere : trial.state.files .archive ≠ none := by
    rw [isArchive]
    exact some_ne_none _
  refine safe_then (unlink_if_owned_settled ?_) ?_ ?_
  · intro file isFile
    rw [isTemporary] at isFile
    cases isFile
    rfl
  · -- The archive is not even looked at.
    rintro _ after ⟨req, tookEffect, isRemoval, failures, out⟩
    have isStill : after.state.files .archive ≠ none := by
      rcases out with isSame | ⟨_, isGone⟩
      · rw [isSame]
        exact isThere
      · rw [isGone, put_away (by decide)]
        exact isThere
    refine .inr ⟨?_, isStill⟩
    rw [failures]
    refine harmful_last isStill ?_
    rintro undone
    rcases isRemoval with rfl | rfl
    · exact absurd undone.1 (by decide)
    · exact absurd undone.1 (by decide)
  rintro _ after ⟨failures, isGone⟩
  have archiveStays : after.state.files .archive = some ⟨archived, true⟩ := by
    rw [isGone, put_away (by decide), isArchive]
  have temporaryGone : after.state.files .temporary = none := by rw [isGone, put_at]
  have noManifest : after.state.files .manifest = none := by
    rw [isGone, put_away (by decide), published.manifest]
  have cleared : ∀ left : Ops, left = after.state.put .archive none →
      Loose left ∧ left.files .temporary = none := by
    rintro left rfl
    have noTemporary : (after.state.put .archive none).files .temporary = none := by
      rw [put_away (by decide), temporaryGone]
    refine ⟨⟨put_at _ _ _, by rw [put_away (by decide), noManifest], ?_⟩, noTemporary⟩
    intro file isFile
    rw [noTemporary] at isFile
    cases isFile
  refine safe_weaken (unlink_if_owned_settled ?_) ?_
  · intro file isFile
    rw [archiveStays] at isFile
    cases isFile
    rfl
  intro out last settled
  cases out with
  | ok res =>
    obtain ⟨lastFailures, isLast⟩ := settled
    obtain ⟨loose, noTemporary⟩ := cleared _ isLast
    refine .inl ⟨?_, loose, ?_⟩
    · rw [lastFailures, failures]
      exact published.harmless
    · rw [lastFailures, failures, published.removals, if_pos noTemporary]
  | error err =>
    obtain ⟨req, tookEffect, isRemoval, lastFailures, out⟩ := settled
    rw [failures] at lastFailures
    rcases out with isSame | ⟨isUnlink, isLast⟩
    · have isStill : last.state.files .archive ≠ none := by
        rw [isSame, archiveStays]
        exact some_ne_none _
      refine .inr ⟨?_, isStill⟩
      rw [lastFailures]
      refine harmful_last isStill ?_
      rintro undone
      rcases isRemoval with rfl | rfl
      · exact absurd undone.1 (by decide)
      · exact absurd undone.1 (by decide)
    · obtain ⟨loose, noTemporary⟩ := cleared _ isLast
      refine .inl ⟨?_, loose, ?_⟩
      · rw [lastFailures]
        exact harmless_append published.harmless fun isPublished =>
          absurd loose.archive isPublished
      · rw [lastFailures, removals_append, published.removals, if_pos noTemporary, isUnlink]
        simp [leavesTemporary, noTemporary]

/-- Both outputs are published, nothing has failed. -/
structure Complete (tooling : Tooling) (args : BackupArguments) (payload : BackupDocument)
    (trial : OpsTrial) : Prop where
  unfailed : trial.failures = []
  manifest : trial.state.files .manifest = some ⟨.backup payload, true⟩
  agreed : ∃ content snapshot,
    trial.state.files .archive = some ⟨.archive (tooling.dump content), true⟩ ∧
    trial.state.files .temporary = some ⟨.archive (tooling.dump content), true⟩ ∧
    inspectDatabase tooling.toCharacters content = .ok snapshot ∧
    payload.archive = some ⟨some args.output.name,
      some (tooling.sha256 (tooling.dump content)), some (tooling.dump content).length,
      some "postgresql-custom"⟩ ∧
    payload.database = some (snapshotPayload snapshot)

theorem undone_not_temporary (undone : IsUndone .manifest failure) :
    leavesTemporary failure = false := by
  unfold leavesTemporary
  have notLooked : failure.request ≠ .lstatOwned .temporary := by
    intro isRequest
    rw [IsUndone, isRequest] at undone
    exact absurd undone.1 (by decide)
  have notUnlinked : failure.request ≠ .unlink .temporary := by
    intro isRequest
    rw [IsUndone, isRequest] at undone
    exact absurd undone.1 (by decide)
  simp [notLooked, notUnlinked]

theorem strands_not_undone (strands : req.strands .manifest)
    (isThere : left.files .manifest ≠ none) : ¬ IsUndone .manifest ⟨req, tookEffect, left⟩ := by
  rcases strands with rfl | rfl | rfl | rfl
  · exact fun undone => isThere undone.2
  · exact fun undone => isThere undone.2
  · exact fun undone => isThere undone.2
  · exact id

variable {args : BackupArguments}

variable {published : DatabaseSnapshot × String × Nat}

theorem write_manifest_settled
    (isSnapshot : inspectDatabase tooling.toCharacters content = .ok published.1)
    (isHash : published.2 = (tooling.sha256 (tooling.dump content), (tooling.dump content).length))
    (released : Released tooling content trial) :
    Tries (tools tooling) (Returns (Complete tooling args)
      fun _ after => Published after ∨ Spoiled .manifest after)
      (writeManifest (backupPayload args release published)) trial := by
  refine safe_then (write_json_exclusive_settled released.manifest) ?_ ?_
  · rintro _ after (⟨isState, more, failures, undone⟩ |
      ⟨more, req, tookEffect, failures, _, strands, file, isState⟩)
    · rw [released.unfailed, List.nil_append] at failures
      refine .inl ⟨?_, ?_, ?_, ?_, ?_⟩
      · rw [failures]
        exact fun failure mem _ => (undone failure mem).1
      · rw [failures, removals, List.countP_eq_zero]
        intro failure mem
        rw [undone_not_temporary (undone failure mem).1]
        exact Bool.false_ne_true
      · rw [isState]
        exact ⟨_, released.archive⟩
      · rw [isState]
        exact ⟨_, released.temporary⟩
      · rw [isState]
        exact released.manifest
    · have isThere : after.state.files .manifest ≠ none := by
        rw [isState, put_at]
        exact some_ne_none _
      have isPublished : after.state.files .archive ≠ none := by
        rw [isState, put_away (by decide), released.archive]
        exact some_ne_none _
      refine .inr ⟨?_, isThere⟩
      rw [failures]
      exact harmful_last isPublished (strands_not_undone strands isThere)
  · rintro _ after ⟨failures, isState⟩
    refine safe_pure ⟨failures.trans released.unfailed, by rw [isState, put_at], content,
      published.1, ?_, ?_, isSnapshot, ?_, rfl⟩
    · rw [isState, put_away (by decide), released.archive]
    · rw [isState, put_away (by decide), released.temporary]
    · simp only [backupPayload, isHash]

def Ended (trial : OpsTrial) : Prop :=
  Cleared trial ∨ Spoiled .archive trial ∨ Spoiled .manifest trial

theorem undoing_unpublished (preparing : Preparing (fun _ => True) trial) :
    Tries (tools tooling) (Returns
      (fun published after => ∃ content,
        inspectDatabase tooling.toCharacters content = .ok published.1 ∧
        published.2 = (tooling.sha256 (tooling.dump content), (tooling.dump content).length) ∧
        Released tooling content after)
      fun _ => Ended) (undoing false (publishArchive release)) trial := by
  refine safe_handle _ (publish_archive_settled preparing) ?_
  rintro err failed (unpublished | spoiled)
  · refine safe_and_then (unpublished_unlink unpublished) ?_
    intro out after cleared
    cases out with
    | ok res => exact .inl cleared
    | error err => exact .inl cleared
  · refine safe_and_then (spoiled_unlink (by decide) spoiled) ?_
    intro out after spoiled
    cases out with
    | ok res => exact .inr (.inl spoiled)
    | error err => exact .inr (.inl spoiled)

theorem undoing_published
    (isSnapshot : inspectDatabase tooling.toCharacters content = .ok published.1)
    (isHash : published.2 = (tooling.sha256 (tooling.dump content), (tooling.dump content).length))
    (released : Released tooling content trial) :
    Tries (tools tooling) (Returns (Complete tooling args) fun _ => Ended)
      (undoing true (writeManifest (backupPayload args release published))) trial := by
  refine safe_handle _ (write_manifest_settled isSnapshot isHash released) ?_
  rintro err failed (published | spoiled)
  · change Tries (tools tooling) _ (unlinkIfOwned .temporary >>= fun _ =>
      unlinkIfOwned .archive >>= fun _ => raise (backupError err)) failed
    rw [← bind_bind]
    refine safe_and_then (published_unlink published) ?_
    intro out after settled
    have ended : Ended after := settled.elim .inl fun spoiled => .inr (.inl spoiled)
    cases out with
    | ok res => exact ended
    | error err => exact ended
  · refine safe_and_then (spoiled_unlink (by decide) spoiled) ?_
    intro out after spoiled
    cases out with
    | error err => exact .inr (.inr spoiled)
    | ok res =>
      change Tries (tools tooling) _
        (unlinkIfOwned .archive >>= fun _ => raise (backupError err)) after
      refine safe_and_then (spoiled_unlink (by decide) spoiled) ?_
      intro out last spoiled
      cases out with
      | ok res => exact .inr (.inr spoiled)
      | error err => exact .inr (.inr spoiled)

def Closed (trial : OpsTrial) : Prop :=
  Spoiled .archive trial ∨ Spoiled .manifest trial ∨
    (Harmless trial.failures ∧ trial.state.files .archive = none ∧
      trial.state.files .manifest = none ∧
      (trial.state.files .temporary = none ↔ removals trial.failures ≤ 1))

theorem cleared_unlink (cleared : Cleared trial) :
    Tries (tools tooling) (fun _ => Closed) (unlinkIfOwned .temporary) trial := by
  have few : removals trial.failures ≤ 1 := by
    rw [cleared.removals]
    split <;> decide
  refine safe_weaken (unlink_if_owned_settled cleared.loose.owned) ?_
  intro out after settled
  cases out with
  | ok res =>
    obtain ⟨failures, isGone⟩ := settled
    refine .inr (.inr ⟨?_, ?_, ?_, ?_⟩)
    · rw [failures]
      exact cleared.harmless
    · rw [isGone, put_away (by decide), cleared.loose.archive]
    · rw [isGone, put_away (by decide), cleared.loose.manifest]
    · rw [isGone, put_at, failures]
      exact iff_of_true rfl few
  | error err =>
    obtain ⟨req, tookEffect, isRemoval, failures, out⟩ := settled
    have noArchive : after.state.files .archive = none := by
      rcases out with isSame | ⟨_, isGone⟩
      · rw [isSame, cleared.loose.archive]
      · rw [isGone, put_away (by decide), cleared.loose.archive]
    have noManifest : after.state.files .manifest = none := by
      rcases out with isSame | ⟨_, isGone⟩
      · rw [isSame, cleared.loose.manifest]
      · rw [isGone, put_away (by decide), cleared.loose.manifest]
    refine .inr (.inr ⟨?_, noArchive, noManifest, ?_⟩)
    · rw [failures]
      exact harmless_append cleared.harmless fun isPublished => absurd noArchive isPublished
    · rw [failures, removals_append, leaves_temporary_removal isRemoval]
      cases isFile : after.state.files .temporary with
      | none => simpa using few
      | some file =>
        -- The temporary file was there before, so its first removal had failed as well.
        have wasThere : trial.state.files .temporary ≠ none := by
          rcases out with isSame | ⟨_, isGone⟩
          · rw [← isSame, isFile]
            exact some_ne_none _
          · rw [isGone, put_at] at isFile
            cases isFile
        rw [cleared.removals, if_neg wasThere]
        simp

theorem ended_unlink (ended : Ended trial) :
    Tries (tools tooling) (fun _ => Closed) (unlinkIfOwned .temporary) trial := by
  rcases ended with cleared | spoiled | spoiled
  · exact cleared_unlink cleared
  · exact safe_weaken (spoiled_unlink (by decide) spoiled) fun _ _ spoiled => .inl spoiled
  · exact safe_weaken (spoiled_unlink (by decide) spoiled) fun _ _ spoiled => .inr (.inl spoiled)

theorem complete_unlink {payload : BackupDocument} (noArchive : start.files .archive = none)
    (noManifest : start.files .manifest = none) (complete : Complete tooling args payload trial) :
    Tries (tools tooling) (Returns
      (fun _ after => after.failures = [] ∧ Verified tooling args start payload after.state)
      fun _ => Closed) (unlinkIfOwned .temporary) trial := by
  obtain ⟨content, snap, isArchive, isTemporary, isSnapshot, isPayload, isDatabase⟩ :=
    complete.agreed
  refine safe_weaken (unlink_if_owned_settled ?_) ?_
  · intro file isFile
    rw [isTemporary] at isFile
    cases isFile
    rfl
  intro out after settled
  cases out with
  | ok res =>
    obtain ⟨failures, isGone⟩ := settled
    refine ⟨failures.trans complete.unfailed, noArchive, noManifest, ?_, ?_, content, snap,
      ?_, isSnapshot, isPayload, isDatabase⟩
    · rw [isGone, put_at]
    · rw [isGone, put_away (by decide), complete.manifest]
    · rw [isGone, put_away (by decide), isArchive]
  | error err =>
    obtain ⟨req, tookEffect, isRemoval, failures, out⟩ := settled
    have isStill : after.state.files .archive ≠ none := by
      rcases out with isSame | ⟨_, isGone⟩
      · rw [isSame, isArchive]
        exact some_ne_none _
      · rw [isGone, put_away (by decide), isArchive]
        exact some_ne_none _
    refine .inl ⟨?_, isStill⟩
    rw [failures]
    refine harmful_last isStill ?_
    intro undone
    rcases isRemoval with rfl | rfl
    · exact absurd undone.1 (by decide)
    · exact absurd undone.1 (by decide)

theorem backup_settled (fresh : start.files .temporary = none) :
    Tries (tools tooling) (Returns
      (fun payload after => after.failures = [] ∧ Verified tooling args start payload after.state)
      fun _ after => Idle start after ∨
        (start.files .archive = none ∧ start.files .manifest = none ∧ Closed after))
      (backupDatabase args) (.start start) := by
  refine safe_then (new_private_output_ready (ready_start start)) (fun _ _ idle => .inl idle) ?_
  rintro _ checked ⟨ready, noArchive⟩
  refine safe_then (new_private_output_ready ready) (fun _ _ idle => .inl idle) ?_
  rintro _ looked ⟨ready, noManifest⟩
  refine safe_then (load_release_manifest_ready ready) (fun _ _ idle => .inl idle) ?_
  intro release loaded ready
  split
  · exact safe_raise (.inl ready.idle)
  have preparing : Preparing (fun _ => True) loaded := by
    refine ⟨ready.unfailed, ?_, trivial⟩
    rw [ready.idle.state]
    refine ⟨noArchive, noManifest, ?_⟩
    intro file isFile
    rw [fresh] at isFile
    cases isFile
  have block : Tries (tools tooling) (Returns (Complete tooling args) fun _ => Ended)
      (undoing false (publishArchive release) >>= fun published =>
        undoing true (writeManifest (backupPayload args release published))) loaded := by
    refine safe_then (undoing_unpublished preparing) (fun _ _ ended => ended) ?_
    rintro published after ⟨content, isSnapshot, isHash, released⟩
    exact undoing_published isSnapshot isHash released
  refine safe_cases block ?_ ?_
  · intro payload after complete
    refine safe_then (complete_unlink noArchive noManifest complete)
      (fun _ _ closed => .inr ⟨noArchive, noManifest, closed⟩) ?_
    exact fun _ _ verified => verified
  · intro err after ended
    refine safe_and_then (ended_unlink ended) ?_
    intro out last closed
    cases out with
    | ok res => exact .inr ⟨noArchive, noManifest, closed⟩
    | error err => exact .inr ⟨noArchive, noManifest, closed⟩

theorem idle_left_nothing (fresh : start.files .temporary = none) (idle : Idle start trial) :
    LeftNothing start trial.state ∧ FailsTidily start trial := by
  refine ⟨by rw [idle.state]; exact ⟨rfl, rfl, fresh⟩, ?_, ?_⟩
  · intro failure mem changed
    rw [idle.failures failure mem] at changed
    exact absurd rfl changed
  · rw [List.countP_eq_zero.mpr]
    · exact Nat.zero_le 1
    · intro failure mem
      simp [leavesTemporary, idle.failures failure mem, fresh]

theorem closed_left_nothing (noArchive : start.files .archive = none)
    (noManifest : start.files .manifest = none) (closed : Closed trial) :
    LeftNothing start trial.state ↔ FailsTidily start trial := by
  unfold LeftNothing FailsTidily
  rw [noArchive, noManifest]
  rcases closed with ⟨harmful, isThere⟩ | ⟨harmful, isThere⟩ | ⟨harmless, isGone, isAway, few⟩
  · exact iff_of_false (fun left => isThere left.1) fun tidy => harmful tidy.1
  · exact iff_of_false (fun left => isThere left.2.1) fun tidy => harmful tidy.1
  · exact ⟨fun left => ⟨harmless, few.mp left.2.2⟩, fun tidy => ⟨isGone, isAway, few.mpr tidy.2⟩⟩

/-- Outputs that are there are kept; what is returned is verified; and a backup that raises leaves
nothing exactly if it fails tidily. -/
theorem backup_all_or_nothing {args : BackupArguments}
    {out : Except Error BackupDocument} {after : OpsTrial} (fresh : start.files .temporary = none)
    (runs : Runs (attempting (tools tooling)) 0 (backupDatabase args) (.start start) out after) :
    after.Always (KeepsOutputs start) ∧
      (∀ payload, out = .ok payload → Verified tooling args start payload after.state) ∧
      ((∀ err, out = .error err → LeftNothing start after.state) ↔
        FailsTidily start after) := by
  have settled := runs_ensured (backup_settled fresh) runs
  have unused : start.files .archive = none → start.files .manifest = none →
      after.Always (KeepsOutputs start) := by
    rintro noArchive noManifest st _ place (rfl | rfl) isThere
    · exact absurd noArchive isThere
    · exact absurd noManifest isThere
  cases out with
  | ok payload =>
    obtain ⟨unfailed, verified⟩ := settled
    refine ⟨unused verified.1 verified.2.1, ?_, ?_⟩
    · rintro _ ⟨⟩
      exact verified
    · refine iff_of_true (fun _ isError => (nomatch isError)) ?_
      unfold FailsTidily
      rw [unfailed]
      exact ⟨fun _ mem => (nomatch mem), Nat.zero_le 1⟩
  | error err =>
    rcases settled with idle | ⟨noArchive, noManifest, closed⟩
    · obtain ⟨leftNothing, tidy⟩ := idle_left_nothing fresh idle
      refine ⟨?_, fun _ isOk => (nomatch isOk), iff_of_true (fun _ _ => leftNothing) tidy⟩
      intro st mem place _ _
      rw [idle.states st mem]
    · refine ⟨unused noArchive noManifest, fun _ isOk => (nomatch isOk), ?_⟩
      rw [← closed_left_nothing noArchive noManifest closed]
      exact ⟨fun left => left err rfl, fun left _ _ => left⟩

end Backup

namespace Sample

def backupArguments : BackupArguments where
  output := ⟨true, "rtsp_proxy.dump"⟩
  connectionString := .ok "postgresql://rtsp_proxy"
  startedAt := "2026-02-01T00:00:00+00:00"
  completedAt := "2026-02-01T00:01:00+00:00"

def backup (script : List (Option Bool)) : Except Error BackupDocument × OpsTrial :=
  execute (act tooling surroundings) failing (backupDatabase backupArguments) script
    (.start nothing)

/-- The sync of the directory fails after the archive was linked. -/
def unsynced : List (Option Bool) := List.replicate 19 none ++ [some false]

end Sample

/-- The archive stays although the backup raised. -/
theorem unsynced_archive_stays :
    ∃ (out : Except Error BackupDocument) (after : OpsTrial),
      Runs (attempting (tools tooling)) 0 (backupDatabase backupArguments)
        (.start nothing) out after ∧
      out = .error (.operationsError "database_backup_failed") ∧
      (after.state.files .archive).isSome = true ∧ ¬ LeftNothing nothing after.state := by
  obtain ⟨isOutcome, isThere⟩ :
      (backup unsynced).1 = .error (.operationsError "database_backup_failed") ∧
        ((backup unsynced).2.state.files .archive).isSome = true := by
    decide +kernel
  refine ⟨_, _, act_runs _ surroundings _ unsynced _, isOutcome, isThere, ?_⟩
  intro left
  exact isSome_iff_ne_none.mp isThere left.1

theorem backup_all_or_nothing_verified :
    (backup []).1.isOk = true ∧ (backup []).2.Always (KeepsOutputs nothing) ∧
      (∀ payload, (backup []).1 = .ok payload → Verified tooling backupArguments nothing payload
          (backup []).2.state) ∧
      ((∀ err, (backup []).1 = .error err → LeftNothing nothing (backup []).2.state) ↔
        FailsTidily nothing (backup []).2) :=
  ⟨by decide +kernel, backup_all_or_nothing rfl (act_runs _ surroundings _ [] _)⟩

end RtspProxy.Operations
