import RtspProxy.Logins.Discipline

/-!
# Histories of commits on operator identities

What the rules of a commit add up to along a whole history. Each result follows
one thing through it: a credential check and the session issued from it, a
resolved identity and its session, a session that was left behind by an
authorization change, and the TOTP steps spent under one secret.
-/

namespace RtspProxy.Logins

open Nodes Access Lib Lib.ReadCommitted List

variable {init db : Database} {trail : List (Entry Database Event)}

variable {acct : UUID} {first last : List (Entry Database Event)}

variable {step : Option Int}

theorem check_version {version : Int} {check : Commit Database Event}
    (hist : History (discipline init) init trail db)
    (isTrail : trail = first ++ .committed check :: last)
    (isCheck : check.event = .checked acct version step) :
    ∃ row, db.accounts.get acct = some row ∧ version ≤ row.authzVersion ∧
      ∀ change, .committed change ∈ last → change.event.changesCredential acct = true →
        version < row.authzVersion := by
  induction hist generalizing last with
  | start => simp at isTrail
  | @committed trail commit earlier respects ih =>
    rcases split_append_singleton isTrail with ⟨rfl, isNew, rfl⟩ | ⟨rest, rfl, isEarlier⟩
    · cases isNew
      have reports := respects.reports
      unfold Reports at reports
      rw [isCheck] at reports
      obtain ⟨row, found, bound⟩ := reports
      obtain ⟨moved, isMoved, moves⟩ := respects.accounts acct row found
      exact ⟨moved, isMoved, bound.trans (account_moves_le moves), by simp⟩
    · obtain ⟨row, found, bound, fenced⟩ := ih isEarlier
      obtain ⟨moved, isMoved, moves⟩ := respects.accounts acct row found
      have grows := account_moves_le moves
      refine ⟨moved, isMoved, bound.trans grows, ?_⟩
      intro change mem changes
      rcases mem_append.mp mem with inRest | isLast
      · exact (fenced change inRest changes).trans_le grows
      · cases mem_singleton.mp isLast
        exact bound.trans_lt (moves.bumped (Event.bumps_of_changes changes))
  | @ended trail db thread earlier ih =>
    rcases split_append_singleton isTrail with ⟨_, isNew, _⟩ | ⟨rest, rfl, isEarlier⟩
    · cases isNew
    · obtain ⟨row, found, bound, fenced⟩ := ih isEarlier
      refine ⟨row, found, bound, ?_⟩
      intro change mem changes
      exact fenced change (by simpa using mem) changes

variable {sess : UUID}

/-- A session issued from a check is revoked by every credential change after the check that does
not keep it. -/
theorem session_fenced {version : Int}
    {middle : List (Entry Database Event)} {check issue : Commit Database Event}
    (hist : History (discipline init) init trail db)
    (isTrail : trail = first ++ .committed check :: middle ++ .committed issue :: last)
    (isCheck : check.event = .checked acct version step)
    (isIssue : issue.event = .issued sess) (sameThread : issue.thread = check.thread)
    (sameRun : .ended check.thread ∉ middle) :
    ∃ row, db.sessions.get sess = some row ∧ row.accountId = acct ∧
      ∀ change, .committed change ∈ middle ++ last → change.event.changesCredential acct = true →
        row.revokedAt.isSome = true ∨ change.event.keeps = some sess := by
  induction hist generalizing last with
  | start => simp at isTrail
  | @committed trail commit earlier respects ih =>
    rcases split_append_singleton isTrail with ⟨rfl, isNew, isEarlier⟩ | ⟨rest, rfl, isEarlier⟩
    · cases isNew
      have reports := respects.reports
      unfold Reports at reports
      rw [isIssue] at reports
      obtain ⟨row, accountRow, _, found, foundAccount, _, _, _, checks, _⟩ := reports
      have inRun : check.event ∈ run issue.thread trail := by
        rw [← isEarlier, sameThread]
        exact mem_run sameRun
      rw [isCheck] at inRun
      obtain ⟨isAccount, isVersion⟩ := checks acct version step inRun
      refine ⟨row, found, isAccount, ?_⟩
      intro change mem changes
      -- The fence: a change since the check would have moved the account past its version.
      rw [append_nil] at mem
      obtain ⟨old, foundOld, _, fenced⟩ := check_version earlier isEarlier.symm isCheck
      obtain ⟨moved, isMoved, moves⟩ := respects.accounts acct old foundOld
      have below := fenced change mem changes
      have grows := account_moves_le moves
      rw [isAccount, isMoved] at foundAccount
      cases foundAccount
      omega
    · obtain ⟨row, found, isAccount, fenced⟩ := ih isEarlier
      obtain ⟨moved, isMoved, moves⟩ := respects.sessions sess row found
      refine ⟨moved, isMoved, moves.account.trans isAccount, ?_⟩
      intro change mem changes
      rw [← append_assoc] at mem
      rcases mem_append.mp mem with inside | isLast
      · rcases fenced change inside changes with revoked | kept
        · exact .inl (moves.revoked revoked)
        · exact .inr kept
      · cases mem_singleton.mp isLast
        have reports := respects.reports
        unfold Reports at reports
        have isMovedAccount := moves.account.trans isAccount
        cases isEvent : commit.event with
        | passwordChanged other kept step =>
          rw [isEvent] at reports changes
          cases of_decide_eq_true changes
          exact reports.1 sess moved isMoved isMovedAccount
        | totpEnrolled other step =>
          rw [isEvent] at reports changes
          cases of_decide_eq_true changes
          refine .inl ?_
          simpa using reports.1 sess moved isMoved isMovedAccount
        | rotated other =>
          rw [isEvent] at reports changes
          cases of_decide_eq_true changes
          refine .inl ?_
          simpa using reports.1 sess moved isMoved isMovedAccount
        | _ =>
          rw [isEvent] at changes
          cases changes
  | @ended trail db thread earlier ih =>
    rcases split_append_singleton isTrail with ⟨_, isNew, _⟩ | ⟨rest, rfl, isEarlier⟩
    · cases isNew
    · obtain ⟨row, found, isAccount, fenced⟩ := ih isEarlier
      refine ⟨row, found, isAccount, ?_⟩
      intro change mem changes
      exact fenced change (by simpa using mem) changes

/-- Of an account that OIDC resolved, only authorization changes move the version or the roles. -/
theorem resolved_roles {roles : Finset OperatorRole} {resolve : Commit Database Event}
    (hist : History (discipline init) init trail db)
    (isTrail : trail = first ++ .committed resolve :: last)
    (isResolve : resolve.event = .resolved acct roles) :
    ∃ row, db.accounts.get acct = some row ∧ row.identitySource = .oidc ∧
      ((∀ change, .committed change ∈ last → change.event ≠ .authorized acct) →
        row.roles = roles) := by
  induction hist generalizing last with
  | start => simp at isTrail
  | @committed trail commit earlier respects ih =>
    rcases split_append_singleton isTrail with ⟨rfl, isNew, rfl⟩ | ⟨rest, rfl, isEarlier⟩
    · cases isNew
      have reports := respects.reports
      unfold Reports at reports
      rw [isResolve] at reports
      obtain ⟨row, found, isOidc, isRoles⟩ := reports
      exact ⟨row, found, isOidc, fun _ => isRoles⟩
    · obtain ⟨row, found, isOidc, isRoles⟩ := ih isEarlier
      obtain ⟨moved, isMoved, moves⟩ := respects.accounts acct row found
      have movedOidc : moved.identitySource = .oidc := moves.source.trans isOidc
      refine ⟨moved, isMoved, movedOidc, ?_⟩
      intro unchanged
      have rolesBefore : row.roles = roles :=
        isRoles fun change mem => unchanged change (mem_append_left _ mem)
      have notAuthorized : commit.event ≠ .authorized acct := unchanged commit (by simp)
      have notBumped : commit.event.bumps acct = false := by
        have reports := respects.reports
        unfold Reports at reports
        cases isEvent : commit.event with
        | authorized other =>
          rw [isEvent] at notAuthorized
          exact decide_eq_false fun same => notAuthorized (congrArg _ same)
        | passwordChanged other kept step =>
          rw [isEvent] at reports
          obtain ⟨_, other_row, foundOther, isLocal, _⟩ := reports
          refine decide_eq_false ?_
          rintro rfl
          rw [isMoved] at foundOther
          cases foundOther
          rw [movedOidc] at isLocal
          cases isLocal
        | totpEnrolled other step =>
          rw [isEvent] at reports
          obtain ⟨_, other_row, foundOther, isLocal⟩ := reports
          refine decide_eq_false ?_
          rintro rfl
          rw [isMoved] at foundOther
          cases foundOther
          rw [movedOidc] at isLocal
          cases isLocal
        | rotated other =>
          rw [isEvent] at reports
          obtain ⟨_, other_row, foundOther, isBreakGlass⟩ := reports
          refine decide_eq_false ?_
          rintro rfl
          rw [isMoved] at foundOther
          cases foundOther
          rw [movedOidc] at isBreakGlass
          cases isBreakGlass
        | _ => rfl
      exact (moves.same notBumped).2.trans rolesBefore
  | @ended trail db thread earlier ih =>
    rcases split_append_singleton isTrail with ⟨_, isNew, _⟩ | ⟨rest, rfl, isEarlier⟩
    · cases isNew
    · obtain ⟨row, found, isOidc, isRoles⟩ := ih isEarlier
      refine ⟨row, found, isOidc, ?_⟩
      intro unchanged
      exact isRoles fun change mem => unchanged change (mem_append_left _ mem)

/-- A session of a resolved identity is at a version its account had with the roles of the
identity, unless the authorization changed in between. -/
theorem session_resolved {roles : Finset OperatorRole}
    {middle : List (Entry Database Event)} {resolve issue : Commit Database Event}
    (hist : History (discipline init) init trail db)
    (isTrail : trail = first ++ .committed resolve :: middle ++ .committed issue :: last)
    (isResolve : resolve.event = .resolved acct roles) (isIssue : issue.event = .issued sess)
    (sameThread : issue.thread = resolve.thread) (sameRun : .ended resolve.thread ∉ middle)
    (unchanged : ∀ change, .committed change ∈ middle → change.event ≠ .authorized acct) :
    ∃ row accountRow, db.sessions.get sess = some row ∧ row.accountId = acct ∧
      db.accounts.get acct = some accountRow ∧ accountRow.identitySource = .oidc ∧
      row.authzVersion ≤ accountRow.authzVersion ∧
      (row.authzVersion = accountRow.authzVersion → accountRow.roles = roles) := by
  induction hist generalizing last with
  | start => simp at isTrail
  | @committed trail commit earlier respects ih =>
    rcases split_append_singleton isTrail with ⟨rfl, isNew, isEarlier⟩ | ⟨rest, rfl, isEarlier⟩
    · cases isNew
      have reports := respects.reports
      unfold Reports at reports
      rw [isIssue] at reports
      obtain ⟨row, accountRow, _, found, foundAccount, _, _, isVersion, _, resolves⟩ := reports
      have inRun : resolve.event ∈ run issue.thread trail := by
        rw [← isEarlier, sameThread]
        exact mem_run sameRun
      rw [isResolve] at inRun
      have isAccount := resolves acct roles inRun
      obtain ⟨old, foundOld, isOidc, isRoles⟩ :=
        resolved_roles earlier isEarlier.symm isResolve
      obtain ⟨moved, isMoved, moves⟩ := respects.accounts acct old foundOld
      have notBumped : issue.event.bumps acct = false := by rw [isIssue]; rfl
      rw [isAccount, isMoved] at foundAccount
      cases foundAccount
      refine ⟨row, _, found, isAccount, isMoved, moves.source.trans isOidc, isVersion.le, ?_⟩
      intro _
      exact (moves.same notBumped).2.trans (isRoles unchanged)
    · obtain ⟨row, accountRow, found, isAccount, foundAccount, isOidc, bound, isRoles⟩ :=
        ih isEarlier
      obtain ⟨moved, isMoved, moves⟩ := respects.sessions sess row found
      obtain ⟨movedAccount, isMovedAccount, accountMoves⟩ :=
        respects.accounts acct accountRow foundAccount
      have grows := account_moves_le accountMoves
      have movedOidc : movedAccount.identitySource = .oidc := accountMoves.source.trans isOidc
      -- Only a password change rewrites the version of a session, and only of a local account.
      have sameVersion : moved.authzVersion = row.authzVersion := by
        rcases moves.version with isKept | same
        · exfalso
          have reports := respects.reports
          unfold Reports at reports
          cases isEvent : commit.event with
          | passwordChanged other kept step =>
            rw [isEvent] at reports isKept
            obtain ⟨_, otherRow, foundOther, isLocal, _, keptFacts⟩ := reports
            obtain ⟨keptRow, foundKept, keptAccount, _, _⟩ := keptFacts sess isKept
            rw [isMoved] at foundKept
            cases foundKept
            rw [moves.account, isAccount] at keptAccount
            cases keptAccount
            rw [isMovedAccount] at foundOther
            cases foundOther
            rw [movedOidc] at isLocal
            cases isLocal
          | _ =>
            rw [isEvent] at isKept
            cases isKept
        · exact same
      refine ⟨moved, movedAccount, isMoved, moves.account.trans isAccount, isMovedAccount,
        movedOidc, by omega, ?_⟩
      intro same
      cases bumps : commit.event.bumps acct with
      | true =>
        have grown := accountMoves.bumped bumps
        omega
      | false =>
        obtain ⟨sameAccountVersion, sameRoles⟩ := accountMoves.same bumps
        rw [sameRoles]
        exact isRoles (by omega)
  | @ended trail db thread earlier ih =>
    rcases split_append_singleton isTrail with ⟨_, isNew, _⟩ | ⟨rest, rfl, isEarlier⟩
    · cases isNew
    · exact ih isEarlier

/-- A password change keeps a session that is not at the version of its account. -/
def Revives (acct sess : UUID) (commit : Commit Database Event) : Prop :=
  (∃ step, commit.event = .passwordChanged acct (some sess) step) ∧
    ∃ row accountRow, commit.before.sessions.get sess = some row ∧
      commit.before.accounts.get acct = some accountRow ∧
      row.authzVersion ≠ accountRow.authzVersion

theorem session_stays_behind {row : SessionRow} {accountRow : AccountRow}
    {change : Commit Database Event} (hist : History (discipline init) init trail db)
    (isTrail : trail = first ++ .committed change :: last)
    (found : change.after.sessions.get sess = some row) (isAccount : row.accountId = acct)
    (foundAccount : change.after.accounts.get acct = some accountRow)
    (behind : row.authzVersion < accountRow.authzVersion)
    (unrevived : ∀ commit, .committed commit ∈ last → ¬Revives acct sess commit) :
    ∃ cur currentAccount, db.sessions.get sess = some cur ∧
      cur.accountId = acct ∧ db.accounts.get acct = some currentAccount ∧
      cur.authzVersion = row.authzVersion ∧
      cur.authzVersion < currentAccount.authzVersion := by
  induction hist generalizing last with
  | start => simp at isTrail
  | @committed trail commit earlier respects ih =>
    rcases split_append_singleton isTrail with ⟨rfl, isNew, rfl⟩ | ⟨rest, rfl, isEarlier⟩
    · cases isNew
      exact ⟨row, accountRow, found, isAccount, foundAccount, rfl, behind⟩
    · obtain ⟨cur, currentAccount, isCurrent, ofAccount, isCurrentAccount, sameVersion,
        stillBehind⟩ := ih isEarlier fun other mem =>
          unrevived other (mem_append_left _ mem)
      obtain ⟨moved, isMoved, moves⟩ := respects.sessions sess cur isCurrent
      obtain ⟨movedAccount, isMovedAccount, accountMoves⟩ :=
        respects.accounts acct currentAccount isCurrentAccount
      have grows := account_moves_le accountMoves
      have movedVersion : moved.authzVersion = cur.authzVersion := by
        rcases moves.version with isKept | same
        · exfalso
          have reports := respects.reports
          unfold Reports at reports
          cases isEvent : commit.event with
          | passwordChanged other kept step =>
            rw [isEvent] at reports isKept
            obtain ⟨_, _, _, _, _, keptFacts⟩ := reports
            obtain ⟨keptRow, foundKept, keptAccount, _, _⟩ := keptFacts sess isKept
            rw [isMoved] at foundKept
            cases foundKept
            have isOther : other = acct :=
              (keptAccount.symm.trans moves.account).trans ofAccount
            refine unrevived commit (by simp) ⟨⟨step, ?_⟩, cur, currentAccount, isCurrent,
              isCurrentAccount, stillBehind.ne⟩
            rw [isEvent, isOther]
            exact congrArg (fun kept => Event.passwordChanged acct kept step) isKept
          | _ =>
            rw [isEvent] at isKept
            cases isKept
        · exact same
      exact ⟨moved, movedAccount, isMoved, moves.account.trans ofAccount, isMovedAccount,
        movedVersion.trans sameVersion, by omega⟩
  | @ended trail db thread earlier ih =>
    rcases split_append_singleton isTrail with ⟨_, isNew, _⟩ | ⟨rest, rfl, isEarlier⟩
    · cases isNew
    · exact ih isEarlier fun other mem => unrevived other (mem_append_left _ mem)

theorem kept_authenticates {commit : Commit Database Event} (respects : Respects init trail commit)
    (isEvent : commit.event = .passwordChanged acct (some sess) step) :
    ∃ now, commit.after.Authenticates sess now := by
  have reports := respects.reports
  unfold Reports at reports
  rw [isEvent] at reports
  obtain ⟨_, accountRow, foundAccount, _, isEnabled, keptFacts⟩ := reports
  obtain ⟨row, found, isAccount, unrevoked, isVersion⟩ := keptFacts sess rfl
  refine ⟨min row.idleExpiresAt row.absoluteExpiresAt - 1, row, accountRow, found, ?_, ?_⟩
  · rw [isAccount]
    exact foundAccount
  · rw [evaluate_joined_row_ok]
    exact ⟨unrevoked, (Int.sub_lt_self _ Int.one_pos).trans_le (min_le_left _ _),
      (Int.sub_lt_self _ Int.one_pos).trans_le (min_le_right _ _), isEnabled, isVersion.symm⟩

/-- The steps accepted for an account since its TOTP secret was last replaced. -/
def spentSteps (acct : UUID) (trail : List (Entry Database Event)) : List Int :=
  trail.foldl (fun steps entry =>
    match entry with
    | .committed commit =>
      (if commit.event.replacesSecret acct = true then [] else steps) ++
        (commit.event.spends acct).toList
    | .ended _ => steps) []

theorem spent_steps_bounded (acct : UUID)
    (hist : History (discipline init) init trail db) :
    (spentSteps acct trail).Pairwise (· < ·) ∧ ∀ step ∈ spentSteps acct trail,
        ∃ last, db.lastStep acct = some last ∧ step ≤ last := by
  induction hist with
  | start => exact ⟨Pairwise.nil, by simp [spentSteps]⟩
  | @committed trail commit earlier respects ih =>
    have moves := respects.steps acct
    have isSteps : spentSteps acct (trail ++ [.committed commit]) =
        (if commit.event.replacesSecret acct = true then [] else spentSteps acct trail) ++
          (commit.event.spends acct).toList := by
      unfold spentSteps
      rw [foldl_append]
      rfl
    rw [isSteps]
    cases spends : commit.event.spends acct with
    | none =>
      cases replaces : commit.event.replacesSecret acct with
      | true => simp
      | false =>
        rw [moves.same spends replaces]
        simpa using ih
    | some step =>
      obtain ⟨isLast, isNewer⟩ := moves.spent step spends
      rw [isLast]
      cases replaces : commit.event.replacesSecret acct with
      | true => simp
      | false =>
        have older : ∀ other ∈ spentSteps acct trail, other < step := by
          intro other mem
          obtain ⟨last, onRecord, bound⟩ := ih.2 other mem
          exact bound.trans_lt (isNewer replaces last onRecord)
        constructor
        · rw [if_neg Bool.false_ne_true, Option.toList_some, pairwise_append]
          refine ⟨ih.1, pairwise_singleton _ _, ?_⟩
          intro other mem last isStep
          rw [mem_singleton.mp isStep]
          exact older other mem
        · rw [if_neg Bool.false_ne_true, Option.toList_some]
          intro other mem
          refine ⟨step, rfl, ?_⟩
          rcases mem_append.mp mem with inside | isStep
          · exact (older other inside).le
          · exact (mem_singleton.mp isStep).le
  | @ended trail db thread earlier ih =>
    have isSteps : spentSteps acct (trail ++ [.ended thread]) = spentSteps acct trail := by
      unfold spentSteps
      rw [foldl_append]
      rfl
    rw [isSteps]
    exact ih

/-- An account only moves to higher versions and has one set of roles at each of them; a session
stays with its account, and stays revoked. -/
structure Advanced (former latter : Database) : Prop where
  accounts : ∀ id row, former.accounts.get id = some row → ∃ moved,
    latter.accounts.get id = some moved ∧ moved.identitySource = row.identitySource ∧
      row.authzVersion ≤ moved.authzVersion ∧
      (moved.authzVersion = row.authzVersion → moved.roles = row.roles)
  sessions : ∀ id row, former.sessions.get id = some row → ∃ moved,
    latter.sessions.get id = some moved ∧ moved.accountId = row.accountId ∧
      (row.revokedAt.isSome = true → moved.revokedAt.isSome = true)

theorem advanced_refl (db : Database) : Advanced db db :=
  ⟨fun _ row found => ⟨row, found, rfl, le_rfl, fun _ => rfl⟩,
    fun _ row found => ⟨row, found, rfl, id⟩⟩

theorem advanced_commit {former : Database} {commit : Commit Database Event}
    (advanced : Advanced former commit.before) (respects : Respects init trail commit) :
    Advanced former commit.after := by
  constructor
  · intro id row found
    obtain ⟨mid, isMid, source, grows, sameRoles⟩ := advanced.accounts id row found
    obtain ⟨moved, isMoved, moves⟩ := respects.accounts id mid isMid
    have further := account_moves_le moves
    refine ⟨moved, isMoved, moves.source.trans source, grows.trans further, ?_⟩
    intro sameVersion
    -- A commit that bumps the version cannot be among those in between.
    cases bumps : commit.event.bumps id with
    | true => exact absurd sameVersion (grows.trans_lt (moves.bumped bumps)).ne'
    | false =>
      obtain ⟨version, roles⟩ := moves.same bumps
      exact roles.trans (sameRoles (version.symm.trans sameVersion))
  · intro id row found
    obtain ⟨mid, isMid, acct, revoked⟩ := advanced.sessions id row found
    obtain ⟨moved, isMoved, moves⟩ := respects.sessions id mid isMid
    exact ⟨moved, isMoved, moves.account.trans acct, fun was => moves.revoked (revoked was)⟩

theorem history_advanced {first : List (Entry Database Event)}
    (hist : History (discipline init) init trail db) (isEarlier : first <+: trail) :
    Advanced (replay init first) db := by
  induction hist with
  | start =>
    rw [prefix_nil.mp isEarlier]
    exact advanced_refl init
  | committed earlier respects ih =>
    rcases prefix_concat_iff.mp isEarlier with rfl | isEarlier
    · rw [history_replay (.committed earlier respects)]
      exact advanced_refl _
    · exact advanced_commit (ih isEarlier) respects
  | ended tid earlier ih =>
    rcases prefix_concat_iff.mp isEarlier with rfl | isEarlier
    · rw [history_replay (.ended tid earlier)]
      exact advanced_refl _
    · exact ih isEarlier

end RtspProxy.Logins
