import RtspProxy.Logins.Statements

/-!
# The transactions of the credential stores are ready to commit

Each block of `Stores` is followed statement by statement to its commit, where
the rows it holds give the effects of its writes and what its event reports.
-/

namespace RtspProxy.Logins

open Nodes Access Lib Lib.ReadCommitted List Database
open Lib.Program Lib.Program.Prog

variable {init : Database} {tid since : Nat} {fact : LoginServer → Prop}
  {srv : LoginServer}

/-- A block that is ready to commit the event it reports. -/
abbrev ReadyBlock {Result : Type} (init : Database) (tid : Nat)
    (post : Result → LoginServer → Prop) (prog : LoginProg (Result × Event))
    (srv : LoginServer) : Prop :=
  Block init tid
    (fun out => Ready (discipline init) schema tid out.2 (post out.1) init)
    prog srv

def Anything {Result : Type} (_ : Result) (_ : LoginServer) : Prop := True

variable {event : Event}

theorem block_reports {Result : Type} {res : Result} {post : Result → LoginServer → Prop}
    (ready : Ready (discipline init) schema tid event (post res) init srv) :
    ReadyBlock init tid post (pure (res, event)) srv :=
  safe_pure ready

variable {row : AccountRow}

section After

variable {db : Database} {writes : List Write} {id : UUID}

theorem account_after (mem : .account id row ∈ writes)
    (only : ∀ other, .account id other ∈ writes → other = row) :
    (writes.foldl apply db).accounts.get id = some row := by
  rcases accounts_writes db writes id with ⟨other, isWrite, found⟩ | ⟨absent, _⟩
  · rw [found, only other isWrite]
  · exact absurd mem (absent row)

theorem credential_after {row : CredentialRow} (mem : .credential id row ∈ writes)
    (only : ∀ other, .credential id other ∈ writes → other = row) :
    (writes.foldl apply db).credentials.get id = some row := by
  rcases credentials_writes db writes id with ⟨other, isWrite, found⟩ | ⟨absent, _⟩
  · rw [found, only other isWrite]
  · exact absurd mem (absent row)

theorem session_after {row : SessionRow} (mem : .session id row ∈ writes)
    (only : ∀ other, .session id other ∈ writes → other = row) :
    (writes.foldl apply db).sessions.get id = some row := by
  rcases sessions_writes db writes id with ⟨other, isWrite, found⟩ | ⟨absent, _⟩
  · rw [found, only other isWrite]
  · exact absurd mem (absent row)

theorem last_step_local (found : db.accounts.get id = some row)
    (isLocal : row.identitySource = .localAccount) :
    db.lastStep id = (db.credentials.get id).bind (·.lastTotpStep) := by
  unfold lastStep
  rw [found]
  dsimp only
  rw [isLocal]

theorem last_step_break_glass (found : db.accounts.get id = some row)
    (isBreakGlass : row.identitySource = .breakGlass) :
    db.lastStep id = row.breakGlassLastTotpStep := by
  unfold lastStep
  rw [found]
  dsimp only
  rw [isBreakGlass]

end After

theorem effects_nil (noBump : ∀ id, event.bumps id = false)
    (spendsNothing : ∀ acct, event.spends acct = none) : Effects tid event [] srv where
  owned := by simp
  accounts := by simp
  bumps id bumps := by
    rw [noBump id] at bumps
    cases bumps
  sessions := by simp
  steps acct := step_moves_same (spendsNothing acct) rfl

theorem ready_quiet {post : LoginServer → Prop} (kept : Kept (discipline init) tid fact)
    (holds : Holds tid [] since fact srv)
    (posts : ∀ cur : LoginServer, post (cur.commit schema tid .quiet)) :
    Ready (discipline init) schema tid .quiet post init srv :=
  ready_to_commit kept holds (fun _ _ => ⟨effects_nil (fun _ => rfl) fun _ => rfl, trivial⟩)
    fun cur _ => posts cur

/-- What a login transaction leaves behind in the run of its thread. -/
def LoginChecked (tid : Nat) : LoginOutcome → LoginServer → Prop
  | .accepted accountId version _, srv =>
    ∃ step, run tid srv.trail = [.checked accountId version step]
  | .rejected _, _ => True

theorem reject_login_ready {rateLimited : Bool} (kept : Kept (discipline init) tid fact)
    (holds : Holds tid [] since fact srv) :
    ReadyBlock init tid (LoginChecked tid) (rejectLogin rateLimited) srv := by
  unfold rejectLogin
  split_ifs
  · exact ready_quiet kept holds fun _ => trivial
  · refine bind_outside kept holds (.inr rfl) ?_
    intro limited after still
    exact ready_quiet kept still fun _ => trivial

theorem run_commit {cur : LoginServer} (isRun : run tid cur.trail = []) :
    run tid (cur.commit schema tid event).trail = [event] := by
  have grown : run tid (cur.commit schema tid event).trail = run tid cur.trail ++ [event] :=
    @run_committed _ _ (cur.record schema tid event) cur.trail
  rw [grown, isRun, nil_append]

variable {writes : List Write}

variable {step : Option Int}

theorem accept_login_ready {accountId : UUID} {version : Int}
    (kept : Kept (discipline init) tid fact) (holds : Holds tid writes since fact srv)
    (first : ∀ cur, fact cur → run tid cur.trail = [])
    (saw : ∀ cur, fact cur → ∃ row, cur.database.accounts.get accountId = some row ∧
      version ≤ row.authzVersion) (effects : ∀ cur, fact cur →
      Effects tid (.checked accountId version step) writes cur) :
    ReadyBlock init tid (LoginChecked tid) (acceptLogin accountId version step) srv := by
  refine ready_to_commit kept holds ?_ ?_
  · intro cur still
    exact ⟨effects cur still.fact, saw cur still.fact⟩
  · intro cur still
    exact ⟨step, run_commit (first cur still.fact)⟩

theorem accepted_step_newer {ciphers : Ciphers} {accountId : UUID} {encrypted : Option Bytes}
    {lastStep : Option Int} {totp : String} {now : Datetime} {step : Int}
    (accepted : acceptedStep ciphers accountId encrypted lastStep totp now = some step) :
    ∀ last, lastStep = some last → last < step := by
  rintro last rfl
  unfold acceptedStep at accepted
  split at accepted
  · cases accepted
  · split_ifs at accepted with notNewer
    cases accepted
    simpa using notNewer

variable {id : UUID}

theorem effects_credential_step {old : CredentialRow} {step : Int}
    (noBump : ∀ other, event.bumps other = false)
    (spends : ∀ other, event.spends other = if id = other then some step else none)
    (isLocal : ∃ cur, srv.database.accounts.get id = some cur ∧
      cur.identitySource = .localAccount) (has : HasCredential tid id old srv)
    (newer : ∀ last, old.lastTotpStep = some last → last < step) :
    Effects tid event [.credential id { old with lastTotpStep := some step }] srv where
  owned write mem := by
    rw [mem_singleton.mp mem]
    exact has.1
  accounts := by simp
  bumps other bumps := by
    rw [noBump other] at bumps
    cases bumps
  sessions := by simp
  steps acct := by
    obtain ⟨cur, found, isLocal⟩ := isLocal
    by_cases same : id = acct
    · subst same
      have isBefore : srv.database.lastStep id = old.lastTotpStep := by
        rw [last_step_local found isLocal, has.2]
        rfl
      have isAfter : (srv.database.apply
          (.credential id { old with lastTotpStep := some step })).lastStep id = some step := by
        have foundAfter : (srv.database.apply
            (.credential id { old with lastTotpStep := some step })).accounts.get id =
              some cur := found
        rw [last_step_local foundAfter isLocal]
        dsimp only [apply]
        rw [Dict.get_set_self]
        rfl
      rw [isBefore]
      refine ⟨?_, ?_⟩
      · intro spent isSpent
        rw [spends, if_pos rfl] at isSpent
        cases isSpent
        exact ⟨isAfter, fun _ => newer⟩
      · intro spendsNothing
        rw [spends, if_pos rfl] at spendsNothing
        cases spendsNothing
    · refine step_moves_same ((spends acct).trans (if_neg same)) (last_step_same ?_ ?_)
      · simp
      · intro row mem
        simp only [mem_singleton, Write.credential.injEq] at mem
        exact absurd mem.1.symm same

theorem checked_spends (id : UUID) (version : Int) (step : Int) (other : UUID) :
    (Event.checked id version (some step)).spends other = if id = other then some step else none :=
  rfl

theorem authenticate_local_ready (ciphers : Ciphers) (login : LocalLogin) (now : Datetime)
    (idle : srv.pending tid = []) (first : run tid srv.trail = []) :
    ReadyBlock init tid (LoginChecked tid) (authenticateLocalBody ciphers login now)
      srv := by
  have starts : Holds tid [] (srv.seen tid)
      (fun cur : LoginServer => run tid cur.trail = []) srv := ⟨idle, rfl, first⟩
  unfold authenticateLocalBody
  split
  · exact safe_raise trivial
  · refine bind_outside kept_run starts (.inr rfl) ?_
    intro rateLimited second holdsSecond
    refine bind_select_credential kept_run holdsSecond ?_ ?_
    · intro since after still
      exact reject_login_ready kept_run still
    · intro since after accountId acct cred isLocal _ still
      have kept : Kept (discipline init) tid (fun cur : LoginServer =>
          run tid cur.trail = [] ∧ SawAccount accountId acct cur ∧
            HasCredential tid accountId cred cur) :=
        kept_and kept_run (kept_and (kept_saw_account accountId acct)
          (kept_credential accountId cred))
      have saw : ∀ cur : LoginServer, (run tid cur.trail = [] ∧
          SawAccount accountId acct cur ∧ HasCredential tid accountId cred cur) →
          ∃ row, cur.database.accounts.get accountId = some row ∧
            acct.authzVersion ≤ row.authzVersion := by
        rintro cur ⟨_, ⟨row, found, _, bound⟩, _⟩
        exact ⟨row, found, bound⟩
      dsimp only
      split_ifs
      · exact reject_login_ready kept still
      · refine accept_login_ready kept still (fun _ facts => facts.1) saw ?_
        intro cur _
        refine effects_nil (fun _ => rfl) ?_
        intro other
        simp [Event.spends]
      · split
        · exact reject_login_ready kept still
        · rename_i step accepted
          refine bind_put kept still ?_
          intro last holdsLast
          refine accept_login_ready kept holdsLast (fun _ facts => facts.1) saw ?_
          rintro cur ⟨_, ⟨row, found, sameSource, _⟩, has⟩
          exact effects_credential_step (fun _ => rfl) (checked_spends accountId _ step)
            ⟨row, found, sameSource.trans isLocal⟩ has (accepted_step_newer accepted)

theorem verify_totp_ready (ciphers : Ciphers) (accountId : UUID) (totp : String) (now : Datetime)
    (idle : srv.pending tid = []) :
    ReadyBlock init tid Anything (verifyTotpBody ciphers accountId totp now)
      srv := by
  unfold verifyTotpBody
  refine bind_select_credential kept_true (holds_idle idle) ?_ ?_
  · intro since after still
    exact safe_raise trivial
  · intro since after found acct cred isLocal isSelected still
    have isFound : found = accountId := by simpa using isSelected
    subst isFound
    dsimp only
    split_ifs
    · exact safe_raise trivial
    · split
      · exact safe_raise trivial
      · rename_i step accepted
        have kept : Kept (discipline init) tid (fun cur : LoginServer =>
            True ∧ SawAccount found acct cur ∧ HasCredential tid found cred cur) :=
          kept_and kept_true (kept_and (kept_saw_account found acct)
            (kept_credential found cred))
        refine bind_put kept still ?_
        intro last holdsLast
        refine block_reports (ready_to_commit kept holdsLast ?_ ?_)
        · intro cur stillCurrent
          obtain ⟨_, ⟨row, foundRow, sameSource, _⟩, has⟩ := stillCurrent.fact
          exact ⟨effects_credential_step (fun _ => rfl) (fun _ => rfl)
            ⟨row, foundRow, sameSource.trans isLocal⟩ has (accepted_step_newer accepted), trivial⟩
        · intro _ _
          trivial

/-- Writes to sessions the transaction holds, each as the event allows. -/
def SessionWrites (tid : Nat) (event : Event) (writes : List Write) (srv : LoginServer) :
    Prop :=
  ∀ write ∈ writes, ∃ id row old, write = .session id row ∧ HasSession tid id old srv ∧
    SessionMoves event id old row

variable {written : List Write}

theorem revoking_session_writes {cond : UUID → SessionRow → Bool} {done : List UUID}
    (revoking : Revoking tid cond done written srv) :
    SessionWrites tid event written srv := by
  intro write mem
  obtain ⟨id, old, moment, isWrite, has, _⟩ := revoking.rows write mem
  exact ⟨id, _, old, isWrite, has, rfl, fun _ => rfl, .inr rfl⟩

variable (sessions : SessionWrites tid event writes srv)

include sessions

theorem session_writes_owned :
    ∀ write ∈ writes, Owned tid srv write := by
  intro write mem
  obtain ⟨id, row, old, rfl, has, _⟩ := sessions write mem
  exact ⟨has.1, .inr ⟨old, has.2⟩⟩

theorem session_writes_move {row old : SessionRow} (mem : .session id row ∈ writes)
    (found : srv.database.sessions.get id = some old) : SessionMoves event id old row := by
  obtain ⟨other, otherRow, stored, isWrite, has, moves⟩ := sessions _ mem
  cases isWrite
  rw [has.2] at found
  cases found
  exact moves

theorem session_writes_account :
    .account id row ∉ writes := by
  intro mem
  obtain ⟨_, _, _, isWrite, _⟩ := sessions _ mem
  cases isWrite

theorem session_writes_credential {row : CredentialRow}
    : .credential id row ∉ writes := by
  intro mem
  obtain ⟨_, _, _, isWrite, _⟩ := sessions _ mem
  cases isWrite

omit sessions

variable {acct : AccountRow}

variable {moved : AccountRow}

theorem effects_account {others : List Write}
    (has : HasAccount tid id acct srv) (moves : AccountMoves event id acct moved)
    (noBump : ∀ other, id ≠ other → event.bumps other = false)
    (spends : ∀ other, id ≠ other → event.spends other = none)
    (steps : StepMoves event id (srv.database.lastStep id)
      (((Write.account id moved :: others).foldl apply srv.database).lastStep id))
    (sessions : SessionWrites tid event others srv) :
    Effects tid event (.account id moved :: others) srv where
  owned write mem := by
    rcases mem_cons.mp mem with rfl | inOthers
    · exact has.1
    · exact session_writes_owned sessions write inOthers
  accounts other row mem old found := by
    rcases mem_cons.mp mem with isFirst | inOthers
    · cases isFirst
      rw [has.2] at found
      cases found
      exact moves
    · exact absurd inOthers (session_writes_account sessions)
  bumps other bumps := by
    by_cases same : id = other
    · subst same
      exact ⟨moved, mem_cons_self⟩
    · rw [noBump other same] at bumps
      cases bumps
  sessions other row mem old found := by
    rcases mem_cons.mp mem with isFirst | inOthers
    · cases isFirst
    · exact session_writes_move sessions inOthers found
  steps other := by
    by_cases same : id = other
    · subst same
      exact steps
    · refine step_moves_same (spends other same) (last_step_same ?_ ?_)
      · intro row mem
        rcases mem_cons.mp mem with isFirst | inOthers
        · cases isFirst
          exact absurd rfl same
        · exact absurd inOthers (session_writes_account sessions)
      · intro row mem
        rcases mem_cons.mp mem with isFirst | inOthers
        · cases isFirst
        · exact absurd inOthers (session_writes_credential sessions)

variable {cred : CredentialRow}

theorem effects_local_change {changed : CredentialRow} {others : List Write}
    (hasAccount : HasAccount tid id acct srv)
    (hasCredential : HasCredential tid id cred srv)
    (isLocal : acct.identitySource = .localAccount) (moves : AccountMoves event id acct moved)
    (noBump : ∀ other, id ≠ other → event.bumps other = false)
    (spends : ∀ other, id ≠ other → event.spends other = none)
    (steps : StepMoves event id cred.lastTotpStep changed.lastTotpStep)
    (sessions : SessionWrites tid event others srv) :
    Effects tid event (.credential id changed :: .account id moved :: others) srv where
  owned write mem := by
    rcases mem_cons.mp mem with rfl | inRest
    · exact hasCredential.1
    · rcases mem_cons.mp inRest with rfl | inOthers
      · exact hasAccount.1
      · exact session_writes_owned sessions write inOthers
  accounts other row mem old found := by
    simp only [mem_cons, reduceCtorEq, false_or, Write.account.injEq] at mem
    rcases mem with ⟨rfl, rfl⟩ | inOthers
    · rw [hasAccount.2] at found
      cases found
      exact moves
    · exact absurd inOthers (session_writes_account sessions)
  bumps other bumps := by
    by_cases same : id = other
    · subst same
      exact ⟨moved, by simp⟩
    · rw [noBump other same] at bumps
      cases bumps
  sessions other row mem old found := by
    simp only [mem_cons, reduceCtorEq, false_or] at mem
    exact session_writes_move sessions mem found
  steps other := by
    by_cases same : id = other
    · subst same
      have isBefore : srv.database.lastStep id = cred.lastTotpStep := by
        rw [last_step_local hasAccount.2 isLocal, hasCredential.2]
        rfl
      have accountAfter : ((Write.credential id changed :: .account id moved :: others).foldl
          apply srv.database).accounts.get id = some moved := by
        refine account_after (by simp) ?_
        intro row mem
        simp only [mem_cons, reduceCtorEq, false_or, Write.account.injEq] at mem
        rcases mem with ⟨_, isRow⟩ | inOthers
        · exact isRow
        · exact absurd inOthers (session_writes_account sessions)
      have credentialAfter : ((Write.credential id changed :: .account id moved :: others).foldl
          apply srv.database).credentials.get id = some changed := by
        refine credential_after (by simp) ?_
        intro row mem
        simp only [mem_cons, reduceCtorEq, false_or, Write.credential.injEq] at mem
        rcases mem with ⟨_, isRow⟩ | inOthers
        · exact isRow
        · exact absurd inOthers (session_writes_credential sessions)
      have isAfter : ((Write.credential id changed :: .account id moved :: others).foldl
          apply srv.database).lastStep id = changed.lastTotpStep := by
        rw [last_step_local accountAfter (moves.source.trans isLocal), credentialAfter]
        rfl
      rw [isBefore, isAfter]
      exact steps
    · refine step_moves_same (spends other same) (last_step_same ?_ ?_)
      · intro row mem
        simp only [mem_cons, reduceCtorEq, false_or, Write.account.injEq] at mem
        rcases mem with ⟨isOther, _⟩ | inOthers
        · exact absurd isOther.symm same
        · exact absurd inOthers (session_writes_account sessions)
      · intro row mem
        simp only [mem_cons, reduceCtorEq, false_or, Write.credential.injEq] at mem
        rcases mem with ⟨isOther, _⟩ | inOthers
        · exact absurd isOther.symm same
        · exact absurd inOthers (session_writes_credential sessions)

variable {kept : Option UUID}

theorem others_revoked {acct : UUID} {snap : Dict UUID SessionRow}
    (saw : SawSessions tid acct snap srv)
    (revoking : Revoking tid (isOtherSession acct kept)
      ((snap.items.filter fun item => isOtherSession acct kept item.1 item.2).map Prod.fst)
      written srv) (included : ∀ write ∈ written, write ∈ writes)
    (revokes : ∀ id row, .session id row ∈ writes → row.revokedAt.isSome = true ∨ kept = some id) :
    OthersRevoked (writes.foldl apply srv.database) acct kept := by
  intro id row found isAccount
  rcases sessions_writes srv.database writes id with
    ⟨stored, mem, isStored⟩ | ⟨absent, same⟩
  · rw [found] at isStored
    cases isStored
    exact revokes id row mem
  · rw [same] at found
    obtain ⟨first, foundFirst, ofAccount, staysRevoked⟩ := saw.2 id row found isAccount
    by_cases isKept : kept = some id
    · exact .inr isKept
    · refine .inl ?_
      by_cases wasRevoked : first.revokedAt.isSome = true
      · exact staysRevoked wasRevoked
      · -- The statement found the session unrevoked: it revoked it, or somebody else had.
        have wasOpen : first.revokedAt = none := by simpa using wasRevoked
        have inSnapshot : id ∈ (snap.items.filter fun item =>
            isOtherSession acct kept item.1 item.2).map Prod.fst := by
          refine mem_map.mpr ⟨(id, first), mem_filter.mpr ⟨?_, ?_⟩, rfl⟩
          · exact Dict.get_eq_some.mp foundFirst
          · simp [isOtherSession, ofAccount, wasOpen, isKept]
        rcases revoking.handled id inSnapshot with ⟨stored, isWritten⟩ | ⟨_, passed⟩
        · exact absurd (included _ isWritten) (absent stored)
        · have notSelected := passed row found
          unfold isOtherSession at notSelected
          simp only [isAccount, decide_true, Bool.true_and, ne_eq, isKept, not_false_iff,
            Bool.and_true] at notSelected
          simpa using notSelected

theorem account_moves_bump (bumps : event.bumps id = true)
    (source : moved.identitySource = acct.identitySource)
    (version : moved.authzVersion = acct.authzVersion + 1) :
    AccountMoves event id acct moved where
  source := source
  bumped _ := by omega
  same notBumped := by
    rw [bumps] at notBumped
    cases notBumped

theorem record_after (isPending : srv.pending tid = writes) :
    (srv.record schema tid event).after = writes.foldl apply srv.database :=
  view_of_pending isPending

theorem password_change_steps {ciphers : Ciphers} {change : PasswordChange} {now : Datetime}
    {lastTotpStep : Option Int} (accepted : passwordChangeSteps ciphers change now acct cred =
      some (lastTotpStep, step)) :
    acct.enabled = true ∧ ((step = none ∧ lastTotpStep = cred.lastTotpStep) ∨
        ∃ spent, step = some spent ∧ lastTotpStep = some spent ∧
          ∀ last, cred.lastTotpStep = some last → last < spent) := by
  unfold passwordChangeSteps at accepted
  split at accepted
  · cases accepted
  · rename_i notDenied
    have isEnabled : acct.enabled = true := by
      by_contra disabled
      exact notDenied (.inl (by simpa using disabled))
    refine ⟨isEnabled, ?_⟩
    split at accepted
    · cases accepted
      exact .inl ⟨rfl, rfl⟩
    · split at accepted
      · cases accepted
      · obtain ⟨spent, isSpent, isPair⟩ := Option.map_eq_some_iff.mp accepted
        cases isPair
        exact .inr ⟨spent, rfl, rfl, accepted_step_newer isSpent⟩

/-- The write that keeps a session through a password change, if there is one. -/
def KeepsOnly (tid : Nat) (acct : UUID) (version : Int) (kept : Option UUID)
    (writes : List Write) (srv : LoginServer) : Prop :=
  match kept with
  | none => writes = []
  | some id => ∃ old, writes = [.session id { old with authzVersion := version }] ∧
      HasSession tid id old srv ∧ old.accountId = acct ∧ old.revokedAt = none

theorem keeps_only_member {acct : UUID} {version : Int}
    (keeps : KeepsOnly tid acct version kept writes srv) {write : Write}
    (mem : write ∈ writes) : ∃ id old, kept = some id ∧
      write = .session id { old with authzVersion := version } ∧ HasSession tid id old srv ∧
      old.accountId = acct ∧ old.revokedAt = none := by
  unfold KeepsOnly at keeps
  split at keeps
  · rw [keeps] at mem
    cases mem
  · rename_i id
    obtain ⟨old, isWrites, has, isAccount, unrevoked⟩ := keeps
    rw [isWrites] at mem
    exact ⟨id, old, rfl, mem_singleton.mp mem, has, isAccount, unrevoked⟩

theorem password_change_commits {acct : UUID}
    {lastTotpStep : Option Int} {changed : CredentialRow} {snap : Dict UUID SessionRow}
    {keptWrites : List Write} (hasAccount : HasAccount tid acct row srv)
    (hasCredential : HasCredential tid acct cred srv)
    (isLocal : row.identitySource = .localAccount) (isEnabled : row.enabled = true)
    (isChanged : changed.lastTotpStep = lastTotpStep)
    (steps : (step = none ∧ lastTotpStep = cred.lastTotpStep) ∨
      ∃ spent, step = some spent ∧ lastTotpStep = some spent ∧
        ∀ last, cred.lastTotpStep = some last → last < spent)
    (saw : SawSessions tid acct snap srv)
    (revoking : Revoking tid (isOtherSession acct kept)
      ((snap.items.filter fun item => isOtherSession acct kept item.1 item.2).map Prod.fst)
      written srv) (keeps : KeepsOnly tid acct (row.authzVersion + 1) kept keptWrites srv)
    (isPending : srv.pending tid = .credential acct changed ::
      .account acct { row with authzVersion := row.authzVersion + 1 } ::
        (written ++ keptWrites)) :
    Effects tid (.passwordChanged acct kept step)
        (.credential acct changed ::
          .account acct { row with authzVersion := row.authzVersion + 1 } ::
            (written ++ keptWrites)) srv ∧
      Reports init srv.trail
        (srv.record schema tid (.passwordChanged acct kept step)) := by
  have sessions : SessionWrites tid (.passwordChanged acct kept step) (written ++ keptWrites)
      srv := by
    intro write mem
    rcases mem_append.mp mem with inWritten | inKept
    · exact revoking_session_writes revoking write inWritten
    · obtain ⟨id, old, isKept, isWrite, has, _⟩ := keeps_only_member keeps inKept
      exact ⟨id, _, old, isWrite, has, rfl, fun revoked => revoked, .inl isKept⟩
  constructor
  · refine effects_local_change hasAccount hasCredential isLocal
      (account_moves_bump (decide_eq_true rfl) rfl rfl) (fun _ => decide_eq_false)
      (fun _ differ => if_neg differ) ?_ sessions
    have spends : (Event.passwordChanged acct kept step).spends acct = step := if_pos rfl
    rw [isChanged]
    constructor
    · intro spent isSpent
      rw [spends] at isSpent
      rcases steps with ⟨isNone, _⟩ | ⟨other, isStep, isLast, newer⟩
      · rw [isNone] at isSpent
        cases isSpent
      · rw [isStep] at isSpent
        cases isSpent
        exact ⟨isLast, fun _ => newer⟩
    · intro spendsNothing _
      rw [spends] at spendsNothing
      rcases steps with ⟨_, same⟩ | ⟨other, isStep, _⟩
      · exact same
      · rw [isStep] at spendsNothing
        cases spendsNothing
  · change OthersRevoked (srv.record schema tid _).after acct kept ∧ ∃ _, _
    rw [record_after isPending]
    refine ⟨others_revoked saw revoking ?_ ?_, { row with authzVersion := row.authzVersion + 1 }, ?_,
      isLocal, isEnabled, ?_⟩
    · intro write mem
      simp [mem]
    · intro id sess mem
      simp only [mem_cons, reduceCtorEq, false_or, mem_append] at mem
      rcases mem with inWritten | inKept
      · obtain ⟨other, old, moment, isWrite, _⟩ := revoking.rows _ inWritten
        cases isWrite
        exact .inl rfl
      · obtain ⟨other, old, isKept, isWrite, _⟩ := keeps_only_member keeps inKept
        cases isWrite
        exact .inr isKept
    · refine account_after (by simp) ?_
      intro other mem
      simp only [mem_cons, reduceCtorEq, false_or, Write.account.injEq] at mem
      rcases mem with ⟨_, isRow⟩ | inOthers
      · exact isRow
      · exact absurd inOthers (session_writes_account sessions)
    · rintro id rfl
      obtain ⟨old, isWrites, _, isAccount, unrevoked⟩ := keeps
      refine ⟨{ old with authzVersion := row.authzVersion + 1 }, ?_, isAccount, unrevoked, rfl⟩
      rw [isWrites]
      refine session_after (by simp) ?_
      intro other mem
      simp only [mem_cons, reduceCtorEq, false_or, mem_append, Write.session.injEq,
        not_mem_nil, or_false] at mem
      rcases mem with inWritten | ⟨_, isOther⟩
      · -- The statement that revokes passes over the kept session.
        obtain ⟨found, stored, moment, isWrite, _, selected⟩ := revoking.rows _ inWritten
        cases isWrite
        simp [isOtherSession] at selected
      · exact isOther

theorem change_password_ready (ciphers : Ciphers) (change : PasswordChange) (now : Datetime)
    (idle : srv.pending tid = []) :
    ReadyBlock init tid Anything (changePasswordBody ciphers change now) srv := by
  unfold changePasswordBody
  refine bind_select_account_and_credential kept_true (holds_idle idle) ?_ ?_
  · intro since after still
    exact safe_raise trivial
  · intro since after acct cred isLocal still
    dsimp only
    split
    · exact safe_raise trivial
    · rename_i lastTotpStep step accepted
      obtain ⟨isEnabled, steps⟩ := password_change_steps accepted
      split
      · exact safe_raise trivial
      · have holds : Holds tid [] since (fun cur =>
            HasCredential tid change.accountId cred cur ∧
              HasAccount tid change.accountId acct cur) after :=
          ⟨still.pending, still.seen, still.fact.2.2, still.fact.2.1⟩
        have kept : Kept (discipline init) tid (fun cur : LoginServer =>
            HasCredential tid change.accountId cred cur ∧
              HasAccount tid change.accountId acct cur) :=
          kept_and (kept_credential _ _) (kept_account _ _)
        refine bind_put kept holds ?_
        intro second holdsSecond
        refine bind_put kept holdsSecond ?_
        intro third holdsThird
        refine bind_revoke_others (kept_credential _ _) holdsThird (by simp) ?_
        intro sinceRevoke snap written revoked fourth holdsFourth
        have keptFourth : Kept (discipline init) tid (fun cur : LoginServer =>
            (HasCredential tid change.accountId cred cur ∧
              HasAccount tid change.accountId acct cur ∧
              SawSessions tid change.accountId snap cur) ∧
            Revoking tid (isOtherSession change.accountId change.currentSessionId)
              ((snap.items.filter fun item =>
                isOtherSession change.accountId change.currentSessionId item.1 item.2).map Prod.fst)
              written cur) :=
          kept_and (kept_and (kept_credential _ _) (kept_and (kept_account _ _)
            (kept_saw_sessions _ _))) (kept_revoking _ _ _)
        cases isKept : change.currentSessionId with
        | none =>
          rw [isKept] at keptFourth holdsFourth
          refine block_reports (ready_to_commit keptFourth holdsFourth ?_ ?_)
          · intro cur stillCurrent
            obtain ⟨⟨hasCredential, hasAccount, saw⟩, revoking⟩ := stillCurrent.fact
            have isPending := stillCurrent.pending
            rw [← append_nil written] at isPending
            have keeps : KeepsOnly tid change.accountId (acct.authzVersion + 1) none []
              cur := rfl
            have commits := @password_change_commits init tid cur _ _ _ _ _ _ _ _ _ _
              hasAccount hasCredential isLocal isEnabled rfl steps saw revoking keeps isPending
            rw [append_nil] at commits
            exact commits
          · intro _ _
            trivial
        | some id =>
          rw [isKept] at keptFourth holdsFourth
          have untouched : ∀ row, Write.session id row ∉ [] ++ [Write.credential change.accountId
              { cred with
                passwordScrypt := ciphers.hashPassword change.newPassword change.salt
                lastTotpStep := lastTotpStep }] ++ [Write.account change.accountId
              { acct with authzVersion := acct.authzVersion + 1 }] ++ written := by
            intro row mem
            simp only [nil_append, cons_append, mem_cons, reduceCtorEq, false_or] at mem
            obtain ⟨found, stored, moment, isWrite, _, selected⟩ :=
              holdsFourth.fact.2.rows _ mem
            cases isWrite
            simp [isOtherSession] at selected
          refine bind_keep_session keptFourth holdsFourth untouched ?_
          intro sinceKeep old last isAccount unrevoked holdsLast
          have keptLast := kept_and keptFourth (@kept_session init tid id old)
          refine block_reports (ready_to_commit keptLast holdsLast ?_ ?_)
          · intro cur stillCurrent
            obtain ⟨⟨⟨hasCredential, hasAccount, saw⟩, revoking⟩, has⟩ := stillCurrent.fact
            have isPending := stillCurrent.pending
            rw [append_assoc] at isPending ⊢
            have keeps : KeepsOnly tid change.accountId (acct.authzVersion + 1) (some id)
                [.session id { old with authzVersion := acct.authzVersion + 1 }] cur :=
              ⟨old, rfl, has, isAccount, unrevoked⟩
            have commits := @password_change_commits init tid cur _ _ _ _ _ _ _ _ _ _
              hasAccount hasCredential isLocal isEnabled rfl steps saw revoking keeps isPending
            exact commits
          · intro _ _
            trivial

theorem enroll_totp_ready (ciphers : Ciphers) (enrolment : TotpEnrolment) (now : Datetime)
    (idle : srv.pending tid = []) :
    ReadyBlock init tid Anything (enrollTotpBody ciphers enrolment now) srv := by
  unfold enrollTotpBody
  refine bind_select_account_and_credential kept_true (holds_idle idle) ?_ ?_
  · intro since after still
    exact safe_raise trivial
  · intro since after acct cred isLocal still
    dsimp only
    split
    · exact safe_raise trivial
    · have holds : Holds tid [] since (fun cur =>
          HasCredential tid enrolment.accountId cred cur ∧
            HasAccount tid enrolment.accountId acct cur) after :=
        ⟨still.pending, still.seen, still.fact.2.2, still.fact.2.1⟩
      have kept : Kept (discipline init) tid (fun cur : LoginServer =>
          HasCredential tid enrolment.accountId cred cur ∧
            HasAccount tid enrolment.accountId acct cur) :=
        kept_and (kept_credential _ _) (kept_account _ _)
      refine bind_put kept holds ?_
      intro second holdsSecond
      refine bind_put kept holdsSecond ?_
      intro third holdsThird
      refine bind_revoke_others (kept_credential _ _) holdsThird (by simp) ?_
      intro sinceRevoke snap written revoked fourth holdsFourth
      refine block_reports (ready_to_commit (kept_and (kept_and (kept_credential _ _)
        (kept_and (kept_account _ _) (kept_saw_sessions _ _))) (kept_revoking _ _ _))
        holdsFourth ?_ ?_)
      · intro cur stillCurrent
        obtain ⟨⟨hasCredential, hasAccount, saw⟩, revoking⟩ := stillCurrent.fact
        have sessions : SessionWrites tid (.totpEnrolled enrolment.accountId (totpStep now))
          written cur := revoking_session_writes revoking
        constructor
        · refine effects_local_change hasAccount hasCredential isLocal
            (account_moves_bump (decide_eq_true rfl) rfl rfl) (fun _ => decide_eq_false)
            (fun _ differ => if_neg differ) ?_ sessions
          have spends : (Event.totpEnrolled enrolment.accountId (totpStep now)).spends
              enrolment.accountId = some (totpStep now) := if_pos rfl
          have replaces : (Event.totpEnrolled enrolment.accountId (totpStep now)).replacesSecret
              enrolment.accountId = true := decide_eq_true rfl
          constructor
          · intro spent isSpent
            rw [spends] at isSpent
            refine ⟨isSpent, ?_⟩
            intro keepsSecret
            rw [replaces] at keepsSecret
            cases keepsSecret
          · intro spendsNothing
            rw [spends] at spendsNothing
            cases spendsNothing
        · change OthersRevoked (cur.record schema tid _).after enrolment.accountId none ∧ ∃ _, _
          rw [record_after stillCurrent.pending]
          refine ⟨others_revoked saw revoking (fun write mem => by simp [mem]) ?_,
            { acct with authzVersion := acct.authzVersion + 1 }, ?_, isLocal⟩
          · intro id sess mem
            simp only [nil_append, cons_append, mem_cons, reduceCtorEq, false_or] at mem
            obtain ⟨other, old, moment, isWrite, _⟩ := revoking.rows _ mem
            cases isWrite
            exact .inl rfl
          · refine account_after (by simp) ?_
            intro other mem
            simp only [nil_append, cons_append, mem_cons, reduceCtorEq, false_or,
              Write.account.injEq] at mem
            rcases mem with ⟨_, isRow⟩ | inOthers
            · exact isRow
            · exact absurd inOthers (session_writes_account sessions)
      · intro _ _
        trivial

theorem session_writes_nil : SessionWrites tid event [] srv := by
  intro write mem
  cases mem

theorem authenticate_break_glass_ready (ciphers : Ciphers) (login : BreakGlassLogin)
    (now : Datetime) (idle : srv.pending tid = []) (first : run tid srv.trail = []) :
    ReadyBlock init tid (LoginChecked tid) (authenticateBreakGlassBody ciphers login now)
      srv := by
  have starts : Holds tid [] (srv.seen tid)
      (fun cur : LoginServer => run tid cur.trail = []) srv := ⟨idle, rfl, first⟩
  unfold authenticateBreakGlassBody
  refine bind_select_break_glass kept_run starts ?_ ?_
  · intro since after still
    exact safe_raise trivial
  · intro since after accountId acct isBreakGlass still
    have kept : Kept (discipline init) tid (fun cur : LoginServer =>
        run tid cur.trail = [] ∧ HasAccount tid accountId acct cur) :=
      kept_and kept_run (kept_account accountId acct)
    dsimp only
    split
    · exact safe_raise trivial
    · refine bind_outside kept still (.inr rfl) ?_
      intro rateLimited second holdsSecond
      split
      · exact safe_raise trivial
      · split
        · exact reject_login_ready kept holdsSecond
        · rename_i notRejected
          have newer : ∀ last, acct.breakGlassLastTotpStep = some last → last < totpStep now := by
            intro last isLast
            by_contra older
            refine notRejected (.inr (.inr (.inr (.inr (.inl ?_)))))
            rw [isLast]
            simpa using older
          refine bind_put kept holdsSecond ?_
          intro third holdsThird
          refine accept_login_ready kept holdsThird (fun _ facts => facts.1) ?_ ?_
          · rintro cur ⟨_, has⟩
            exact ⟨acct, has.2, le_rfl⟩
          · rintro cur ⟨_, has⟩
            refine effects_account has ⟨rfl, ?_, fun _ => ⟨rfl, rfl⟩⟩ (fun _ _ => rfl)
              (fun _ differ => if_neg differ) ?_ session_writes_nil
            · intro bumps
              cases bumps
            · have isAfter : ([Write.account accountId
                  { acct with breakGlassLastTotpStep := some (totpStep now) }].foldl
                    apply cur.database).lastStep accountId = some (totpStep now) := by
                refine last_step_break_glass (account_after (mem_singleton_self _) ?_) isBreakGlass
                intro other mem
                cases mem_singleton.mp mem
                rfl
              have spends : (Event.checked accountId acct.authzVersion
                  (some (totpStep now))).spends accountId = some (totpStep now) := if_pos rfl
              rw [last_step_break_glass has.2 isBreakGlass, isAfter]
              constructor
              · intro spent isSpent
                rw [spends] at isSpent
                cases isSpent
                exact ⟨rfl, fun _ => newer⟩
              · intro spendsNothing
                rw [spends] at spendsNothing
                cases spendsNothing

theorem rotate_ready (ciphers : Ciphers) (rotation : Rotation) (idle : srv.pending tid = []) :
    ReadyBlock init tid Anything (rotateBody ciphers rotation) srv := by
  unfold rotateBody
  refine bind_select_break_glass kept_true (holds_idle idle) ?_ ?_
  · intro since after still
    exact safe_raise trivial
  · intro since after accountId acct isBreakGlass still
    dsimp only
    split
    · exact safe_raise trivial
    · rename_i notConflict
      simp only [not_or, not_not] at notConflict
      obtain ⟨rfl, _, _, _, _, isVersion⟩ := notConflict
      refine bind_put (kept_and kept_true (kept_account _ acct)) still ?_
      intro second holdsSecond
      refine bind_revoke_others kept_true holdsSecond (by simp) ?_
      intro sinceRevoke snap written revoked third holdsThird
      refine block_reports (ready_to_commit (kept_and (kept_and kept_true
        (kept_and (kept_account _ _) (kept_saw_sessions _ _))) (kept_revoking _ _ _))
        holdsThird ?_ ?_)
      · intro cur stillCurrent
        obtain ⟨⟨_, has, saw⟩, revoking⟩ := stillCurrent.fact
        have sessions : SessionWrites tid (.rotated rotation.accountId) written cur :=
          revoking_session_writes revoking
        constructor
        · refine effects_account has (account_moves_bump (decide_eq_true rfl) rfl ?_)
            (fun _ => decide_eq_false) (fun _ _ => rfl) ?_ sessions
          · rw [isVersion]
          · have replaces : (Event.rotated rotation.accountId).replacesSecret
                rotation.accountId = true := decide_eq_true rfl
            constructor
            · intro spent isSpent
              cases isSpent
            · intro _ keepsSecret
              rw [replaces] at keepsSecret
              cases keepsSecret
        · change OthersRevoked (cur.record schema tid _).after rotation.accountId none ∧ ∃ _, _
          rw [record_after stillCurrent.pending]
          refine ⟨others_revoked saw revoking (fun write mem => by simp [mem]) ?_, _,
            account_after mem_cons_self ?_, isBreakGlass⟩
          · intro id sess mem
            simp only [nil_append, cons_append, mem_cons, reduceCtorEq, false_or] at mem
            obtain ⟨other, old, moment, isWrite, _⟩ := revoking.rows _ mem
            cases isWrite
            exact .inl rfl
          · intro other mem
            simp only [nil_append, cons_append, mem_cons, Write.account.injEq] at mem
            rcases mem with ⟨_, isRow⟩ | inOthers
            · exact isRow
            · exact absurd inOthers (session_writes_account sessions)
      · intro _ _
        trivial

theorem record_rejection_ready (idle : srv.pending tid = []) :
    ReadyBlock init tid Anything (selectBreakGlass >>= fun _ => pure ((), .quiet)) srv := by
  refine bind_select_break_glass kept_true (holds_idle idle) ?_ ?_
  · intro since after still
    exact block_reports (ready_quiet kept_true still fun _ => trivial)
  · intro since after accountId acct _ still
    exact block_reports
      (ready_quiet (kept_and kept_true (kept_account accountId acct)) still fun _ => trivial)

end RtspProxy.Logins
