import RtspProxy.Logins.Blocks

/-!
# The transactions on sessions and authorizations are ready to commit

The blocks of `Requests`: an authorization change, the issue of a session, the
updates of one session and the resolution of an OIDC identity.
-/

namespace RtspProxy.Logins

open Nodes Access Lib Lib.ReadCommitted List
open Lib.Program Lib.Program.Prog

variable {init : Database} {tid since : Nat} {fact : LoginServer → Prop}
  {srv : LoginServer}

variable {id : UUID} {acct : AccountRow}

variable {event : Event}

theorem last_step_account {moved : AccountRow}
    (has : HasAccount tid id acct srv) (spends : event.spends id = none)
    (source : moved.identitySource = acct.identitySource)
    (same : moved.breakGlassLastTotpStep = acct.breakGlassLastTotpStep) :
    StepMoves event id (srv.database.lastStep id)
      (([Write.account id moved].foldl Database.apply srv.database).lastStep id) := by
  refine step_moves_same spends (last_step_same ?_ ?_)
  · intro row mem
    cases mem_singleton.mp mem
    rw [has.2]
    exact ⟨source, same⟩
  · simp

theorem update_authorization_ready (authorization : Authorization)
    (idle : srv.pending tid = []) :
    ReadyBlock init tid Anything (updateAuthorizationBody authorization) srv := by
  unfold updateAuthorizationBody
  refine bind_snapshot kept_true (holds_idle idle) ?_
  intro after _ still
  split
  · exact safe_raise trivial
  · split
    · exact safe_raise trivial
    · refine bind_lock_account kept_true still ?_ ?_
      · intro second _
        exact safe_raise trivial
      · intro second acct holdsSecond
        dsimp only
        split
        · exact safe_raise trivial
        · split
          · exact safe_raise trivial
          · split
            · exact safe_raise trivial
            · have kept : Kept (discipline init) tid (fun cur : LoginServer =>
                  True ∧ HasAccount tid authorization.accountId acct cur) :=
                kept_and kept_true (kept_account _ acct)
              refine bind_put kept holdsSecond ?_
              intro third holdsThird
              refine block_reports (ready_to_commit kept holdsThird ?_ ?_)
              · intro cur stillCurrent
                have has := stillCurrent.fact.2
                refine ⟨?_, trivial⟩
                exact effects_account has (account_moves_bump (decide_eq_true rfl) rfl rfl)
                  (fun _ => decide_eq_false) (fun _ _ => rfl) (last_step_account has rfl rfl rfl)
                  session_writes_nil
              · intro _ _
                trivial

/-- What the run so far says about the account a session is issued for. -/
structure Fits (events : List Event) (accountId : UUID) (want : Option Int) : Prop where
  checks : ∀ acct version step, .checked acct version step ∈ events →
    accountId = acct ∧ want = some version
  resolves : ∀ acct roles, .resolved acct roles ∈ events → accountId = acct

variable {Result : Type}

theorem bind_insert_session {ret : Result → LoginServer → Prop}
    {row : SessionRow} {next : Unit → LoginProg Result}
    (kept : Kept (discipline init) tid fact) (holds : Holds tid [] since fact srv)
    (continues : ∀ after, Holds tid [.session id row] since
        (fun cur => fact cur ∧ HasFreshSession tid id cur) after →
      Block init tid ret (next ()) after) :
    Block init tid ret (insertSession id row >>= next) srv := by
  unfold insertSession
  rw [bind_bind]
  refine bind_lock kept holds ?_
  intro second holdsSecond isHeld
  have isRead : schema.read (second.view schema tid) (.session id) =
      second.database.sessions.get id := by
    rw [view_of_pending holdsSecond.pending]
    rfl
  rw [isRead, bind_bind]
  by_cases isFresh : second.database.sessions.get id = none
  · refine bind_lock (kept_and kept (kept_fresh_session id))
      ⟨holdsSecond.pending, holdsSecond.seen, holdsSecond.fact, isHeld, isFresh⟩ ?_
    intro third holdsThird _
    split
    · exact safe_raise trivial
    · exact bind_put (kept_and kept (kept_fresh_session id)) holdsThird continues
  · refine bind_lock kept holdsSecond ?_
    intro third _ _
    rw [if_pos (.inl (Option.isSome_iff_ne_none.mpr isFresh))]
    exact safe_raise trivial

theorem excess_nodup (db : Database) (acctId newSessionId : UUID) :
    (db.excess acctId newSessionId).Nodup := by
  unfold Database.excess
  refine ((drop_sublist _ _).map Prod.fst).nodup ?_
  refine ((mergeSort_perm _ _).map Prod.fst).nodup_iff.mpr ?_
  exact (filter_sublist.map Prod.fst).nodup db.sessions.distinct

theorem excess_ne {db : Database} {acctId newSessionId : UUID}
    (mem : id ∈ db.excess acctId newSessionId) : id ≠ newSessionId := by
  unfold Database.excess at mem
  obtain ⟨item, inDropped, rfl⟩ := mem_map.mp mem
  have inFiltered := mem_mergeSort.mp (mem_of_mem_drop inDropped)
  have selected := (mem_filter.mp inFiltered).2
  simp only [Bool.and_eq_true, decide_eq_true_eq] at selected
  exact selected.2

theorem may_issue {want : Option Int} (issues : ¬mayIssue want acct = false) :
    acct.enabled = true ∧ ∀ version, want = some version → acct.authzVersion = version := by
  unfold mayIssue at issues
  simp only [Bool.not_eq_false, Bool.and_eq_true] at issues
  refine ⟨issues.1, ?_⟩
  rintro version rfl
  simpa using issues.2

theorem issue_session_commits {events : List Event} {acctId : UUID} {row : SessionRow}
    {want : Option Int} {cond : UUID → SessionRow → Bool} {done : List UUID}
    {written : List Write} (fits : Fits events acctId want)
    (isRun : run tid srv.trail = events) (has : HasAccount tid acctId acct srv)
    (fresh : HasFreshSession tid id srv) (revoking : Revoking tid cond done written srv)
    (isAccount : row.accountId = acctId) (isVersion : row.authzVersion = acct.authzVersion)
    (unrevoked : row.revokedAt = none) (issues : acct.enabled = true ∧
      ∀ version, want = some version → acct.authzVersion = version)
    (isPending : srv.pending tid = .session id row :: written) :
    Effects tid (.issued id) (.session id row :: written) srv ∧
      Reports init srv.trail (srv.record schema tid (.issued id)) := by
  have sessions : SessionWrites tid (.issued id) written srv :=
    revoking_session_writes revoking
  constructor
  · exact
      { owned := by
          intro write mem
          rcases mem_cons.mp mem with rfl | inWritten
          · refine ⟨fresh.1, .inl ?_⟩
            rw [isAccount]
            exact has.1
          · exact session_writes_owned sessions write inWritten
        accounts := by
          intro other stored mem
          rcases mem_cons.mp mem with isFirst | inWritten
          · cases isFirst
          · exact absurd inWritten (session_writes_account sessions)
        bumps := by
          intro other bumps
          cases bumps
        sessions := by
          intro other stored mem old found
          rcases mem_cons.mp mem with isFirst | inWritten
          · cases isFirst
            rw [fresh.2] at found
            cases found
          · exact session_writes_move sessions inWritten found
        steps := by
          intro other
          refine step_moves_same rfl (last_step_same ?_ ?_)
          · intro stored mem
            rcases mem_cons.mp mem with isFirst | inWritten
            · cases isFirst
            · exact absurd inWritten (session_writes_account sessions)
          · intro stored mem
            rcases mem_cons.mp mem with isFirst | inWritten
            · cases isFirst
            · exact absurd inWritten (session_writes_credential sessions) }
  · have isAfter : (srv.record schema tid (.issued id)).after =
        (Write.session id row :: written).foldl Database.apply srv.database :=
      record_after isPending
    have foundSession : (srv.record schema tid (.issued id)).after.sessions.get id =
        some row := by
      rw [isAfter]
      refine session_after mem_cons_self ?_
      intro other mem
      rcases mem_cons.mp mem with isFirst | inWritten
      · cases isFirst
        rfl
      · obtain ⟨_, _, old, isWrite, hasSession, _⟩ := sessions _ inWritten
        cases isWrite
        have present := hasSession.2
        rw [fresh.2] at present
        cases present
    have foundAccount : (srv.record schema tid (.issued id)).after.accounts.get acctId =
        some acct := by
      rw [isAfter]
      rcases Database.accounts_writes srv.database (.session id row :: written) acctId with
        ⟨stored, mem, _⟩ | ⟨_, same⟩
      · rcases mem_cons.mp mem with isFirst | inWritten
        · cases isFirst
        · exact absurd inWritten (session_writes_account sessions)
      · rw [same]
        exact has.2
    refine ⟨row, acct, fresh.2, foundSession, ?_, unrevoked, issues.1, isVersion, ?_, ?_⟩
    · rw [isAccount]
      exact foundAccount
    · intro other version step mem
      have fit := fits.checks other version step (isRun ▸ mem)
      exact ⟨isAccount.trans fit.1, issues.2 version fit.2⟩
    · intro other roles mem
      exact isAccount.trans (fits.resolves other roles (isRun ▸ mem))

theorem issue_session_ready {events : List Event} (draw : SessionDraw) (acctId : UUID)
    (mfaVerified : Bool) (want : Option Int) (idle : srv.pending tid = [])
    (isRun : run tid srv.trail = events) (fits : Fits events acctId want) :
    ReadyBlock init tid Anything (issueSessionBody draw acctId mfaVerified want)
      srv := by
  have starts : Holds tid [] (srv.seen tid)
      (fun cur : LoginServer => run tid cur.trail = events) srv := ⟨idle, rfl, isRun⟩
  unfold issueSessionBody
  refine bind_snapshot kept_run starts ?_
  intro after _ still
  split
  · exact safe_raise trivial
  · refine bind_lock_account kept_run still ?_ ?_
    · intro second _
      exact safe_raise trivial
    · intro second acct holdsSecond
      dsimp only
      split
      · exact safe_raise trivial
      · rename_i issues
        have kept : Kept (discipline init) tid (fun cur : LoginServer =>
            run tid cur.trail = events ∧ HasAccount tid acctId acct cur) :=
          kept_and kept_run (kept_account acctId acct)
        refine bind_outside kept holdsSecond (.inl rfl) ?_
        intro moment third holdsThird
        refine bind_insert_session kept holdsThird ?_
        intro fourth holdsFourth
        have keptFourth := kept_and kept (@kept_fresh_session init tid draw.sessionId)
        refine bind_snapshot keptFourth holdsFourth ?_
        intro fifth _ holdsFifth
        refine bind_revoke_found keptFourth (excess_nodup _ _ _) ?_ holdsFifth ?_
        · intro id mem row isFirst
          cases mem_singleton.mp isFirst
          exact excess_ne mem rfl
        · intro written revoked last holdsLast
          refine block_reports (ready_to_commit (kept_and keptFourth (kept_revoking _ _ _)) holdsLast
            ?_ ?_)
          · intro cur stillCurrent
            obtain ⟨⟨⟨isRunNow, has⟩, fresh⟩, revoking⟩ := stillCurrent.fact
            exact issue_session_commits fits isRunNow has fresh revoking rfl rfl rfl
              (may_issue issues) stillCurrent.pending
          · intro _ _
            trivial

theorem effects_sessions {writes : List Write}
    (noBump : ∀ id, event.bumps id = false) (spendsNothing : ∀ acct, event.spends acct = none)
    (sessions : SessionWrites tid event writes srv) : Effects tid event writes srv where
  owned := session_writes_owned sessions
  accounts _ _ mem := absurd mem (session_writes_account sessions)
  bumps id bumps := by
    rw [noBump id] at bumps
    cases bumps
  sessions _ _ mem _ found := session_writes_move sessions mem found
  steps acct := step_moves_same (spendsNothing acct)
    (last_step_same (fun _ mem => absurd mem (session_writes_account sessions))
      fun _ mem => absurd mem (session_writes_credential sessions))

/-- Assignments that leave a session with its account, its version and its revocation. -/
def Harmless (assign : SessionRow → Datetime → SessionRow) : Prop :=
  ∀ row now, (assign row now).accountId = row.accountId ∧
    (assign row now).authzVersion = row.authzVersion ∧
    (assign row now).revokedAt = row.revokedAt

theorem update_session_ready {sessionId : UUID}
    {selects : AccountRow → SessionRow → Datetime → Bool}
    {assign : SessionRow → Datetime → SessionRow} (harmless : Harmless assign)
    (isEvent : event = .quiet ∨ event = .touched sessionId)
    (cur : ∀ acct row now, selects acct row now = true →
      acct.authzVersion = row.authzVersion) (idle : srv.pending tid = []) :
    ReadyBlock init tid Anything (updateSession sessionId selects assign event) srv := by
  unfold updateSession
  refine bind_snapshot kept_true (holds_idle idle) ?_
  intro after hist still
  have isView : after.view schema tid = after.database := view_of_pending still.pending
  rw [isView]
  -- The account of the snapshot stays what the first entries of the trail lead to.
  have seen : after.trail.length ≤ after.trail.length ∧
      replay init (after.trail.take after.trail.length) = after.database := by
    rw [take_length]
    exact ⟨le_rfl, history_replay hist⟩
  have keptSeen : Kept (discipline init) tid (fun srv : LoginServer =>
      True ∧ after.trail.length ≤ srv.trail.length ∧
        replay init (srv.trail.take after.trail.length) = after.database) :=
    kept_and kept_true kept_replay
  have holds : Holds tid [] after.trail.length (fun srv : LoginServer =>
      True ∧ after.trail.length ≤ srv.trail.length ∧
        replay init (srv.trail.take after.trail.length) = after.database) after :=
    ⟨still.pending, still.seen, trivial, seen⟩
  refine bind_outside keptSeen holds (.inl rfl) ?_
  intro moment second holdsSecond
  have nothing : ∀ {srv : LoginServer}, Holds tid [] after.trail.length
      (fun srv : LoginServer => True ∧ after.trail.length ≤ srv.trail.length ∧
        replay init (srv.trail.take after.trail.length) = after.database) srv →
      ReadyBlock init tid Anything (pure (none, .quiet) :
        LoginProg (Option (SessionRow × AccountRow) × Event)) srv :=
    fun stillHolds => block_reports (ready_quiet keptSeen stillHolds fun _ => trivial)
  split
  · exact nothing holdsSecond
  · rename_i found isFound
    split
    · exact nothing holdsSecond
    · rename_i acct isAccount
      split
      · exact nothing holdsSecond
      · refine bind_lock keptSeen holdsSecond ?_
        intro third holdsThird isHeld
        have isRead : schema.read (third.view schema tid) (.session sessionId) =
            third.database.sessions.get sessionId := by
          rw [view_of_pending holdsThird.pending]
          rfl
        rw [isRead]
        cases isRow : third.database.sessions.get sessionId with
        | none =>
          refine bind_outside keptSeen holdsThird (.inl rfl) ?_
          intro now fourth holdsFourth
          exact nothing holdsFourth
        | some row =>
          have kept := kept_and keptSeen (@kept_session init tid sessionId row)
          refine bind_outside kept
            ⟨holdsThird.pending, holdsThird.seen, holdsThird.fact, isHeld, isRow⟩ (.inl rfl) ?_
          intro now fourth holdsFourth
          dsimp only
          split
          · exact nothing ⟨holdsFourth.pending, holdsFourth.seen, holdsFourth.fact.1⟩
          · rename_i selected
            simp only [not_or, not_not, Bool.not_eq_false] at selected
            refine bind_put kept holdsFourth ?_
            intro fifth holdsFifth
            refine block_reports (ready_to_commit kept holdsFifth ?_ ?_)
            · intro last stillLast
              obtain ⟨⟨_, _, isReplay⟩, has⟩ := stillLast.fact
              obtain ⟨sameAccount, sameVersion, sameRevoked⟩ := harmless row now
              have sessions : SessionWrites tid event
                  [.session sessionId (assign row now)] last := by
                intro write mem
                refine ⟨sessionId, assign row now, row, mem_singleton.mp mem, has,
                  sameAccount, ?_, .inr sameVersion⟩
                rw [sameRevoked]
                exact fun revoked => revoked
              refine ⟨effects_sessions ?_ ?_ sessions, ?_⟩
              · intro id
                rcases isEvent with rfl | rfl
                · rfl
                · rfl
              · intro id
                rcases isEvent with rfl | rfl
                · rfl
                · rfl
              · rcases isEvent with rfl | rfl
                · trivial
                · refine ⟨row, acct, has.2, ?_, cur acct row now selected.2⟩
                  have isSince : (last.record schema tid (.touched sessionId)).since =
                      after.trail.length := stillLast.seen
                  rw [isSince, isReplay, selected.1]
                  exact isAccount
            · intro _ _
              trivial

theorem revoke_session_ready (tokenSha256 : String) (idle : srv.pending tid = []) :
    ReadyBlock init tid Anything (revokeWhere (isOpenSession tokenSha256) >>= fun ids =>
      pure (!ids.isEmpty, .quiet)) srv := by
  unfold revokeWhere
  rw [bind_bind]
  refine bind_snapshot kept_true (holds_idle idle) ?_
  intro after _ still
  refine bind_revoke_found kept_true (selected_nodup _ _) (by simp) still ?_
  intro written revoked last holdsLast
  refine block_reports (ready_to_commit (kept_and kept_true (kept_revoking _ _ _)) holdsLast ?_ ?_)
  · intro cur stillCurrent
    exact ⟨effects_sessions (fun _ => rfl) (fun _ => rfl)
      (revoking_session_writes stillCurrent.fact.2), trivial⟩
  · intro _ _
    trivial

/-- What a resolution leaves behind in the run of its thread. -/
def IdentityResolved (tid : Nat) (accountId : UUID) (srv : LoginServer) : Prop :=
  ∃ roles, run tid srv.trail = [.resolved accountId roles]

def HasNoAccount (tid : Nat) (id : UUID) (srv : LoginServer) : Prop :=
  srv.holder (.account id) = some tid ∧ srv.database.accounts.get id = none

theorem kept_no_account (id : UUID) :
    Kept (discipline init) tid (HasNoAccount tid id) := by
  rintro before after near ⟨isHeld, found⟩
  exact ⟨near.held _ isHeld, (near.still _ isHeld).1.trans found⟩

theorem bind_select_oidc {ret : Result → LoginServer → Prop} {subject : String}
    {next : Option (UUID × AccountRow) → LoginProg Result}
    (kept : Kept (discipline init) tid fact) (holds : Holds tid [] since fact srv)
    (missing : ∀ since after, Holds tid [] since fact after → Block init tid ret (next none) after)
    (found : ∀ since after acctId acct, acct.identitySource = .oidc → Holds tid [] since
        (fun cur => fact cur ∧ HasAccount tid acctId acct cur) after →
      Block init tid ret (next (some (acctId, acct))) after) :
    Block init tid ret (selectOidc subject >>= next) srv := by
  unfold selectOidc
  rw [bind_bind]
  refine bind_snapshot kept holds ?_
  intro after _ still
  split
  · exact missing _ after still
  · rename_i acctId _ _
    rw [bind_bind]
    refine bind_lock_account kept still ?_ ?_
    · intro later holdsLater
      exact missing _ later holdsLater
    · intro later acct holdsLater
      dsimp only
      split_ifs with isOidc
      · exact found _ later acctId acct isOidc.1 holdsLater
      · exact missing _ later ⟨holdsLater.pending, holdsLater.seen, holdsLater.fact.1⟩

theorem bind_insert_oidc {ret : Result → LoginServer → Prop} {row : AccountRow}
    {next : Unit → LoginProg Result} (kept : Kept (discipline init) tid fact)
    (holds : Holds tid [] since fact srv) (continues : ∀ after, Holds tid [.account id row] since
        (fun cur => fact cur ∧ HasNoAccount tid id cur) after →
      Block init tid ret (next ()) after) :
    Block init tid ret (insertOidc id row >>= next) srv := by
  unfold insertOidc
  rw [bind_bind]
  refine bind_lock kept holds ?_
  intro second holdsSecond _
  rw [bind_bind]
  refine bind_lock kept holdsSecond ?_
  intro third holdsThird isHeld
  have isRead : schema.read (third.view schema tid) (.account id) =
      third.database.accounts.get id := by
    rw [view_of_pending holdsThird.pending]
    rfl
  rw [isRead]
  split
  · exact safe_raise trivial
  · split
    · exact safe_raise trivial
    · rename_i isFree
      have isNone : third.database.accounts.get id = none := by simpa using isFree
      exact bind_put (kept_and kept (kept_no_account id))
        ⟨holdsThird.pending, holdsThird.seen, holdsThird.fact, isHeld, isNone⟩ continues

theorem insert_oidc_commits {row : AccountRow} {roles : Finset OperatorRole}
    (free : HasNoAccount tid id srv) (isOidc : row.identitySource = .oidc)
    (isRoles : row.roles = roles) (isPending : srv.pending tid = [.account id row]) :
    Effects tid (.resolved id roles) [.account id row] srv ∧
      Reports init srv.trail (srv.record schema tid (.resolved id roles)) := by
  constructor
  · exact
      { owned := by
          intro write mem
          rw [mem_singleton.mp mem]
          exact free.1
        accounts := by
          intro other stored mem old found
          cases mem_singleton.mp mem
          rw [free.2] at found
          cases found
        bumps := by
          intro other bumps
          cases bumps
        sessions := by simp
        steps := by
          intro other
          refine step_moves_same rfl (last_step_same ?_ (by simp))
          intro stored mem
          cases mem_singleton.mp mem
          rw [free.2]
          exact isOidc }
  · refine ⟨row, ?_, isOidc, isRoles⟩
    have isAfter : (srv.record schema tid (.resolved id roles)).after =
      [Write.account id row].foldl Database.apply srv.database := record_after isPending
    rw [isAfter]
    exact Dict.get_set_self _ _ _

theorem resolve_commits {moved : AccountRow} {roles : Finset OperatorRole}
    (has : HasAccount tid id acct srv) (isOidc : acct.identitySource = .oidc)
    (isMoved : moved = { acct with displayName := moved.displayName })
    (isRoles : acct.roles = roles) (isPending : srv.pending tid = [.account id moved]) :
    Effects tid (.resolved id roles) [.account id moved] srv ∧
      Reports init srv.trail (srv.record schema tid (.resolved id roles)) := by
  have source : moved.identitySource = acct.identitySource := by rw [isMoved]
  have sameRoles : moved.roles = acct.roles := by rw [isMoved]
  constructor
  · refine effects_account has ⟨source, ?_, fun _ => ⟨by rw [isMoved], sameRoles⟩⟩ (fun _ _ => rfl)
      (fun _ _ => rfl) (last_step_account has rfl source (by rw [isMoved])) session_writes_nil
    intro bumps
    cases bumps
  · refine ⟨moved, ?_, source.trans isOidc, sameRoles.trans isRoles⟩
    have isAfter : (srv.record schema tid (.resolved id roles)).after =
      [Write.account id moved].foldl Database.apply srv.database := record_after isPending
    rw [isAfter]
    exact Dict.get_set_self _ _ _

theorem resolve_ready (ciphers : Ciphers) (identity : OidcIdentity) (acctId : UUID)
    (idle : srv.pending tid = []) (first : run tid srv.trail = []) :
    ReadyBlock init tid (IdentityResolved tid) (resolveBody ciphers identity acctId)
      srv := by
  have starts : Holds tid [] (srv.seen tid)
      (fun cur : LoginServer => run tid cur.trail = []) srv := ⟨idle, rfl, first⟩
  unfold resolveBody
  refine bind_select_oidc kept_run starts ?_ ?_
  · intro since after still
    refine bind_snapshot kept_run still ?_
    intro second _ holdsSecond
    split
    · exact safe_raise trivial
    · refine bind_insert_oidc kept_run holdsSecond ?_
      intro third holdsThird
      refine block_reports (ready_to_commit (kept_and kept_run (kept_no_account acctId))
        holdsThird ?_ ?_)
      · intro cur stillCurrent
        exact insert_oidc_commits stillCurrent.fact.2 rfl rfl stillCurrent.pending
      · intro cur stillCurrent
        exact ⟨identity.roles, run_commit stillCurrent.fact.1⟩
  · intro since after found acct isOidc still
    have kept : Kept (discipline init) tid (fun cur : LoginServer =>
        run tid cur.trail = [] ∧ HasAccount tid found acct cur) :=
      kept_and kept_run (kept_account found acct)
    dsimp only
    split
    · exact safe_raise trivial
    · rename_i fits
      have isRoles : acct.roles = identity.roles := by
        by_contra differ
        exact fits (.inr differ)
      split
      · refine bind_put kept still ?_
        intro second holdsSecond
        refine block_reports (ready_to_commit kept holdsSecond ?_ ?_)
        · intro cur stillCurrent
          exact resolve_commits stillCurrent.fact.2 isOidc rfl isRoles stillCurrent.pending
        · intro cur stillCurrent
          exact ⟨identity.roles, run_commit stillCurrent.fact.1⟩
      · refine block_reports (ready_to_commit kept still ?_ ?_)
        · intro cur stillCurrent
          refine ⟨effects_nil (fun _ => rfl) fun _ => rfl, acct, ?_, isOidc, isRoles⟩
          have isAfter : (cur.record schema tid (.resolved found identity.roles)).after =
            cur.database := record_after stillCurrent.pending
          rw [isAfter]
          exact stillCurrent.fact.2.2
        · intro cur stillCurrent
          exact ⟨identity.roles, run_commit stillCurrent.fact.1⟩

end RtspProxy.Logins
