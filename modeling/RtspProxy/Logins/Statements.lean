import RtspProxy.Logins.Locks

/-!
# Rules for the statements of the stores

One rule for each `SELECT .. FOR UPDATE` and each `UPDATE` of sessions: what the
thread knows about the rows once the statement returned. The rules are stated
for the rest of the block, so that a block is followed from one statement to the
next.
-/

namespace RtspProxy.Logins

open Nodes Access Lib Lib.ReadCommitted List
open Lib.Program Lib.Program.Prog

variable {init : Database} {tid since : Nat} {Result : Type}
  {ret : Result → LoginServer → Prop} {fact : LoginServer → Prop} {srv : LoginServer}

variable {accountId : UUID}

variable {cond : UUID → CredentialRow → Bool}

theorem local_row_found {db : Database} {acct : AccountRow} {cred : CredentialRow}
    (found : db.localRow cond = some (accountId, acct, cred)) :
    db.accounts.get accountId = some acct ∧ acct.identitySource = .localAccount := by
  obtain ⟨item, _, isRow⟩ := exists_of_findSome?_eq_some found
  cases isAccount : db.accounts.get item.1 with
  | none =>
    rw [isAccount] at isRow
    cases isRow
  | some row =>
    rw [isAccount] at isRow
    dsimp only at isRow
    split_ifs at isRow with isLocal
    cases isRow
    exact ⟨isAccount, isLocal.1⟩

theorem saw_account_self {id : UUID} {row : AccountRow}
    (found : srv.database.accounts.get id = some row) : SawAccount id row srv :=
  ⟨row, found, rfl, le_rfl⟩

variable (kept : Kept (discipline init) tid fact)

include kept

variable (holds : Holds tid [] since fact srv)

include holds

theorem bind_select_credential
    {next : Option (UUID × AccountRow × CredentialRow) → LoginProg Result}
    (missing : ∀ since after, Holds tid [] since fact after →
      Block init tid ret (next none) after) (found : ∀ since after accountId acct cred,
      acct.identitySource = .localAccount → cond accountId cred = true →
      Holds tid [] since (fun cur => fact cur ∧ SawAccount accountId acct cur ∧
        HasCredential tid accountId cred cur) after →
      Block init tid ret (next (some (accountId, acct, cred))) after) :
    Block init tid ret (selectCredential cond >>= next) srv := by
  unfold selectCredential
  rw [bind_bind]
  refine bind_snapshot kept holds ?_
  intro after _ still
  have isView : after.view schema tid = after.database := view_of_pending still.pending
  rw [isView]
  cases isRow : after.database.localRow cond with
  | none => exact missing _ after still
  | some row =>
    obtain ⟨accountId, acct, first⟩ := row
    obtain ⟨foundAccount, isLocal⟩ := local_row_found isRow
    rw [bind_bind]
    refine bind_lock (kept_and kept (kept_saw_account accountId acct))
      ⟨still.pending, still.seen, still.fact, saw_account_self foundAccount⟩ ?_
    intro later holdsLater isHeld
    have laterView : later.view schema tid = later.database :=
      view_of_pending holdsLater.pending
    rw [laterView]
    have isRead : schema.read later.database (.credential accountId) =
      later.database.credentials.get accountId := rfl
    rw [isRead]
    have forgotten : Holds tid [] after.trail.length fact later :=
      ⟨holdsLater.pending, holdsLater.seen, holdsLater.fact.1⟩
    cases isLocked : later.database.credentials.get accountId with
    | none => exact missing _ later forgotten
    | some cred =>
      dsimp only
      split_ifs with selected
      · exact found _ later accountId acct cred isLocal selected
          ⟨holdsLater.pending, holdsLater.seen, holdsLater.fact.1, holdsLater.fact.2, isHeld,
            isLocked⟩
      · exact missing _ later forgotten

theorem bind_lock_account {next : Option AccountRow → LoginProg Result}
    (missing : ∀ after, Holds tid [] since fact after → Block init tid ret (next none) after)
    (found : ∀ after acct, Holds tid [] since
        (fun cur => fact cur ∧ HasAccount tid accountId acct cur) after →
      Block init tid ret (next (some acct)) after) :
    Block init tid ret (lockAccount accountId >>= next) srv := by
  refine bind_lock kept holds ?_
  intro after still isHeld
  have isView : after.view schema tid = after.database := view_of_pending still.pending
  rw [isView]
  have isRead : schema.read after.database (.account accountId) =
    after.database.accounts.get accountId := rfl
  rw [isRead]
  cases isAccount : after.database.accounts.get accountId with
  | none => exact missing after still
  | some acct =>
    exact found after acct ⟨still.pending, still.seen, still.fact, isHeld, isAccount⟩

theorem bind_select_account_and_credential
    {next : Option (AccountRow × CredentialRow) → LoginProg Result}
    (missing : ∀ since after, Holds tid [] since fact after → Block init tid ret (next none) after)
    (found : ∀ since after acct cred, acct.identitySource = .localAccount →
      Holds tid [] since (fun cur => fact cur ∧ HasAccount tid accountId acct cur ∧
        HasCredential tid accountId cred cur) after →
      Block init tid ret (next (some (acct, cred))) after) :
    Block init tid ret (selectAccountAndCredential accountId >>= next) srv := by
  unfold selectAccountAndCredential
  rw [bind_bind]
  refine bind_snapshot kept holds ?_
  intro after _ still
  split
  · exact missing _ after still
  · rw [bind_bind]
    refine bind_lock_account kept still ?_ ?_
    · intro second holdsSecond
      rw [bind_bind]
      refine bind_lock kept holdsSecond ?_
      intro third holdsThird _
      exact missing _ third holdsThird
    · intro second acct holdsSecond
      rw [bind_bind]
      refine bind_lock (kept_and kept (kept_account accountId acct)) holdsSecond ?_
      intro third holdsThird credentialHeld
      have thirdView : third.view schema tid = third.database :=
        view_of_pending holdsThird.pending
      rw [thirdView]
      have isRead : schema.read third.database (.credential accountId) =
        third.database.credentials.get accountId := rfl
      rw [isRead]
      have forgotten : Holds tid [] after.trail.length fact third :=
        ⟨holdsThird.pending, holdsThird.seen, holdsThird.fact.1⟩
      cases isCredential : third.database.credentials.get accountId with
      | none => exact missing _ third forgotten
      | some cred =>
        dsimp only
        split_ifs with isLocal
        · exact found _ third acct cred isLocal
            ⟨holdsThird.pending, holdsThird.seen, holdsThird.fact.1, holdsThird.fact.2,
              credentialHeld, isCredential⟩
        · exact missing _ third forgotten

theorem bind_select_break_glass {next : Option (UUID × AccountRow) → LoginProg Result}
    (missing : ∀ since after, Holds tid [] since fact after → Block init tid ret (next none) after)
    (found : ∀ since after accountId acct, acct.identitySource = .breakGlass →
      Holds tid [] since
        (fun cur => fact cur ∧ HasAccount tid accountId acct cur) after →
      Block init tid ret (next (some (accountId, acct))) after) :
    Block init tid ret (selectBreakGlass >>= next) srv := by
  unfold selectBreakGlass
  rw [bind_bind]
  refine bind_snapshot kept holds ?_
  intro after _ still
  split
  · exact missing _ after still
  · rename_i accountId _ _
    rw [bind_bind]
    refine bind_lock_account kept still ?_ ?_
    · intro later holdsLater
      exact missing _ later holdsLater
    · intro later acct holdsLater
      dsimp only
      split_ifs with isBreakGlass
      · exact found _ later accountId acct isBreakGlass holdsLater
      · exact missing _ later ⟨holdsLater.pending, holdsLater.seen, holdsLater.fact.1⟩

omit holds

omit kept

/-- The sessions a loop has gone through: it revoked them, or they were not what it looks for. -/
structure Revoking (tid : Nat) (cond : UUID → SessionRow → Bool) (done : List UUID)
    (written : List Write) (srv : LoginServer) : Prop where
  rows : ∀ write ∈ written, ∃ id old moment,
    write = .session id { old with revokedAt := some moment } ∧
      HasSession tid id old srv ∧ cond id old = true
  handled : ∀ id ∈ done, (∃ row, .session id row ∈ written) ∨ (srv.holder (.session id) = some tid ∧
      ∀ row, srv.database.sessions.get id = some row → cond id row = false)

theorem kept_revoking (cond : UUID → SessionRow → Bool) (done : List UUID) (written : List Write) :
    Kept (discipline init) tid (Revoking tid cond done written) := by
  intro pre after near revoking
  constructor
  · intro write mem
    obtain ⟨id, old, moment, isWrite, has, selected⟩ := revoking.rows write mem
    exact ⟨id, old, moment, isWrite, kept_session id old pre after near has, selected⟩
  · intro id mem
    rcases revoking.handled id mem with isWritten | ⟨isHeld, passed⟩
    · exact .inl isWritten
    · refine .inr ⟨near.held _ isHeld, ?_⟩
      intro row found
      have same : after.database.sessions.get id = pre.database.sessions.get id :=
        near.still _ isHeld
      rw [same] at found
      exact passed row found

variable {cond : UUID → SessionRow → Bool}

theorem revoking_nil : Revoking tid cond [] [] srv :=
  ⟨by simp, by simp⟩

theorem revoking_written {done : List UUID} {written : List Write} {id : UUID} {old : SessionRow}
    {moment : Datetime} (revoking : Revoking tid cond done written srv)
    (has : HasSession tid id old srv) (selected : cond id old = true) :
    Revoking tid cond (done ++ [id])
      (written ++ [.session id { old with revokedAt := some moment }]) srv where
  rows write mem := by
    rcases mem_append.mp mem with pre | isNew
    · exact revoking.rows write pre
    · rw [mem_singleton.mp isNew]
      exact ⟨id, old, moment, rfl, has, selected⟩
  handled other mem := by
    rcases mem_append.mp mem with pre | isNew
    · rcases revoking.handled other pre with ⟨row, isWritten⟩ | passed
      · exact .inl ⟨row, mem_append_left _ isWritten⟩
      · exact .inr passed
    · rw [mem_singleton.mp isNew]
      exact .inl ⟨_, mem_append_right _ (mem_singleton_self _)⟩

theorem revoking_passed {done : List UUID} {written : List Write} {id : UUID}
    (revoking : Revoking tid cond done written srv) (isHeld : srv.holder (.session id) = some tid)
    (passed : ∀ row, srv.database.sessions.get id = some row → cond id row = false) :
    Revoking tid cond (done ++ [id]) written srv where
  rows := revoking.rows
  handled other mem := by
    rcases mem_append.mp mem with pre | isNew
    · exact revoking.handled other pre
    · rw [mem_singleton.mp isNew]
      exact .inr ⟨isHeld, passed⟩

variable {writes : List Write}

/-- The loop of an `UPDATE .. SET revoked_at`, by induction on the rows it found: every row is new
to the transaction, so what the lock answers is what is committed. -/
theorem bind_revoke_rows (kept : Kept (discipline init) tid fact) (ids : List UUID) :
    ∀ {done : List UUID} {written : List Write} {srv : LoginServer}
      {next : List UUID → LoginProg Result}, ids.Nodup →
      (∀ id ∈ ids, ∀ row, Write.session id row ∉ writes ++ written) →
      Holds tid (writes ++ written) since
        (fun cur => fact cur ∧ Revoking tid cond done written cur) srv →
      (∀ written revoked after, Holds tid (writes ++ written) since (fun cur =>
          fact cur ∧ Revoking tid cond (done ++ ids) written cur) after →
        Block init tid ret (next revoked) after) →
      Block init tid ret (revokeRows cond ids >>= next) srv := by
  induction ids with
  | nil =>
    intro done written srv next _ _ holds continues
    rw [append_nil] at continues
    exact continues written [] srv holds
  | cons id rest ih =>
    intro done written srv next distinct untouched holds continues
    obtain ⟨notRest, restDistinct⟩ := nodup_cons.mp distinct
    unfold revokeRows
    rw [bind_bind]
    refine bind_lock (kept_and kept (kept_revoking cond done written)) holds ?_
    intro after still isHeld
    have isRead : schema.read (after.view schema tid) (.session id) =
        after.database.sessions.get id := by
      rw [view_of_pending still.pending]
      rcases Database.sessions_writes after.database (writes ++ written) id with
        ⟨row, mem, _⟩ | ⟨_, same⟩
      · exact absurd mem (untouched id mem_cons_self row)
      · exact same
    rw [isRead]
    have isAppend : done ++ id :: rest = (done ++ [id]) ++ rest := by simp
    -- The rest of the loop after a row that is left alone.
    have leave : (∀ row, after.database.sessions.get id = some row → cond id row = false) →
        Block init tid ret (revokeRows cond rest >>= next) after := by
      intro passed
      rw [isAppend] at continues
      exact ih restDistinct
        (fun other mem => untouched other (mem_cons_of_mem _ mem))
        ⟨still.pending, still.seen, still.fact.1, revoking_passed still.fact.2 isHeld passed⟩
        continues
    cases isRow : after.database.sessions.get id with
    | none =>
      refine leave ?_
      intro row found
      rw [isRow] at found
      cases found
    | some row =>
      dsimp only
      split_ifs with selected
      · rw [bind_bind]
        refine bind_outside (kept_and (kept_and kept (kept_revoking cond done written))
          (kept_session id row))
          ⟨still.pending, still.seen, still.fact, isHeld, isRow⟩ (.inl rfl) ?_
        intro moment second holdsSecond
        rw [bind_bind]
        refine bind_put (kept_and (kept_and kept (kept_revoking cond done written))
          (kept_session id row)) holdsSecond ?_
        intro third holdsThird
        rw [bind_bind]
        rw [isAppend] at continues
        refine ih restDistinct ?_
          ⟨by rw [holdsThird.pending, append_assoc], holdsThird.seen,
            holdsThird.fact.1.1, revoking_written holdsThird.fact.1.2 holdsThird.fact.2 selected⟩ ?_
        · intro other mem stored
          have fresh := untouched other (mem_cons_of_mem _ mem) stored
          have differ : other ≠ id := by
            rintro rfl
            exact notRest mem
          simp only [mem_append, mem_singleton, Write.session.injEq, not_or] at fresh ⊢
          exact ⟨fresh.1, fresh.2, fun same => differ same.1⟩
        · intro written' revoked last holdsLast
          exact continues written' (id :: revoked) last holdsLast
      · refine leave ?_
        intro stored found
        rw [isRow] at found
        cases found
        simpa using selected

variable {next : List UUID → LoginProg Result}

theorem bind_revoke_found {ids : List UUID}
    (kept : Kept (discipline init) tid fact) (distinct : ids.Nodup)
    (untouched : ∀ id ∈ ids, ∀ row, Write.session id row ∉ writes)
    (holds : Holds tid writes since fact srv)
    (continues : ∀ written revoked after, Holds tid (writes ++ written) since (fun cur =>
        fact cur ∧ Revoking tid cond ids written cur) after →
      Block init tid ret (next revoked) after) :
    Block init tid ret (revokeRows cond ids >>= next) srv := by
  have start : Holds tid (writes ++ []) since
      (fun cur => fact cur ∧ Revoking tid cond [] [] cur) srv :=
    ⟨holds.pending.trans (append_nil _).symm, holds.seen, holds.fact, revoking_nil⟩
  refine bind_revoke_rows kept ids distinct ?_ start continues
  intro id mem row
  rw [append_nil]
  exact untouched id mem row

theorem selected_nodup (sessions : Dict UUID SessionRow) (cond : UUID → SessionRow → Bool) :
    ((sessions.items.filter fun item => cond item.1 item.2).map Prod.fst).Nodup :=
  (filter_sublist.map Prod.fst).nodup sessions.distinct

theorem sessions_of_view (isPending : srv.pending tid = writes)
    (untouched : ∀ id row, Write.session id row ∉ writes) (id : UUID) :
    (srv.view schema tid).sessions.get id = srv.database.sessions.get id := by
  rw [view_of_pending isPending]
  rcases Database.sessions_writes srv.database writes id with ⟨row, mem, _⟩ | ⟨_, same⟩
  · exact absurd mem (untouched id row)
  · exact same

/-- `UPDATE operator_sessions SET revoked_at .. WHERE account_id=..`, under the lock of the account:
at the commit every other session of the account is revoked. -/
theorem bind_revoke_others {acct : UUID} {kept : Option UUID} {row : AccountRow}
    (keeps : Kept (discipline init) tid fact) (holds : Holds tid writes since
      (fun cur => fact cur ∧ HasAccount tid acct row cur) srv)
    (untouched : ∀ id row, Write.session id row ∉ writes)
    (continues : ∀ since snap written revoked after, Holds tid (writes ++ written) since (fun cur =>
        (fact cur ∧ HasAccount tid acct row cur ∧ SawSessions tid acct snap cur) ∧
        Revoking tid (isOtherSession acct kept)
          ((snap.items.filter fun item => isOtherSession acct kept item.1 item.2).map Prod.fst)
          written cur) after →
      Block init tid ret (next revoked) after) :
    Block init tid ret (revokeWhere (isOtherSession acct kept) >>= next) srv := by
  unfold revokeWhere
  rw [bind_bind]
  refine bind_snapshot (kept_and keeps (kept_account acct row)) holds ?_
  intro after _ still
  have sawSessions : SawSessions tid acct (after.view schema tid).sessions after := by
    refine ⟨still.fact.2.1, ?_⟩
    intro id session found isAccount
    rw [sessions_of_view still.pending untouched]
    exact ⟨session, found, isAccount, fun revoked => revoked⟩
  refine bind_revoke_found (kept_and keeps (kept_and (kept_account acct row)
    (kept_saw_sessions acct (after.view schema tid).sessions))) (selected_nodup _ _)
    (fun id _ => untouched id)
    ⟨still.pending, still.seen, still.fact.1, still.fact.2, sawSessions⟩ ?_
  intro written revoked later holdsLater
  exact continues _ _ written revoked later holdsLater

theorem bind_keep_session {acct id : UUID} {version : Int} {next : Unit → LoginProg Result}
    (kept : Kept (discipline init) tid fact) (holds : Holds tid writes since fact srv)
    (untouched : ∀ row, Write.session id row ∉ writes)
    (continues : ∀ since old after, old.accountId = acct → old.revokedAt = none →
      Holds tid (writes ++ [.session id { old with authzVersion := version }]) since
        (fun cur => fact cur ∧ HasSession tid id old cur) after →
      Block init tid ret (next ()) after) :
    Block init tid ret (keepSession acct version (some id) >>= next) srv := by
  unfold keepSession
  rw [bind_bind]
  refine bind_snapshot kept holds ?_
  intro after _ still
  split
  · exact safe_raise trivial
  · split_ifs
    · rw [bind_bind]
      refine bind_lock kept still ?_
      intro second holdsSecond isHeld
      have isRead : schema.read (second.view schema tid) (.session id) =
          second.database.sessions.get id := by
        rw [view_of_pending holdsSecond.pending]
        rcases Database.sessions_writes second.database writes id with
          ⟨row, mem, _⟩ | ⟨_, same⟩
        · exact absurd mem (untouched row)
        · exact same
      rw [isRead]
      cases isRow : second.database.sessions.get id with
      | none => exact safe_raise trivial
      | some row =>
        dsimp only
        split_ifs with selected
        · refine bind_put (kept_and kept (kept_session id row))
            ⟨holdsSecond.pending, holdsSecond.seen, holdsSecond.fact, isHeld, isRow⟩ ?_
          intro third holdsThird
          exact continues _ row third selected.1 selected.2 holdsThird
        · exact safe_raise trivial
    · exact safe_raise trivial

end RtspProxy.Logins
