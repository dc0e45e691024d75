import RtspProxy.Logins.Histories

/-!
# What a transaction on operator identities relies on

Facts a thread has about rows it locked or saw, all of them kept by the others
until its transaction ends, and the effects of a list of writes in terms of the
writes themselves. `ready_to_commit` turns both into a commit that respects the
discipline.
-/

namespace RtspProxy.Logins

open Nodes Access Lib Lib.ReadCommitted Database
open Lib.Program Lib.Program.Prog

/-- A part of a transaction of `thread`, among all the others. -/
abbrev Block {Result : Type} (init : Database) (tid : Nat)
    (ret : Result → LoginServer → Prop) (prog : LoginProg Result) (srv : LoginServer) :
    Prop :=
  SafeInside Datetime (discipline init) schema LoginError.database init tid ret prog srv

variable {init : Database} {tid : Nat}

def HasAccount (tid : Nat) (id : UUID) (row : AccountRow) (srv : LoginServer) : Prop :=
  srv.holder (.account id) = some tid ∧ srv.database.accounts.get id = some row

def HasCredential (tid : Nat) (id : UUID) (row : CredentialRow) (srv : LoginServer) : Prop :=
  srv.holder (.credential id) = some tid ∧ srv.database.credentials.get id = some row

def HasSession (tid : Nat) (id : UUID) (row : SessionRow) (srv : LoginServer) : Prop :=
  srv.holder (.session id) = some tid ∧ srv.database.sessions.get id = some row

/-- A session id that nobody has used, and nobody else will. -/
def HasFreshSession (tid : Nat) (id : UUID) (srv : LoginServer) : Prop :=
  srv.holder (.session id) = some tid ∧ srv.database.sessions.get id = none

/-- The account a snapshot had: it may have moved on, but not back. -/
def SawAccount (id : UUID) (row : AccountRow) (srv : LoginServer) : Prop :=
  ∃ cur, srv.database.accounts.get id = some cur ∧
    cur.identitySource = row.identitySource ∧ row.authzVersion ≤ cur.authzVersion

/-- Under the lock of an account, its sessions are those of the snapshot. -/
def SawSessions (tid : Nat) (acct : UUID) (snap : Dict UUID SessionRow)
    (srv : LoginServer) : Prop :=
  srv.holder (.account acct) = some tid ∧
    ∀ id row, srv.database.sessions.get id = some row → row.accountId = acct →
      ∃ found, snap.get id = some found ∧ found.accountId = acct ∧
        (found.revokedAt.isSome = true → row.revokedAt.isSome = true)

theorem kept_account (id : UUID) (row : AccountRow) :
    Kept (discipline init) tid (HasAccount tid id row) := by
  rintro pre after near ⟨isHeld, found⟩
  exact ⟨near.held _ isHeld, (near.still _ isHeld).1.trans found⟩

theorem kept_credential (id : UUID) (row : CredentialRow) :
    Kept (discipline init) tid (HasCredential tid id row) := by
  rintro pre after near ⟨isHeld, found⟩
  exact ⟨near.held _ isHeld, (near.still _ isHeld).trans found⟩

theorem kept_session (id : UUID) (row : SessionRow) :
    Kept (discipline init) tid (HasSession tid id row) := by
  rintro pre after near ⟨isHeld, found⟩
  exact ⟨near.held _ isHeld, (near.still _ isHeld).trans found⟩

theorem kept_fresh_session (id : UUID) :
    Kept (discipline init) tid (HasFreshSession tid id) := by
  rintro pre after near ⟨isHeld, found⟩
  exact ⟨near.held _ isHeld, (near.still _ isHeld).trans found⟩

theorem kept_saw_account (id : UUID) (row : AccountRow) :
    Kept (discipline init) tid (SawAccount id row) := by
  rintro pre after near ⟨cur, found, isSource, bound⟩
  obtain ⟨moved, isMoved, sameSource, grows⟩ := near.advances.accounts id cur found
  exact ⟨moved, isMoved, sameSource.trans isSource, bound.trans grows⟩

theorem kept_saw_sessions (acct : UUID) (snap : Dict UUID SessionRow) :
    Kept (discipline init) tid (SawSessions tid acct snap) := by
  rintro pre after near ⟨isHeld, seen⟩
  refine ⟨near.held _ isHeld, ?_⟩
  intro id row found isAccount
  have wasThere := (near.still _ isHeld).2 id row found isAccount
  obtain ⟨old, foundOld⟩ := Option.isSome_iff_exists.mp wasThere
  obtain ⟨moved, isMoved, sameAccount, staysRevoked⟩ := near.advances.sessions id old foundOld
  rw [found] at isMoved
  cases isMoved
  obtain ⟨first, foundFirst, ofAccount, revoked⟩ :=
    seen id old foundOld (sameAccount.symm.trans isAccount)
  exact ⟨first, foundFirst, ofAccount, fun isRevoked => staysRevoked (revoked isRevoked)⟩

/-- The locks a write needs: its own row and, for a new session, its account. -/
def Owned (tid : Nat) (srv : LoginServer) : Write → Prop
  | .account id _ => srv.holder (.account id) = some tid
  | .credential id _ => srv.holder (.credential id) = some tid
  | .session id row => srv.holder (.session id) = some tid ∧
      (srv.holder (.account row.accountId) = some tid ∨
        ∃ old, srv.database.sessions.get id = some old)

/-- What the writes of a transaction do, each for itself. -/
structure Effects (tid : Nat) (event : Event) (writes : List Write) (srv : LoginServer) :
    Prop where
  owned : ∀ write ∈ writes, Owned tid srv write
  accounts : ∀ id row, .account id row ∈ writes → ∀ old,
    srv.database.accounts.get id = some old → AccountMoves event id old row
  bumps : ∀ id, event.bumps id = true → ∃ row, .account id row ∈ writes
  sessions : ∀ id row, .session id row ∈ writes → ∀ old,
    srv.database.sessions.get id = some old → SessionMoves event id old row
  steps : ∀ acct, StepMoves event acct (srv.database.lastStep acct)
    ((writes.foldl apply srv.database).lastStep acct)

variable {writes : List Write} {srv : LoginServer}

theorem still_of_owned (owned : ∀ write ∈ writes, Owned tid srv write) {key : Key}
    (notHeld : srv.holder key ≠ some tid) :
    Still key srv.database (writes.foldl apply srv.database) := by
  cases key with
  | account id =>
    constructor
    · rcases accounts_writes srv.database writes id with
        ⟨row, mem, _⟩ | ⟨_, same⟩
      · exact absurd (owned _ mem) notHeld
      · exact same
    · intro session row found isAccount
      rcases sessions_writes srv.database writes session with
        ⟨written, mem, isWritten⟩ | ⟨_, same⟩
      · rw [found] at isWritten
        cases isWritten
        rcases (owned _ mem).2 with isHeld | ⟨old, foundOld⟩
        · rw [isAccount] at isHeld
          exact absurd isHeld notHeld
        · rw [foundOld]
          rfl
      · rw [← same, found]
        rfl
  | credential id =>
    rcases credentials_writes srv.database writes id with
      ⟨row, mem, _⟩ | ⟨_, same⟩
    · exact absurd (owned _ mem) notHeld
    · exact same
  | session id =>
    rcases sessions_writes srv.database writes id with
      ⟨row, mem, _⟩ | ⟨_, same⟩
    · exact absurd (owned _ mem).1 notHeld
    · exact same
  | identity _ _ => trivial
  | token _ => trivial

variable {event : Event}

theorem session_moves_refl {id : UUID} {row : SessionRow} :
    SessionMoves event id row row := ⟨rfl, fun revoked => revoked, .inr rfl⟩

theorem view_of_pending (isPending : srv.pending tid = writes) :
    srv.view schema tid = writes.foldl apply srv.database := by
  unfold Server.view
  rw [isPending]
  rfl

theorem permitted_of_effects (isPending : srv.pending tid = writes)
    (effects : Effects tid event writes srv)
    (reports : Reports init srv.trail (srv.record schema tid event)) :
    Permitted (discipline init) schema tid srv (.commit event) := by
  have isView := view_of_pending isPending
  refine ⟨⟨?_, ?_, ?_, reports⟩, ?_⟩
  · intro id old found
    dsimp only [Server.record] at found ⊢
    rw [isView]
    rcases accounts_writes srv.database writes id with
      ⟨row, mem, written⟩ | ⟨absent, same⟩
    · exact ⟨row, written, effects.accounts id row mem old found⟩
    · refine ⟨old, same.trans found, rfl, ?_, fun _ => ⟨rfl, rfl⟩⟩
      intro bumps
      obtain ⟨row, mem⟩ := effects.bumps id bumps
      exact absurd mem (absent row)
  · intro id old found
    dsimp only [Server.record] at found ⊢
    rw [isView]
    rcases sessions_writes srv.database writes id with
      ⟨row, mem, written⟩ | ⟨_, same⟩
    · exact ⟨row, written, effects.sessions id row mem old found⟩
    · exact ⟨old, same.trans found, session_moves_refl⟩
  · intro acct
    dsimp only [Server.record]
    rw [isView]
    exact effects.steps acct
  · intro key notHeld
    rw [isView]
    exact still_of_owned effects.owned notHeld

theorem ready_to_commit {since : Nat} {fact post : LoginServer → Prop}
    (kept : Kept (discipline init) tid fact) (holds : Holds tid writes since fact srv)
    (commits : ∀ cur, Holds tid writes since fact cur →
      Effects tid event writes cur ∧ Reports init cur.trail (cur.record schema tid event))
    (posts : ∀ cur, Holds tid writes since fact cur → post (cur.commit schema tid event)) :
    Ready (discipline init) schema tid event post init srv := by
  refine ⟨writes, since, fact, kept, holds, ?_⟩
  intro cur _ still
  obtain ⟨effects, reports⟩ := commits cur still
  exact ⟨permitted_of_effects still.pending effects reports, posts cur still⟩

theorem last_step_same {db : Database} {acct : UUID}
    (accounts : ∀ row, .account acct row ∈ writes → match db.accounts.get acct with
      | some old => row.identitySource = old.identitySource ∧
          row.breakGlassLastTotpStep = old.breakGlassLastTotpStep
      | none => row.identitySource = .oidc)
    (credentials : ∀ row, .credential acct row ∈ writes → ∃ old,
      db.credentials.get acct = some old ∧ row.lastTotpStep = old.lastTotpStep) :
    (writes.foldl apply db).lastStep acct = db.lastStep acct := by
  have sameStep : ((writes.foldl apply db).credentials.get acct).bind
      (·.lastTotpStep) = (db.credentials.get acct).bind (·.lastTotpStep) := by
    rcases credentials_writes db writes acct with
      ⟨row, mem, written⟩ | ⟨_, same⟩
    · obtain ⟨old, found, sameStep⟩ := credentials row mem
      rw [written, found]
      exact sameStep
    · rw [same]
  unfold lastStep
  rw [sameStep]
  rcases accounts_writes db writes acct with
    ⟨row, mem, written⟩ | ⟨_, same⟩
  · have moves := accounts row mem
    rw [written]
    cases found : db.accounts.get acct with
    | none =>
      rw [found] at moves
      dsimp only at moves ⊢
      rw [moves]
    | some old =>
      rw [found] at moves
      dsimp only at moves ⊢
      rw [moves.1, moves.2]
  · rw [same]

theorem step_moves_same {acct : UUID} {pre after : Option Int}
    (spends : event.spends acct = none) (same : after = pre) :
    StepMoves event acct pre after where
  spent step isStep := by
    rw [spends] at isStep
    cases isStep
  same _ _ := same

end RtspProxy.Logins
