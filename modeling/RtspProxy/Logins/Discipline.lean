import RtspProxy.Logins.Requests

/-!
# What commits on operator identities respect

The rules every transaction keeps to at its commit, stated on the databases
before and after it, and their consequences for whole histories of commits,
whoever made them and in whatever order. An account only moves to higher
versions, and its roles move only with its version; a session stays with its
account and stays revoked; a credential change revokes every other session of the
account; an accepted TOTP step is higher than the last one.
-/

namespace RtspProxy.Logins

open Nodes Access Lib Lib.ReadCommitted

namespace Event

def bumps (acct : UUID) : Event → Bool
  | passwordChanged other _ _ | totpEnrolled other _ | rotated other | authorized other =>
    decide (other = acct)
  | _ => false

/-- The event replaces the password, the TOTP secret or both. -/
def changesCredential (acct : UUID) : Event → Bool
  | passwordChanged other _ _ | totpEnrolled other _ | rotated other => decide (other = acct)
  | _ => false

def replacesSecret (acct : UUID) : Event → Bool
  | totpEnrolled other _ | rotated other => decide (other = acct)
  | _ => false

def spends (acct : UUID) : Event → Option Int
  | checked other _ step => if other = acct then step else none
  | mfaRefreshed other step => if other = acct then some step else none
  | passwordChanged other _ step => if other = acct then step else none
  | totpEnrolled other step => if other = acct then some step else none
  | _ => none

def keeps : Event → Option UUID
  | passwordChanged _ kept _ => kept
  | _ => none

theorem bumps_of_changes {event : Event} {acct : UUID}
    (changes : event.changesCredential acct = true) : event.bumps acct = true := by
  cases event with
  | passwordChanged | totpEnrolled | rotated => exact changes
  | _ => cases changes

end Event

def Database.Authenticates (db : Database) (sess : UUID) (now : Datetime) : Prop :=
  ∃ row acct, db.sessions.get sess = some row ∧
    db.accounts.get row.accountId = some acct ∧
    evaluateJoinedRow row acct now = .ok (row, acct)

theorem evaluate_joined_row_ok {sess : SessionRow} {acct : AccountRow} {now : Datetime} :
    evaluateJoinedRow sess acct now = .ok (sess, acct) ↔
      sess.revokedAt = none ∧ now < sess.idleExpiresAt ∧ now < sess.absoluteExpiresAt ∧
        acct.enabled = true ∧ acct.authzVersion = sess.authzVersion := by
  unfold evaluateJoinedRow
  split_ifs with isRevoked isExpired isDisabled isStale
  · simp [Option.ne_none_iff_isSome.mpr isRevoked]
  · constructor
    · intro impossible
      cases impossible
    · rintro ⟨_, idle, absolute, _⟩
      rcases isExpired with late | late
      · exact absurd idle (not_lt.mpr late)
      · exact absurd absolute (not_lt.mpr late)
  · simp [isDisabled]
  · constructor
    · intro impossible
      cases impossible
    · rintro ⟨_, _, _, _, same⟩
      exact absurd same isStale
  · have unrevoked : sess.revokedAt = none := by simpa using isRevoked
    have alive := not_or.mp isExpired
    exact ⟨fun _ => ⟨unrevoked, not_le.mp alive.1, not_le.mp alive.2, by simpa using isDisabled,
      not_not.mp isStale⟩, fun _ => rfl⟩

structure AccountMoves (event : Event) (id : UUID) (pre after : AccountRow) : Prop where
  source : after.identitySource = pre.identitySource
  bumped : event.bumps id = true → pre.authzVersion < after.authzVersion
  same : event.bumps id = false →
    after.authzVersion = pre.authzVersion ∧ after.roles = pre.roles

structure SessionMoves (event : Event) (id : UUID) (pre after : SessionRow) : Prop where
  account : after.accountId = pre.accountId
  revoked : pre.revokedAt.isSome = true → after.revokedAt.isSome = true
  version : event.keeps = some id ∨ after.authzVersion = pre.authzVersion

structure StepMoves (event : Event) (acct : UUID) (pre after : Option Int) : Prop where
  spent : ∀ step, event.spends acct = some step → after = some step ∧
    (event.replacesSecret acct = false → ∀ last, pre = some last → last < step)
  same : event.spends acct = none → event.replacesSecret acct = false → after = pre

/-- Every session of the account is revoked, except the one that is kept. -/
def OthersRevoked (db : Database) (acct : UUID) (kept : Option UUID) : Prop :=
  ∀ id row, db.sessions.get id = some row → row.accountId = acct →
    row.revokedAt.isSome = true ∨ kept = some id

/-- What the event of a commit says about the databases and the run it belongs to. -/
def Reports (init : Database) (trail : List (Entry Database Event))
    (commit : Commit Database Event) : Prop :=
  match commit.event with
  | .checked acct version _ =>
    ∃ row, commit.before.accounts.get acct = some row ∧ version ≤ row.authzVersion
  | .passwordChanged acct kept _ =>
    OthersRevoked commit.after acct kept ∧ ∃ row, commit.after.accounts.get acct = some row ∧
        row.identitySource = .localAccount ∧ row.enabled = true ∧
        ∀ id, kept = some id → ∃ sess, commit.after.sessions.get id = some sess ∧
          sess.accountId = acct ∧ sess.revokedAt = none ∧
          sess.authzVersion = row.authzVersion
  | .totpEnrolled acct _ =>
    OthersRevoked commit.after acct none ∧
      ∃ row, commit.after.accounts.get acct = some row ∧ row.identitySource = .localAccount
  | .rotated acct =>
    OthersRevoked commit.after acct none ∧
      ∃ row, commit.after.accounts.get acct = some row ∧ row.identitySource = .breakGlass
  | .resolved acct roles =>
    ∃ row, commit.after.accounts.get acct = some row ∧ row.identitySource = .oidc ∧
      row.roles = roles
  | .issued id =>
    ∃ sess row, commit.before.sessions.get id = none ∧
      commit.after.sessions.get id = some sess ∧
      commit.after.accounts.get sess.accountId = some row ∧ sess.revokedAt = none ∧
      row.enabled = true ∧ sess.authzVersion = row.authzVersion ∧
      (∀ acct version step, .checked acct version step ∈ run commit.thread trail →
        sess.accountId = acct ∧ row.authzVersion = version) ∧
      ∀ acct roles, .resolved acct roles ∈ run commit.thread trail →
        sess.accountId = acct
  | .touched id =>
    ∃ sess row, commit.before.sessions.get id = some sess ∧
      (replay init (trail.take commit.since)).accounts.get sess.accountId = some row ∧
      row.authzVersion = sess.authzVersion
  | .quiet | .mfaRefreshed _ _ | .authorized _ => True

structure Respects (init : Database) (trail : List (Entry Database Event))
    (commit : Commit Database Event) : Prop where
  accounts : ∀ id row, commit.before.accounts.get id = some row →
    ∃ moved, commit.after.accounts.get id = some moved ∧ AccountMoves commit.event id row moved
  sessions : ∀ id row, commit.before.sessions.get id = some row →
    ∃ moved, commit.after.sessions.get id = some moved ∧ SessionMoves commit.event id row moved
  steps : ∀ acct, StepMoves commit.event acct (commit.before.lastStep acct)
    (commit.after.lastStep acct)
  reports : Reports init trail commit

/-- What stays as it is under a lock: the row, and for an account also who its sessions are. -/
def Still (key : Key) (pre after : Database) : Prop :=
  match key with
  | .account id => after.accounts.get id = pre.accounts.get id ∧
      ∀ sess row, after.sessions.get sess = some row → row.accountId = id →
        (pre.sessions.get sess).isSome = true
  | .credential accountId => after.credentials.get accountId = pre.credentials.get accountId
  | .session id => after.sessions.get id = pre.sessions.get id
  | .identity _ _ | .token _ => True

/-- What every commit respects, whoever makes it. -/
structure Advances (pre after : Database) : Prop where
  accounts : ∀ id row, pre.accounts.get id = some row → ∃ moved,
    after.accounts.get id = some moved ∧ moved.identitySource = row.identitySource ∧
      row.authzVersion ≤ moved.authzVersion
  sessions : ∀ id row, pre.sessions.get id = some row → ∃ moved,
    after.sessions.get id = some moved ∧ moved.accountId = row.accountId ∧
      (row.revokedAt.isSome = true → moved.revokedAt.isSome = true)

theorem account_moves_le {event : Event} {id : UUID} {pre after : AccountRow}
    (moves : AccountMoves event id pre after) : pre.authzVersion ≤ after.authzVersion := by
  cases bumps : event.bumps id with
  | true => exact (moves.bumped bumps).le
  | false => exact (moves.same bumps).1.ge

def discipline (init : Database) : Discipline Database Key Event where
  step := Respects init
  still := Still
  advances := Advances
  still_refl key db := by
    cases key with
    | account id => exact ⟨rfl, fun _ _ found _ => by rw [found]; rfl⟩
    | credential _ => exact rfl
    | session _ => exact rfl
    | identity _ _ => trivial
    | token _ => trivial
  advances_refl db :=
    ⟨fun _ row found => ⟨row, found, rfl, le_rfl⟩, fun _ row found => ⟨row, found, rfl, id⟩⟩
  step_advances trail commit respects := by
    constructor
    · intro id row found
      obtain ⟨moved, isMoved, moves⟩ := respects.accounts id row found
      exact ⟨moved, isMoved, moves.source, account_moves_le moves⟩
    · intro id row found
      obtain ⟨moved, isMoved, moves⟩ := respects.sessions id row found
      exact ⟨moved, isMoved, moves.account, moves.revoked⟩

end RtspProxy.Logins
