import RtspProxy.Lib.ReadCommitted
import RtspProxy.Access.Sessions

/-!
# The tables of operator identities

`operator_accounts`, `operator_local_credentials` and `operator_sessions` as the
migrations create them: rows under their primary key, the checks a row has to
pass and the unique indexes. The stores of `operator_identity.py` and
`operator_access.py` reach them through PostgreSQL transactions at its default
isolation level, which is the server of `Lib.ReadCommitted`; an index entry is
locked like a row, since a second insert of the same value waits for the first.
Every commit reports the `Event` it stands for. Columns that nothing reads
(`created_at`, `updated_at`) and the tables of audit events, login attempts and
rate limits are left out.
-/

namespace RtspProxy.Logins

open Nodes Access Lib Lib.ReadCommitted

abbrev Bytes := List UInt8

structure AccountRow where
  identitySource : OperatorIdentitySource
  subject : String
  displayName : String
  roles : Finset OperatorRole
  scopes : Finset String
  authzVersion : Int
  enabled : Bool
  breakGlassPasswordScrypt : Option Bytes := none
  breakGlassTotpSecret : Option Bytes := none
  breakGlassLastTotpStep : Option Int := none
  deriving DecidableEq

structure CredentialRow where
  username : String
  passwordScrypt : Bytes
  totpSecret : Option Bytes
  lastTotpStep : Option Int
  deriving DecidableEq

structure SessionRow where
  accountId : UUID
  tokenSha256 : String
  csrfSha256 : String
  authzVersion : Int
  issuedAt : Datetime
  lastSeenAt : Datetime
  idleExpiresAt : Datetime
  absoluteExpiresAt : Datetime
  mfaVerifiedAt : Option Datetime
  revokedAt : Option Datetime := none
  deriving DecidableEq

structure Database where
  accounts : Dict UUID AccountRow
  credentials : Dict UUID CredentialRow
  sessions : Dict UUID SessionRow
  deriving DecidableEq

inductive Write
  | account (id : UUID) (row : AccountRow)
  | credential (accountId : UUID) (row : CredentialRow)
  | session (id : UUID) (row : SessionRow)
  deriving DecidableEq

inductive Key
  | account (id : UUID)
  | credential (accountId : UUID)
  | session (id : UUID)
  /-- An entry of `uq_operator_account_identity`. -/
  | identity (source : OperatorIdentitySource) (subject : String)
  /-- An entry of the unique index on `token_sha256`. -/
  | token (tokenSha256 : String)
  deriving DecidableEq

/-- What a locked row or index entry answers; for an entry, whether it is there. -/
abbrev Value : Key → Type
  | .account _ => Option AccountRow
  | .credential _ => Option CredentialRow
  | .session _ => Option SessionRow
  | .identity _ _ => Bool
  | .token _ => Bool

/-- What a committed transaction stands for. -/
inductive Event
  | quiet
  /-- A login accepted the credentials of an account at a version, with a TOTP step or without. -/
  | checked (acct : UUID) (version : Int) (step : Option Int)
  | mfaRefreshed (acct : UUID) (step : Int)
  | passwordChanged (acct : UUID) (kept : Option UUID) (step : Option Int)
  | totpEnrolled (acct : UUID) (step : Int)
  | rotated (acct : UUID)
  | authorized (acct : UUID)
  | resolved (acct : UUID) (roles : Finset OperatorRole)
  | issued (session : UUID)
  | touched (session : UUID)
  deriving DecidableEq

/-- `ck_operator_account_break_glass_material`. -/
def AccountRow.materialFits (row : AccountRow) : Bool :=
  match row.identitySource with
  | .breakGlass =>
    (row.enabled && row.breakGlassPasswordScrypt.isSome && row.breakGlassTotpSecret.isSome) ||
      (!row.enabled && row.breakGlassPasswordScrypt.isNone && row.breakGlassTotpSecret.isNone)
  | .oidc | .localAccount =>
    row.breakGlassPasswordScrypt.isNone && row.breakGlassTotpSecret.isNone &&
      row.breakGlassLastTotpStep.isNone

def AccountRow.isValid (row : AccountRow) : Bool :=
  decide (1 ≤ row.subject.length ∧ row.subject.length ≤ 512) &&
    decide (1 ≤ row.displayName.length ∧ row.displayName.length ≤ 256) &&
    decide (row.roles ≠ ∅) && rolesFit row.identitySource row.roles &&
    decide (row.scopes ≠ ∅ ∧ row.scopes.card ≤ 128 ∧ ∀ scope ∈ row.scopes, isScope scope = true) &&
    decide (1 ≤ row.authzVersion) && row.materialFits &&
    row.breakGlassLastTotpStep.all fun step => decide (0 ≤ step)

def CredentialRow.isValid (row : CredentialRow) : Bool :=
  decide (1 ≤ row.username.length ∧ row.username.length ≤ 256) &&
    row.username.toList.all (fun char => !char.isWhitespace) &&
    decide (row.passwordScrypt.length = 80) &&
    (row.totpSecret.isSome || row.lastTotpStep.isNone) &&
    row.lastTotpStep.all fun step => decide (0 ≤ step)

def SessionRow.isValid (row : SessionRow) : Bool :=
  isSha256Hex row.tokenSha256 && isSha256Hex row.csrfSha256 && decide (1 ≤ row.authzVersion) &&
    decide (row.issuedAt ≤ row.lastSeenAt ∧ row.issuedAt < row.idleExpiresAt ∧
      row.issuedAt < row.absoluteExpiresAt ∧ row.idleExpiresAt ≤ row.absoluteExpiresAt)

namespace Database

variable (db : Database)

def empty : Database := ⟨.empty, .empty, .empty⟩

def read : (key : Key) → Value key
  | .account id => db.accounts.get id
  | .credential accountId => db.credentials.get accountId
  | .session id => db.sessions.get id
  | .identity source subject => db.accounts.values.any fun row =>
    row.identitySource = source ∧ row.subject = subject
  | .token tokenSha256 => db.sessions.values.any fun row => row.tokenSha256 = tokenSha256

def apply : Write → Database
  | .account id row => { db with accounts := db.accounts.set id row }
  | .credential accountId row =>
    { db with credentials := db.credentials.set accountId row }
  | .session id row => { db with sessions := db.sessions.set id row }

/-- Checks, unique indexes and foreign keys; a row is not in conflict with its own old version. -/
def accepts : Write → Bool
  | .account id row => row.isValid && db.accounts.items.all fun item =>
    decide (item.1 = id) || !(decide (item.2.identitySource = row.identitySource) &&
      (decide (item.2.subject = row.subject) || decide (row.identitySource = .breakGlass)))
  | .credential accountId row => row.isValid && db.accounts.contains accountId &&
      db.credentials.items.all fun item =>
        decide (item.1 = accountId) || !decide (item.2.username = row.username)
  | .session id row => row.isValid && db.accounts.contains row.accountId &&
      db.sessions.items.all fun item =>
        decide (item.1 = id) || !decide (item.2.tokenSha256 = row.tokenSha256)

/-- The last accepted TOTP step of an account, where its identity source keeps it. -/
def lastStep (acct : UUID) : Option Int :=
  match db.accounts.get acct with
  | none => none
  | some row =>
    match row.identitySource with
    | .breakGlass => row.breakGlassLastTotpStep
    | .localAccount => (db.credentials.get acct).bind (·.lastTotpStep)
    | .oidc => none

end Database

def schema : Schema Database Write Key Value where
  read := Database.read
  apply := Database.apply
  accepts := Database.accepts

abbrev LoginServer := Server Database Write Key Event

def Write.accountRow (id : UUID) : Write → Option AccountRow
  | .account other row => if id = other then some row else none
  | _ => none

def Write.credentialRow (id : UUID) : Write → Option CredentialRow
  | .credential other row => if id = other then some row else none
  | _ => none

def Write.sessionRow (id : UUID) : Write → Option SessionRow
  | .session other row => if id = other then some row else none
  | _ => none

namespace Database

variable (db : Database)

theorem accounts_writes (writes : List Write) (id : UUID) :
    (∃ row, Write.account id row ∈ writes ∧
      (writes.foldl apply db).accounts.get id = some row) ∨
    ((∀ row, Write.account id row ∉ writes) ∧
      (writes.foldl apply db).accounts.get id = db.accounts.get id) := by
  refine foldl_written apply (·.accounts.get id) (Write.accountRow id) (Write.account id) ?_ ?_ writes
    db
  · rintro pre (_ | _ | _)
    all_goals simp only [apply, Write.accountRow, Dict.get_set, Option.none_or]
    split_ifs <;> rfl
  · rintro (_ | _ | _) row
    all_goals simp [Write.accountRow, eq_comm]

theorem credentials_writes (writes : List Write) (id : UUID) :
    (∃ row, Write.credential id row ∈ writes ∧
      (writes.foldl apply db).credentials.get id = some row) ∨
    ((∀ row, Write.credential id row ∉ writes) ∧
      (writes.foldl apply db).credentials.get id = db.credentials.get id) := by
  refine foldl_written apply (·.credentials.get id) (Write.credentialRow id)
    (Write.credential id) ?_ ?_ writes db
  · rintro pre (_ | _ | _)
    all_goals simp only [apply, Write.credentialRow, Dict.get_set, Option.none_or]
    split_ifs <;> rfl
  · rintro (_ | _ | _) row
    all_goals simp [Write.credentialRow, eq_comm]

theorem sessions_writes (writes : List Write) (id : UUID) :
    (∃ row, Write.session id row ∈ writes ∧
      (writes.foldl apply db).sessions.get id = some row) ∨
    ((∀ row, Write.session id row ∉ writes) ∧
      (writes.foldl apply db).sessions.get id = db.sessions.get id) := by
  refine foldl_written apply (·.sessions.get id) (Write.sessionRow id) (Write.session id) ?_ ?_ writes
    db
  · rintro pre (_ | _ | _)
    all_goals simp only [apply, Write.sessionRow, Dict.get_set, Option.none_or]
    split_ifs <;> rfl
  · rintro (_ | _ | _) row
    all_goals simp [Write.sessionRow, eq_comm]

end Database

end RtspProxy.Logins
