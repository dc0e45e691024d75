import RtspProxy.Lib.Dict
import RtspProxy.Nodes.Validation
import Mathlib.Data.List.Sort

/-!
# The access grant store

The grant transactions of `PostgresNodeStore` and the two functions that the
media authorisation role calls in the database. The tables are
`camera_access_grants` and `access_grant_issue_requests`; a request row binds
an operator's session and idempotency key to the grant it issued. A transaction
that raises leaves the tables as they were; audit and outbox rows are left out,
as no transaction reads them.
-/

namespace RtspProxy.Access

open Nodes Lib Lib.Raising

inductive GrantKind
  | temporary | service
  deriving DecidableEq

inductive GrantError
  | cameraNotFound
  | accessGrantNotFound
  | revisionConflict
  | issueReplayed
  | idempotencyConflict
  | schemaUnavailable
  | valueError (code : String)
  | integrityError
  deriving DecidableEq

structure AccessGrant where
  id : UUID
  cameraId : UUID
  username : String
  tokenVerifier : String
  pepperKeyId : String
  notBefore : Datetime
  expiresAt : Option Datetime
  revokedAt : Option Datetime
  revision : Int
  kind : GrantKind := .temporary
  createdBy : String := "bootstrap-operator"
  lastUsedAt : Option Datetime := none
  usernameValid : username = "grant-" ++ id.hex
  verifierValid : isSha256Hex tokenVerifier = true
  pepperValid : pepperKeyId ≠ "" ∧ pepperKeyId.length ≤ 64
  windowValid : ∀ expiry ∈ expiresAt, notBefore < expiry
  revisionValid : 1 ≤ revision
  lifetimeValid : expiresAt = none → kind = .service
  creatorValid : createdBy ≠ "" ∧ createdBy.length ≤ 128

namespace AccessGrant

def activeAt (grant : AccessGrant) (moment : Datetime) : Bool :=
  grant.notBefore ≤ moment ∧ (∀ expiry ∈ grant.expiresAt, moment < expiry) ∧
    ∀ revoked ∈ grant.revokedAt, moment < revoked

def withRevocation (grant : AccessGrant) (revokedAt : Datetime) (revision : Int) :
    Except GrantError AccessGrant :=
  if revisionValid : 1 ≤ revision then
    .ok { grant with revokedAt := some revokedAt, revision, revisionValid }
  else .error (.valueError "access_grant_revision_invalid")

def withExpiry (grant : AccessGrant) (expiresAt : Datetime) (revision : Int) :
    Except GrantError AccessGrant :=
  if window : grant.notBefore < expiresAt then
    if revisionValid : 1 ≤ revision then
      .ok { grant with
            expiresAt := some expiresAt
            revision
            windowValid := by
              intro expiry isExpiry
              cases isExpiry
              exact window
            revisionValid
            lifetimeValid := by
              intro none
              cases none }
    else .error (.valueError "access_grant_revision_invalid")
  else .error (.valueError "access_grant_window_invalid")

/-- The row after the `UPDATE` of `rtsp_proxy_auth_rehash_grant`, which checked the new values. -/
def withVerifier (grant : AccessGrant) (tokenVerifier pepperKeyId : String) (revision : Int)
    (verifierValid : isSha256Hex tokenVerifier = true)
    (pepperValid : pepperKeyId ≠ "" ∧ pepperKeyId.length ≤ 64) (revisionValid : 1 ≤ revision) :
    AccessGrant :=
  { grant with tokenVerifier, pepperKeyId, revision, verifierValid, pepperValid, revisionValid }

/-- The row after the `UPDATE` of `rtsp_proxy_auth_mark_grant_used`. -/
def withUse (grant : AccessGrant) (usedAt : Datetime) : AccessGrant :=
  { grant with
    lastUsedAt := some (match grant.lastUsedAt with
      | none => usedAt
      | some lastUsedAt => max lastUsedAt usedAt) }

end AccessGrant

inductive GrantRequestOperation
  | issue | rotate
  deriving DecidableEq

/-- An operator's request for a secret; also the row that records it. -/
structure AccessGrantIdempotency where
  key : UUID
  actorAccountId : UUID
  actorSessionId : UUID
  operation : GrantRequestOperation
  cameraId : UUID
  sourceGrantId : Option UUID
  replacementGrantId : UUID
  requestSha256 : String
  keyValid : key.isVersion4 = true
  sourceValid : operation = .issue ↔ sourceGrantId = none
  digestValid : isSha256Hex requestSha256 = true
  deriving DecidableEq

namespace AccessGrantIdempotency

def pair (req : AccessGrantIdempotency) : UUID × UUID := (req.actorSessionId, req.key)

/-- Everything of a request but its key and the grant drawn for it. -/
def identity (req : AccessGrantIdempotency) :
    UUID × GrantRequestOperation × UUID × Option UUID × String :=
  (req.actorAccountId, req.operation, req.cameraId, req.sourceGrantId, req.requestSha256)

end AccessGrantIdempotency

structure GrantDatabase where
  cameras : Dict UUID CameraState
  operatorAccounts : List UUID
  grants : List AccessGrant
  issueRequests : List AccessGrantIdempotency
  /-- Whether `alembic_version` is a revision with the request table. -/
  schemaKnown : Bool

namespace GrantDatabase

def lookup (db : GrantDatabase) (grantId : UUID) : Option AccessGrant :=
  RecordTable.lookup AccessGrant.id grantId db.grants

def requestOf (db : GrantDatabase) (pair : UUID × UUID) : Option AccessGrantIdempotency :=
  RecordTable.lookup AccessGrantIdempotency.pair pair db.issueRequests

def classifyAccessGrantRequest (db : GrantDatabase) (req : AccessGrantIdempotency) :
    Except GrantError Unit :=
  match db.requestOf req.pair with
  | none => return ()
  | some existing => do
      raiseIf (existing.identity ≠ req.identity) .idempotencyConflict
      throw .issueReplayed

def checkAccessGrantRequest (db : GrantDatabase) (req : AccessGrantIdempotency) :
    Except GrantError Unit := do
  raiseIf (db.schemaKnown = false) .schemaUnavailable
  db.classifyAccessGrantRequest req

/-- `_claim_access_grant_request`: `INSERT .. ON CONFLICT DO NOTHING`, then the classification of
the row that was there. The references of the row are checked at once, but for the grant it
issues. -/
def claimAccessGrantRequest (db : GrantDatabase) (req : AccessGrantIdempotency) :
    Except GrantError GrantDatabase :=
  match db.requestOf req.pair with
  | some _ => do
      db.classifyAccessGrantRequest req
      return db
  | none => do
      raiseIf (req.actorAccountId ∉ db.operatorAccounts ∨ db.cameras.get req.cameraId = none ∨
          req.sourceGrantId.any (fun source => decide (db.lookup source = none)) = true)
        .integrityError
      return { db with issueRequests := db.issueRequests ++ [req] }

def claimRequest (db : GrantDatabase) :
    Option AccessGrantIdempotency → Except GrantError GrantDatabase
  | none => return db
  | some req => do
      raiseIf (db.schemaKnown = false) .schemaUnavailable
      db.claimAccessGrantRequest req

def addGrant (db : GrantDatabase) (grant : AccessGrant) : GrantDatabase :=
  { db with grants := db.grants ++ [grant] }

/-- `_insert_access_grant`: both the identifier and the user name are unique. -/
def insertAccessGrant (db : GrantDatabase) (grant : AccessGrant) :
    Except GrantError GrantDatabase := do
  raiseIf (db.grants.any (fun other =>
      decide (other.id = grant.id ∨ other.username = grant.username)) = true ∨
      db.cameras.get grant.cameraId = none) .integrityError
  return db.addGrant grant

/-- The deferred check at commit: the grant of every request row exists. -/
def commit (db : GrantDatabase) : Except GrantError GrantDatabase := do
  raiseIf (db.issueRequests.any (fun req =>
      decide (db.lookup req.replacementGrantId = none)) = true) .integrityError
  return db

def createAccessGrant (db : GrantDatabase) (grant : AccessGrant)
    (idem : Option AccessGrantIdempotency) :
    Except GrantError (AccessGrant × GrantDatabase) := do
  let claimed ← db.claimRequest idem
  let st ← orRaise (claimed.cameras.get grant.cameraId) .cameraNotFound
  raiseIf (st = .deleted) .cameraNotFound
  let inserted ← claimed.insertAccessGrant grant
  let committed ← inserted.commit
  return (grant, committed)

def updateGrant (db : GrantDatabase) (grant : AccessGrant) : GrantDatabase :=
  { db with grants := RecordTable.replace AccessGrant.id grant db.grants }

def revokeAccessGrant (db : GrantDatabase) (grantId : UUID) (revokedAt : Datetime)
    (expRev : Int) : Except GrantError (AccessGrant × GrantDatabase) := do
  let cur ← orRaise (db.lookup grantId) .accessGrantNotFound
  raiseIf (cur.revision ≠ expRev) .revisionConflict
  if cur.revokedAt ≠ none then
    return (cur, db)
  else do
    let upd ← cur.withRevocation revokedAt (expRev + 1)
    return (upd, db.updateGrant upd)

def purgeable (cameraId : UUID) (inactiveBefore : Datetime) (grant : AccessGrant) : Bool :=
  grant.cameraId = cameraId ∧ ((∃ revoked ∈ grant.revokedAt, revoked ≤ inactiveBefore) ∨
    ∃ expiry ∈ grant.expiresAt, expiry ≤ inactiveBefore)

/-- The identifiers of the purged grants in ascending order, and the tables without these grants
and without the request rows that refer to them. -/
def purgeInactiveAccessGrants (db : GrantDatabase) (cameraId : UUID)
    (inactiveBefore : Datetime) : List UUID × GrantDatabase :=
  let grantIds := ((db.grants.filter (purgeable cameraId inactiveBefore)).map
    AccessGrant.id).insertionSort fun left right => left.toNat ≤ right.toNat
  if grantIds = [] then ([], db)
  else
    (grantIds, { db with
        issueRequests := db.issueRequests.filter fun req =>
          !(req.sourceGrantId.any (fun source => decide (source ∈ grantIds)) ||
            decide (req.replacementGrantId ∈ grantIds))
        grants := db.grants.filter fun grant => decide (grant.id ∉ grantIds) })

def rotateAccessGrant (db : GrantDatabase) (grantId : UUID) (replacement : AccessGrant)
    (oldExpiresAt : Datetime) (expRev : Int) (idem : Option AccessGrantIdempotency) :
    Except GrantError ((AccessGrant × AccessGrant) × GrantDatabase) := do
  let claimed ← db.claimRequest idem
  let cur ← orRaise (claimed.lookup grantId) .accessGrantNotFound
  raiseIf (cur.revision ≠ expRev ∨ cur.revokedAt ≠ none) .revisionConflict
  raiseIf (replacement.cameraId ≠ cur.cameraId ∨ ∃ expiry ∈ cur.expiresAt, oldExpiresAt > expiry)
    (.valueError "access_grant_rotation_invalid")
  let prev ← cur.withExpiry oldExpiresAt (expRev + 1)
  let inserted ← (claimed.updateGrant prev).insertAccessGrant replacement
  let committed ← inserted.commit
  return ((prev, replacement), committed)

/-- `rehash_access_grant` and `rtsp_proxy_auth_rehash_grant`: whether a row was updated. -/
def rehashAccessGrant (db : GrantDatabase) (grantId : UUID)
    (tokenVerifier pepperKeyId : String) (expRev : Int) :
    Except GrantError (Bool × GrantDatabase) :=
  if verifierValid : isSha256Hex tokenVerifier = true then
    if pepperValid : pepperKeyId ≠ "" ∧ pepperKeyId.length ≤ 64 then
      if expectedValid : 1 ≤ expRev then
        match db.lookup grantId with
        | none => .ok (false, db)
        | some row =>
          if row.revision = expRev ∧ row.revokedAt = none ∧ row.pepperKeyId ≠ pepperKeyId then
            .ok (true, db.updateGrant (row.withVerifier tokenVerifier pepperKeyId
              (expRev + 1) verifierValid pepperValid (by omega)))
          else .ok (false, db)
      else .error (.valueError "access_grant_rehash_invalid")
    else .error (.valueError "access_grant_rehash_invalid")
  else .error (.valueError "access_grant_rehash_invalid")

/-- `mark_access_grant_used` with the `clock_timestamp()` of the database. -/
def markAccessGrantUsed (db : GrantDatabase) (grantId : UUID) (usedAt : Datetime) :
    Bool × GrantDatabase :=
  match db.lookup grantId with
  | none => (false, db)
  | some row =>
    if row.revokedAt = none then (true, db.updateGrant (row.withUse usedAt))
    else (false, db)

end GrantDatabase

end RtspProxy.Access
