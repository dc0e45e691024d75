import RtspProxy.Lib.Dict
import RtspProxy.Lib.Raising
import RtspProxy.Nodes.Records
import Mathlib.Data.Finset.Card

/-!
# Operator accounts and sessions

The accounts, sessions and audit events of `operator_access.py` and the
`InMemoryOperatorSessionStore` that holds them. Every method of the store runs
under its lock, so here each one is a function from the store to its answer and
the store after it. A reading of the clock is an argument of the method that
takes it; `none` is a reading without a time zone. Identifiers drawn by `uuid4`
are arguments as well. The rate limits of `claim_operator_action` are left out:
no method below reads them.
-/

namespace RtspProxy.Access

open Nodes Lib Lib.Raising

inductive OperatorRole
  | viewer | operator | admin | auditor | breakGlass
  deriving DecidableEq

inductive OperatorIdentitySource
  | oidc | localAccount | breakGlass
  deriving DecidableEq

inductive OperatorPermission
  | dashboardRead | controlRead | controlMutate | accessAdmin | operatorAdmin | auditRead
  | secretIssue
  deriving DecidableEq

def OperatorPermission.all : List OperatorPermission :=
  [.dashboardRead, .controlRead, .controlMutate, .accessAdmin, .operatorAdmin, .auditRead,
    .secretIssue]

def OperatorPermission.value : OperatorPermission → String
  | .dashboardRead => "dashboard.read"
  | .controlRead => "control.read"
  | .controlMutate => "control.mutate"
  | .accessAdmin => "access.admin"
  | .operatorAdmin => "operator.admin"
  | .auditRead => "audit.read"
  | .secretIssue => "secret.issue"

def rolePermissions : OperatorRole → List OperatorPermission
  | .viewer => [.dashboardRead, .controlRead]
  | .operator => [.dashboardRead, .controlRead, .controlMutate, .secretIssue]
  | .admin => OperatorPermission.all
  | .auditor => [.dashboardRead, .auditRead]
  | .breakGlass => OperatorPermission.all

def maxAuthzVersion : Int := Int.pow 2 63 - 1

def isAsciiAlphanumeric (char : Char) : Bool :=
  ('A' ≤ char && char ≤ 'Z') || ('a' ≤ char && char ≤ 'z') ||
    ('0' ≤ char && char ≤ '9')

/-- `[A-Za-z0-9][A-Za-z0-9<others>]{0,127}`. -/
def isIdentifier (others : List Char) : List Char → Bool
  | [] => false
  | first :: rest => isAsciiAlphanumeric first && decide (rest.length ≤ 127) &&
      rest.all fun char => isAsciiAlphanumeric char || others.contains char

/-- `_SCOPE_PATTERN.fullmatch(value)`. -/
def isScope (value : String) : Bool :=
  value == "server:*" ||
    ("group:".toList.isPrefixOf value.toList &&
      isIdentifier ['.', '_', '-'] (value.toList.drop 6)) ||
    ("camera:".toList.isPrefixOf value.toList && isIdentifier ['.', '_', '-'] (value.toList.drop 7))

/-- `_AUDIT_SCOPE_PATTERN.fullmatch(value)`. -/
def isAuditScope (value : String) : Bool := isScope value || value == "session:self"

def auditActions : List String :=
  OperatorPermission.all.map OperatorPermission.value ++
  ["audit.read", "camera.access_policy_read", "camera.access_policy_update", "camera.access_read",
    "camera.create", "camera.delete", "camera.disable", "camera.enable", "camera.grant_issue",
    "camera.grant_list", "camera.grant_purge", "camera.grant_revoke", "camera.grant_rotate",
    "camera.list", "camera.live_read", "camera.move", "camera.move_preview", "camera.move_read",
    "camera.mutation_preview", "camera.probe_profile_read", "camera.probe_profile_update",
    "camera.read", "camera.runtime_read", "camera.update", "dashboard.read", "node.create",
    "node.delete", "node.drain", "node.list", "node.maintenance", "node.observe",
    "node.port_change", "node.port_change_preview", "node.read", "node.reconfigure",
    "node.reconfigure_preview", "node.release_update", "node.restart", "node.resume", "node.start",
    "node.stop", "operator.admin", "operator.login", "operator.local_totp_enroll",
    "operator.mfa_refresh", "operator.password_change", "operator.session_logout",
    "operator.session_read", "request.unsupported"]

def auditHttpMethods : List String :=
  ["GET", "HEAD", "OPTIONS", "POST", "PUT", "PATCH", "DELETE", "INTERNAL", "OTHER"]

def auditResourceTypes : List String :=
  ["access_grant", "access_policy", "audit", "camera", "camera_move", "dashboard", "node",
    "operator_account", "server", "session"]

inductive SessionError
  | authenticationRequired (code : String)
  | authorizationDenied (code : String)
  | operatorConflict (code : String)
  | valueError (code : String)
  deriving DecidableEq

inductive OperatorSessionFailure
  | invalid | revoked | expired | accountUnavailable | stale | changed
  deriving DecidableEq

def OperatorSessionFailure.value : OperatorSessionFailure → String
  | .invalid => "operator_session_invalid"
  | .revoked => "operator_session_revoked"
  | .expired => "operator_session_expired"
  | .accountUnavailable => "operator_account_unavailable"
  | .stale => "operator_session_stale"
  | .changed => "operator_session_changed"

structure OperatorRequestAuditContext where
  requestId : UUID
  action : String
  httpMethod : String
  resourceScope : String
  sourceIpSha256 : String
  userAgentSha256 : String
  resourceType : String := "server"
  resourceId : String := "server"
  deriving DecidableEq

namespace OperatorRequestAuditContext

def isValid (ctx : OperatorRequestAuditContext) : Bool :=
  auditActions.contains ctx.action && auditHttpMethods.contains ctx.httpMethod &&
    isAuditScope ctx.resourceScope && auditResourceTypes.contains ctx.resourceType &&
    isIdentifier ['.', '_', ':', '-'] ctx.resourceId.toList &&
    isSha256Hex ctx.sourceIpSha256 && isSha256Hex ctx.userAgentSha256

variable (digest : String → String)

def capture (requestId : UUID)
    (action httpMethod resourceScope sourceIp userAgent resourceType resourceId : String) :
    Except SessionError OperatorRequestAuditContext := do
  raiseIf (sourceIp = "" ∨ 128 < sourceIp.length ∨ 4096 < userAgent.length ∨
      sourceIp.toList.any (fun char => decide (char.toNat < 32)) = true)
    (.valueError "operator_request_audit_context_invalid")
  let ctx : OperatorRequestAuditContext :=
    { requestId, action, httpMethod, resourceScope
      sourceIpSha256 := digest sourceIp
      userAgentSha256 := digest userAgent
      resourceType, resourceId }
  raiseIf (ctx.isValid = false) (.valueError "operator_request_audit_context_invalid")
  return ctx

def internal (requestId : UUID) (action resourceScope resourceType resourceId : String) :
    Except SessionError OperatorRequestAuditContext :=
  capture digest requestId action "INTERNAL" resourceScope "internal" "" resourceType resourceId

end OperatorRequestAuditContext

structure OperatorMutationContext where
  actor : String
  reason : String
  deriving DecidableEq

structure OperatorAuthorizationEvent where
  id : UUID
  accountId : UUID
  actor : String
  reason : String
  roles : Finset OperatorRole
  scopes : Finset String
  enabled : Bool
  authzVersion : Int
  deriving DecidableEq

structure OperatorRequestSecurityEvent where
  accountId : Option UUID
  sessionId : Option UUID
  eventType : String
  reasonCode : String
  outcome : String
  roles : Finset OperatorRole
  scopes : Finset String
  auditContext : OperatorRequestAuditContext
  identitySource : Option OperatorIdentitySource
  targetGrantId : Option UUID := none
  expectedRevision : Option Int := none
  idempotencyKey : Option UUID := none
  deriving DecidableEq

/-- What `OperatorAccount.__post_init__` asks of the roles an identity source may hold. -/
def rolesFit (source : OperatorIdentitySource) (roles : Finset OperatorRole) : Bool :=
  match source with
  | .breakGlass => roles = {.breakGlass}
  | .oidc | .localAccount => .breakGlass ∉ roles

structure OperatorAccount where
  id : UUID
  identitySource : OperatorIdentitySource
  subject : String
  displayName : String
  roles : Finset OperatorRole
  scopes : Finset String
  authzVersion : Int
  enabled : Bool
  subjectValid : subject ≠ "" ∧ subject.length ≤ 512
  displayNameValid : displayName ≠ "" ∧ displayName.length ≤ 256
  rolesValid : roles ≠ ∅ ∧ rolesFit identitySource roles = true
  scopesValid : scopes ≠ ∅ ∧ scopes.card ≤ 128 ∧ ∀ scope ∈ scopes, isScope scope = true
  versionValid : 1 ≤ authzVersion ∧ authzVersion ≤ maxAuthzVersion
  deriving DecidableEq

/-- `replace(account, roles=.., scopes=.., authz_version=account.authz_version + 1, enabled=..)`. -/
def OperatorAccount.withAuthorization (acct : OperatorAccount) (roles : Finset OperatorRole)
    (scopes : Finset String) (enabled : Bool) : Except SessionError OperatorAccount :=
  if valid : (roles ≠ ∅ ∧ rolesFit acct.identitySource roles = true) ∧
      (scopes ≠ ∅ ∧ scopes.card ≤ 128 ∧ ∀ scope ∈ scopes, isScope scope = true) ∧
      (1 ≤ acct.authzVersion + 1 ∧ acct.authzVersion + 1 ≤ maxAuthzVersion) then
    .ok { acct with
          roles, scopes, enabled
          authzVersion := acct.authzVersion + 1
          rolesValid := valid.1
          scopesValid := valid.2.1
          versionValid := valid.2.2 }
  else .error (.valueError "operator_account_invalid")

structure OperatorSession where
  id : UUID
  accountId : UUID
  tokenSha256 : String
  csrfSha256 : String
  authzVersion : Int
  issuedAt : Datetime
  lastSeenAt : Datetime
  idleExpiresAt : Datetime
  absoluteExpiresAt : Datetime
  mfaVerifiedAt : Option Datetime
  revokedAt : Option Datetime := none
  digestsValid : tokenSha256.length = 64 ∧ csrfSha256.length = 64
  versionValid : 1 ≤ authzVersion
  expiryValid : issuedAt < idleExpiresAt ∧ issuedAt < absoluteExpiresAt
  deriving DecidableEq

namespace OperatorSession

def withRevocation (sess : OperatorSession) (moment : Datetime) : OperatorSession :=
  { sess with revokedAt := some moment }

def withMfa (sess : OperatorSession) (moment : Datetime) : OperatorSession :=
  { sess with mfaVerifiedAt := some moment }

/-- The session `touch_authorized_session` writes back. Its expiry never moves to an earlier time. -/
def touched (sess : OperatorSession) (now : Datetime) (idle : Int) : OperatorSession :=
  { sess with
    lastSeenAt := max sess.lastSeenAt now
    idleExpiresAt := max sess.idleExpiresAt (min (now + idle) sess.absoluteExpiresAt)
    expiryValid := ⟨lt_of_lt_of_le sess.expiryValid.1 (le_max_left _ _), sess.expiryValid.2⟩ }

end OperatorSession

structure AuthenticatedOperatorSession where
  session : OperatorSession
  account : OperatorAccount
  deriving DecidableEq

/-- `AuthenticatedOperatorSession | OperatorSessionFailure`. -/
abbrev SessionReading := Except OperatorSessionFailure AuthenticatedOperatorSession

structure InMemoryOperatorSessionStore where
  accounts : Dict UUID OperatorAccount
  sessions : Dict UUID OperatorSession
  authorizationEvents : List OperatorAuthorizationEvent
  requestSecurityEvents : List OperatorRequestSecurityEvent
  deriving DecidableEq

namespace InMemoryOperatorSessionStore

def init (accounts : List OperatorAccount) : InMemoryOperatorSessionStore where
  accounts := accounts.foldl (fun table acct => table.set acct.id acct) .empty
  sessions := .empty
  authorizationEvents := []
  requestSecurityEvents := []

def now (reading : Option Datetime) : Except SessionError Datetime :=
  orRaise reading (.valueError "operator_session_clock_invalid")

variable (store : InMemoryOperatorSessionStore)

def createAccount (acct : OperatorAccount) :
    Except SessionError InMemoryOperatorSessionStore := do
  raiseIf (acct.authzVersion ≠ 1) (.valueError "operator_authz_initial_version_invalid")
  raiseIf (store.accounts.contains acct.id = true) (.operatorConflict "operator_account_exists")
  return { store with accounts := store.accounts.set acct.id acct }

def authorizationEvent (eventId : UUID) (acct : OperatorAccount)
    (ctx : OperatorMutationContext) : OperatorAuthorizationEvent where
  id := eventId
  accountId := acct.id
  actor := ctx.actor
  reason := ctx.reason
  roles := acct.roles
  scopes := acct.scopes
  enabled := acct.enabled
  authzVersion := acct.authzVersion

def updateAuthorization (accountId : UUID) (expectedAuthzVersion : Int)
    (roles : Finset OperatorRole) (scopes : Finset String) (enabled : Bool)
    (ctx : OperatorMutationContext) (eventId : UUID) :
    Except SessionError (OperatorAccount × InMemoryOperatorSessionStore) := do
  let cur ← orRaise (store.accounts.get accountId) (.operatorConflict "operator_authz_conflict")
  raiseIf (cur.authzVersion ≠ expectedAuthzVersion ∨ cur.authzVersion = maxAuthzVersion)
    (.operatorConflict "operator_authz_conflict")
  let upd ← cur.withAuthorization roles scopes enabled
  return (upd, { store with
      accounts := store.accounts.set accountId upd
      authorizationEvents := store.authorizationEvents ++
        [authorizationEvent eventId upd ctx] })

/-- `active[:-5]`: the unrevoked sessions of an account but the five issued last. -/
def surplusSessions (sessions : Dict UUID OperatorSession) (accountId : UUID) :
    List OperatorSession :=
  let active := sessions.values.filter fun cur =>
    decide (cur.accountId = accountId) && cur.revokedAt.isNone
  active.take (active.length - 5)

/-- The loop that revokes the surplus sessions of an account. -/
def revokeAll (surplus : List OperatorSession) (moment : Datetime)
    (sessions : Dict UUID OperatorSession) : Dict UUID OperatorSession :=
  surplus.foldl (fun table expired => table.set expired.id (expired.withRevocation moment)) sessions

def issueSession (sessionId accountId : UUID) (tokenSha256 csrfSha256 : String)
    (idle absoluteTimeout : Int) (mfaVerified : Bool) (expectedAuthzVersion : Option Int)
    (reading : Option Datetime) :
    Except SessionError (OperatorSession × InMemoryOperatorSessionStore) := do
  let acct ← orRaise (store.accounts.get accountId)
    (.authenticationRequired "operator_account_unavailable")
  raiseIf (acct.enabled = false ∨
      expectedAuthzVersion.any (fun want => decide (acct.authzVersion ≠ want)) = true)
    (.authenticationRequired "operator_account_unavailable")
  raiseIf (store.sessions.values.any (fun existing => existing.tokenSha256 == tokenSha256) = true)
    (.valueError "operator_session_token_conflict")
  let issuedAt ← now reading
  if valid : (tokenSha256.length = 64 ∧ csrfSha256.length = 64) ∧
      (issuedAt < issuedAt + idle ∧ issuedAt < issuedAt + absoluteTimeout) then
    let sess : OperatorSession :=
      { id := sessionId
        accountId := acct.id
        tokenSha256, csrfSha256
        authzVersion := acct.authzVersion
        issuedAt
        lastSeenAt := issuedAt
        idleExpiresAt := issuedAt + idle
        absoluteExpiresAt := issuedAt + absoluteTimeout
        mfaVerifiedAt := if mfaVerified then some issuedAt else none
        digestsValid := valid.1
        versionValid := acct.versionValid.1
        expiryValid := valid.2 }
    let issued := store.sessions.set sess.id sess
    return (sess,
      { store with sessions := revokeAll (surplusSessions issued accountId) issuedAt issued })
  else throw (.valueError "operator_session_invalid")

def evaluate (sess : Option OperatorSession) (moment : Datetime) : SessionReading :=
  match sess with
  | none => .error .invalid
  | some sess =>
    if sess.revokedAt.isSome then .error .revoked
    else if sess.idleExpiresAt ≤ moment ∨ sess.absoluteExpiresAt ≤ moment then
      .error .expired
    else
      match store.accounts.get sess.accountId with
      | none => .error .accountUnavailable
      | some acct =>
        if acct.enabled = false then .error .accountUnavailable
        else if acct.authzVersion ≠ sess.authzVersion then .error .stale
        else .ok ⟨sess, acct⟩

/-- The first session with this digest, in the order in which sessions came in. -/
def sessionOf (tokenSha256 : String) : Option OperatorSession :=
  store.sessions.values.find? fun sess => sess.tokenSha256 == tokenSha256

def readSession (tokenSha256 : String) (reading : Option Datetime) :
    Except SessionError SessionReading := do
  let moment ← now reading
  return store.evaluate (store.sessionOf tokenSha256) moment

def touchAuthorizedSession (sessionId : UUID) (tokenSha256 : String) (expectedAuthzVersion : Int)
    (idle : Int) (reading : Option Datetime) :
    Except SessionError (SessionReading × InMemoryOperatorSessionStore) :=
  match store.sessions.get sessionId with
  | none => return (.error .changed, store)
  | some cur => do
      if cur.tokenSha256 ≠ tokenSha256 then return (.error .changed, store)
      let moment ← now reading
      match store.evaluate (some cur) moment with
      | .error failure => return (.error failure, store)
      | .ok evaluated =>
        if evaluated.account.authzVersion ≠ expectedAuthzVersion then
          return (.error .stale, store)
        let upd := cur.touched moment idle
        return (.ok ⟨upd, evaluated.account⟩,
          { store with sessions := store.sessions.set sessionId upd })

/-- The roles and scopes an event records of an account that may be gone. -/
def eventOf (sess : Option OperatorSession) (eventType reasonCode outcome : String)
    (ctx : OperatorRequestAuditContext) : OperatorRequestSecurityEvent :=
  let acct := sess.bind fun sess => store.accounts.get sess.accountId
  { accountId := sess.map (·.accountId)
    sessionId := sess.map (·.id)
    eventType, reasonCode, outcome
    roles := (acct.map (·.roles)).getD ∅
    scopes := (acct.map (·.scopes)).getD ∅
    auditContext := ctx
    identitySource := acct.map (·.identitySource) }

def revokeSession (tokenSha256 : String) (ctx : OperatorRequestAuditContext)
    (reading : Option Datetime) : Except SessionError (Bool × InMemoryOperatorSessionStore) :=
  match store.sessionOf tokenSha256 with
  | none => return (false, store)
  | some sess => do
      if sess.revokedAt.isSome then return (false, store)
      let moment ← now reading
      return (true, { store with
          sessions := store.sessions.set sess.id (sess.withRevocation moment)
          requestSecurityEvents := store.requestSecurityEvents ++
            [store.eventOf (some sess) "operator.session_logout" "operator_initiated" "accepted"
              ctx] })

def markMfaVerified (accountId sessionId : UUID) (tokenSha256 : String) (verifiedAt : Datetime)
    (ctx : OperatorRequestAuditContext) : Bool × InMemoryOperatorSessionStore :=
  match store.sessions.get sessionId, store.evaluate (store.sessions.get sessionId) verifiedAt with
  | some cur, .ok evaluated =>
    if cur.accountId ≠ accountId ∨ cur.tokenSha256 ≠ tokenSha256 then (false, store)
    else
      (true, { store with
          sessions := store.sessions.set sessionId (cur.withMfa verifiedAt)
          requestSecurityEvents := store.requestSecurityEvents ++
            [{ accountId := some accountId
               sessionId := some sessionId
               eventType := "operator.mfa_refreshed"
               reasonCode := "totp_verified"
               outcome := "accepted"
               roles := evaluated.account.roles
               scopes := evaluated.account.scopes
               auditContext := ctx
               identitySource := some evaluated.account.identitySource }] })
  | _, _ => (false, store)

def recordAuthenticationFailure (tokenSha256 : Option String) (reason : OperatorSessionFailure)
    (ctx : OperatorRequestAuditContext) : InMemoryOperatorSessionStore :=
  { store with
    requestSecurityEvents := store.requestSecurityEvents ++
      [store.eventOf (tokenSha256.bind store.sessionOf) "operator.authentication_denied"
        reason.value "rejected" ctx] }

def recordRequestSecurityEvent (accountId sessionId : UUID) (eventType reasonCode : String)
    (roles : Finset OperatorRole) (scopes : Finset String) (ctx : OperatorRequestAuditContext)
    (targetGrantId : Option UUID := none) (expectedRevision : Option Int := none)
    (idempotencyKey : Option UUID := none) : InMemoryOperatorSessionStore :=
  let accepted := eventType = "operator.session_logout" ∨ eventType = "operator.sensitive_read"
  { store with
    requestSecurityEvents := store.requestSecurityEvents ++
      [{ accountId := some accountId
         sessionId := some sessionId
         eventType, reasonCode
         outcome := if accepted then "accepted" else "rejected"
         roles, scopes
         auditContext := ctx
         identitySource := (store.accounts.get accountId).map (·.identitySource)
         targetGrantId, expectedRevision, idempotencyKey }] }

end InMemoryOperatorSessionStore

end RtspProxy.Access
