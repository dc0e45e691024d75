import RtspProxy.Logins.Stores

/-!
# Sessions, logins and the requests that run them

The methods of `PostgresOperatorSessionStore` on sessions and authorizations,
the resolver of OIDC accounts, and the controls that put them together: a login
is one transaction that checks and another one that issues the session. `Request`
is what a server runs over accounts that exist, any number of them at a time;
accounts are provisioned and created before.
-/

namespace RtspProxy.Logins

open Nodes Access Lib Lib.ReadCommitted
open Lib.Program.Prog

structure Authorization where
  accountId : UUID
  expectedAuthzVersion : Int
  roles : Finset OperatorRole
  scopes : Finset String
  enabled : Bool

/-- What `OperatorAccount.__post_init__` asks of the new roles and scopes. -/
def Authorization.isValid (authorization : Authorization) (acct : AccountRow) : Bool :=
  decide (authorization.roles ≠ ∅) && rolesFit acct.identitySource authorization.roles &&
    decide (authorization.scopes ≠ ∅ ∧ authorization.scopes.card ≤ 128 ∧
      ∀ scope ∈ authorization.scopes, isScope scope = true)

def authzConflict : LoginError := .operatorConflict "operator_authz_conflict"

def updateAuthorizationBody (authorization : Authorization) : LoginProg (AccountRow × Event) :=
  takeSnapshot >>= fun snap =>
    match snap.accounts.get authorization.accountId with
    | none => raise authzConflict
    | some found =>
      if found.authzVersion ≠ authorization.expectedAuthzVersion then raise authzConflict
      else lockAccount authorization.accountId >>= fun locked =>
        match locked with
        | none => raise authzConflict
        | some acct =>
          if acct.authzVersion ≠ authorization.expectedAuthzVersion then raise authzConflict
          else if acct.authzVersion = maxAuthzVersion then
            raise (.operatorConflict "operator_authz_version_exhausted")
          else if authorization.isValid acct = false then
            raise (.valueError "operator_account_invalid")
          else
            let upd : AccountRow :=
              { acct with
                roles := authorization.roles
                scopes := authorization.scopes
                enabled := authorization.enabled
                authzVersion := acct.authzVersion + 1 }
            put (.account authorization.accountId upd) >>= fun _ =>
              pure (upd, .authorized authorization.accountId)

def updateAuthorization (authorization : Authorization) : LoginProg AccountRow :=
  orUnavailable sessionStoreUnavailable (transaction (updateAuthorizationBody authorization))

/-- What `OperatorSessionControl.issue` draws for a session, with its settings. -/
structure SessionDraw where
  sessionId : UUID
  tokenSha256 : String
  csrfSha256 : String
  idleTimeout : Int
  absoluteTimeout : Int

/-- `enabled AND (expected IS NULL OR authz_version = expected)`. -/
def mayIssue (expectedAuthzVersion : Option Int) (acct : AccountRow) : Bool :=
  acct.enabled && expectedAuthzVersion.all fun want => decide (acct.authzVersion = want)

def accountUnavailable : LoginError := .authenticationRequired "operator_account_unavailable"

/-- `ORDER BY issued_at DESC, id DESC`. -/
def issuedLater (first second : UUID × SessionRow) : Bool :=
  decide (second.2.issuedAt < first.2.issuedAt) ||
    (decide (second.2.issuedAt = first.2.issuedAt) && decide (second.1.toNat ≤ first.1.toNat))

/-- The unrevoked sessions of an account beyond the new one and the four issued last. -/
def Database.excess (db : Database) (accountId newSessionId : UUID) : List UUID :=
  (((db.sessions.items.filter fun item =>
    decide (item.2.accountId = accountId) && item.2.revokedAt.isNone &&
      decide (item.1 ≠ newSessionId)).mergeSort issuedLater).drop 4).map Prod.fst

def SessionDraw.row (draw : SessionDraw) (accountId : UUID) (acct : AccountRow)
    (mfaVerified : Bool) (moment : Datetime) : SessionRow where
  accountId := accountId
  tokenSha256 := draw.tokenSha256
  csrfSha256 := draw.csrfSha256
  authzVersion := acct.authzVersion
  issuedAt := moment
  lastSeenAt := moment
  idleExpiresAt := moment + draw.idleTimeout
  absoluteExpiresAt := moment + draw.absoluteTimeout
  mfaVerifiedAt := if mfaVerified = true then some moment else none

/-- `INSERT INTO operator_sessions`: an insert of the same id or token that is still open is waited
for, and one that committed is a conflict. -/
def insertSession (id : UUID) (row : SessionRow) : LoginProg Unit :=
  lockSession id >>= fun present => lockToken row.tokenSha256 >>= fun taken =>
    if present.isSome = true ∨ taken = true then raise .database else put (.session id row)

def issueSessionBody (draw : SessionDraw) (accountId : UUID) (mfaVerified : Bool)
    (expectedAuthzVersion : Option Int) : LoginProg (SessionRow × Event) :=
  takeSnapshot >>= fun snap =>
    if (snap.accounts.get accountId).any (mayIssue expectedAuthzVersion) = false then
      raise accountUnavailable
    else lockAccount accountId >>= fun locked =>
      match locked with
      | none => raise accountUnavailable
      | some acct =>
        if mayIssue expectedAuthzVersion acct = false then raise accountUnavailable
        else
          clockTimestamp >>= fun moment =>
          insertSession draw.sessionId (draw.row accountId acct mfaVerified moment) >>= fun _ =>
          takeSnapshot >>= fun snap =>
          revokeRows (fun _ _ => true) (snap.excess accountId draw.sessionId) >>= fun _ =>
            pure (draw.row accountId acct mfaVerified moment, .issued draw.sessionId)

def issueSession (draw : SessionDraw) (accountId : UUID) (mfaVerified : Bool)
    (expectedAuthzVersion : Option Int) : LoginProg SessionRow :=
  orUnavailable sessionStoreUnavailable
    (transaction (issueSessionBody draw accountId mfaVerified expectedAuthzVersion))

def evaluateJoinedRow (sess : SessionRow) (acct : AccountRow) (now : Datetime) :
    Except OperatorSessionFailure (SessionRow × AccountRow) :=
  if sess.revokedAt.isSome = true then .error .revoked
  else if sess.idleExpiresAt ≤ now ∨ sess.absoluteExpiresAt ≤ now then .error .expired
  else if acct.enabled = false then .error .accountUnavailable
  else if acct.authzVersion ≠ sess.authzVersion then .error .stale
  else .ok (sess, acct)

/-- The join of a session with its account, looked up by its token and evaluated. -/
def Database.evaluate (db : Database) (tokenSha256 : String) (now : Datetime) :
    Except OperatorSessionFailure (SessionRow × AccountRow) :=
  match db.sessions.values.find? fun row => row.tokenSha256 = tokenSha256 with
  | none => .error .invalid
  | some sess =>
    match db.accounts.get sess.accountId with
    | none => .error .invalid
    | some acct => evaluateJoinedRow sess acct now

/-- `with engine.connect()`: what the block read is all there is to it. -/
def connection {Result : Type} (body : LoginProg Result) : LoginProg Result :=
  body.andThen fun out =>
    ask (Call.rollback : Call Write Key Event) >>= fun _ => .done out

def readSession (tokenSha256 : String) :
    LoginProg (Except OperatorSessionFailure (SessionRow × AccountRow)) :=
  orUnavailable sessionStoreUnavailable
    (connection (takeSnapshot >>= fun snap => clockTimestamp >>= fun now =>
      pure (snap.evaluate tokenSha256 now)))

structure Touch where
  sessionId : UUID
  tokenSha256 : String
  expectedAuthzVersion : Int
  idleTimeout : Int

/-- The `WHERE` of `touch_authorized_session`, for a session joined with its account. -/
def Touch.selects (touch : Touch) (acct : AccountRow) (row : SessionRow) (now : Datetime) :
    Bool :=
  decide (row.tokenSha256 = touch.tokenSha256) && row.revokedAt.isNone &&
    decide (now < row.idleExpiresAt) && decide (now < row.absoluteExpiresAt) && acct.enabled &&
    decide (acct.authzVersion = row.authzVersion) &&
    decide (acct.authzVersion = touch.expectedAuthzVersion)

/-- An `UPDATE operator_sessions AS s .. FROM operator_accounts AS a` of one session: the session is
locked and read again, the account is the one of the snapshot. -/
def updateSession (sessionId : UUID) (selects : AccountRow → SessionRow → Datetime → Bool)
    (assign : SessionRow → Datetime → SessionRow) (event : Event) :
    LoginProg (Option (SessionRow × AccountRow) × Event) :=
  takeSnapshot >>= fun snap => clockTimestamp >>= fun moment =>
    match snap.sessions.get sessionId with
    | none => pure (none, .quiet)
    | some found =>
      match snap.accounts.get found.accountId with
      | none => pure (none, .quiet)
      | some acct =>
        if selects acct found moment = false then pure (none, .quiet)
        else lockSession sessionId >>= fun locked => clockTimestamp >>= fun now =>
          match locked with
          | none => pure (none, .quiet)
          | some row =>
            if row.accountId ≠ found.accountId ∨ selects acct row now = false then
              pure (none, .quiet)
            else put (.session sessionId (assign row now)) >>= fun _ =>
              pure (some (assign row now, acct), event)

/-- `last_seen_at = .., idle_expires_at = LEAST(.. + :idle_timeout, absolute_expires_at)`. -/
def SessionRow.touched (row : SessionRow) (idleTimeout : Int) (now : Datetime) : SessionRow :=
  { row with
    lastSeenAt := now
    idleExpiresAt := min (now + idleTimeout) row.absoluteExpiresAt }

def touchAuthorizedSession (touch : Touch) :
    LoginProg (Except OperatorSessionFailure (SessionRow × AccountRow)) :=
  orUnavailable sessionStoreUnavailable
    (transaction (updateSession touch.sessionId touch.selects
      (fun row now => row.touched touch.idleTimeout now) (.touched touch.sessionId))) >>= fun row =>
    match row with
    | some authenticated => pure (.ok authenticated)
    | none => readSession touch.tokenSha256 >>= fun latest =>
      match latest with
      | .ok _ => pure (.error .changed)
      | .error failure => pure (.error failure)

structure MfaMark where
  accountId : UUID
  sessionId : UUID
  tokenSha256 : String
  verifiedAt : Datetime

def MfaMark.selects (mark : MfaMark) (acct : AccountRow) (row : SessionRow) (now : Datetime) :
    Bool :=
  decide (row.accountId = mark.accountId) && decide (row.tokenSha256 = mark.tokenSha256) &&
    row.revokedAt.isNone && decide (now < row.idleExpiresAt) &&
    decide (now < row.absoluteExpiresAt) && acct.enabled &&
    decide (acct.authzVersion = row.authzVersion)

def markMfaVerified (mark : MfaMark) : LoginProg Bool :=
  orUnavailable sessionStoreUnavailable
    (transaction (updateSession mark.sessionId mark.selects
      (fun row _ => { row with mfaVerifiedAt := some mark.verifiedAt }) .quiet)) >>= fun row =>
    pure row.isSome

/-- `token_sha256 = .. AND revoked_at IS NULL`. -/
def isOpenSession (tokenSha256 : String) (_ : UUID) (row : SessionRow) : Bool :=
  decide (row.tokenSha256 = tokenSha256) && row.revokedAt.isNone

def revokeSession (tokenSha256 : String) : LoginProg Bool :=
  orUnavailable sessionStoreUnavailable
    (transaction (revokeWhere (isOpenSession tokenSha256) >>= fun ids =>
      pure (!ids.isEmpty, .quiet)))

section Logins

variable (ciphers : Ciphers)

/-- `except OperatorAuthenticationRequired: raise OidcLoginInvalid(code) from None`. -/
def orLoginInvalid {Result : Type} (code : String) (prog : LoginProg Result) :
    LoginProg Result :=
  prog.handle fun err =>
    match err with
    | .authenticationRequired _ => raise (.loginInvalid code)
    | err => raise err

def loginLocal (login : LocalLogin) (draw : SessionDraw) : LoginProg SessionRow :=
  authenticateLocal ciphers login >>= fun authentication =>
    orLoginInvalid "local_operator_login_failed"
      (issueSession draw authentication.1 authentication.2.2 (some authentication.2.1))

def loginBreakGlass (login : BreakGlassLogin) (draw : SessionDraw) : LoginProg SessionRow :=
  authenticateBreakGlass ciphers login >>= fun authentication =>
    orLoginInvalid "break_glass_login_failed"
      (issueSession draw authentication.1 true (some authentication.2.1))

def refreshMfa (accountId sessionId : UUID) (tokenSha256 totp : String) (now : Option Datetime) :
    LoginProg Unit :=
  match now with
  | none => raise (.loginInvalid "local_operator_mfa_refresh_denied")
  | some now => verifyTotp ciphers accountId totp (some now) >>= fun _ =>
    markMfaVerified ⟨accountId, sessionId, tokenSha256, now⟩ >>= fun marked =>
      if marked = true then pure () else raise (.authenticationRequired "operator_session_invalid")

structure OidcIdentity where
  subject : String
  displayName : String
  roles : Finset OperatorRole
  mfaVerified : Bool

/-- `subject ~ '^oidc:[0-9a-f]{64}$'`. -/
def isCanonicalSubject (subject : String) : Bool :=
  "oidc:".toList.isPrefixOf subject.toList && isSha256Hex (String.ofList (subject.toList.drop 5))

/-- `SELECT .. WHERE identity_source = 'oidc' AND subject = :subject FOR UPDATE`. -/
def selectOidc (subject : String) : LoginProg (Option (UUID × AccountRow)) :=
  takeSnapshot >>= fun snap =>
    match snap.accounts.items.find? fun item =>
        item.2.identitySource = .oidc ∧ item.2.subject = subject with
    | none => pure none
    | some (accountId, _) => lockAccount accountId >>= fun locked =>
      match locked with
      | none => pure none
      | some acct => pure (if acct.identitySource = .oidc ∧ acct.subject = subject then
          some (accountId, acct) else none)

/-- `INSERT INTO operator_accounts .. ON CONFLICT (identity_source, subject) DO NOTHING`. -/
def insertOidc (accountId : UUID) (row : AccountRow) : LoginProg Unit :=
  lockIdentity .oidc row.subject >>= fun taken => lockAccount accountId >>= fun present =>
    if taken = true then raise (.loginInvalid "oidc_account_conflict")
    else if present.isSome = true then raise .database
    else put (.account accountId row)

/-- The block of `PostgresOidcAccountResolver.resolve`; `accountId` is what `uuid4` draws. -/
def resolveBody (identity : OidcIdentity) (accountId : UUID) : LoginProg (UUID × Event) :=
  selectOidc (ciphers.canonicalSubject identity.subject) >>= fun row =>
    match row with
    | none => takeSnapshot >>= fun snap =>
      if snap.accounts.values.any (fun row => decide (row.identitySource = .oidc) &&
          !isCanonicalSubject row.subject) = true then
        raise (.loginInvalid "oidc_account_mapping_required")
      else insertOidc accountId
        { identitySource := .oidc
          subject := ciphers.canonicalSubject identity.subject
          displayName := identity.displayName
          roles := identity.roles
          scopes := {"server:*"}
          authzVersion := 1
          enabled := true } >>= fun _ => pure (accountId, .resolved accountId identity.roles)
    | some (found, acct) =>
      if acct.enabled = false ∨ acct.roles ≠ identity.roles then
        raise (.loginInvalid "oidc_account_unavailable")
      else if acct.displayName ≠ identity.displayName then
        put (.account found { acct with displayName := identity.displayName }) >>= fun _ =>
          pure (found, .resolved found identity.roles)
      else pure (found, .resolved found identity.roles)

def resolve (identity : OidcIdentity) (accountId : UUID) : LoginProg UUID :=
  orUnavailable (.loginUnavailable "oidc_account_store_unavailable")
    (transaction (resolveBody ciphers identity accountId))

/-- What `OidcLoginControl.complete` makes of an exception. -/
def callbackError (err : LoginError) : LoginError :=
  match err with
  | .loginInvalid code => .loginInvalid code
  | .loginUnavailable code => .loginUnavailable code
  | .sessionUnavailable _ => .loginUnavailable "operator_session_store_unavailable"
  | _ => .loginInvalid "oidc_callback_failed"

/-- `OidcLoginControl.complete`. The flow, the token endpoint and the verifier of claims lead to
`identity` or raise; whether the identity is throttled is another table's answer. -/
def complete (identity : Except LoginError OidcIdentity) (accountId : UUID) (draw : SessionDraw) :
    LoginProg SessionRow :=
  (match identity with
  | .error err => raise err
  | .ok identity =>
    if identity.mfaVerified = false then raise (.loginInvalid "oidc_mfa_required")
    else consult >>= fun allowed =>
      if allowed = false then raise (.loginRateLimited 60)
      else resolve ciphers identity accountId >>= fun resolved =>
        issueSession draw resolved true none).handle fun err => raise (callbackError err)

inductive Request
  | loginLocal (login : LocalLogin) (draw : SessionDraw)
  | loginBreakGlass (login : BreakGlassLogin) (draw : SessionDraw)
  | complete (identity : Except LoginError OidcIdentity) (accountId : UUID) (draw : SessionDraw)
  | refreshMfa (accountId sessionId : UUID) (tokenSha256 totp : String) (now : Option Datetime)
  | changePassword (change : PasswordChange)
  | enrollTotp (enrolment : TotpEnrolment)
  | rotate (rotation : Rotation)
  | updateAuthorization (authorization : Authorization)
  | readSession (tokenSha256 : String)
  | touchAuthorizedSession (touch : Touch)
  | revokeSession (tokenSha256 : String)

def forget {Result : Type} (prog : LoginProg Result) : LoginProg Unit :=
  prog >>= fun _ => pure ()

def programOf : Request → LoginProg Unit
  | .loginLocal login draw => forget (loginLocal ciphers login draw)
  | .loginBreakGlass login draw => forget (loginBreakGlass ciphers login draw)
  | .complete identity accountId draw => forget (complete ciphers identity accountId draw)
  | .refreshMfa accountId sessionId tokenSha256 totp now =>
    refreshMfa ciphers accountId sessionId tokenSha256 totp now
  | .changePassword change => forget (changePassword ciphers change)
  | .enrollTotp enrolment => forget (enrollTotp ciphers enrolment)
  | .rotate rotation => forget (rotate ciphers rotation)
  | .updateAuthorization authorization => forget (updateAuthorization authorization)
  | .readSession tokenSha256 => forget (readSession tokenSha256)
  | .touchAuthorizedSession touch => forget (touchAuthorizedSession touch)
  | .revokeSession tokenSha256 => forget (revokeSession tokenSha256)

def Reaches (init : Database) (st : Program.SystemState (Call Write Key Event)
      (Answer Database Write Key Event Datetime Value) LoginError Unit LoginServer) : Prop :=
  Program.SystemReachable (machine schema Event Datetime LoginError.database)
    (fun prog => ∃ req : Request, prog = programOf ciphers req)
    (fun srv => srv = .start init) st

end Logins

end RtspProxy.Logins
