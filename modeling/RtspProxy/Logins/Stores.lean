import RtspProxy.Logins.Rows

/-!
# The stores of operator identities

`PostgresLocalOperatorStore`, `PostgresBreakGlassStore`,
`PostgresOidcAccountResolver` and the methods of `PostgresOperatorSessionStore`
that write, statement by statement. A `SELECT .. FOR UPDATE` finds its row in the
snapshot, locks it and reads it again; a table of the join that is not locked
stays as the snapshot has it. An `UPDATE` does the same with every row it finds.
Parameters drawn by the caller (`uuid4`, a salt, a nonce, a reading of the clock)
are arguments; a reading is `none` when it has no time zone. Scrypt, AES-GCM,
TOTP, SHA-256 and the classes of characters are the functions of `Ciphers`.
-/

namespace RtspProxy.Logins

open Nodes Access Lib Lib.ReadCommitted
open Lib.Program.Prog

inductive LoginError
  | loginInvalid (code : String)
  | loginUnavailable (code : String)
  | loginRateLimited (retryAfterSeconds : Nat)
  | authenticationRequired (code : String)
  | operatorConflict (code : String)
  | sessionUnavailable (code : String)
  | valueError (code : String)
  | database
  /-- Any other exception, with the account that was found by then. -/
  | failed (acct : Option UUID)
  deriving DecidableEq

abbrev LoginProg := ServerProg Database Write Key Event Datetime Value LoginError

structure Ciphers where
  /-- `verifies_password`: the first 16 bytes are the salt. -/
  verifiesPassword : Bytes → String → Bool
  hashPassword : String → Bytes → Bytes
  /-- `AESGCM(key).decrypt(encrypted[:12], encrypted[12:], account_id.bytes)`. -/
  decrypt : Bytes → UUID → Option Bytes
  encrypt : Bytes → Bytes → UUID → Bytes
  /-- `TOTP(secret, 6, SHA1(), 30).verify(code, seconds)`. -/
  verifiesTotp : Bytes → String → Int → Bool
  /-- `"oidc:"` and the SHA-256 of the issuer and the subject. -/
  canonicalSubject : String → String
  /-- Python's predicates of a character. -/
  isLower : Char → Bool
  isUpper : Char → Bool
  isDigit : Char → Bool
  isAlnum : Char → Bool

def timestamp (now : Datetime) : Int := now.tdiv 1000000

/-- `int(now.timestamp()) // 30`. -/
def totpStep (now : Datetime) : Int := timestamp now / 30

/-- `len(totp) == 6 and totp.isascii() and totp.isdigit()`. -/
def isTotpCode (totp : String) : Bool :=
  totp.length == 6 && totp.toList.all fun digit => '0' ≤ digit && digit ≤ '9'

/-- `except SQLAlchemyError: raise .. from None`. -/
def orUnavailable {Result : Type} (unavailable : LoginError) (prog : LoginProg Result) :
    LoginProg Result :=
  prog.handle fun err => raise (if err = .database then unavailable else err)

def localStoreUnavailable : LoginError := .loginUnavailable "local_operator_store_unavailable"

def breakGlassStoreUnavailable : LoginError := .loginUnavailable "break_glass_store_unavailable"

def sessionStoreUnavailable : LoginError :=
  .sessionUnavailable "operator_session_store_unavailable"

abbrev takeSnapshot : LoginProg Database := ask (Call.snapshot : Call Write Key Event)

abbrev lockAccount (id : UUID) : LoginProg (Option AccountRow) :=
  ask (Call.lock (.account id) : Call Write Key Event)

abbrev lockCredential (accountId : UUID) : LoginProg (Option CredentialRow) :=
  ask (Call.lock (.credential accountId) : Call Write Key Event)

abbrev lockSession (id : UUID) : LoginProg (Option SessionRow) :=
  ask (Call.lock (.session id) : Call Write Key Event)

abbrev lockIdentity (source : OperatorIdentitySource) (subject : String) : LoginProg Bool :=
  ask (Call.lock (.identity source subject) : Call Write Key Event)

abbrev lockToken (tokenSha256 : String) : LoginProg Bool :=
  ask (Call.lock (.token tokenSha256) : Call Write Key Event)

abbrev put (write : Write) : LoginProg Unit := ask (Call.put write : Call Write Key Event)

abbrev clockTimestamp : LoginProg Datetime := ask (Call.clock : Call Write Key Event)

abbrev consult : LoginProg Bool := ask (Call.consult : Call Write Key Event)

/-- The rows an `UPDATE operator_sessions SET revoked_at` found, each locked and read again. -/
def revokeRows (cond : UUID → SessionRow → Bool) : List UUID → LoginProg (List UUID)
  | [] => pure []
  | id :: rest => lockSession id >>= fun locked =>
    match locked with
    | none => revokeRows cond rest
    | some row =>
      if cond id row = true then
        clockTimestamp >>= fun moment =>
        put (.session id { row with revokedAt := some moment }) >>= fun _ =>
        revokeRows cond rest >>= fun ids => pure (id :: ids)
      else revokeRows cond rest

/-- `UPDATE operator_sessions SET revoked_at=clock_timestamp() WHERE .. RETURNING id`. -/
def revokeWhere (cond : UUID → SessionRow → Bool) : LoginProg (List UUID) :=
  takeSnapshot >>= fun snapshot =>
    revokeRows cond
      ((snapshot.sessions.items.filter fun item => cond item.1 item.2).map Prod.fst)

/-- `account_id=.. AND revoked_at IS NULL AND (session IS NULL OR id<>session)`. -/
def isOtherSession (accountId : UUID) (kept : Option UUID) (id : UUID) (row : SessionRow) : Bool :=
  decide (row.accountId = accountId) && row.revokedAt.isNone && decide (kept ≠ some id)

/-- `operator_local_credentials c JOIN operator_accounts a ON a.id=c.account_id WHERE
a.identity_source='local' AND ..`. -/
def Database.localRow (db : Database) (cond : UUID → CredentialRow → Bool) :
    Option (UUID × AccountRow × CredentialRow) :=
  db.credentials.items.findSome? fun item =>
    match db.accounts.get item.1 with
    | none => none
    | some acct =>
      if acct.identitySource = .localAccount ∧ cond item.1 item.2 = true then
        some (item.1, acct, item.2)
      else none

/-- `SELECT .. FOR UPDATE OF c`: the account is the one of the snapshot. -/
def selectCredential (cond : UUID → CredentialRow → Bool) :
    LoginProg (Option (UUID × AccountRow × CredentialRow)) :=
  takeSnapshot >>= fun snapshot =>
    match snapshot.localRow cond with
    | none => pure none
    | some (accountId, acct, _) => lockCredential accountId >>= fun locked =>
      match locked with
      | none => pure none
      | some cred => pure (if cond accountId cred = true then
          some (accountId, acct, cred) else none)

/-- `SELECT .. WHERE a.id=:account_id .. FOR UPDATE OF a, c`. -/
def selectAccountAndCredential (accountId : UUID) :
    LoginProg (Option (AccountRow × CredentialRow)) :=
  takeSnapshot >>= fun snapshot =>
    match snapshot.localRow fun id _ => decide (id = accountId) with
    | none => pure none
    | some _ => lockAccount accountId >>= fun acct =>
      lockCredential accountId >>= fun cred =>
        match acct, cred with
        | some acct, some cred =>
          pure (if acct.identitySource = .localAccount then some (acct, cred)
            else none)
        | _, _ => pure none

section Local

variable (ciphers : Ciphers)

/-- The step a TOTP code is accepted for, if it decrypts, is newer than the last one and
verifies. -/
def acceptedStep (accountId : UUID) (encrypted : Option Bytes) (lastStep : Option Int)
    (totp : String) (now : Datetime) : Option Int :=
  match encrypted.bind fun encrypted => ciphers.decrypt encrypted accountId with
  | none => none
  | some secret =>
    if lastStep.any (fun last => decide (totpStep now ≤ last)) = true then none
    else if ciphers.verifiesTotp secret totp (timestamp now) = true then some (totpStep now)
    else none

structure LocalLogin where
  username : String
  password : String
  totp : String
  sourceIp : String
  now : Option Datetime

/-- `LocalOperatorAuthentication`, or why there is none. -/
inductive LoginOutcome
  | accepted (accountId : UUID) (authzVersion : Int) (mfaVerified : Bool)
  | rejected (rateLimited : Bool)

/-- The end of a login transaction that does not accept: the failure is counted and committed. -/
def rejectLogin (rateLimited : Bool) : LoginProg (LoginOutcome × Event) :=
  if rateLimited = true then pure (.rejected true, .quiet)
  else consult >>= fun limited => pure (.rejected limited, .quiet)

/-- The end of a login transaction that accepts: the attempts are cleared. -/
def acceptLogin (accountId : UUID) (authzVersion : Int) (step : Option Int) :
    LoginProg (LoginOutcome × Event) :=
  pure (.accepted accountId authzVersion step.isSome, .checked accountId authzVersion step)

def authenticateLocalBody (login : LocalLogin) (now : Datetime) :
    LoginProg (LoginOutcome × Event) :=
  if 128 < login.sourceIp.length then raise (.loginInvalid "local_operator_login_failed") else
  consult >>= fun rateLimited =>
  selectCredential (fun _ cred => decide (cred.username = login.username)) >>= fun row =>
    match row with
    | none => rejectLogin rateLimited
    | some (accountId, acct, cred) =>
      if rateLimited = true ∨ acct.enabled = false ∨
          ciphers.verifiesPassword cred.passwordScrypt login.password = false then
        rejectLogin rateLimited
      else if login.totp = "" then acceptLogin accountId acct.authzVersion none
      else
        match acceptedStep ciphers accountId cred.totpSecret cred.lastTotpStep login.totp now with
        | none => rejectLogin rateLimited
        | some step =>
          put (.credential accountId { cred with lastTotpStep := some step }) >>=
            fun _ => acceptLogin accountId acct.authzVersion (some step)

def loginResult (code : String) (out : LoginOutcome) : LoginProg (UUID × Int × Bool) :=
  match out with
  | .accepted accountId authzVersion mfaVerified => pure (accountId, authzVersion, mfaVerified)
  | .rejected true => raise (.loginRateLimited 60)
  | .rejected false => raise (.loginInvalid code)

/-- `PostgresLocalOperatorStore.authenticate`; the semaphore of admissions answers `consult`. -/
def authenticateLocal (login : LocalLogin) : LoginProg (UUID × Int × Bool) :=
  match login.now with
  | none => raise (.loginInvalid "local_operator_login_failed")
  | some now =>
    if ¬(1 ≤ login.username.length ∧ login.username.length ≤ 256) ∨
        login.username.toList.any Char.isWhitespace = true ∨
        ¬(1 ≤ login.password.length ∧ login.password.length ≤ 1024) ∨
        (login.totp ≠ "" ∧ isTotpCode login.totp = false) ∨ login.sourceIp = "" then
      raise (.loginInvalid "local_operator_login_failed")
    else consult >>= fun admitted =>
      if admitted = false then raise (.loginRateLimited 60)
      else orUnavailable localStoreUnavailable
        (transaction (authenticateLocalBody ciphers login now) >>=
          loginResult "local_operator_login_failed")

def verifyTotpBody (accountId : UUID) (totp : String) (now : Datetime) :
    LoginProg (Unit × Event) :=
  selectCredential (fun id _ => decide (id = accountId)) >>= fun row =>
    match row with
    | none => raise (.loginInvalid "local_operator_mfa_refresh_denied")
    | some (_, acct, cred) =>
      if acct.enabled = false then raise (.loginInvalid "local_operator_mfa_refresh_denied")
      else
        match acceptedStep ciphers accountId cred.totpSecret cred.lastTotpStep totp now with
        | none => raise (.loginInvalid "local_operator_mfa_refresh_denied")
        | some step =>
          put (.credential accountId { cred with lastTotpStep := some step }) >>=
            fun _ => pure ((), .mfaRefreshed accountId step)

def verifyTotp (accountId : UUID) (totp : String) (now : Option Datetime) : LoginProg Unit :=
  match now with
  | none => raise (.loginInvalid "local_operator_mfa_refresh_denied")
  | some now =>
    if isTotpCode totp = false then raise (.loginInvalid "local_operator_mfa_refresh_denied")
    else orUnavailable localStoreUnavailable (transaction (verifyTotpBody ciphers accountId totp now))

structure PasswordChange where
  accountId : UUID
  currentPassword : String
  newPassword : String
  totp : String
  currentSessionId : Option UUID
  now : Option Datetime
  salt : Bytes

/-- `validate_local_operator_password`. -/
def isStrongPassword (password : String) : Bool :=
  decide (12 ≤ password.length ∧ password.length ≤ 1024) &&
    (decide (20 ≤ password.length) ||
      decide (3 ≤ (if password.toList.any ciphers.isLower then 1 else 0) +
        (if password.toList.any ciphers.isUpper then 1 else 0) +
        (if password.toList.any ciphers.isDigit then 1 else 0) +
        (if password.toList.any (fun char => !ciphers.isAlnum char) then 1 else 0)))

/-- The `last_totp_step` a password change writes and the step it spends, unless it is denied. -/
def passwordChangeSteps (change : PasswordChange) (now : Datetime) (acct : AccountRow)
    (cred : CredentialRow) : Option (Option Int × Option Int) :=
  if acct.enabled = false ∨
      ciphers.verifiesPassword cred.passwordScrypt change.currentPassword = false ∨
      ciphers.verifiesPassword cred.passwordScrypt change.newPassword = true then none
  else if cred.totpSecret.isNone = true then some (cred.lastTotpStep, none)
  else if change.totp = "" then none
  else (acceptedStep ciphers change.accountId cred.totpSecret cred.lastTotpStep
    change.totp now).map fun step => (some step, some step)

def passwordChangeDenied : LoginError := .loginInvalid "local_operator_password_change_denied"

/-- `UPDATE operator_sessions SET authz_version=.. WHERE id=.. AND account_id=.. AND revoked_at IS
NULL RETURNING id`: the session the request came with moves to the new version. -/
def keepSession (accountId : UUID) (authzVersion : Int) : Option UUID → LoginProg Unit
  | none => pure ()
  | some id => takeSnapshot >>= fun snapshot =>
    match snapshot.sessions.get id with
    | none => raise passwordChangeDenied
    | some found =>
      if found.accountId = accountId ∧ found.revokedAt = none then
        lockSession id >>= fun locked =>
          match locked with
          | none => raise passwordChangeDenied
          | some row =>
            if row.accountId = accountId ∧ row.revokedAt = none then
              put (.session id { row with authzVersion := authzVersion })
            else raise passwordChangeDenied
      else raise passwordChangeDenied

def changePasswordBody (change : PasswordChange) (now : Datetime) : LoginProg (Int × Event) :=
  selectAccountAndCredential change.accountId >>= fun row =>
    match row with
    | none => raise passwordChangeDenied
    | some (acct, cred) =>
      match passwordChangeSteps ciphers change now acct cred with
      | none => raise passwordChangeDenied
      | some (lastTotpStep, step) =>
        if maxAuthzVersion ≤ acct.authzVersion then raise passwordChangeDenied
        else
          put (.credential change.accountId
            { cred with
              passwordScrypt := ciphers.hashPassword change.newPassword change.salt
              lastTotpStep := lastTotpStep }) >>= fun _ =>
          put (.account change.accountId
            { acct with authzVersion := acct.authzVersion + 1 }) >>= fun _ =>
          revokeWhere (isOtherSession change.accountId change.currentSessionId) >>= fun _ =>
          keepSession change.accountId (acct.authzVersion + 1) change.currentSessionId >>=
            fun _ => pure (acct.authzVersion + 1,
              .passwordChanged change.accountId change.currentSessionId step)

def changePassword (change : PasswordChange) : LoginProg Int :=
  if isStrongPassword ciphers change.newPassword = false then
    raise (.valueError "local_operator_password_policy_failed")
  else
    match change.now with
    | none => raise passwordChangeDenied
    | some now =>
      if ¬(1 ≤ change.currentPassword.length ∧ change.currentPassword.length ≤ 1024) then
        raise passwordChangeDenied
      else orUnavailable localStoreUnavailable (transaction (changePasswordBody ciphers change now))

structure TotpEnrolment where
  accountId : UUID
  currentPassword : String
  totpSecret : Bytes
  totp : String
  now : Option Datetime
  nonce : Bytes

def enrolmentDenied : LoginError := .loginInvalid "local_operator_totp_enrollment_denied"

def enrollTotpBody (enrolment : TotpEnrolment) (now : Datetime) : LoginProg (Int × Event) :=
  selectAccountAndCredential enrolment.accountId >>= fun row =>
    match row with
    | none => raise enrolmentDenied
    | some (acct, cred) =>
      if acct.enabled = false ∨ cred.totpSecret.isSome = true ∨
          ciphers.verifiesPassword cred.passwordScrypt enrolment.currentPassword = false ∨
          maxAuthzVersion ≤ acct.authzVersion then
        raise enrolmentDenied
      else
        put (.credential enrolment.accountId
          { cred with
            totpSecret := some (ciphers.encrypt enrolment.nonce enrolment.totpSecret
              enrolment.accountId)
            lastTotpStep := some (totpStep now) }) >>= fun _ =>
        put (.account enrolment.accountId
          { acct with authzVersion := acct.authzVersion + 1 }) >>= fun _ =>
        revokeWhere (isOtherSession enrolment.accountId none) >>= fun _ =>
          pure (acct.authzVersion + 1, .totpEnrolled enrolment.accountId (totpStep now))

/-- `PostgresLocalOperatorStore.enroll_totp`: the code is verified before the transaction. -/
def enrollTotp (enrolment : TotpEnrolment) : LoginProg Int :=
  match enrolment.now with
  | none => raise enrolmentDenied
  | some now =>
    if ¬(1 ≤ enrolment.currentPassword.length ∧ enrolment.currentPassword.length ≤ 1024) ∨
        enrolment.totpSecret.length ≠ 20 ∨ isTotpCode enrolment.totp = false ∨
        ciphers.verifiesTotp enrolment.totpSecret enrolment.totp (timestamp now) = false then
      raise enrolmentDenied
    else orUnavailable localStoreUnavailable (transaction (enrollTotpBody ciphers enrolment now))

end Local

/-- `SELECT .. WHERE identity_source = 'break_glass' FOR UPDATE`. -/
def selectBreakGlass : LoginProg (Option (UUID × AccountRow)) :=
  takeSnapshot >>= fun snapshot =>
    match snapshot.accounts.items.find? fun item => item.2.identitySource = .breakGlass with
    | none => pure none
    | some (accountId, _) => lockAccount accountId >>= fun locked =>
      match locked with
      | none => pure none
      | some acct => pure (if acct.identitySource = .breakGlass then
          some (accountId, acct) else none)

section BreakGlass

variable (ciphers : Ciphers)

structure BreakGlassLogin where
  username : String
  password : String
  totp : String
  sourceIp : String
  now : Option Datetime

/-- `str(subject).removeprefix("local:")`. -/
def localName (subject : String) : String :=
  if "local:".toList.isPrefixOf subject.toList then String.ofList (subject.toList.drop 6) else subject

/-- The decrypted material of `BreakGlassCredentials`, if all of it is there and well formed. -/
def breakGlassMaterial (accountId : UUID) (acct : AccountRow) : Option (Bytes × Bytes) :=
  match acct.breakGlassPasswordScrypt,
      acct.breakGlassTotpSecret.bind fun encrypted => ciphers.decrypt encrypted accountId with
  | some passwordScrypt, some secret =>
    if passwordScrypt.length ≠ 80 ∨ secret.length < 20 ∨
        acct.breakGlassLastTotpStep.any (fun last => decide (last < 0)) = true then none
    else some (passwordScrypt, secret)
  | _, _ => none

def authenticateBreakGlassBody (login : BreakGlassLogin) (now : Datetime) :
    LoginProg (LoginOutcome × Event) :=
  selectBreakGlass >>= fun row =>
    match row with
    | none => raise (.failed none)
    | some (accountId, acct) =>
      if login.sourceIp = "" ∨ 128 < login.sourceIp.length ∨ login.username = "" ∨
          256 < login.username.length then
        raise (.loginInvalid "break_glass_login_failed")
      else consult >>= fun rateLimited =>
      match breakGlassMaterial ciphers accountId acct with
      | none => raise (.failed (some accountId))
      | some (passwordScrypt, secret) =>
        if rateLimited = true ∨ acct.enabled = false ∨
            login.username ≠ localName acct.subject ∨
            ciphers.verifiesPassword passwordScrypt login.password = false ∨
            acct.breakGlassLastTotpStep.any
              (fun last => decide (totpStep now ≤ last)) = true ∨
            ciphers.verifiesTotp secret login.totp (timestamp now) = false then
          rejectLogin rateLimited
        else
          put (.account accountId
            { acct with breakGlassLastTotpStep := some (totpStep now) }) >>=
            fun _ => acceptLogin accountId acct.authzVersion (some (totpStep now))

/-- `_record_admission_rejection` and `_record_rejection_after_failure`: the account is locked and
an event recorded. -/
def recordRejection : LoginProg Unit :=
  orUnavailable breakGlassStoreUnavailable
    (transaction (selectBreakGlass >>= fun _ => pure ((), .quiet)))

/-- What `PostgresBreakGlassStore.authenticate` makes of an exception. -/
def breakGlassFailure (err : LoginError) : LoginProg (UUID × Int × Bool) :=
  match err with
  | .loginInvalid code => raise (.loginInvalid code)
  | .loginRateLimited seconds => raise (.loginRateLimited seconds)
  | .database => raise breakGlassStoreUnavailable
  | .failed (some _) => recordRejection >>= fun _ =>
    raise (.loginInvalid "break_glass_login_failed")
  | _ => raise (.loginInvalid "break_glass_login_failed")

def authenticateBreakGlass (login : BreakGlassLogin) : LoginProg (UUID × Int × Bool) :=
  match login.now with
  | none => raise (.loginInvalid "break_glass_login_failed")
  | some now => consult >>= fun admitted =>
    if admitted = false then recordRejection >>= fun _ => raise (.loginRateLimited 1)
    else (transaction (authenticateBreakGlassBody ciphers login now) >>=
      loginResult "break_glass_login_failed").handle breakGlassFailure

structure Rotation where
  accountId : UUID
  subject : String
  expectedAuthzVersion : Int
  passwordScrypt : Bytes
  totpSecret : Bytes
  nonce : Bytes

def rotateBody (rotation : Rotation) : LoginProg (Int × Event) :=
  selectBreakGlass >>= fun row =>
    match row with
    | none => raise (.loginInvalid "break_glass_account_conflict")
    | some (accountId, acct) =>
      if accountId ≠ rotation.accountId ∨ acct.subject ≠ rotation.subject ∨
          acct.enabled = false ∨ acct.breakGlassPasswordScrypt = none ∨
          acct.breakGlassTotpSecret = none ∨
          acct.authzVersion ≠ rotation.expectedAuthzVersion then
        raise (.loginInvalid "break_glass_account_conflict")
      else
        put (.account rotation.accountId
          { acct with
            authzVersion := rotation.expectedAuthzVersion + 1
            breakGlassPasswordScrypt := some rotation.passwordScrypt
            breakGlassTotpSecret := some (ciphers.encrypt rotation.nonce rotation.totpSecret
              rotation.accountId)
            breakGlassLastTotpStep := none }) >>= fun _ =>
        revokeWhere (isOtherSession rotation.accountId none) >>= fun _ =>
          pure (rotation.expectedAuthzVersion + 1, .rotated rotation.accountId)

/-- `_record_rotation_rejection`: an event in a transaction of its own. -/
def recordRotationRejection (err : LoginError) : LoginProg Int :=
  match err with
  | .loginInvalid code => orUnavailable breakGlassStoreUnavailable
      (transaction (takeSnapshot >>= fun _ => pure ((), .quiet))) >>= fun _ =>
        raise (.loginInvalid code)
  | .database => raise breakGlassStoreUnavailable
  | err => raise err

def rotate (rotation : Rotation) : LoginProg Int :=
  if rotation.passwordScrypt.length ≠ 80 ∨ rotation.totpSecret.length < 20 then
    raise (.valueError "break_glass_credentials_invalid")
  else if "local:".toList.isPrefixOf rotation.subject.toList = false ∨
      ¬(1 ≤ (localName rotation.subject).length ∧ (localName rotation.subject).length ≤ 256) ∨
      (localName rotation.subject).toList.any Char.isWhitespace = true ∨
      ¬(1 ≤ rotation.expectedAuthzVersion ∧ rotation.expectedAuthzVersion < maxAuthzVersion) then
    raise (.valueError "break_glass_rotation_invalid")
  else (transaction (rotateBody ciphers rotation)).handle recordRotationRejection

end BreakGlass

end RtspProxy.Logins
