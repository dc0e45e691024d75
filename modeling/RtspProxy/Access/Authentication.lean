import RtspProxy.Access.Sessions
import RtspProxy.Lib.Program

/-!
# Authenticating a request while accounts change

`OperatorSessionControl.authenticate` reads the session, decides on the roles
and scopes it read, and touches the session in a second call; other requests
may do anything to the store in between. The store keeps two facts over every
step: a session never changes its account, token, CSRF digest or version, and
an account that changed has a larger `authz_version`. So the touch, which compares
versions, succeeds only while the account is still the one that was read.
-/

namespace RtspProxy.Access

open Nodes Lib Lib.Raising Lib.Program Dict InMemoryOperatorSessionStore
open Relation (ReflTransGen)
open Prog

/-- What other requests ask of the store, with the clock readings and identifiers they draw. -/
inductive StoreRequest
  | createAccount (acct : OperatorAccount)
  | updateAuthorization (accountId : UUID) (expectedAuthzVersion : Int)
      (roles : Finset OperatorRole) (scopes : Finset String) (enabled : Bool)
      (ctx : OperatorMutationContext) (eventId : UUID)
  | issueSession (sessionId accountId : UUID) (tokenSha256 csrfSha256 : String)
      (idleTimeout absoluteTimeout : Int) (mfaVerified : Bool) (expectedAuthzVersion : Option Int)
      (reading : Option Datetime)
  | touchAuthorizedSession (sessionId : UUID) (tokenSha256 : String) (expectedAuthzVersion : Int)
      (idleTimeout : Int) (reading : Option Datetime)
  | revokeSession (tokenSha256 : String) (ctx : OperatorRequestAuditContext)
      (reading : Option Datetime)
  | markMfaVerified (accountId sessionId : UUID) (tokenSha256 : String) (verifiedAt : Datetime)
      (ctx : OperatorRequestAuditContext)
  | recordAuthenticationFailure (tokenSha256 : Option String) (reason : OperatorSessionFailure)
      (ctx : OperatorRequestAuditContext)
  | recordRequestSecurityEvent (accountId sessionId : UUID) (eventType reasonCode : String)
      (roles : Finset OperatorRole) (scopes : Finset String)
      (ctx : OperatorRequestAuditContext) (targetGrantId : Option UUID)
      (expectedRevision : Option Int) (idempotencyKey : Option UUID)

variable {reading : Option Datetime} {ctx : OperatorRequestAuditContext}

namespace InMemoryOperatorSessionStore

variable (store : InMemoryOperatorSessionStore)

/-- The store after a method that raises is the store before it. -/
def perform : StoreRequest → Except SessionError InMemoryOperatorSessionStore
  | .createAccount acct => store.createAccount acct
  | .updateAuthorization accountId want roles scopes enabled ctx eventId =>
    Prod.snd <$> store.updateAuthorization accountId want roles scopes enabled ctx eventId
  | .issueSession sessionId accountId token csrf idle absolute mfa want reading =>
    Prod.snd <$> store.issueSession sessionId accountId token csrf idle absolute mfa want reading
  | .touchAuthorizedSession sessionId token want idle reading =>
    Prod.snd <$> store.touchAuthorizedSession sessionId token want idle reading
  | .revokeSession token ctx reading => Prod.snd <$> store.revokeSession token ctx reading
  | .markMfaVerified accountId sessionId token verifiedAt ctx =>
    .ok (store.markMfaVerified accountId sessionId token verifiedAt ctx).2
  | .recordAuthenticationFailure token reason ctx =>
    .ok (store.recordAuthenticationFailure token reason ctx)
  | .recordRequestSecurityEvent accountId sessionId eventType reason roles scopes ctx grant
      revision key =>
      .ok (store.recordRequestSecurityEvent accountId sessionId eventType reason roles scopes
        ctx grant revision key)

/-- `session_id_factory` is `uuid4`: it draws no identifier a second time. -/
def Draws : StoreRequest → Prop
  | .issueSession sessionId _ _ _ _ _ _ _ _ => store.sessions.get sessionId = none
  | _ => True

def OtherRequest (pre after : InMemoryOperatorSessionStore) : Prop :=
  ∃ req, pre.Draws req ∧ pre.perform req = .ok after

inductive Reachable : InMemoryOperatorSessionStore → Prop
  | init (accounts : List OperatorAccount) : Reachable (init accounts)
  | step {before after : InMemoryOperatorSessionStore} (reached : Reachable before)
      (step : OtherRequest before after) : Reachable after

/-- The fields of a session no method changes, and that a revoked one stays revoked. -/
structure SameSession (before after : OperatorSession) : Prop where
  id : after.id = before.id
  accountId : after.accountId = before.accountId
  tokenSha256 : after.tokenSha256 = before.tokenSha256
  csrfSha256 : after.csrfSha256 = before.csrfSha256
  authzVersion : after.authzVersion = before.authzVersion
  absoluteExpiresAt : after.absoluteExpiresAt = before.absoluteExpiresAt
  revoked : before.revokedAt ≠ none → after.revokedAt ≠ none

theorem SameSession.refl (sess : OperatorSession) : SameSession sess sess :=
  ⟨rfl, rfl, rfl, rfl, rfl, rfl, fun wasRevoked => wasRevoked⟩

theorem SameSession.trans {first second third : OperatorSession} (former : SameSession first second)
    (latter : SameSession second third) : SameSession first third where
  id := latter.id.trans former.id
  accountId := latter.accountId.trans former.accountId
  tokenSha256 := latter.tokenSha256.trans former.tokenSha256
  csrfSha256 := latter.csrfSha256.trans former.csrfSha256
  authzVersion := latter.authzVersion.trans former.authzVersion
  absoluteExpiresAt := latter.absoluteExpiresAt.trans former.absoluteExpiresAt
  revoked := fun wasRevoked => latter.revoked (former.revoked wasRevoked)

def SessionsKept (pre after : Dict UUID OperatorSession) : Prop :=
  ∀ key sess, pre.get key = some sess →
    ∃ kept, after.get key = some kept ∧ SameSession sess kept

/-- An account that is no longer the same has a larger version. -/
def AccountsAdvance (pre after : Dict UUID OperatorAccount) : Prop :=
  ∀ key acct, pre.get key = some acct → ∃ cur, after.get key = some cur ∧
      (cur = acct ∨ acct.authzVersion < cur.authzVersion)

theorem SessionsKept.refl (sessions : Dict UUID OperatorSession) : SessionsKept sessions sessions :=
  fun _ sess found => ⟨sess, found, .refl sess⟩

theorem SessionsKept.trans {first second third : Dict UUID OperatorSession}
    (former : SessionsKept first second) (latter : SessionsKept second third) :
    SessionsKept first third := by
  intro key sess found
  obtain ⟨middle, foundMiddle, sameMiddle⟩ := former key sess found
  obtain ⟨last, foundLast, sameLast⟩ := latter key middle foundMiddle
  exact ⟨last, foundLast, sameMiddle.trans sameLast⟩

theorem AccountsAdvance.refl (accounts : Dict UUID OperatorAccount) :
    AccountsAdvance accounts accounts :=
  fun _ acct found => ⟨acct, found, .inl rfl⟩

theorem AccountsAdvance.trans {first second third : Dict UUID OperatorAccount}
    (former : AccountsAdvance first second) (latter : AccountsAdvance second third) :
    AccountsAdvance first third := by
  intro key acct found
  obtain ⟨middle, foundMiddle, movedMiddle⟩ := former key acct found
  obtain ⟨last, foundLast, movedLast⟩ := latter key middle foundMiddle
  refine ⟨last, foundLast, ?_⟩
  rcases movedMiddle with same | larger
  · rw [← same]
    exact movedLast
  · rcases movedLast with same | further
    · rw [same]
      exact .inr larger
    · exact .inr (larger.trans further)

variable {sessions : Dict UUID OperatorSession} {sess : OperatorSession}

variable {key : UUID}

theorem sessions_kept_set {upd : OperatorSession}
    (found : sessions.get key = some sess) (same : SameSession sess upd) :
    SessionsKept sessions (sessions.set key upd) := by
  intro other stored foundOther
  by_cases isKey : other = key
  · subst isKey
    have isSession : stored = sess := Option.some.inj (foundOther.symm.trans found)
    rw [isSession]
    exact ⟨upd, get_set_self _ _ _, same⟩
  · exact ⟨stored, (get_set_ne isKey).trans foundOther, .refl stored⟩

theorem sessions_kept_fresh (absent : sessions.get key = none) :
    SessionsKept sessions (sessions.set key sess) := by
  intro other stored found
  have differ : other ≠ key := by
    intro same
    rw [same, absent] at found
    cases found
  exact ⟨stored, (get_set_ne differ).trans found, .refl stored⟩

structure WellKeyed (store : InMemoryOperatorSessionStore) : Prop where
  accounts : ∀ key acct, store.accounts.get key = some acct → acct.id = key
  sessions : ∀ key sess, store.sessions.get key = some sess → sess.id = key

structure Evolves (before after : InMemoryOperatorSessionStore) : Prop where
  sessions : SessionsKept before.sessions after.sessions
  accounts : AccountsAdvance before.accounts after.accounts
  keyed : WellKeyed after

theorem Evolves.refl {store : InMemoryOperatorSessionStore} (keyed : WellKeyed store) :
    Evolves store store :=
  ⟨.refl _, .refl _, keyed⟩

theorem Evolves.trans {first second third : InMemoryOperatorSessionStore}
    (former : Evolves first second) (latter : Evolves second third) : Evolves first third :=
  ⟨former.sessions.trans latter.sessions, former.accounts.trans latter.accounts, latter.keyed⟩

variable {pre after : InMemoryOperatorSessionStore}

theorem evolves_session {upd : OperatorSession} (keyed : WellKeyed pre)
    (found : pre.sessions.get key = some sess) (same : SameSession sess upd)
    (written : after.sessions = pre.sessions.set key upd)
    (accounts : after.accounts = pre.accounts) : Evolves pre after where
  sessions := by
    rw [written]
    exact sessions_kept_set found same
  accounts := by
    rw [accounts]
    exact .refl _
  keyed := by
    constructor
    · rw [accounts]
      exact keyed.accounts
    · intro other stored foundOther
      rw [written, get_set] at foundOther
      split_ifs at foundOther with isKey
      · cases foundOther
        rw [isKey, same.id]
        exact keyed.sessions key sess found
      · exact keyed.sessions other stored foundOther

theorem evolves_same (keyed : WellKeyed pre) (sessions : after.sessions = pre.sessions)
    (accounts : after.accounts = pre.accounts) :
    Evolves pre after where
  sessions := by
    rw [sessions]
    exact .refl _
  accounts := by
    rw [accounts]
    exact .refl _
  keyed := by
    constructor
    · rw [accounts]
      exact keyed.accounts
    · rw [sessions]
      exact keyed.sessions

/-! ### One lemma for each method -/

section Methods

variable {store} {after : InMemoryOperatorSessionStore}

variable {acct : OperatorAccount}

theorem create_account_evolves (keyed : WellKeyed store)
    (ran : store.createAccount acct = .ok after) : Evolves store after := by
  simp only [createAccount, bind_ok, pure_ok, raise_if_ok] at ran
  obtain ⟨_, _, _, absent, rfl⟩ := ran
  have isAbsent : store.accounts.get acct.id = none := by
    simpa [contains] using absent
  constructor
  · exact .refl _
  · intro key stored found
    have differ : key ≠ acct.id := by
      intro same
      rw [same, isAbsent] at found
      cases found
    exact ⟨stored, (get_set_ne differ).trans found, .inl rfl⟩
  · exact ⟨keyed_set keyed.accounts rfl, keyed.sessions⟩

theorem with_authorization_version {upd : OperatorAccount} {roles : Finset OperatorRole}
    {scopes : Finset String} {enabled : Bool}
    (ran : acct.withAuthorization roles scopes enabled = .ok upd) :
    upd.id = acct.id ∧ upd.authzVersion = acct.authzVersion + 1 := by
  unfold OperatorAccount.withAuthorization at ran
  split_ifs at ran with valid
  cases ran
  exact ⟨rfl, rfl⟩

variable {accountId : UUID} {want : Int}

theorem update_authorization_evolves (keyed : WellKeyed store) {eventId : UUID}
    {roles : Finset OperatorRole} {scopes : Finset String} {enabled : Bool}
    {ctx : OperatorMutationContext}
    (ran : store.updateAuthorization accountId want roles scopes enabled ctx eventId =
      .ok (acct, after)) : Evolves store after := by
  simp only [updateAuthorization, bind_ok, pure_ok, raise_if_ok, or_raise_ok, Prod.mk_inj] at ran
  obtain ⟨cur, found, _, _, upd, replaced, -, rfl⟩ := ran
  obtain ⟨sameId, larger⟩ := with_authorization_version replaced
  constructor
  · exact .refl _
  · intro key stored foundStored
    by_cases isKey : key = accountId
    · subst isKey
      have isCurrent : stored = cur := Option.some.inj (foundStored.symm.trans found)
      refine ⟨upd, get_set_self _ _ _, .inr ?_⟩
      rw [isCurrent, larger]
      omega
    · exact ⟨stored, (get_set_ne isKey).trans foundStored, .inl rfl⟩
  · have isAccount : upd.id = accountId := by
      rw [sameId]
      exact keyed.accounts accountId cur found
    exact ⟨keyed_set keyed.accounts isAccount, keyed.sessions⟩

/-- Each session of the list is in the table under its identifier, with its fixed fields. -/
def Filed (surplus : List OperatorSession) (sessions : Dict UUID OperatorSession) : Prop :=
  ∀ expired ∈ surplus, ∃ stored, sessions.get expired.id = some stored ∧ SameSession stored expired

theorem revoke_all_kept {surplus : List OperatorSession} {moment : Datetime}
    (keyed : ∀ key sess, sessions.get key = some sess → sess.id = key)
    (distinct : (surplus.map OperatorSession.id).Nodup) (filed : Filed surplus sessions) :
    SessionsKept sessions (revokeAll surplus moment sessions) ∧
      ∀ key sess, (revokeAll surplus moment sessions).get key = some sess →
        sess.id = key := by
  induction surplus generalizing sessions with
  | nil => exact ⟨.refl _, keyed⟩
  | cons expired rest ih =>
    obtain ⟨stored, found, same⟩ := filed expired List.mem_cons_self
    have sameRevoked : SameSession stored (expired.withRevocation moment) :=
      ⟨same.id, same.accountId, same.tokenSha256, same.csrfSha256, same.authzVersion,
        same.absoluteExpiresAt, fun _ => Option.some_ne_none _⟩
    rw [List.map_cons, List.nodup_cons] at distinct
    have kept := sessions_kept_set found sameRevoked
    have filedRest : Filed rest
        (sessions.set expired.id (expired.withRevocation moment)) := by
      intro later mem
      have differ : later.id ≠ expired.id := by
        intro sameId
        exact distinct.1 (sameId ▸ List.mem_map_of_mem mem)
      obtain ⟨held, foundHeld, sameHeld⟩ := filed later (List.mem_cons_of_mem _ mem)
      exact ⟨held, (get_set_ne differ).trans foundHeld, sameHeld⟩
    have keyedOnce : ∀ key sess,
        (sessions.set expired.id (expired.withRevocation moment)).get key = some sess →
          sess.id = key := keyed_set keyed rfl
    obtain ⟨keptRest, keyedRest⟩ := ih keyedOnce distinct.2 filedRest
    exact ⟨kept.trans keptRest, keyedRest⟩

variable {sessionId : UUID} {token : String}

variable {idle : Int}

theorem issue_session_evolves (keyed : WellKeyed store) {csrf : String}
    {absolute : Int} {mfa : Bool} {want : Option Int} (absent : store.sessions.get sessionId = none)
    (ran : store.issueSession sessionId accountId token csrf idle absolute mfa want reading =
      .ok (sess, after)) : Evolves store after := by
  simp only [issueSession, bind_ok, raise_if_ok, or_raise_ok] at ran
  obtain ⟨acct, _, _, _, _, _, issuedAt, _, ran⟩ := ran
  -- an invalid record raises, and the store is as it was
  split at ran
  · simp only [pure_ok, Prod.mk_inj] at ran
    obtain ⟨isSession, rfl⟩ := ran
    rw [isSession]
    have sameId : sess.id = sessionId := by
      rw [← isSession]
    subst sameId
    have issuedKeyed : ∀ key stored,
        (store.sessions.set sess.id sess).get key = some stored → stored.id = key :=
      keyed_set keyed.sessions rfl
    -- the surplus sessions stand in the table as they are, each under its own identifier
    have surplusFiled : Filed (surplusSessions (store.sessions.set sess.id sess) accountId)
        (store.sessions.set sess.id sess) := by
      intro expired mem
      have isValue := List.mem_of_mem_filter (List.mem_of_mem_take mem)
      obtain ⟨key, found⟩ := mem_values.mp isValue
      rw [issuedKeyed key expired found]
      exact ⟨expired, found, .refl expired⟩
    have surplusDistinct :
        ((surplusSessions (store.sessions.set sess.id sess) accountId).map
          OperatorSession.id).Nodup := by
      refine (keyed_values_nodup issuedKeyed).sublist (List.Sublist.map _ ?_)
      exact (List.take_sublist _ _).trans List.filter_sublist
    obtain ⟨kept, revokedKeyed⟩ := revoke_all_kept issuedKeyed surplusDistinct surplusFiled
    have fresh : SessionsKept store.sessions (store.sessions.set sess.id sess) :=
      sessions_kept_fresh absent
    exact ⟨fresh.trans kept, .refl _, ⟨keyed.accounts, revokedKeyed⟩⟩
  · cases ran

theorem evaluate_ok {sess : Option OperatorSession} {moment : Datetime}
    {evaluated : AuthenticatedOperatorSession}
    (evaluates : store.evaluate sess moment = .ok evaluated) :
    sess = some evaluated.session ∧ evaluated.session.revokedAt = none ∧
      moment < evaluated.session.idleExpiresAt ∧ moment < evaluated.session.absoluteExpiresAt ∧
      store.accounts.get evaluated.session.accountId = some evaluated.account ∧
      evaluated.account.enabled = true ∧
      evaluated.account.authzVersion = evaluated.session.authzVersion := by
  cases sess with
  | none => cases evaluates
  | some sess =>
    unfold evaluate at evaluates
    dsimp only at evaluates
    split_ifs at evaluates with revoked expired
    split at evaluates
    · cases evaluates
    · rename_i acct isAccount
      split_ifs at evaluates with disabled stale
      cases evaluates
      rw [not_or, not_le, not_le] at expired
      exact ⟨rfl, by simpa using revoked, expired.1, expired.2, isAccount,
        by simpa using disabled, not_not.mp stale⟩

theorem touch_cases {ans : SessionReading}
    (ran : store.touchAuthorizedSession sessionId token want idle reading = .ok (ans, after)) :
    ((∃ failure, ans = .error failure) ∧ after = store) ∨
      ∃ cur moment acct, store.sessions.get sessionId = some cur ∧
        cur.tokenSha256 = token ∧ reading = some moment ∧
        store.evaluate (some cur) moment = .ok ⟨cur, acct⟩ ∧
        acct.authzVersion = want ∧
        ans = .ok ⟨cur.touched moment idle, acct⟩ ∧
        after =
          { store with sessions := store.sessions.set sessionId (cur.touched moment idle) } := by
  unfold touchAuthorizedSession at ran
  split at ran
  · cases ran
    exact .inl ⟨⟨_, rfl⟩, rfl⟩
  · rename_i cur found
    by_cases differs : cur.tokenSha256 ≠ token
    · rw [if_pos differs] at ran
      cases ran
      exact .inl ⟨⟨_, rfl⟩, rfl⟩
    · rw [if_neg differs] at ran
      simp only [now, bind_ok, or_raise_ok] at ran
      obtain ⟨moment, isReading, ran⟩ := ran
      cases evaluates : store.evaluate (some cur) moment with
      | error failure =>
        rw [evaluates] at ran
        cases ran
        exact .inl ⟨⟨_, rfl⟩, rfl⟩
      | ok evaluated =>
        rw [evaluates] at ran
        dsimp only at ran
        have isCurrent : cur = evaluated.session := Option.some.inj (evaluate_ok evaluates).1
        by_cases stale : evaluated.account.authzVersion ≠ want
        · rw [if_pos stale] at ran
          cases ran
          exact .inl ⟨⟨_, rfl⟩, rfl⟩
        · rw [if_neg stale] at ran
          cases ran
          refine .inr ⟨cur, moment, evaluated.account, found, not_not.mp differs, isReading,
            ?_, not_not.mp stale, rfl, rfl⟩
          rw [evaluates, isCurrent]

theorem same_session_touched (sess : OperatorSession) (moment : Datetime) (idle : Int) :
    SameSession sess (sess.touched moment idle) :=
  ⟨rfl, rfl, rfl, rfl, rfl, rfl, fun wasRevoked => wasRevoked⟩

variable (keyed : WellKeyed store)

include keyed

theorem touch_evolves {ans : SessionReading}
    (ran : store.touchAuthorizedSession sessionId token want idle reading =
      .ok (ans, after)) : Evolves store after := by
  rcases touch_cases ran with ⟨_, rfl⟩ | ⟨cur, moment, _, found, _, _, _, _, _, rfl⟩
  · exact .refl keyed
  · exact evolves_session keyed found (same_session_touched cur moment idle) rfl rfl

theorem session_of_filed (found : store.sessionOf token = some sess) :
    store.sessions.get sess.id = some sess ∧ sess.tokenSha256 = token := by
  obtain ⟨key, isKey⟩ := mem_values.mp (List.mem_of_find?_eq_some found)
  have sameToken := List.find?_some found
  rw [keyed.sessions key sess isKey]
  exact ⟨isKey, by simpa using sameToken⟩

theorem revoke_session_evolves {revoked : Bool}
    (ran : store.revokeSession token ctx reading = .ok (revoked, after)) :
    Evolves store after := by
  unfold revokeSession at ran
  split at ran
  · cases ran
    exact .refl keyed
  · rename_i sess found
    by_cases already : sess.revokedAt.isSome = true
    · rw [if_pos already] at ran
      cases ran
      exact .refl keyed
    · rw [if_neg already] at ran
      simp only [now, bind_ok, or_raise_ok, pure_ok, Prod.mk_inj] at ran
      obtain ⟨moment, _, _, rfl⟩ := ran
      have same : SameSession sess (sess.withRevocation moment) :=
        ⟨rfl, rfl, rfl, rfl, rfl, rfl, fun _ => Option.some_ne_none _⟩
      exact evolves_session keyed (session_of_filed keyed found).1 same rfl rfl

theorem mark_mfa_verified_evolves {verifiedAt : Datetime} :
    Evolves store (store.markMfaVerified accountId sessionId token verifiedAt ctx).2 := by
  unfold markMfaVerified
  split
  · rename_i cur evaluated found _
    split_ifs with refused
    · exact .refl keyed
    · have same : SameSession cur (cur.withMfa verifiedAt) :=
        ⟨rfl, rfl, rfl, rfl, rfl, rfl, fun wasRevoked => wasRevoked⟩
      exact evolves_session keyed found same rfl rfl
  · exact .refl keyed

theorem other_request_evolves (step : OtherRequest store after) :
    Evolves store after := by
  obtain ⟨req, draws, ran⟩ := step
  cases req with
  | createAccount acct => exact create_account_evolves keyed ran
  | updateAuthorization =>
    obtain ⟨⟨_, _⟩, upd, rfl⟩ := map_ok.mp ran
    exact update_authorization_evolves keyed upd
  | issueSession =>
    obtain ⟨⟨_, _⟩, issued, rfl⟩ := map_ok.mp ran
    exact issue_session_evolves keyed draws issued
  | touchAuthorizedSession =>
    obtain ⟨⟨_, _⟩, touched, rfl⟩ := map_ok.mp ran
    exact touch_evolves keyed touched
  | revokeSession =>
    obtain ⟨⟨_, _⟩, revoked, rfl⟩ := map_ok.mp ran
    exact revoke_session_evolves keyed revoked
  | markMfaVerified =>
    cases ran
    exact mark_mfa_verified_evolves keyed
  | recordAuthenticationFailure =>
    cases ran
    exact evolves_same keyed rfl rfl
  | recordRequestSecurityEvent =>
    cases ran
    exact evolves_same keyed rfl rfl

omit keyed

end Methods

theorem other_requests_evolve (keyed : WellKeyed pre)
    (steps : ReflTransGen OtherRequest pre after) : Evolves pre after := by
  induction steps with
  | refl => exact .refl keyed
  | tail _ step ih => exact ih.trans (other_request_evolves ih.keyed step)

theorem init_well_keyed (accounts : List OperatorAccount) : WellKeyed (init accounts) where
  accounts := by
    have folded : ∀ (rest : List OperatorAccount) (table : Dict UUID OperatorAccount),
        (∀ key acct, table.get key = some acct → acct.id = key) →
        ∀ key acct, (rest.foldl (fun table acct => table.set acct.id acct) table).get
          key = some acct → acct.id = key := by
      intro rest
      induction rest with
      | nil => exact fun _ keyed => keyed
      | cons acct rest ih => exact fun table keyed => ih _ (keyed_set keyed rfl)
    apply folded accounts .empty
    intro key acct found
    cases found
  sessions := by
    intro key sess found
    cases found

theorem reachable_well_keyed {store : InMemoryOperatorSessionStore} (reached : Reachable store) :
    WellKeyed store := by
  induction reached with
  | init accounts => exact init_well_keyed accounts
  | step _ step ih => exact (other_request_evolves ih step).keyed

end InMemoryOperatorSessionStore

inductive SessionCall
  | readSession (tokenSha256 : String)
  | touchAuthorizedSession (sessionId : UUID) (tokenSha256 : String) (expectedAuthzVersion : Int)
      (idleTimeout : Int)
  | recordAuthenticationFailure (tokenSha256 : Option String) (reason : OperatorSessionFailure)
      (ctx : OperatorRequestAuditContext)
  | recordRequestSecurityEvent (accountId sessionId : UUID) (eventType reasonCode : String)
      (roles : Finset OperatorRole) (scopes : Finset String)
      (ctx : OperatorRequestAuditContext)

abbrev SessionAnswer : SessionCall → Type
  | .readSession _ => SessionReading
  | .touchAuthorizedSession .. => SessionReading
  | .recordAuthenticationFailure .. => Unit
  | .recordRequestSecurityEvent .. => Unit

def answers {Value : Type} (store : InMemoryOperatorSessionStore)
    (ran : Except SessionError (Value × InMemoryOperatorSessionStore)) :
    Except SessionError Value × InMemoryOperatorSessionStore :=
  match ran with
  | .ok (value, after) => (.ok value, after)
  | .error err => (.error err, store)

def sessionMachine :
    Machine SessionCall SessionAnswer SessionError InMemoryOperatorSessionStore where
  exec _ store req ans after :=
    match req, ans with
    | .readSession token, ans =>
      ∃ reading, ans = store.readSession token reading ∧ after = store
    | .touchAuthorizedSession sessionId token want idle, ans =>
      ∃ reading, (ans, after) =
        answers store (store.touchAuthorizedSession sessionId token want idle reading)
    | .recordAuthenticationFailure token reason ctx, ans =>
      ans = .ok () ∧ after = store.recordAuthenticationFailure token reason ctx
    | .recordRequestSecurityEvent accountId sessionId eventType reason roles scopes ctx,
        ans =>
        ans = .ok () ∧
          after = store.recordRequestSecurityEvent accountId sessionId eventType reason roles
            scopes ctx
  leave _ store := store

abbrev SessionProg := Prog SessionCall SessionAnswer SessionError

structure OperatorPrincipal where
  accountId : UUID
  sessionId : UUID
  identitySource : OperatorIdentitySource
  subject : String
  displayName : String
  roles : Finset OperatorRole
  scopes : Finset String
  authzVersion : Int
  mfaVerifiedAt : Option Datetime
  authenticatedAt : Datetime
  deriving DecidableEq

/-- The settings of `OperatorSessionControl` and `_digest`, the hexadecimal SHA-256. -/
structure OperatorSessionControl where
  digest : String → String
  idleTimeout : Int
  absoluteTimeout : Int
  timingValid : 0 < idleTimeout ∧ idleTimeout < absoluteTimeout ∧
    absoluteTimeout ≤ timedeltaSeconds (24 * 3600)

structure AuthenticateArguments where
  sessionToken : String
  permission : OperatorPermission
  csrfToken : Option String := none
  requireCsrf : Bool := false
  requiredScope : Option String := some "server:*"
  auditContext : Option OperatorRequestAuditContext := none
  /-- What `uuid4` draws for a context of its own. -/
  requestId : UUID := 0

namespace OperatorSessionControl

variable (control : OperatorSessionControl) (args : AuthenticateArguments)

/-- The context of the audit events of one `authenticate`. -/
def auditContextOf : Except SessionError OperatorRequestAuditContext :=
  match args.auditContext with
  | some ctx => .ok ctx
  | none =>
    match args.requiredScope with
    | none => OperatorRequestAuditContext.internal control.digest args.requestId
        args.permission.value "session:self" "session" "self"
    | some scope => OperatorRequestAuditContext.internal control.digest args.requestId
        args.permission.value scope "server" "server"

def refuse {Result : Type} (denial : SessionCall) (err : SessionError) : SessionProg Result := do
  let _ ← ask denial
  raise err

def recordDenial (authentication : AuthenticatedOperatorSession) (reasonCode : String)
    (eventType : String) (ctx : OperatorRequestAuditContext) : SessionCall :=
  .recordRequestSecurityEvent authentication.account.id authentication.session.id eventType
    reasonCode authentication.account.roles authentication.account.scopes ctx

/-- `csrf_token is None or not hmac.compare_digest(session.csrf_sha256, _digest(csrf_token))`. -/
def csrfFails (sess : OperatorSession) : Bool :=
  match args.csrfToken with
  | none => true
  | some csrfToken => sess.csrfSha256 != control.digest csrfToken

def grants (acct : OperatorAccount) (permission : OperatorPermission) : Prop :=
  ∃ role ∈ acct.roles, permission ∈ rolePermissions role

instance (acct : OperatorAccount) (permission : OperatorPermission) :
    Decidable (grants acct permission) :=
  inferInstanceAs (Decidable (∃ role ∈ acct.roles, permission ∈ rolePermissions role))

/-- The account's scopes contain the required one, or the whole server. -/
def covers (acct : OperatorAccount) (requiredScope : Option String) : Prop :=
  ∀ scope ∈ requiredScope, scope ∈ acct.scopes ∨ "server:*" ∈ acct.scopes

instance (acct : OperatorAccount) (requiredScope : Option String) :
    Decidable (covers acct requiredScope) :=
  inferInstanceAs (Decidable (∀ scope ∈ requiredScope, _))

def principalOf (touched : AuthenticatedOperatorSession) : OperatorPrincipal where
  accountId := touched.account.id
  sessionId := touched.session.id
  identitySource := touched.account.identitySource
  subject := touched.account.subject
  displayName := touched.account.displayName
  roles := touched.account.roles
  scopes := touched.account.scopes
  authzVersion := touched.account.authzVersion
  mfaVerifiedAt := touched.session.mfaVerifiedAt
  authenticatedAt := touched.session.lastSeenAt

def authenticate : SessionProg OperatorPrincipal := do
  let ctx ← Prog.done (control.auditContextOf args)
  if args.sessionToken = "" ∨ 1024 < args.sessionToken.length then
    refuse (.recordAuthenticationFailure none .invalid ctx)
      (.authenticationRequired "operator_session_invalid")
  else
    let tokenSha256 := control.digest args.sessionToken
    let reading : SessionReading ← ask (SessionCall.readSession tokenSha256)
    match reading with
    | .error failure =>
      refuse (.recordAuthenticationFailure (some tokenSha256) failure ctx)
        (.authenticationRequired failure.value)
    | .ok authentication =>
      if args.requireCsrf ∧ control.csrfFails args authentication.session then
        refuse (recordDenial authentication "operator_csrf_invalid"
          "operator.authorization_denied" ctx) (.authenticationRequired "operator_csrf_invalid")
      else if ¬grants authentication.account args.permission then
        refuse (recordDenial authentication "operator_permission_denied"
            "operator.authorization_denied" ctx)
          (.authorizationDenied "operator_permission_denied")
      else if ¬covers authentication.account args.requiredScope then
        refuse (recordDenial authentication "operator_scope_denied"
          "operator.authorization_denied" ctx) (.authorizationDenied "operator_scope_denied")
      else
        let touched : SessionReading ← ask (SessionCall.touchAuthorizedSession
          authentication.session.id tokenSha256 authentication.account.authzVersion
          control.idleTimeout)
        match touched with
        | .error failure =>
          refuse (recordDenial authentication failure.value "operator.authentication_denied"
            ctx) (.authenticationRequired failure.value)
        | .ok touched => return principalOf touched

/-! ### What a returned principal stands for -/

/-- The request is authorised by what the store holds at this moment. -/
structure AuthorizedAt (store : InMemoryOperatorSessionStore) (moment : Datetime)
    (sess : OperatorSession) (acct : OperatorAccount) : Prop where
  stored : store.sessions.get sess.id = some sess
  token : sess.tokenSha256 = control.digest args.sessionToken
  unrevoked : sess.revokedAt = none
  notIdle : moment < sess.idleExpiresAt
  notExpired : moment < sess.absoluteExpiresAt
  held : store.accounts.get sess.accountId = some acct
  enabled : acct.enabled = true
  current : sess.authzVersion = acct.authzVersion
  permission : grants acct args.permission
  scope : covers acct args.requiredScope
  csrf : args.requireCsrf = true →
    ∃ csrfToken, args.csrfToken = some csrfToken ∧ sess.csrfSha256 = control.digest csrfToken

variable {control} {args}
variable {store after : InMemoryOperatorSessionStore}
  {made : List (Made SessionCall SessionAnswer SessionError InMemoryOperatorSessionStore)}
  {others : InMemoryOperatorSessionStore → InMemoryOperatorSessionStore → Prop} {tid : Nat}

theorem answers_ok {Value : Type} {value : Value}
    {ran : Except SessionError (Value × InMemoryOperatorSessionStore)}
    (answered : (.ok value, after) = answers store ran) : ran = .ok (value, after) := by
  unfold answers at answered
  split at answered
  · cases answered
    rfl
  · cases answered

theorem refuse_never_returns {Result : Type} {denial : SessionCall} {err : SessionError}
    {res : Result}
    (runs : RunsAmong sessionMachine others tid (refuse denial err) store made (.ok res)
      after) : False := by
  obtain ⟨_, _, _, _, _, _, raised⟩ := runs_among_bind runs
  cases raised

/-- An authentication that returns made two calls: one read the session and passed every check, the
other touched it. -/
theorem authenticate_returns {principal : OperatorPrincipal}
    (runs : RunsAmong sessionMachine others tid (control.authenticate args) store made
      (.ok principal) after) :
    ∃ readStore touchStore read touched, ReflTransGen others store readStore ∧
      (∃ reading, readStore.readSession (control.digest args.sessionToken) reading =
        .ok (.ok read)) ∧
      (args.requireCsrf = true → control.csrfFails args read.session = false) ∧
      grants read.account args.permission ∧ covers read.account args.requiredScope ∧
      ReflTransGen others readStore touchStore ∧
      (∃ reading, touchStore.touchAuthorizedSession read.session.id
        (control.digest args.sessionToken) read.account.authzVersion control.idleTimeout
        reading = .ok (.ok touched, after)) ∧
      principal = principalOf touched ∧
      made = [⟨readStore, .readSession (control.digest args.sessionToken), .ok (.ok read),
          readStore⟩,
        ⟨touchStore, .touchAuthorizedSession read.session.id
          (control.digest args.sessionToken) read.account.authzVersion control.idleTimeout,
          .ok (.ok touched), after⟩] := by
  unfold authenticate at runs
  obtain ⟨ctx, _, noCalls, calls, isMade, captured, checked⟩ := runs_among_bind runs
  obtain ⟨isNil, _, rfl⟩ := runs_among_done captured
  rw [isNil, List.nil_append] at isMade
  subst isMade
  by_cases badToken : args.sessionToken = "" ∨ 1024 < args.sessionToken.length
  · rw [if_pos badToken] at checked
    exact (refuse_never_returns checked).elim
  rw [if_neg badToken] at checked
  obtain ⟨reading, _, first, later, rfl, readRuns, decided⟩ := runs_among_bind checked
  obtain ⟨readStore, disturbed, executed, rfl⟩ := runs_among_ask readRuns
  obtain ⟨clock, isReading, rfl⟩ := executed
  cases reading with
  | error failure => exact (refuse_never_returns decided).elim
  | ok read =>
    dsimp only at decided
    by_cases csrf : args.requireCsrf = true ∧ control.csrfFails args read.session = true
    · rw [if_pos csrf] at decided
      exact (refuse_never_returns decided).elim
    by_cases permission : grants read.account args.permission
    swap
    · rw [if_neg csrf, if_pos permission] at decided
      exact (refuse_never_returns decided).elim
    by_cases scope : covers read.account args.requiredScope
    swap
    · rw [if_neg csrf, if_neg (not_not.mpr permission), if_pos scope] at decided
      exact (refuse_never_returns decided).elim
    rw [if_neg csrf, if_neg (not_not.mpr permission), if_neg (not_not.mpr scope)] at decided
    obtain ⟨touching, _, second, last, rfl, touchRuns, ret⟩ := runs_among_bind decided
    obtain ⟨touchStore, between, touchExecuted, rfl⟩ := runs_among_ask touchRuns
    cases touching with
    | error failure => exact (refuse_never_returns ret).elim
    | ok touched =>
      obtain ⟨isLast, isPrincipal, rfl⟩ := runs_among_done ret
      obtain ⟨touchClock, isTouch⟩ := touchExecuted
      refine ⟨_, touchStore, read, touched, disturbed, ⟨clock, isReading.symm⟩, ?_,
        permission, scope, between, ⟨touchClock, answers_ok isTouch⟩,
        (Except.ok.inj isPrincipal).symm, ?_⟩
      · intro required
        simpa [required] using csrf
      · rw [isLast]
        rfl

/-- A principal that `authenticate` returns was authorised when its session was touched, by the
very account the decision was taken on. -/
theorem authenticate_authorized_at_touch {principal : OperatorPrincipal}
    (reached : InMemoryOperatorSessionStore.Reachable store)
    (runs : RunsAmong sessionMachine InMemoryOperatorSessionStore.OtherRequest tid
      (control.authenticate args) store made (.ok principal) after) :
    ∃ readStore touchStore read sess moment,
      made = [⟨readStore, .readSession (control.digest args.sessionToken), .ok (.ok read),
          readStore⟩,
        ⟨touchStore, .touchAuthorizedSession read.session.id
          (control.digest args.sessionToken) read.account.authzVersion control.idleTimeout,
          .ok (.ok ⟨sess.touched moment control.idleTimeout, read.account⟩), after⟩] ∧
      touchStore.touchAuthorizedSession read.session.id (control.digest args.sessionToken)
        read.account.authzVersion control.idleTimeout (some moment) =
          .ok (.ok ⟨sess.touched moment control.idleTimeout, read.account⟩, after) ∧
      AuthorizedAt control args touchStore moment sess read.account ∧
      principal = principalOf ⟨sess.touched moment control.idleTimeout, read.account⟩ := by
  obtain ⟨readStore, touchStore, read, touched, pre, ⟨reading, isRead⟩, csrf, permission, scope,
    between, ⟨touchReading, didTouch⟩, isPrincipal, isMade⟩ := authenticate_returns runs
  have keyed := reachable_well_keyed reached
  have readKeyed := (other_requests_evolve keyed pre).keyed
  have evolves := other_requests_evolve readKeyed between
  -- what was read
  simp only [readSession, now, bind_ok, or_raise_ok, pure_ok] at isRead
  obtain ⟨readMoment, _, evaluates⟩ := isRead
  obtain ⟨found, -, -, -, readAccount, -, -⟩ := evaluate_ok evaluates
  obtain ⟨readSession, -⟩ := session_of_filed readKeyed found
  -- what was touched
  obtain ⟨⟨_, isError⟩, _⟩ | ⟨cur, moment, acct, isCurrent, token, rfl, touchEvaluates,
    sameVersion, isTouched, _⟩ := touch_cases didTouch
  · cases isError
  obtain ⟨_, unrevoked, notIdle, notExpired, held, enabled, version⟩ :=
    evaluate_ok touchEvaluates
  -- the session is the one that was read, and so is its account
  obtain ⟨kept, foundKept, same⟩ := evolves.sessions _ _ readSession
  have isKept : kept = cur := Option.some.inj (foundKept.symm.trans isCurrent)
  rw [isKept] at same
  obtain ⟨later, foundLater, advanced⟩ := evolves.accounts _ _ readAccount
  rw [same.accountId] at held
  have isLater : later = acct := Option.some.inj (foundLater.symm.trans held)
  have isAccount : acct = read.account := by
    rw [isLater] at advanced
    rcases advanced with unchanged | larger
    · exact unchanged
    · omega
  have touchedIs : touched = ⟨cur.touched moment control.idleTimeout, read.account⟩ := by
    rw [← isAccount]
    exact Except.ok.inj isTouched
  subst touchedIs
  have sameId : cur.id = read.session.id := same.id
  refine ⟨readStore, touchStore, read, cur, moment, isMade, didTouch, ?_, isPrincipal⟩
  constructor
  · rw [sameId]
    exact isCurrent
  · exact token
  · exact unrevoked
  · exact notIdle
  · exact notExpired
  · rw [same.accountId, ← isAccount]
    exact held
  · rw [← isAccount]
    exact enabled
  · rw [← isAccount]
    exact version.symm
  · exact permission
  · exact scope
  · intro required
    have matched := csrf required
    unfold csrfFails at matched
    cases isToken : args.csrfToken with
    | none =>
      rw [isToken] at matched
      cases matched
    | some csrfToken =>
      rw [isToken] at matched
      refine ⟨csrfToken, rfl, ?_⟩
      rw [same.csrfSha256]
      simpa using matched

theorem authenticate_passes {readStore touchStore : InMemoryOperatorSessionStore}
    {read touched : AuthenticatedOperatorSession} {touchReading : Option Datetime}
    (captured : control.auditContextOf args = .ok ctx)
    (goodToken : ¬(args.sessionToken = "" ∨ 1024 < args.sessionToken.length))
    (pre : ReflTransGen others store readStore)
    (isRead : readStore.readSession (control.digest args.sessionToken) reading = .ok (.ok read))
    (csrf : ¬(args.requireCsrf = true ∧ control.csrfFails args read.session = true))
    (permission : grants read.account args.permission)
    (scope : covers read.account args.requiredScope)
    (between : ReflTransGen others readStore touchStore)
    (didTouch : touchStore.touchAuthorizedSession read.session.id
      (control.digest args.sessionToken) read.account.authzVersion control.idleTimeout
      touchReading = .ok (.ok touched, after)) :
    RunsAmong sessionMachine others tid (control.authenticate args) store
      [⟨readStore, .readSession (control.digest args.sessionToken), .ok (.ok read), readStore⟩,
        ⟨touchStore, .touchAuthorizedSession read.session.id
          (control.digest args.sessionToken) read.account.authzVersion control.idleTimeout,
          .ok (.ok touched), after⟩]
      (.ok (principalOf touched)) after := by
  unfold authenticate
  rw [captured]
  change RunsAmong _ _ _ (ite _ _ _) _ _ _ _
  rw [if_neg goodToken]
  refine .call pre ⟨reading, isRead.symm, rfl⟩ ?_
  change RunsAmong _ _ _ (ite _ _ _) _ _ _ _
  rw [if_neg csrf, if_neg (not_not.mpr permission), if_neg (not_not.mpr scope)]
  have executed : (.ok (.ok touched), after) = answers touchStore
      (touchStore.touchAuthorizedSession read.session.id (control.digest args.sessionToken)
        read.account.authzVersion control.idleTimeout touchReading) := by
    rw [didTouch]
    rfl
  refine .call between ⟨touchReading, executed⟩ ?_
  exact .done _ _

/-! ### A request that is authenticated while its session gets a second factor -/

def sampleToken : String := "qqqqqqqqqqqqqqqqqqqqqqqqqqqqqqqqqqqqqqqqqqq"

def sampleCsrfToken : String := "rrrrrrrrrrrrrrrrrrrrrrrrrrrrrrrrrrrrrrrrrrr"

def sampleDigest (value : String) : String :=
  if value = sampleToken then "93b00a05393f93a441c091392647c98a4e1021b4f3a67bdc6444c8b9cca30923"
  else if value = sampleCsrfToken then
    "d9ef4334ec1e720d52182936117c00ed352c044d0f8d46cd845298cbc1869b72"
  else if value = "internal" then
    "3bed2cb3a3acf7b6a8ef408420cc682d5520e26976d354254f528c965612054f"
  else "e3b0c44298fc1c149afbf4c8996fb92427ae41e4649b934ca495991b7852b855"

def sampleControl : OperatorSessionControl where
  digest := sampleDigest
  idleTimeout := timedeltaSeconds 1800
  absoluteTimeout := timedeltaSeconds 43200
  timingValid := by decide

def sampleAccount : OperatorAccount where
  id := 7
  identitySource := .localAccount
  subject := "operator"
  displayName := "Operator"
  roles := {.operator}
  scopes := {"server:*"}
  authzVersion := 1
  enabled := true
  subjectValid := by decide
  displayNameValid := by decide
  rolesValid := by decide
  scopesValid := by decide
  versionValid := by decide

def sampleArguments : AuthenticateArguments where
  sessionToken := sampleToken
  permission := .controlMutate
  csrfToken := some sampleCsrfToken
  requireCsrf := true

def sampleSession : OperatorSession where
  id := 11
  accountId := 7
  tokenSha256 := sampleDigest sampleToken
  csrfSha256 := sampleDigest sampleCsrfToken
  authzVersion := 1
  issuedAt := 0
  lastSeenAt := 0
  idleExpiresAt := timedeltaSeconds 1800
  absoluteExpiresAt := timedeltaSeconds 43200
  mfaVerifiedAt := none
  digestsValid := by decide
  versionValid := by decide
  expiryValid := by decide

def sampleContext : OperatorRequestAuditContext where
  requestId := 0
  action := "control.mutate"
  httpMethod := "INTERNAL"
  resourceScope := "server:*"
  sourceIpSha256 := sampleDigest "internal"
  userAgentSha256 := sampleDigest ""

def sampleStore (sess : OperatorSession) (events : List OperatorRequestSecurityEvent) :
    InMemoryOperatorSessionStore where
  accounts := empty.set sampleAccount.id sampleAccount
  sessions := empty.set sess.id sess
  authorizationEvents := []
  requestSecurityEvents := events

def sampleMfaEvent : OperatorRequestSecurityEvent where
  accountId := some 7
  sessionId := some 11
  eventType := "operator.mfa_refreshed"
  reasonCode := "totp_verified"
  outcome := "accepted"
  roles := {.operator}
  scopes := {"server:*"}
  auditContext := sampleContext
  identitySource := some .localAccount

theorem sample_reachable : InMemoryOperatorSessionStore.Reachable (sampleStore sampleSession []) := by
  apply InMemoryOperatorSessionStore.Reachable.step (.init [sampleAccount])
  refine ⟨.issueSession 11 7 (sampleDigest sampleToken) (sampleDigest sampleCsrfToken)
    (timedeltaSeconds 1800) (timedeltaSeconds 43200) false (some 1) (some 0), ?_, ?_⟩
  · rfl
  · decide +kernel

theorem sample_mfa : InMemoryOperatorSessionStore.OtherRequest (sampleStore sampleSession [])
    (sampleStore (sampleSession.withMfa 60) [sampleMfaEvent]) := by
  refine ⟨.markMfaVerified 7 11 (sampleDigest sampleToken) 60 sampleContext, trivial, ?_⟩
  decide +kernel

def sampleTouched : AuthenticatedOperatorSession :=
  ⟨(sampleSession.withMfa 60).touched 90 (timedeltaSeconds 1800), sampleAccount⟩

theorem authenticate_authorized_at_touch_with_mfa :
    ∃ touchStore moment sess acct,
      AuthorizedAt sampleControl sampleArguments touchStore moment sess acct ∧
      principalOf sampleTouched =
        principalOf ⟨sess.touched moment sampleControl.idleTimeout, acct⟩ := by
  have captured : sampleControl.auditContextOf sampleArguments = .ok sampleContext := by
    decide +kernel
  have isRead : (sampleStore sampleSession []).readSession (sampleDigest sampleToken) (some 30) =
      .ok (.ok ⟨sampleSession, sampleAccount⟩) := by
    decide +kernel
  have didTouch : (sampleStore (sampleSession.withMfa 60) [sampleMfaEvent]).touchAuthorizedSession
      11 (sampleDigest sampleToken) 1 (timedeltaSeconds 1800) (some 90) =
        .ok (.ok sampleTouched, sampleStore sampleTouched.session [sampleMfaEvent]) := by
    decide +kernel
  have runs : RunsAmong sessionMachine InMemoryOperatorSessionStore.OtherRequest 0
      (sampleControl.authenticate sampleArguments) (sampleStore sampleSession []) _
      (.ok (principalOf sampleTouched)) (sampleStore sampleTouched.session [sampleMfaEvent]) :=
    authenticate_passes captured (by decide +kernel) .refl isRead (by decide +kernel)
      (by decide +kernel) (by decide +kernel) (.single sample_mfa) didTouch
  obtain ⟨_, touchStore, read, sess, moment, _, _, authorized, isPrincipal⟩ :=
    authenticate_authorized_at_touch sample_reachable runs
  exact ⟨touchStore, moment, sess, read.account, authorized, isPrincipal⟩

end OperatorSessionControl

end RtspProxy.Access
