import RtspProxy.Access.Authentication

/-!
# How long a session lives

A run of the store under the timeouts of one `OperatorSessionControl`, with a
clock that never goes back. Beside the store, a run keeps what idle and absolute
timeouts and the limit of five are measured against: the order in which sessions
were issued, when each was issued, and when it was last issued or touched. A step writes the
session table in one of five ways (`TableStep`), and the invariant is derived
from these alone.
-/

namespace RtspProxy.Access

open Nodes Lib Lib.Raising List Dict
open Option (some_ne_none any_some)
open Prod (fst)

namespace InMemoryOperatorSessionStore

def readingOf : StoreRequest → Option Datetime
  | .issueSession _ _ _ _ _ _ _ _ reading | .touchAuthorizedSession _ _ _ _ reading
  | .revokeSession _ _ reading => reading
  | _ => none

def issuedBy (store : InMemoryOperatorSessionStore) : StoreRequest → Option (UUID × Datetime)
  | .issueSession sid accountId token csrf idle absolute mfa want reading =>
    match store.issueSession sid accountId token csrf idle absolute mfa want reading with
    | .ok (sess, _) => some (sid, sess.issuedAt)
    | .error _ => none
  | _ => none

/-- The session that a request touches with success, and when. -/
def touchedBy (store : InMemoryOperatorSessionStore) : StoreRequest → Option (UUID × Datetime)
  | .touchAuthorizedSession sid token want idle reading =>
    match store.touchAuthorizedSession sid token want idle reading, reading with
    | .ok (.ok _, _), some moment => some (sid, moment)
    | _, _ => none
  | _ => none

/-- A store, the last reading of its clock, and what happened to its sessions. -/
structure Lifetime where
  store : InMemoryOperatorSessionStore
  clock : Datetime
  issued : List UUID
  issuedAt : UUID → Datetime
  seenAt : UUID → Datetime

def noteAt (times : UUID → Datetime) : Option (UUID × Datetime) → UUID → Datetime
  | some (sid, moment) => fun other => if other = sid then moment else times other
  | none => times

namespace Lifetime

def advance (st : Lifetime) (req : StoreRequest) : Lifetime where
  store :=
    match st.store.perform req with
    | .ok after => after
    | .error _ => st.store
  clock := (readingOf req).getD st.clock
  issued := st.issued ++ ((st.store.issuedBy req).map fst).toList
  issuedAt := noteAt st.issuedAt (st.store.issuedBy req)
  seenAt := noteAt (noteAt st.seenAt (st.store.touchedBy req))
    (st.store.issuedBy req)

/-- The request passes the timeouts of the session control. -/
def Configured (idleTimeout absTimeout : Int) : StoreRequest → Prop
  | .issueSession _ _ _ _ idle absolute _ _ _ => idle = idleTimeout ∧ absolute = absTimeout
  | .touchAuthorizedSession _ _ _ idle _ => idle = idleTimeout
  | _ => True

/-- Fresh session identifiers, configured timeouts, and a clock that does not go back. -/
structure Allowed (idleTimeout absoluteTimeout : Int) (st : Lifetime) (req : StoreRequest) :
    Prop where
  draws : st.store.Draws req
  configured : Configured idleTimeout absoluteTimeout req
  clock : ∀ moment, readingOf req = some moment → st.clock ≤ moment

inductive Continues (idleTimeout absoluteTimeout : Int) (st : Lifetime) : Lifetime → Prop
  | refl : Continues idleTimeout absoluteTimeout st st
  | step {later : Lifetime} (continued : Continues idleTimeout absoluteTimeout st later)
      (req : StoreRequest) (allowed : Allowed idleTimeout absoluteTimeout later req) :
      Continues idleTimeout absoluteTimeout st (later.advance req)

def start (accounts : List OperatorAccount) (clock : Datetime) : Lifetime where
  store := init accounts
  clock := clock
  issued := []
  issuedAt _ := clock
  seenAt _ := clock

/-- The unrevoked sessions of an account, in the order in which they were issued. -/
def unrevoked (st : Lifetime) (accountId : UUID) : List UUID :=
  st.issued.filter fun sid => (st.store.sessions.get sid).any fun sess =>
    decide (sess.accountId = accountId) && sess.revokedAt.isNone

def Revoked (st : Lifetime) (sid : UUID) : Prop :=
  ∃ sess, st.store.sessions.get sid = some sess ∧ sess.revokedAt ≠ none

end Lifetime

/-- `read_authorization_epochs`, once the identifiers are validated. -/
def readAuthorizationEpochs (store : InMemoryOperatorSessionStore) (sids : List UUID)
    (reading : Option Datetime) : Except SessionError (List (UUID × Int)) := do
  let moment ← now reading
  return sids.filterMap fun sid =>
    match store.evaluate (store.sessions.get sid) moment with
    | .ok evaluated => some (sid, evaluated.account.authzVersion)
    | .error _ => none

/-- A method of the store answers for the session at this moment. -/
inductive AuthenticatedBy (store : InMemoryOperatorSessionStore) (moment : Datetime) : UUID → Prop
  | read (token : String) (authenticated : AuthenticatedOperatorSession)
      (answers : store.readSession token (some moment) = .ok (.ok authenticated)) :
      AuthenticatedBy store moment authenticated.session.id
  | touch (sid : UUID) (token : String) (want idle : Int)
      (authenticated : AuthenticatedOperatorSession) (after : InMemoryOperatorSessionStore)
      (answers : store.touchAuthorizedSession sid token want idle (some moment) =
        .ok (.ok authenticated, after)) : AuthenticatedBy store moment sid
  | mark (accountId sid : UUID) (token : String) (ctx : OperatorRequestAuditContext)
      (answers : (store.markMfaVerified accountId sid token moment ctx).1 = true) :
      AuthenticatedBy store moment sid
  | epochs (sids : List UUID) (sid : UUID) (version : Int)
      (epochs : List (UUID × Int))
      (answers : store.readAuthorizationEpochs sids (some moment) = .ok epochs)
      (mem : (sid, version) ∈ epochs) : AuthenticatedBy store moment sid

variable {sid : UUID} {store : InMemoryOperatorSessionStore}

theorem authenticated_alive (keyed : WellKeyed store)
    {moment : Datetime} (authenticated : AuthenticatedBy store moment sid) :
    ∃ sess, store.sessions.get sid = some sess ∧ sess.revokedAt = none ∧
      moment < sess.idleExpiresAt ∧ moment < sess.absoluteExpiresAt := by
  have evaluated {stored : Option OperatorSession} {ans : AuthenticatedOperatorSession}
      (found : store.sessions.get sid = stored)
      (evaluates : store.evaluate stored moment = .ok ans) :
      ∃ sess, store.sessions.get sid = some sess ∧ sess.revokedAt = none ∧
        moment < sess.idleExpiresAt ∧ moment < sess.absoluteExpiresAt := by
    obtain ⟨isStored, unrevoked, idle, absolute, _⟩ := evaluate_ok evaluates
    exact ⟨ans.session, found.trans isStored, unrevoked, idle, absolute⟩
  cases authenticated with
  | read token ans answers =>
    simp only [readSession, now, bind_ok, or_raise_ok, pure_ok] at answers
    obtain ⟨_, ⟨⟩, evaluates⟩ := answers
    have isStored := (evaluate_ok evaluates).1
    have filed := (session_of_filed keyed isStored).1
    rw [isStored] at evaluates
    exact evaluated filed evaluates
  | touch _ token want idle ans after answers =>
    rcases touch_cases answers with ⟨⟨failure, impossible⟩, _⟩ | touched
    · cases impossible
    · obtain ⟨cur, _, account, found, _, ⟨⟩, evaluates, _⟩ := touched
      exact evaluated found evaluates
  | mark accountId _ token ctx answers =>
    unfold markMfaVerified at answers
    split at answers
    · rename_i cur ans found evaluates
      exact evaluated rfl evaluates
    · cases answers
  | epochs sids _ version epochs answers mem =>
    simp only [readAuthorizationEpochs, now, bind_ok, or_raise_ok, pure_ok] at answers
    obtain ⟨_, ⟨⟩, rfl⟩ := answers
    obtain ⟨listed, _, isListed⟩ := mem_filterMap.mp mem
    split at isListed
    · rename_i ans evaluates
      cases isListed
      exact evaluated rfl evaluates
    · cases isListed

/-- The session written back over `current`, and the times of the last touches after it. -/
inductive Rewrites (idleTimeout : Int) (st after : Lifetime) (sid : UUID)
    (cur : OperatorSession) : OperatorSession → Prop
  | touch (moment : Datetime) (after_clock : st.clock ≤ moment) (before_clock : moment ≤ after.clock)
      (seen : after.seenAt = noteAt st.seenAt (some (sid, moment))) :
      Rewrites idleTimeout st after sid cur (cur.touched moment idleTimeout)
  | revoke (moment : Datetime) (seen : after.seenAt = st.seenAt) :
      Rewrites idleTimeout st after sid cur (cur.withRevocation moment)
  | mark (moment : Datetime) (seen : after.seenAt = st.seenAt) :
      Rewrites idleTimeout st after sid cur (cur.withMfa moment)

/-- The table after the new session has been filed and the surplus ones revoked. -/
def issueInto (sessions : Dict UUID OperatorSession) (sess : OperatorSession) :
    Dict UUID OperatorSession :=
  revokeAll (surplusSessions (sessions.set sess.id sess) sess.accountId) sess.issuedAt
    (sessions.set sess.id sess)

/-- Everything a request can do to the sessions and to what is remembered of them. -/
inductive TableStep (idleTimeout absoluteTimeout : Int) (st after : Lifetime) : Prop
  | same (sessions : after.store.sessions = st.store.sessions)
      (issued : after.issued = st.issued) (issuedAt : after.issuedAt = st.issuedAt)
      (seenAt : after.seenAt = st.seenAt)
  | write (sid : UUID) (cur upd : OperatorSession)
      (found : st.store.sessions.get sid = some cur)
      (sessions : after.store.sessions = st.store.sessions.set sid upd)
      (rewrites : Rewrites idleTimeout st after sid cur upd)
      (issued : after.issued = st.issued) (issuedAt : after.issuedAt = st.issuedAt)
  | issue (sess : OperatorSession) (absent : st.store.sessions.get sess.id = none)
      (unrevoked : sess.revokedAt = none)
      (idle : sess.idleExpiresAt = sess.issuedAt + idleTimeout)
      (absolute : sess.absoluteExpiresAt = sess.issuedAt + absoluteTimeout)
      (now : sess.issuedAt = after.clock)
      (sessions : after.store.sessions = issueInto st.store.sessions sess)
      (issued : after.issued = st.issued ++ [sess.id])
      (issuedAt : after.issuedAt = noteAt st.issuedAt (some (sess.id, sess.issuedAt)))
      (seenAt : after.seenAt = noteAt st.seenAt (some (sess.id, sess.issuedAt)))

section Steps

variable {idleTimeout absTimeout : Int} {st : Lifetime}

variable {req : StoreRequest}

theorem advance_clock (allowed : st.Allowed idleTimeout absTimeout req) :
    st.clock ≤ (st.advance req).clock := by
  unfold Lifetime.advance
  cases reading : readingOf req with
  | none => exact le_refl _
  | some moment => exact allowed.clock moment reading

variable {after : InMemoryOperatorSessionStore} {reading : Option Datetime} {token : String}
    {idle : Int}

theorem issue_session_files {accountId : UUID} {csrf : String}
    {absolute : Int} {mfa : Bool} {want : Option Int} {sess : OperatorSession}
    (keyed : WellKeyed store)
    (ran : store.issueSession sid accountId token csrf idle absolute mfa want reading =
      .ok (sess, after)) :
    sess.id = sid ∧ sess.accountId = accountId ∧ sess.revokedAt = none ∧
      sess.idleExpiresAt = sess.issuedAt + idle ∧
      sess.absoluteExpiresAt = sess.issuedAt + absolute ∧ reading = some sess.issuedAt ∧
      after.sessions = issueInto store.sessions sess := by
  simp only [issueSession, now, bind_ok, raise_if_ok, or_raise_ok] at ran
  obtain ⟨account, found, _, _, _, _, issuedAt, isReading, ran⟩ := ran
  have isAccount := keyed.accounts accountId account found
  split at ran
  · simp only [pure_ok, Prod.mk.injEq] at ran
    obtain ⟨rfl, rfl⟩ := ran
    refine ⟨rfl, isAccount, rfl, rfl, rfl, isReading, ?_⟩
    unfold issueInto
    rw [isAccount]
  · cases ran

theorem revoke_session_writes {ctx : OperatorRequestAuditContext} {revoked : Bool}
    (keyed : WellKeyed store) (ran : store.revokeSession token ctx reading = .ok (revoked, after)) :
    after.sessions = store.sessions ∨ ∃ sess moment,
      store.sessions.get sess.id = some sess ∧
        after.sessions = store.sessions.set sess.id (sess.withRevocation moment) := by
  unfold revokeSession at ran
  split at ran
  · cases ran
    exact .inl rfl
  · rename_i sess found
    by_cases already : sess.revokedAt.isSome = true
    · rw [if_pos already] at ran
      cases ran
      exact .inl rfl
    · rw [if_neg already] at ran
      simp only [now, bind_ok, or_raise_ok, pure_ok, Prod.mk.injEq] at ran
      obtain ⟨moment, _, _, rfl⟩ := ran
      exact .inr ⟨sess, moment, (session_of_filed keyed found).1, rfl⟩

theorem advance_store
    (ran : st.store.perform req = .ok after) : (st.advance req).store = after := by
  unfold Lifetime.advance
  rw [ran]

theorem advance_store_error {err : SessionError} (ran : st.store.perform req = .error err) :
    (st.advance req).store = st.store := by
  unfold Lifetime.advance
  rw [ran]

theorem quiet_history (unissued : st.store.issuedBy req = none)
    (untouched : st.store.touchedBy req = none) :
    (st.advance req).issued = st.issued ∧ (st.advance req).issuedAt = st.issuedAt ∧
      (st.advance req).seenAt = st.seenAt := by
  simp [Lifetime.advance, unissued, untouched, noteAt]

theorem quiet_step (unissued : st.store.issuedBy req = none)
    (untouched : st.store.touchedBy req = none)
    (writes : ∀ after, st.store.perform req = .ok after → after.sessions = st.store.sessions) :
    TableStep idleTimeout absTimeout st (st.advance req) := by
  obtain ⟨issued, issuedAt, seenAt⟩ := quiet_history unissued untouched
  refine .same ?_ issued issuedAt seenAt
  cases ran : st.store.perform req with
  | error err => rw [advance_store_error ran]
  | ok after =>
    rw [advance_store ran]
    exact writes after ran

theorem issue_step {accountId : UUID} {csrf : String} {absolute : Int}
    {mfa : Bool} {want : Option Int} (keyed : WellKeyed st.store)
    (allowed : st.Allowed idleTimeout absTimeout
      (.issueSession sid accountId token csrf idle absolute mfa want reading)) :
    TableStep idleTimeout absTimeout st (st.advance
      (.issueSession sid accountId token csrf idle absolute mfa want reading)) := by
  cases ran : st.store.issueSession sid accountId token csrf idle absolute mfa want reading with
  | error err =>
    refine quiet_step (by simp [issuedBy, ran]) rfl ?_
    intro after acted
    simp [perform, ran] at acted
  | ok ans =>
    obtain ⟨sess, after⟩ := ans
    have isIssued : st.store.issuedBy (.issueSession sid accountId token csrf idle
        absolute mfa want reading) = some (sid, sess.issuedAt) := by
      simp [issuedBy, ran]
    have acted : st.store.perform (.issueSession sid accountId token csrf idle
        absolute mfa want reading) = .ok after := by
      simp [perform, ran]
    obtain ⟨rfl, _, unrevoked, isIdle, isAbsolute, isReading, sessions⟩ :=
      issue_session_files keyed ran
    obtain ⟨rfl, rfl⟩ := allowed.configured
    refine .issue sess allowed.draws unrevoked isIdle isAbsolute ?_ ?_ ?_ ?_ ?_
    · rw [isReading]
      rfl
    · rw [advance_store acted, sessions]
    · simp [Lifetime.advance, isIssued]
    · simp [Lifetime.advance, isIssued]
    · simp [Lifetime.advance, isIssued, touchedBy, noteAt]

theorem touch_step {want : Int} (allowed : st.Allowed idleTimeout absTimeout
      (.touchAuthorizedSession sid token want idle reading)) :
    TableStep idleTimeout absTimeout st (st.advance
      (.touchAuthorizedSession sid token want idle reading)) := by
  cases ran : st.store.touchAuthorizedSession sid token want idle reading with
  | error err =>
    refine quiet_step rfl (by simp [touchedBy, ran]) ?_
    intro after acted
    simp [perform, ran] at acted
  | ok ans =>
    obtain ⟨ans, after⟩ := ans
    have acted : st.store.perform (.touchAuthorizedSession sid token want idle
        reading) = .ok after := by
      simp [perform, ran]
    rcases touch_cases ran with ⟨⟨failure, rfl⟩, rfl⟩ | touched
    · refine quiet_step rfl (by simp [touchedBy, ran]) ?_
      intro after performedAgain
      rw [acted] at performedAgain
      cases performedAgain
      rfl
    · obtain ⟨cur, moment, account, found, _, rfl, _, _, rfl, rfl⟩ := touched
      have isTouched : st.store.touchedBy (.touchAuthorizedSession sid token want
          idle (some moment)) = some (sid, moment) := by
        simp [touchedBy, ran]
      obtain rfl := allowed.configured
      refine .write sid cur _ found ?_ (.touch moment (allowed.clock moment rfl) ?_ ?_) ?_ ?_
      · rw [advance_store acted]
      · exact le_refl _
      · simp [Lifetime.advance, isTouched, issuedBy, noteAt]
      · simp [Lifetime.advance, issuedBy]
      · simp [Lifetime.advance, issuedBy, noteAt]

theorem advance_step (keyed : WellKeyed st.store)
    (allowed : st.Allowed idleTimeout absTimeout req) :
    TableStep idleTimeout absTimeout st (st.advance req) := by
  cases req with
  | issueSession => exact issue_step keyed allowed
  | touchAuthorizedSession => exact touch_step allowed
  | createAccount account =>
    refine quiet_step rfl rfl ?_
    intro after acted
    simp only [perform, createAccount, bind_ok, raise_if_ok, pure_ok] at acted
    obtain ⟨_, _, _, _, rfl⟩ := acted
    rfl
  | updateAuthorization =>
    refine quiet_step rfl rfl ?_
    intro after acted
    simp only [perform, map_ok, updateAuthorization, bind_ok, raise_if_ok, or_raise_ok, pure_ok]
      at acted
    obtain ⟨_, ⟨_, _, _, _, _, _, rfl⟩, rfl⟩ := acted
    rfl
  | recordAuthenticationFailure =>
    refine quiet_step rfl rfl ?_
    intro after acted
    cases acted
    rfl
  | recordRequestSecurityEvent =>
    refine quiet_step rfl rfl ?_
    intro after acted
    cases acted
    rfl
  | revokeSession token ctx reading =>
    cases ran : st.store.perform (.revokeSession token ctx reading) with
    | error err =>
      refine quiet_step rfl rfl ?_
      intro after acted
      rw [ran] at acted
      cases acted
    | ok after =>
      obtain ⟨⟨revoked, _⟩, isRun, rfl⟩ := map_ok.mp ran
      rcases revoke_session_writes keyed isRun with same | ⟨sess, moment, found, written⟩
      · refine quiet_step rfl rfl ?_
        intro after acted
        rw [ran] at acted
        cases acted
        exact same
      · obtain ⟨issued, issuedAt, seenAt⟩ :=
          @quiet_history st (.revokeSession token ctx reading) rfl rfl
        refine .write sess.id sess _ found ?_ (.revoke moment seenAt) issued issuedAt
        rw [advance_store ran]
        exact written
  | markMfaVerified accountId sid token verifiedAt ctx =>
    have ran : st.store.perform (.markMfaVerified accountId sid token verifiedAt
        ctx) = .ok (st.store.markMfaVerified accountId sid token verifiedAt
        ctx).2 := rfl
    obtain ⟨issued, issuedAt, seenAt⟩ := @quiet_history st
      (.markMfaVerified accountId sid token verifiedAt ctx) rfl rfl
    unfold markMfaVerified at ran
    split at ran
    · rename_i cur evaluated found _
      split_ifs at ran
      · refine .same ?_ issued issuedAt seenAt
        rw [advance_store ran]
      · refine .write sid cur _ found ?_ (.mark verifiedAt seenAt) issued issuedAt
        rw [advance_store ran]
    · refine .same ?_ issued issuedAt seenAt
      rw [advance_store ran]

end Steps

section Surplus

variable {sessions : Dict UUID OperatorSession} {surplus : List OperatorSession}
  {accountId : UUID} {moment : Datetime}

theorem revoke_all_get (distinct : (surplus.map OperatorSession.id).Nodup)
    (filed : ∀ expired ∈ surplus, sessions.get expired.id = some expired) (key : UUID) :
    (revokeAll surplus moment sessions).get key = if key ∈ surplus.map OperatorSession.id then
        (sessions.get key).map fun sess => sess.withRevocation moment
      else sessions.get key := by
  induction surplus generalizing sessions with
  | nil => rfl
  | cons expired rest ih =>
    rw [map_cons, nodup_cons] at distinct
    have found := filed expired mem_cons_self
    have filedRest : ∀ later ∈ rest,
        (sessions.set expired.id (expired.withRevocation moment)).get later.id = some later := by
      intro later mem
      have differ : later.id ≠ expired.id := by
        intro sameId
        exact distinct.1 (sameId ▸ mem_map_of_mem mem)
      rw [get_set_ne differ]
      exact filed later (mem_cons_of_mem _ mem)
    have further := ih distinct.2 filedRest
    unfold revokeAll at further ⊢
    rw [foldl_cons, further, map_cons]
    by_cases isExpired : key = expired.id
    · rw [isExpired, if_neg distinct.1, if_pos mem_cons_self, get_set_self, found]
      rfl
    · simp only [get_set_ne isExpired, mem_cons, isExpired, false_or]

theorem revoke_all_keys (filed : ∀ expired ∈ surplus, sessions.get expired.id ≠ none) :
    (revokeAll surplus moment sessions).items.map fst = sessions.items.map fst := by
  induction surplus generalizing sessions with
  | nil => rfl
  | cons expired rest ih =>
    have filedRest : ∀ later ∈ rest,
        (sessions.set expired.id (expired.withRevocation moment)).get later.id ≠ none := by
      intro later mem
      rw [get_set]
      split_ifs
      · exact some_ne_none _
      · exact filed later (mem_cons_of_mem _ mem)
    unfold revokeAll at ih ⊢
    rw [foldl_cons, ih filedRest]
    exact keys_set_of_present (filed expired mem_cons_self)

def unrevokedIn (keys : List UUID) (sessions : Dict UUID OperatorSession) (accountId : UUID) :
    List UUID :=
  keys.filter fun sid => (sessions.get sid).any fun sess =>
    decide (sess.accountId = accountId) && sess.revokedAt.isNone

variable (keyed : ∀ key sess, sessions.get key = some sess → sess.id = key)

include keyed

theorem surplus_ids :
    (surplusSessions sessions accountId).map OperatorSession.id =
      (unrevokedIn (sessions.items.map fst) sessions accountId).take
        ((unrevokedIn (sessions.items.map fst) sessions accountId).length - 5) := by
  have active : (sessions.values.filter fun cur =>
      decide (cur.accountId = accountId) && cur.revokedAt.isNone).map OperatorSession.id =
      unrevokedIn (sessions.items.map fst) sessions accountId := by
    unfold values unrevokedIn
    rw [filter_map, filter_map, map_map]
    have sameItems : sessions.items.filter ((fun sid => (sessions.get sid).any
        fun sess => decide (sess.accountId = accountId) && sess.revokedAt.isNone) ∘
        fst) = sessions.items.filter ((fun cur =>
        decide (cur.accountId = accountId) && cur.revokedAt.isNone) ∘ Prod.snd) := by
      refine filter_congr ?_
      intro item mem
      simp [get_eq_some.mpr (show (item.1, item.2) ∈ sessions.items from mem)]
    rw [sameItems]
    refine map_congr_left ?_
    intro item mem
    exact keyed item.1 item.2 (get_eq_some.mpr (mem_of_mem_filter mem))
  unfold surplusSessions
  rw [map_take, active, ← active, length_map]

theorem surplus_filed
    {expired : OperatorSession} (mem : expired ∈ surplusSessions sessions accountId) :
    sessions.get expired.id = some expired ∧ expired.accountId = accountId := by
  have inFilter := mem_of_mem_take mem
  obtain ⟨isValue, fits⟩ := mem_filter.mp inFilter
  obtain ⟨key, found⟩ := mem_values.mp isValue
  rw [keyed key expired found]
  exact ⟨found, of_decide_eq_true (Bool.and_eq_true_iff.mp fits).1⟩

theorem surplus_distinct :
    ((surplusSessions sessions accountId).map OperatorSession.id).Nodup := by
  refine (keyed_values_nodup keyed).sublist (Sublist.map _ ?_)
  exact (take_sublist _ _).trans filter_sublist

omit keyed

theorem filter_not_mem_take {Element : Type*} [DecidableEq Element] {elements : List Element}
    (distinct : elements.Nodup) (count : Nat) :
    elements.filter (fun element => decide (element ∉ elements.take count)) =
      elements.drop count := by
  have split := take_append_drop count elements
  have apart := (nodup_append.mp (split ▸ distinct)).2.2
  conv_lhs => rw [← split, filter_append]
  have none : (elements.take count).filter
      (fun element => decide (element ∉ elements.take count)) = [] := by
    refine filter_eq_nil_iff.mpr ?_
    intro element mem
    simp [mem]
  have all : (elements.drop count).filter
      (fun element => decide (element ∉ elements.take count)) = elements.drop count := by
    refine filter_eq_self.mpr ?_
    intro element mem
    simp only [decide_eq_true_eq]
    intro early
    exact apart element early element mem rfl
  rw [split, none, all, nil_append]

end Surplus

def lastFive {Element : Type} (elements : List Element) : List Element :=
  elements.drop (elements.length - 5)

section Issue

variable {sessions : Dict UUID OperatorSession} {sess : OperatorSession}

variable (keyed : ∀ key stored, sessions.get key = some stored → stored.id = key)

include keyed

theorem issue_into_get (key : UUID) :
    (issueInto sessions sess).get key =
      if key ∈ (surplusSessions (sessions.set sess.id sess) sess.accountId).map
          OperatorSession.id then
        ((sessions.set sess.id sess).get key).map fun stored =>
          stored.withRevocation sess.issuedAt
      else (sessions.set sess.id sess).get key := by
  have issuedKeyed : ∀ key stored,
      (sessions.set sess.id sess).get key = some stored → stored.id = key :=
    keyed_set keyed rfl
  exact revoke_all_get (surplus_distinct issuedKeyed)
    (fun _ mem => (surplus_filed issuedKeyed mem).1) key

theorem issue_into_keys (absent : sessions.get sess.id = none) :
    (issueInto sessions sess).items.map fst = sessions.items.map fst ++ [sess.id] := by
  have issuedKeyed : ∀ key stored,
      (sessions.set sess.id sess).get key = some stored → stored.id = key :=
    keyed_set keyed rfl
  have filed : ∀ expired ∈ surplusSessions (sessions.set sess.id sess) sess.accountId,
      (sessions.set sess.id sess).get expired.id ≠ none := by
    intro expired mem
    rw [(surplus_filed issuedKeyed mem).1]
    exact some_ne_none _
  unfold issueInto
  rw [revoke_all_keys filed, items_set_of_absent absent]
  simp

theorem issue_into_kept {key : UUID} {after : OperatorSession}
    (found : (issueInto sessions sess).get key = some after) :
    ∃ pre, (sessions.set sess.id sess).get key = some pre ∧
      after.accountId = pre.accountId ∧ after.idleExpiresAt = pre.idleExpiresAt ∧
      after.absoluteExpiresAt = pre.absoluteExpiresAt ∧
      (pre.revokedAt ≠ none → after.revokedAt ≠ none) := by
  rw [issue_into_get keyed] at found
  split_ifs at found
  · obtain ⟨pre, isBefore, rfl⟩ := Option.map_eq_some_iff.mp found
    exact ⟨pre, isBefore, rfl, rfl, rfl, fun _ => some_ne_none _⟩
  · exact ⟨after, found, rfl, rfl, rfl, id⟩

omit keyed

theorem unrevoked_in_set (absent : sessions.get sess.id = none)
    (unrevoked : sess.revokedAt = none) (accountId : UUID) :
    unrevokedIn (sessions.items.map fst ++ [sess.id]) (sessions.set sess.id sess)
      accountId =
      unrevokedIn (sessions.items.map fst) sessions accountId ++
        if sess.accountId = accountId then [sess.id] else [] := by
  unfold unrevokedIn
  rw [filter_append]
  congr 1
  · refine filter_congr ?_
    intro key mem
    have differ : key ≠ sess.id := by
      intro sameId
      obtain ⟨item, isItem, rfl⟩ := mem_map.mp mem
      exact get_eq_none.mp absent item isItem sameId
    rw [get_set_ne differ]
  · by_cases isAccount : sess.accountId = accountId
    · simp [isAccount, unrevoked]
    · simp [isAccount]

theorem unrevoked_in_issue (keyed : ∀ key stored, sessions.get key = some stored → stored.id = key)
    (absent : sessions.get sess.id = none) (unrevoked : sess.revokedAt = none)
    (accountId : UUID) :
    unrevokedIn (sessions.items.map fst ++ [sess.id]) (issueInto sessions sess)
      accountId =
      if sess.accountId = accountId then
        lastFive (unrevokedIn (sessions.items.map fst) sessions accountId ++ [sess.id])
      else unrevokedIn (sessions.items.map fst) sessions accountId := by
  have issuedKeyed : ∀ key stored,
      (sessions.set sess.id sess).get key = some stored → stored.id = key :=
    keyed_set keyed rfl
  have keys : (sessions.set sess.id sess).items.map fst =
      sessions.items.map fst ++ [sess.id] := by
    rw [items_set_of_absent absent]
    simp
  have ids := @surplus_ids _ sess.accountId issuedKeyed
  rw [keys] at ids
  have pre := unrevoked_in_set absent unrevoked accountId
  have filtered : unrevokedIn (sessions.items.map fst ++ [sess.id])
      (issueInto sessions sess) accountId =
      (unrevokedIn (sessions.items.map fst ++ [sess.id])
        (sessions.set sess.id sess) accountId).filter fun key =>
          decide (key ∉ (surplusSessions (sessions.set sess.id sess) sess.accountId).map
            OperatorSession.id) := by
    unfold unrevokedIn
    rw [filter_filter]
    refine filter_congr ?_
    intro key _
    rw [issue_into_get keyed]
    split_ifs with isSurplus
    · cases (sessions.set sess.id sess).get key <;>
        simp [OperatorSession.withRevocation, isSurplus]
    · simp [isSurplus]
  rw [filtered]
  split_ifs with isAccount
  · rw [isAccount] at ids
    rw [isAccount, ids, filter_not_mem_take, pre, if_pos isAccount]
    · rfl
    · refine Nodup.filter _ ?_
      rw [← keys]
      exact (sessions.set sess.id sess).distinct
  · rw [pre, if_neg isAccount, append_nil]
    refine filter_eq_self.mpr ?_
    intro key mem
    simp only [decide_eq_true_eq]
    intro isSurplus
    obtain ⟨expired, isExpired, rfl⟩ := mem_map.mp isSurplus
    obtain ⟨found, ownAccount⟩ := surplus_filed issuedKeyed isExpired
    have stillListed : expired.id ∈ unrevokedIn (sessions.items.map fst ++ [sess.id])
        (sessions.set sess.id sess) accountId := by
      rw [pre, if_neg isAccount, append_nil]
      exact mem
    have fits := (mem_filter.mp stillListed).2
    rw [found] at fits
    simp only [any_some, Bool.and_eq_true, decide_eq_true_eq] at fits
    exact isAccount (ownAccount.symm.trans fits.1)

end Issue

structure AgedSession (idleTimeout absoluteTimeout : Int) (st : Lifetime) (sid : UUID)
    (sess : OperatorSession) : Prop where
  absolute : sess.absoluteExpiresAt = st.issuedAt sid + absoluteTimeout
  bounded : sess.idleExpiresAt ≤ sess.absoluteExpiresAt
  idle : sess.idleExpiresAt ≤ st.seenAt sid + idleTimeout
  seen : st.seenAt sid ≤ st.clock

structure Aged (idleTimeout absoluteTimeout : Int) (st : Lifetime) : Prop where
  keyed : WellKeyed st.store
  order : st.store.sessions.items.map fst = st.issued
  sessions : ∀ sid sess, st.store.sessions.get sid = some sess →
    AgedSession idleTimeout absoluteTimeout st sid sess
  five : ∀ accountId, (st.unrevoked accountId).length ≤ 5

section Invariant

variable {idleTimeout absTimeout : Int} {st after : Lifetime}

theorem unrevoked_eq (order : st.store.sessions.items.map fst = st.issued)
    (accountId : UUID) : st.unrevoked accountId =
      unrevokedIn (st.store.sessions.items.map fst) st.store.sessions accountId := by
  rw [order]
  rfl

/-- A record is replaced without moving, and a revoked one stays revoked. -/
structure Replaces (idleTimeout absoluteTimeout : Int) (st after : Lifetime) (sid : UUID)
    (cur upd : OperatorSession) : Prop where
  account : upd.accountId = cur.accountId
  revoked : cur.revokedAt ≠ none → upd.revokedAt ≠ none
  later : cur.idleExpiresAt ≤ upd.idleExpiresAt
  aged : AgedSession idleTimeout absoluteTimeout st sid cur →
    AgedSession idleTimeout absoluteTimeout after sid upd

variable {cur : OperatorSession}

theorem AgedSession.keep {upd : OperatorSession}
    (aged : AgedSession idleTimeout absTimeout st sid cur)
    (absolute : upd.absoluteExpiresAt = cur.absoluteExpiresAt)
    (idle : upd.idleExpiresAt = cur.idleExpiresAt) (issuedAt : after.issuedAt sid = st.issuedAt sid)
    (seenAt : after.seenAt sid = st.seenAt sid) (clock : st.clock ≤ after.clock) :
    AgedSession idleTimeout absTimeout after sid upd where
  absolute := by rw [absolute, aged.absolute, issuedAt]
  bounded := by rw [absolute, idle]; exact aged.bounded
  idle := by rw [idle, seenAt]; exact aged.idle
  seen := by rw [seenAt]; exact aged.seen.trans clock

theorem rewrites_replaces {upd : OperatorSession}
    (rewrites : Rewrites idleTimeout st after sid cur upd)
    (issuedAt : after.issuedAt = st.issuedAt) (clock : st.clock ≤ after.clock) :
    Replaces idleTimeout absTimeout st after sid cur upd := by
  cases rewrites with
  | touch moment after_clock before_clock seen =>
    have seenNow : after.seenAt sid = moment := by
      rw [seen]
      exact if_pos rfl
    refine ⟨rfl, id, le_max_left _ _, fun aged => ?_⟩
    refine ⟨aged.absolute.trans (by rw [issuedAt]), ?_, ?_, ?_⟩
    · exact max_le aged.bounded (min_le_right _ _)
    · rw [seenNow]
      have renewed : st.seenAt sid + idleTimeout ≤ moment + idleTimeout :=
        Int.add_le_add_right (aged.seen.trans after_clock) idleTimeout
      exact max_le (aged.idle.trans renewed) (min_le_left _ _)
    · rw [seenNow]
      exact before_clock
  | revoke moment seen =>
    exact ⟨rfl, fun _ => some_ne_none _, le_refl _,
      fun aged => aged.keep rfl rfl (by rw [issuedAt]) (by rw [seen]) clock⟩
  | mark moment seen =>
    exact ⟨rfl, id, le_refl _,
      fun aged => aged.keep rfl rfl (by rw [issuedAt]) (by rw [seen]) clock⟩

theorem table_step_kept (aged : Aged idleTimeout absTimeout st)
    (step : TableStep idleTimeout absTimeout st after) (clock : st.clock ≤ after.clock)
    (found : st.store.sessions.get sid = some cur) :
    ∃ upd, after.store.sessions.get sid = some upd ∧
      Replaces idleTimeout absTimeout st after sid cur upd := by
  cases step with
  | same sessions issued issuedAt seenAt =>
    exact ⟨cur, by rw [sessions]; exact found, rfl, id, le_refl _,
      fun aged => aged.keep rfl rfl (by rw [issuedAt]) (by rw [seenAt]) clock⟩
  | write written pre upd found' sessions rewrites issued issuedAt =>
    by_cases isWritten : sid = written
    · subst isWritten
      obtain rfl : cur = pre := Option.some.inj (found.symm.trans found')
      exact ⟨upd, by rw [sessions]; exact get_set_self _ _ _,
        rewrites_replaces rewrites issuedAt clock⟩
    · refine ⟨cur, ?_, rfl, id, le_refl _, fun aged => ?_⟩
      · rw [sessions, get_set_ne isWritten]
        exact found
      · refine aged.keep rfl rfl (by rw [issuedAt]) ?_ clock
        cases rewrites with
        | touch moment after_clock before_clock seen =>
          rw [seen]
          exact if_neg isWritten
        | revoke moment seen => rw [seen]
        | mark moment seen => rw [seen]
  | issue sess absent unrevoked idle absolute now sessions issued issuedAt seenAt =>
    have differ : sid ≠ sess.id := by
      rintro rfl
      rw [absent] at found
      cases found
    have pre : (st.store.sessions.set sess.id sess).get sid = some cur := by
      rw [get_set_ne differ]
      exact found
    have keepsAge : AgedSession idleTimeout absTimeout st sid cur →
        ∀ upd : OperatorSession, upd.absoluteExpiresAt = cur.absoluteExpiresAt →
          upd.idleExpiresAt = cur.idleExpiresAt →
          AgedSession idleTimeout absTimeout after sid upd := by
      intro aged upd sameAbsolute sameIdle
      refine aged.keep sameAbsolute sameIdle ?_ ?_ clock
      · rw [issuedAt]
        exact if_neg differ
      · rw [seenAt]
        exact if_neg differ
    rw [sessions, issue_into_get aged.keyed.sessions, pre]
    split_ifs
    · exact ⟨_, rfl, rfl, fun _ => some_ne_none _, le_refl _, fun aged => keepsAge aged _ rfl rfl⟩
    · exact ⟨_, rfl, rfl, id, le_refl _, fun aged => keepsAge aged _ rfl rfl⟩

theorem table_step_unrevoked (aged : Aged idleTimeout absTimeout st)
    (step : TableStep idleTimeout absTimeout st after) (clock : st.clock ≤ after.clock)
    (accountId : UUID) :
    after.store.sessions.items.map fst = after.issued ∧
      ((after.unrevoked accountId).Sublist (st.unrevoked accountId) ∨
        ∃ sid, after.issued = st.issued ++ [sid] ∧
          after.unrevoked accountId = lastFive (st.unrevoked accountId ++ [sid])) := by
  cases step with
  | same sessions issued issuedAt seenAt =>
    refine ⟨by rw [sessions, issued]; exact aged.order, .inl ?_⟩
    unfold Lifetime.unrevoked
    rw [sessions, issued]
  | write written pre upd found sessions rewrites issued issuedAt =>
    refine ⟨?_, .inl ?_⟩
    · rw [sessions, issued, ← aged.order]
      exact keys_set_of_present (by rw [found]; exact some_ne_none _)
    · unfold Lifetime.unrevoked
      rw [issued]
      refine monotone_filter_right _ ?_
      intro key listed
      rw [sessions, get_set] at listed
      split_ifs at listed with isWritten
      · have replaces : Replaces idleTimeout absTimeout st after written pre upd :=
          rewrites_replaces rewrites issuedAt clock
        simp only [any_some, Bool.and_eq_true, decide_eq_true_eq, Option.isNone_iff_eq_none]
          at listed
        rw [isWritten, found]
        simp only [any_some, Bool.and_eq_true, decide_eq_true_eq, Option.isNone_iff_eq_none]
        refine ⟨replaces.account.symm.trans listed.1, ?_⟩
        by_contra revoked
        exact replaces.revoked revoked listed.2
      · exact listed
  | issue sess absent unrevoked idle absolute now sessions issued issuedAt seenAt =>
    have order : after.store.sessions.items.map fst = after.issued := by
      rw [sessions, issued, issue_into_keys aged.keyed.sessions absent, aged.order]
    refine ⟨order, ?_⟩
    rw [unrevoked_eq order, unrevoked_eq aged.order, sessions,
      issue_into_keys aged.keyed.sessions absent,
      unrevoked_in_issue aged.keyed.sessions absent unrevoked]
    split_ifs
    · exact .inr ⟨sess.id, issued, rfl⟩
    · exact .inl (Sublist.refl _)

variable {req : StoreRequest}

theorem advance_keyed (keyed : WellKeyed st.store)
    (draws : st.store.Draws req) : WellKeyed (st.advance req).store := by
  cases ran : st.store.perform req with
  | error err =>
    rw [advance_store_error ran]
    exact keyed
  | ok after =>
    rw [advance_store ran]
    exact (other_request_evolves keyed ⟨req, draws, ran⟩).keyed

theorem last_five_length (elements : List UUID) : (lastFive elements).length ≤ 5 := by
  unfold lastFive
  rw [length_drop]
  omega

theorem mem_last_five (elements : List UUID) (newest : UUID) :
    newest ∈ lastFive (elements ++ [newest]) := by
  unfold lastFive
  have early : (elements ++ [newest]).length - 5 ≤ elements.length := by
    rw [length_append, length_singleton]
    omega
  rw [drop_append_of_le_length early]
  exact mem_append_right _ mem_cons_self

variable (bounded : idleTimeout ≤ absTimeout)

include bounded

variable (aged : Aged idleTimeout absTimeout st)

include aged

theorem table_step_sessions
    (step : TableStep idleTimeout absTimeout st after) (clock : st.clock ≤ after.clock)
    (sid : UUID) (sess : OperatorSession) (found : after.store.sessions.get sid = some sess) :
    AgedSession idleTimeout absTimeout after sid sess := by
  cases pre : st.store.sessions.get sid with
  | some cur =>
    obtain ⟨upd, isUpdated, replaces⟩ := table_step_kept aged step clock pre
    obtain rfl : upd = sess := Option.some.inj (isUpdated.symm.trans found)
    exact replaces.aged (aged.sessions sid cur pre)
  | none =>
    -- Only a session that is being issued was not there before.
    cases step with
    | same sessions issued issuedAt seenAt =>
      rw [sessions, pre] at found
      cases found
    | write written cur upd found' sessions rewrites issued issuedAt =>
      have differ : sid ≠ written := by
        rintro rfl
        rw [pre] at found'
        cases found'
      rw [sessions, get_set_ne differ, pre] at found
      cases found
    | issue new absent unrevoked idle absolute now sessions issued issuedAt seenAt =>
      rw [sessions] at found
      obtain ⟨filed, isFiled, _, sameIdle, sameAbsolute, _⟩ :=
        issue_into_kept aged.keyed.sessions found
      rw [get_set] at isFiled
      split_ifs at isFiled with isNew
      · subst isNew
        cases isFiled
        have issuedNow : after.issuedAt new.id = new.issuedAt := by
          rw [issuedAt]
          exact if_pos rfl
        have seenNow : after.seenAt new.id = new.issuedAt := by
          rw [seenAt]
          exact if_pos rfl
        refine ⟨?_, ?_, ?_, ?_⟩
        · rw [sameAbsolute, absolute, issuedNow]
        · rw [sameIdle, sameAbsolute, idle, absolute]
          exact Int.add_le_add_left bounded _
        · rw [sameIdle, idle, seenNow]
        · rw [seenNow, now]
      · rw [pre] at isFiled
        cases isFiled

theorem advance_aged (allowed : st.Allowed idleTimeout absTimeout req) :
    Aged idleTimeout absTimeout (st.advance req) where
  keyed := advance_keyed aged.keyed allowed.draws
  order := (table_step_unrevoked aged (advance_step aged.keyed allowed) (advance_clock allowed)
    0).1
  sessions := table_step_sessions bounded aged (advance_step aged.keyed allowed)
    (advance_clock allowed)
  five accountId := by
    rcases (table_step_unrevoked aged (advance_step aged.keyed allowed) (advance_clock allowed)
      accountId).2 with fewer | ⟨sid, _, issued⟩
    · exact fewer.length_le.trans (aged.five accountId)
    · rw [issued]
      exact last_five_length _

theorem continues_aged (continues : st.Continues idleTimeout absTimeout after) :
    Aged idleTimeout absTimeout after := by
  induction continues with
  | refl => exact aged
  | step continued req allowed ih => exact advance_aged bounded ih allowed

omit aged

omit bounded

theorem start_aged (accounts : List OperatorAccount) (clock : Datetime) :
    Aged idleTimeout absTimeout (Lifetime.start accounts clock) where
  keyed := init_well_keyed accounts
  order := rfl
  sessions := by
    intro sid sess found
    cases found
  five accountId := Nat.zero_le _

theorem continues_kept (bounded : idleTimeout ≤ absTimeout) (aged : Aged idleTimeout absTimeout st)
    (continues : st.Continues idleTimeout absTimeout after)
    (found : st.store.sessions.get sid = some cur) :
    ∃ upd, after.store.sessions.get sid = some upd ∧ (cur.revokedAt ≠ none → upd.revokedAt ≠ none) ∧
      cur.idleExpiresAt ≤ upd.idleExpiresAt := by
  induction continues with
  | refl => exact ⟨cur, found, id, le_refl _⟩
  | step continued req allowed ih =>
    obtain ⟨between, isBetween, revoked, later⟩ := ih
    have agedBetween := continues_aged bounded aged continued
    obtain ⟨upd, isUpdated, replaces⟩ := table_step_kept agedBetween
      (advance_step agedBetween.keyed allowed) (advance_clock allowed) isBetween
    exact ⟨upd, isUpdated, fun pre => replaces.revoked (revoked pre),
      later.trans replaces.later⟩

theorem quiet_issued (unissued : st.store.issuedBy req = none) :
    (st.advance req).issued = st.issued := by
  simp [Lifetime.advance, unissued]

theorem issued_unrevoked (aged : Aged idleTimeout absTimeout st)
    (allowed : st.Allowed idleTimeout absTimeout req)
    {moment : Datetime} (issues : st.store.issuedBy req = some (sid, moment)) :
    ∃ sess, (st.advance req).store.sessions.get sid = some sess ∧ sess.revokedAt = none ∧
      (st.advance req).unrevoked sess.accountId =
        lastFive (st.unrevoked sess.accountId ++ [sid]) ∧
      ∀ other, other ≠ sess.accountId →
        (st.advance req).unrevoked other = st.unrevoked other := by
  have step := advance_step aged.keyed allowed
  have order := (table_step_unrevoked aged step (advance_clock allowed) 0).1
  have grown : (st.advance req).issued = st.issued ++ [sid] := by
    simp [Lifetime.advance, issues]
  cases step with
  | same sessions issued issuedAt seenAt =>
    rw [grown] at issued
    exact absurd issued (by simp)
  | write written cur upd found sessions rewrites issued issuedAt =>
    rw [grown] at issued
    exact absurd issued (by simp)
  | issue sess absent unrevoked idle absolute now sessions issued issuedAt seenAt =>
    obtain rfl : sid = sess.id := by
      rw [grown] at issued
      simpa using issued
    have becomes : ∀ accountId, (st.advance req).unrevoked accountId =
        if sess.accountId = accountId then
          lastFive (st.unrevoked accountId ++ [sess.id])
        else st.unrevoked accountId := by
      intro accountId
      rw [unrevoked_eq order, unrevoked_eq aged.order, sessions,
        issue_into_keys aged.keyed.sessions absent,
        unrevoked_in_issue aged.keyed.sessions absent unrevoked]
    have listed : sess.id ∈ (st.advance req).unrevoked sess.accountId := by
      rw [becomes, if_pos rfl]
      exact mem_last_five _ _
    obtain ⟨stored, found, fits⟩ := (Option.any_eq_true _ _).mp (mem_filter.mp listed).2
    simp only [Bool.and_eq_true, decide_eq_true_eq, Option.isNone_iff_eq_none] at fits
    refine ⟨stored, found, fits.2, ?_, ?_⟩
    · rw [fits.1, becomes, if_pos rfl]
    · intro other differ
      rw [becomes, if_neg (fits.1 ▸ differ.symm)]

end Invariant

/-- Under the timeouts of one session control, along every run with fresh session identifiers and a
clock that does not go back. -/
theorem sessions_expire_and_stay_revoked (control : OperatorSessionControl)
    (accounts : List OperatorAccount) (clock : Datetime) {st : Lifetime}
    (reached : (Lifetime.start accounts clock).Continues control.idleTimeout
      control.absoluteTimeout st) :
    (∀ moment sid, st.store.AuthenticatedBy moment sid →
      moment < st.issuedAt sid + control.absoluteTimeout ∧
        moment < st.seenAt sid + control.idleTimeout) ∧
    (∀ later, st.Continues control.idleTimeout control.absoluteTimeout later → ∀ sid,
      (st.Revoked sid → ∀ moment, ¬ later.store.AuthenticatedBy moment sid) ∧
      ∀ sess, st.store.sessions.get sid = some sess →
        ∃ upd, later.store.sessions.get sid = some upd ∧ sess.idleExpiresAt ≤ upd.idleExpiresAt ∧
          upd.idleExpiresAt ≤ upd.absoluteExpiresAt) ∧
    (∀ accountId, (st.unrevoked accountId).length ≤ 5) ∧
    (∀ req, st.Allowed control.idleTimeout control.absoluteTimeout req →
      (∀ accountId, ((st.advance req).unrevoked accountId).Sublist
        (st.unrevoked accountId)) ∧ st.store.issuedBy req = none ∨
      ∃ sid moment sess, st.store.issuedBy req = some (sid, moment) ∧
        (st.advance req).store.sessions.get sid = some sess ∧
        sess.revokedAt = none ∧
        (st.advance req).unrevoked sess.accountId =
          lastFive (st.unrevoked sess.accountId ++ [sid]) ∧
        ∀ other, other ≠ sess.accountId →
          (st.advance req).unrevoked other = st.unrevoked other) := by
  have ordered : control.idleTimeout ≤ control.absoluteTimeout := control.timingValid.2.1.le
  have aged : Aged control.idleTimeout control.absoluteTimeout st :=
    continues_aged ordered (start_aged accounts clock) reached
  refine ⟨?_, ?_, aged.five, ?_⟩
  · intro moment sid authenticated
    obtain ⟨sess, found, _, idle, absolute⟩ := authenticated_alive aged.keyed authenticated
    have agedSession := aged.sessions sid sess found
    rw [agedSession.absolute] at absolute
    exact ⟨absolute, idle.trans_le agedSession.idle⟩
  · intro later continues sid
    have agedLater := continues_aged ordered aged continues
    refine ⟨?_, ?_⟩
    · rintro ⟨sess, found, revoked⟩ moment authenticated
      obtain ⟨upd, isUpdated, staysRevoked, _⟩ := continues_kept ordered aged continues found
      obtain ⟨alive, isAlive, unrevoked, _⟩ := authenticated_alive agedLater.keyed authenticated
      obtain rfl : upd = alive := Option.some.inj (isUpdated.symm.trans isAlive)
      exact staysRevoked revoked unrevoked
    · intro sess found
      obtain ⟨upd, isUpdated, _, notEarlier⟩ := continues_kept ordered aged continues found
      exact ⟨upd, isUpdated, notEarlier, (agedLater.sessions sid upd isUpdated).bounded⟩
  · intro req allowed
    cases issues : st.store.issuedBy req with
    | none =>
      refine .inl ⟨?_, rfl⟩
      intro accountId
      have step := advance_step aged.keyed allowed
      rcases (table_step_unrevoked aged step (advance_clock allowed) accountId).2 with
        fewer | ⟨sid, grown, _⟩
      · exact fewer
      · rw [(quiet_issued issues)] at grown
        exact absurd grown (by simp)
    | some issued =>
      obtain ⟨sess, found⟩ := issued_unrevoked aged allowed issues
      exact .inr ⟨issued.1, issued.2, sess, rfl, found⟩

open OperatorSessionControl in
def sampleIssue : StoreRequest :=
  .issueSession 11 7 (sampleDigest sampleToken) (sampleDigest sampleCsrfToken)
    (timedeltaSeconds 1800) (timedeltaSeconds 43200) false (some 1) (some 0)

open OperatorSessionControl in
theorem sessions_expire_after_an_issue :
    ((Lifetime.start [sampleAccount] 0).advance sampleIssue).store.AuthenticatedBy
        (timedeltaSeconds 1799) 11 ∧
      ¬ ((Lifetime.start [sampleAccount] 0).advance sampleIssue).store.AuthenticatedBy
        (timedeltaSeconds 1800) 11 := by
  have reached : (Lifetime.start [sampleAccount] 0).Continues sampleControl.idleTimeout
      sampleControl.absoluteTimeout ((Lifetime.start [sampleAccount] 0).advance sampleIssue) := by
    refine .step .refl sampleIssue ⟨rfl, ⟨rfl, rfl⟩, ?_⟩
    intro moment reading
    cases reading
    exact le_refl _
  refine ⟨?_, ?_⟩
  · exact .read (sampleDigest sampleToken) ⟨sampleSession, sampleAccount⟩ (by decide +kernel)
  · intro authenticated
    have expires := ((sessions_expire_and_stay_revoked sampleControl [sampleAccount] 0 reached).1
      _ _ authenticated).2
    exact absurd expires (by decide +kernel)

end InMemoryOperatorSessionStore

end RtspProxy.Access
