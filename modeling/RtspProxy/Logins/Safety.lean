import RtspProxy.Logins.SessionBlocks

/-!
# Every run of the stores is a history

The requests are put together from transactions that are ready to commit. A
login starts its second transaction with the check of the first one in its run,
which is what the version fence of `issue_session` is about. Whatever the
interleaving, the trail of the server is a `History` of commits that respect the
discipline.
-/

namespace RtspProxy.Logins

open Nodes Access Lib Lib.ReadCommitted
open Lib.Program Lib.Program.Prog

variable {init : Database} {tid : Nat} {srv : LoginServer}

/-- The contract of the threads on a database that was at rest as `initial`. -/
abbrev loginProtocol (init : Database) :
    Protocol (machine schema Event Datetime LoginError.database) :=
  protocol Datetime (discipline init) schema LoginError.database init

def Resting (tid : Nat) (srv : LoginServer) : Prop := srv.pending tid = []

/-- The thread has not started, or has committed nothing yet. -/
def Idle (tid : Nat) (srv : LoginServer) : Prop :=
  srv.pending tid = [] ∧ run tid srv.trail = []

theorem idle_holds (idle : Idle tid srv) :
    Holds tid [] (srv.seen tid) (fun cur => run tid cur.trail = []) srv :=
  ⟨idle.1, rfl, idle.2⟩

section Parts

variable {Result Final : Type} {ret : Result → LoginServer → Prop}

variable {prog : LoginProg Result}

variable (safe : Block init tid ret prog srv)

include safe

theorem safe_raise_instead {unavailable : LoginError → LoginError} :
    Block init tid ret (prog.handle fun err => raise (unavailable err)) srv :=
  safe_handle (fun _ _ => True) safe fun _ _ _ => safe_raise trivial

theorem safe_or_unavailable {unavailable : LoginError} :
    Block init tid ret (orUnavailable unavailable prog) srv :=
  safe_raise_instead safe

theorem safe_or_login_invalid {code : String} :
    Block init tid ret (orLoginInvalid code prog) srv := by
  refine safe_handle (fun _ _ => True) safe ?_
  intro err after _
  split
  · exact safe_raise trivial
  · exact safe_raise trivial

omit safe

theorem safe_transaction_inside {post : Result → LoginServer → Prop}
    {body : LoginProg (Result × Event)} (ready : ReadyBlock init tid post body srv) :
    Block init tid (fun res after => Resting tid after ∧ post res after)
      (transaction body) srv := by
  refine safe_weaken (safe_transaction ready) ?_
  intro out after holds
  cases out with
  | ok res => exact holds
  | error err => trivial

theorem safe_bind_inside {next : Result → LoginProg Final} {final : Final → LoginServer → Prop}
    (safe : Block init tid ret prog srv)
    (continues : ∀ res after, ret res after → Block init tid final (next res) after) :
    Block init tid final (prog >>= next) srv :=
  safe_then safe (fun _ _ _ => trivial) continues

theorem safe_forget (safe : Block init tid ret prog srv) :
    SafeAmong (loginProtocol init) tid (fun _ _ => True) (forget prog) srv := by
  have forgotten : Block init tid (fun _ _ => True) (forget prog) srv :=
    safe_bind_inside safe fun _ _ _ => safe_pure trivial
  exact safe_any forgotten

end Parts

/-- The outcome of a check: nothing is open, and the run is the check. -/
def AfterCheck (tid : Nat) (authentication : UUID × Int × Bool) (srv : LoginServer) : Prop :=
  Resting tid srv ∧
    ∃ step, run tid srv.trail = [.checked authentication.1 authentication.2.1 step]

theorem login_result_safe {code : String} {out : LoginOutcome} (resting : Resting tid srv)
    (checked : LoginChecked tid out srv) :
    SafeAmong (loginProtocol init) tid
      (Returns (AfterCheck tid) fun _ after => Resting tid after) (loginResult code out)
      srv := by
  cases out with
  | accepted acctId version mfaVerified => exact safe_pure ⟨resting, checked⟩
  | rejected rateLimited =>
    cases rateLimited with
    | true => exact safe_raise resting
    | false => exact safe_raise resting

theorem checked_login_safe {code : String} {body : LoginProg (LoginOutcome × Event)}
    (ready : ReadyBlock init tid (LoginChecked tid) body srv) :
    SafeAmong (loginProtocol init) tid
      (Returns (AfterCheck tid) fun _ after => Resting tid after)
      (transaction body >>= loginResult code) srv := by
  refine safe_then (safe_transaction ready) (fun _ _ resting => resting) ?_
  rintro out after ⟨resting, checked⟩
  exact login_result_safe resting checked

theorem authenticate_local_safe (ciphers : Ciphers) (login : LocalLogin) (idle : Idle tid srv) :
    Block init tid (AfterCheck tid) (authenticateLocal ciphers login) srv := by
  unfold authenticateLocal
  split
  · exact safe_raise trivial
  · split
    · exact safe_raise trivial
    · refine bind_outside kept_run (idle_holds idle) (.inr rfl) ?_
      intro admitted after still
      split
      · exact safe_raise trivial
      · refine safe_or_unavailable (safe_weaken (checked_login_safe
          (authenticate_local_ready ciphers login _ still.pending still.fact)) ?_)
        intro out last holds
        cases out with
        | ok res => exact holds
        | error err => trivial

theorem record_rejection_safe (resting : Resting tid srv) :
    Block init tid (fun _ after => Resting tid after) recordRejection srv :=
  safe_or_unavailable (safe_weaken (safe_transaction_inside (record_rejection_ready resting))
    fun out after holds => by
      cases out with
      | ok res => exact holds.1
      | error err => trivial)

theorem break_glass_failure_safe (err : LoginError) (resting : Resting tid srv) :
    Block init tid (AfterCheck tid) (breakGlassFailure err) srv := by
  unfold breakGlassFailure
  split
  · exact safe_raise trivial
  · exact safe_raise trivial
  · exact safe_raise trivial
  · exact safe_bind_inside (record_rejection_safe resting) fun _ _ _ => safe_raise trivial
  · exact safe_raise trivial

theorem authenticate_break_glass_safe (ciphers : Ciphers) (login : BreakGlassLogin)
    (idle : Idle tid srv) :
    Block init tid (AfterCheck tid) (authenticateBreakGlass ciphers login) srv := by
  unfold authenticateBreakGlass
  split
  · exact safe_raise trivial
  · refine bind_outside kept_run (idle_holds idle) (.inr rfl) ?_
    intro admitted after still
    split
    · exact safe_bind_inside (record_rejection_safe still.pending) fun _ _ _ => safe_raise trivial
    · refine safe_handle (fun _ last => Resting tid last) (checked_login_safe
        (authenticate_break_glass_ready ciphers login _ still.pending still.fact)) ?_
      intro err last resting
      exact break_glass_failure_safe err resting

theorem issue_session_safe {events : List Event} (draw : SessionDraw) (acctId : UUID)
    (mfaVerified : Bool) (want : Option Int) (resting : Resting tid srv)
    (isRun : run tid srv.trail = events) (fits : Fits events acctId want) :
    Block init tid (fun _ _ => True) (issueSession draw acctId mfaVerified want)
      srv :=
  safe_or_unavailable (safe_weaken (safe_transaction_inside
    (issue_session_ready draw acctId mfaVerified want resting isRun fits))
    fun out after _ => by cases out <;> trivial)

/-- The fence: the session is issued for the account of the check, at the version of the check. -/
theorem fits_check {acctId : UUID} {version : Int} {step : Option Int} :
    Fits [.checked acctId version step] acctId (some version) where
  checks acct other spent mem := by
    cases List.mem_singleton.mp mem
    exact ⟨rfl, rfl⟩
  resolves acct roles mem := by
    cases List.mem_singleton.mp mem

theorem fits_resolution {acctId : UUID} {roles : Finset OperatorRole} :
    Fits [.resolved acctId roles] acctId none where
  checks acct other spent mem := by
    cases List.mem_singleton.mp mem
  resolves acct others mem := by
    cases List.mem_singleton.mp mem
    rfl

theorem login_local_safe (ciphers : Ciphers) (login : LocalLogin) (draw : SessionDraw)
    (idle : Idle tid srv) :
    Block init tid (fun _ _ => True) (loginLocal ciphers login draw) srv := by
  refine safe_bind_inside (authenticate_local_safe ciphers login idle) ?_
  rintro ⟨acctId, version, mfaVerified⟩ after ⟨resting, step, isRun⟩
  exact safe_or_login_invalid
    (issue_session_safe draw acctId mfaVerified (some version) resting isRun fits_check)

theorem login_break_glass_safe (ciphers : Ciphers) (login : BreakGlassLogin) (draw : SessionDraw)
    (idle : Idle tid srv) :
    Block init tid (fun _ _ => True) (loginBreakGlass ciphers login draw) srv := by
  refine safe_bind_inside (authenticate_break_glass_safe ciphers login idle) ?_
  rintro ⟨acctId, version, mfaVerified⟩ after ⟨resting, step, isRun⟩
  exact safe_or_login_invalid
    (issue_session_safe draw acctId true (some version) resting isRun fits_check)

theorem complete_safe (ciphers : Ciphers) (identity : Except LoginError OidcIdentity)
    (acctId : UUID) (draw : SessionDraw) (idle : Idle tid srv) :
    Block init tid (fun _ _ => True) (complete ciphers identity acctId draw) srv := by
  unfold complete
  refine safe_raise_instead ?_
  split
  · exact safe_raise trivial
  · rename_i identity
    split
    · exact safe_raise trivial
    · refine bind_outside kept_run (idle_holds idle) (.inr rfl) ?_
      intro allowed after still
      split
      · exact safe_raise trivial
      · refine safe_bind_inside (safe_or_unavailable (safe_transaction_inside
          (resolve_ready ciphers identity acctId still.pending still.fact))) ?_
        rintro resolved last ⟨resting, roles, isRun⟩
        exact issue_session_safe draw resolved true none resting isRun fits_resolution

theorem update_session_safe {sid : UUID} {selects : AccountRow → SessionRow → Datetime → Bool}
    {assign : SessionRow → Datetime → SessionRow} {event : Event} (harmless : Harmless assign)
    (isEvent : event = .quiet ∨ event = .touched sid)
    (cur : ∀ acct row now, selects acct row now = true →
      acct.authzVersion = row.authzVersion) (resting : Resting tid srv) :
    Block init tid (fun _ after => Resting tid after)
      (orUnavailable sessionStoreUnavailable
        (transaction (updateSession sid selects assign event))) srv :=
  safe_or_unavailable (safe_weaken (safe_transaction_inside
    (update_session_ready harmless isEvent cur resting)) fun out after holds => by
      cases out with
      | ok res => exact holds.1
      | error err => trivial)

theorem mark_selects {mark : MfaMark} {acct : AccountRow} {row : SessionRow} {now : Datetime}
    (selected : mark.selects acct row now = true) :
    acct.authzVersion = row.authzVersion := by
  unfold MfaMark.selects at selected
  simp only [Bool.and_eq_true, decide_eq_true_eq] at selected
  exact selected.2

theorem touch_selects {touch : Touch} {acct : AccountRow} {row : SessionRow} {now : Datetime}
    (selected : touch.selects acct row now = true) :
    acct.authzVersion = row.authzVersion := by
  unfold Touch.selects at selected
  simp only [Bool.and_eq_true, decide_eq_true_eq] at selected
  exact selected.1.2

theorem refresh_mfa_safe (ciphers : Ciphers) (acctId sid : UUID)
    (tokenSha256 totp : String) (now : Option Datetime) (resting : Resting tid srv) :
    Block init tid (fun _ _ => True)
      (refreshMfa ciphers acctId sid tokenSha256 totp now) srv := by
  unfold refreshMfa
  split
  · exact safe_raise trivial
  · rename_i now
    have verified : Block init tid (fun _ after => Resting tid after)
        (verifyTotp ciphers acctId totp (some now)) srv := by
      unfold verifyTotp
      dsimp only
      split
      · exact safe_raise trivial
      · refine safe_or_unavailable (safe_weaken (safe_transaction_inside
          (verify_totp_ready ciphers acctId totp now resting)) ?_)
        intro out after holds
        cases out with
        | ok res => exact holds.1
        | error err => trivial
    refine safe_bind_inside verified ?_
    intro _ after restingAfter
    have marked : Block init tid (fun _ _ => True)
        (markMfaVerified ⟨acctId, sid, tokenSha256, now⟩) after :=
      safe_bind_inside (update_session_safe (fun _ _ => ⟨rfl, rfl, rfl⟩) (.inl rfl)
        (fun _ _ _ => mark_selects) restingAfter) fun _ _ _ => safe_pure trivial
    refine safe_bind_inside marked ?_
    intro isMarked last _
    split
    · exact safe_pure trivial
    · exact safe_raise trivial

theorem read_session_safe (tokenSha256 : String) (resting : Resting tid srv) :
    Block init tid (fun _ _ => True) (readSession tokenSha256) srv := by
  refine safe_or_unavailable ?_
  have read : Block init tid (fun _ _ => True)
      (takeSnapshot >>= fun snap => clockTimestamp >>= fun now =>
        pure (snap.evaluate tokenSha256 now)) srv := by
    refine bind_snapshot kept_true (holds_idle resting) ?_
    intro after _ still
    refine bind_outside kept_true still (.inl rfl) ?_
    intro now last _
    exact safe_pure trivial
  refine safe_and_then read ?_
  intro out after _
  have rolledBack : SafeAmong (loginProtocol init) tid
      (Returns (fun _ _ => True) fun _ _ => True)
      (ask (Call.rollback : Call Write Key Event) : LoginProg Unit) after := by
    have anything : Stable (loginProtocol init) tid (fun _ => True) :=
      fun _ _ _ _ _ _ => trivial
    refine safe_ask anything trivial (fun _ _ _ => trivial) ?_
    intro cur ans last _ _ _
    cases ans <;> trivial
  refine safe_then rolledBack (fun _ _ _ => trivial) ?_
  intro _ last _
  cases out <;> trivial

theorem touch_authorized_session_safe (touch : Touch) (resting : Resting tid srv) :
    Block init tid (fun _ _ => True) (touchAuthorizedSession touch) srv := by
  refine safe_bind_inside (update_session_safe (fun _ _ => ⟨rfl, rfl, rfl⟩) (.inr rfl)
    (fun _ _ _ => touch_selects) resting) ?_
  intro row after restingAfter
  split
  · exact safe_pure trivial
  · refine safe_bind_inside (read_session_safe touch.tokenSha256 restingAfter) ?_
    intro latest last _
    split
    · exact safe_pure trivial
    · exact safe_pure trivial

theorem change_password_safe (ciphers : Ciphers) (change : PasswordChange)
    (resting : Resting tid srv) :
    Block init tid (fun res after => Resting tid after ∧ Anything res after)
      (changePassword ciphers change) srv := by
  unfold changePassword
  split
  · exact safe_raise trivial
  · split
    · exact safe_raise trivial
    · split
      · exact safe_raise trivial
      · exact safe_or_unavailable
          (safe_transaction_inside (change_password_ready ciphers change _ resting))

theorem enroll_totp_safe (ciphers : Ciphers) (enrolment : TotpEnrolment)
    (resting : Resting tid srv) :
    Block init tid (fun res after => Resting tid after ∧ Anything res after)
      (enrollTotp ciphers enrolment) srv := by
  unfold enrollTotp
  split
  · exact safe_raise trivial
  · split
    · exact safe_raise trivial
    · exact safe_or_unavailable
        (safe_transaction_inside (enroll_totp_ready ciphers enrolment _ resting))

theorem rotate_safe (ciphers : Ciphers) (rotation : Rotation) (resting : Resting tid srv) :
    Block init tid (fun _ _ => True) (rotate ciphers rotation) srv := by
  unfold rotate
  split
  · exact safe_raise trivial
  · split
    · exact safe_raise trivial
    · refine safe_handle (fun _ after => Resting tid after) (safe_weaken
        (safe_transaction (rotate_ready ciphers rotation resting)) ?_) ?_
      · intro out after holds
        cases out with
        | ok res => trivial
        | error err => exact holds
      · intro err after restingAfter
        unfold recordRotationRejection
        split
        · have recorded : ReadyBlock init tid Anything
              (takeSnapshot >>= fun _ => pure ((), .quiet)) after := by
            refine bind_snapshot kept_true (holds_idle restingAfter) ?_
            intro last _ still
            exact block_reports (ready_quiet kept_true still fun _ => trivial)
          exact safe_bind_inside (safe_or_unavailable (safe_transaction_inside recorded))
            fun _ _ _ => safe_raise trivial
        · exact safe_raise trivial
        · exact safe_raise trivial

theorem program_safe (ciphers : Ciphers) (req : Request) (idle : Idle tid srv) :
    SafeAmong (loginProtocol init) tid (fun _ _ => True) (programOf ciphers req)
      srv := by
  cases req with
  | loginLocal login draw => exact safe_forget (login_local_safe ciphers login draw idle)
  | loginBreakGlass login draw => exact safe_forget (login_break_glass_safe ciphers login draw idle)
  | complete identity acctId draw =>
    exact safe_forget (complete_safe ciphers identity acctId draw idle)
  | refreshMfa acctId sid tokenSha256 totp now =>
    exact safe_any (refresh_mfa_safe ciphers acctId sid tokenSha256 totp now idle.1)
  | changePassword change => exact safe_forget (change_password_safe ciphers change idle.1)
  | enrollTotp enrolment => exact safe_forget (enroll_totp_safe ciphers enrolment idle.1)
  | rotate rotation => exact safe_forget (rotate_safe ciphers rotation idle.1)
  | updateAuthorization authorization =>
    exact safe_forget (safe_or_unavailable
      (safe_transaction_inside (update_authorization_ready authorization idle.1)))
  | readSession tokenSha256 => exact safe_forget (read_session_safe tokenSha256 idle.1)
  | touchAuthorizedSession touch => exact safe_forget (touch_authorized_session_safe touch idle.1)
  | revokeSession tokenSha256 =>
    exact safe_forget (safe_or_unavailable
      (safe_transaction_inside (revoke_session_ready tokenSha256 idle.1)))

theorem run_ended (trail : List (Entry Database Event)) :
    run tid (trail ++ [.ended tid]) = [] := by
  unfold run
  rw [List.foldl_append]
  exact if_pos rfl

theorem idle_stays (tid : Nat) : Stable (loginProtocol init) tid (Idle tid) := by
  rintro before after _ _ ⟨actor, differ, effect⟩ idle
  obtain ⟨near, samePending, _⟩ := effect tid differ.symm
  exact ⟨samePending.trans idle.1, kept_run before after near idle.2⟩

theorem reaches_history {ciphers : Ciphers}
    {st : SystemState (Call Write Key Event) (Answer Database Write Key Event Datetime Value)
      LoginError Unit LoginServer} (reached : Reaches ciphers init st) :
    History (discipline init) init st.world.trail st.world.database := by
  have safe : AllSafe (loginProtocol init) st ∧
      ∀ tid, st.threads tid = none → Idle tid st.world := by
    refine all_safe_idle ?_ ?_ ?_ (fun tid => idle_stays tid) ?_ reached
    · rintro w rfl
      exact .start
    · rintro w rfl tid
      exact ⟨rfl, rfl⟩
    · intro tid w
      exact ⟨if_pos rfl, run_ended w.trail⟩
    · rintro tid w prog ⟨req, rfl⟩ _ idle
      exact program_safe ciphers req idle
  exact safe.1.1

end RtspProxy.Logins
