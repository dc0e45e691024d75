import RtspProxy.Logins.Safety

/-!
# What logins and sessions are fenced by

The results about every state the clients and the server can reach. A login is
two transactions, so anything may commit between its check and its session, and
before the request that the session authenticates. The version of the account is
the fence. Two paths have none: a password change moves the session it came with to
the new version whatever version the session had, and an OIDC login issues its
session at whatever version the account has by then.
-/

namespace RtspProxy.Logins

open Nodes Access Lib Lib.Program List
open Lib.ReadCommitted

abbrev LoginState :=
  SystemState (Call Write Key Event) (Answer Database Write Key Event Datetime Value) LoginError Unit
    LoginServer

namespace Sample

abbrev LoginMove :=
  Move (Call Write Key Event) (Answer Database Write Key Event Datetime Value) LoginError Unit
    fun _ => Chance Datetime

def perform (tid : Nat) (srv : LoginServer) (req : Call Write Key Event)
    (chance : Chance Datetime) :
    Option (Except LoginError (Answer Database Write Key Event Datetime Value req) ×
      LoginServer) :=
  srv.perform schema .database tid req chance

/-- Password and secret are kept as they are; a code is the number of its step. -/
def ciphers : Ciphers where
  verifiesPassword stored password := decide (stored = hash password)
  hashPassword password _ := hash password
  decrypt encrypted _ := some encrypted
  encrypt _ secret _ := secret
  verifiesTotp _ code seconds :=
    decide (code.toList.foldl (fun read digit => 10 * read + (digit.toNat - 48)) 0 =
      (seconds / 30).toNat)
  canonicalSubject _ := "oidc:" ++ String.ofList (replicate 64 'a')
  isLower := Char.isLower
  isUpper := Char.isUpper
  isDigit := Char.isDigit
  isAlnum := Char.isAlphanum
where
  hash (password : String) : Bytes :=
    (password.toList.map (fun char : Char => UInt8.ofNat char.toNat) ++ replicate 80 0).take 80

def password : String := "correct horse battery"

def newPassword : String := "staple battery horse correct"

def account : AccountRow where
  identitySource := .localAccount
  subject := "local:alice"
  displayName := "Alice"
  roles := {.operator}
  scopes := {"server:*"}
  authzVersion := 1
  enabled := true

def database : Database where
  accounts := Dict.empty.set 1 account
  credentials := Dict.empty.set 1
    { username := "alice"
      passwordScrypt := ciphers.hashPassword password []
      totpSecret := some (replicate 20 7)
      lastTotpStep := none }
  sessions := .empty

def draw : SessionDraw where
  sessionId := 7
  tokenSha256 := String.ofList (replicate 64 'b')
  csrfSha256 := String.ofList (replicate 64 'c')
  idleTimeout := 900000000
  absoluteTimeout := 1800000000

def now : Datetime := 60000000

/-- Nothing fails, and what other tables are asked for is answered by `verdict`. -/
def answering (verdict : Bool) : (req : Call Write Key Event) → Chance Datetime :=
  fun _ => { fault := .none, moment := now, verdict := verdict }

def login (tid : Nat) : List LoginMove :=
  [.start tid (programOf ciphers
      (.loginLocal ⟨"alice", password, "000002", "192.0.2.1", some now⟩ draw)),
    .advance tid 1 (answering true), .advance tid 40 (answering false)]

def passwordChange (tid : Nat) : List LoginMove :=
  [.start tid (programOf ciphers (.changePassword
      ⟨1, password, newPassword, "000003", some 7, some (now + 30000000), []⟩)),
    .advance tid 40 (answering false)]

def demotion (tid : Nat) (id : UUID) : List LoginMove :=
  [.start tid (programOf ciphers (.updateAuthorization ⟨id, 1, {.viewer}, {"server:*"}, true⟩)),
    .advance tid 40 (answering false)]

def oidcLogin (tid : Nat) : LoginMove :=
  .start tid (programOf ciphers (.complete (.ok ⟨"alice", "Alice", {.operator}, true⟩) 5 draw))

def start : LoginState := { world := .start database, threads := fun _ => none }

/-- Alice logs in and changes the password from her session. -/
def keptRun : List LoginMove := login 0 ++ passwordChange 1

def revivedRun : List LoginMove := login 0 ++ demotion 1 1 ++ passwordChange 2

/-- The roles of an OIDC account change after it was resolved and before its session is issued. -/
def driftedRun : List LoginMove :=
  [oidcLogin 0, .advance 0 1 (answering true), .advance 0 6 (answering false)] ++ demotion 1 5 ++
    [.advance 0 40 (answering false)]

def events (trail : List (Entry Database Event)) : List (Option (Nat × Event)) :=
  trail.map fun entry =>
    match entry with
    | .committed commit => some (commit.thread, commit.event)
    | .ended _ => none

theorem events_cons {trail : List (Entry Database Event)} {tid : Nat} {event : Event}
    {rest : List (Option (Nat × Event))} (isEvents : events trail = some (tid, event) :: rest) :
    ∃ commit tail, trail = .committed commit :: tail ∧ commit.thread = tid ∧
      commit.event = event ∧ events tail = rest := by
  obtain ⟨entry, tail, rfl, isEntry, isRest⟩ := map_eq_cons_iff.mp isEvents
  cases entry with
  | committed commit =>
    obtain ⟨isThread, isEvent⟩ := Prod.mk.inj (Option.some.inj isEntry)
    exact ⟨commit, tail, rfl, isThread, isEvent, isRest⟩
  | ended tid => cases isEntry

theorem perform_executes {tid : Nat} {srv after : LoginServer}
    {req : Call Write Key Event} {chance : Chance Datetime}
    {ans : Except LoginError (Answer Database Write Key Event Datetime Value req)}
    (acted : perform tid srv req chance = some (ans, after)) :
    (machine schema Event Datetime LoginError.database).exec tid srv req ans after :=
  ⟨chance, acted⟩

theorem runs_allowed {run : List LoginMove}
    (isRun : run = keptRun ∨ run = revivedRun ∨ run = driftedRun) (tid : Nat)
    (prog : LoginProg Unit) (mem : Move.start tid prog ∈ run) :
    ∃ req : Request, prog = programOf ciphers req := by
  rcases isRun with rfl | rfl | rfl
  · simp only [keptRun, login, passwordChange, cons_append, nil_append, mem_cons,
      reduceCtorEq, not_mem_nil, Move.start.injEq, or_false, false_or] at mem
    rcases mem with ⟨_, rfl⟩ | ⟨_, rfl⟩
    · exact ⟨_, rfl⟩
    · exact ⟨_, rfl⟩
  · simp only [revivedRun, login, demotion, passwordChange, cons_append, nil_append,
      mem_cons, reduceCtorEq, not_mem_nil, Move.start.injEq, or_false, false_or] at mem
    rcases mem with ⟨_, rfl⟩ | ⟨_, rfl⟩ | ⟨_, rfl⟩
    · exact ⟨_, rfl⟩
    · exact ⟨_, rfl⟩
    · exact ⟨_, rfl⟩
  · simp only [driftedRun, oidcLogin, demotion, cons_append, nil_append, mem_cons,
      reduceCtorEq, not_mem_nil, Move.start.injEq, or_false, false_or] at mem
    rcases mem with ⟨_, rfl⟩ | ⟨_, rfl⟩
    · exact ⟨_, rfl⟩
    · exact ⟨_, rfl⟩

theorem runs_reach {run : List LoginMove}
    (isRun : run = keptRun ∨ run = revivedRun ∨ run = driftedRun) {after : LoginState}
    (played : play perform run start = some after) : Reaches ciphers database after :=
  play_reachable perform_executes (runs_allowed isRun) (.initial rfl) played

theorem kept_run_plays :
    ((play perform keptRun start).map fun st =>
      decide (events st.world.trail = [some (0, .checked 1 1 (some 2)), some (0, .issued 7),
        some (1, .passwordChanged 1 (some 7) (some 3))]) &&
        decide (spentSteps 1 st.world.trail = [2, 3])) = some true := by
  decide +kernel

theorem revived_run_plays :
    ((play perform revivedRun start).map fun st =>
      decide (events st.world.trail = [some (0, .checked 1 1 (some 2)), some (0, .issued 7),
        some (1, .authorized 1), some (2, .passwordChanged 1 (some 7) (some 3))]) &&
        (match st.world.trail with
        | [_, _, .committed demotion, _] =>
          (demotion.after.sessions.get 7).any (fun row =>
            decide (row.accountId = 1) && decide (row.authzVersion = 1)) &&
          (demotion.after.accounts.get 1).any fun row => decide (row.authzVersion = 2)
        | _ => false)) = some true := by
  decide +kernel

theorem drifted_run_plays :
    ((play perform driftedRun start).map fun st =>
      decide (events st.world.trail = [some (0, .resolved 5 {.operator}), some (1, .authorized 5),
        some (0, .issued 7)]) &&
        decide ((st.world.database.accounts.get 5).map (·.roles) = some {.viewer})) =
      some true := by
  decide +kernel

end Sample

variable {ciphers : Ciphers} {initial : Database} {st : LoginState}

/-- A session from a credential check is valid after a credential change that committed since the
check only if it is the one session a password change kept. -/
theorem credential_changes_fence_sessions (reached : Reaches ciphers initial st)
    {account sess : UUID} {version : Int} {step : Option Int}
    {first middle last : List (Entry Database Event)} {check issue change : Commit Database Event}
    (isTrail : st.world.trail = first ++ .committed check :: middle ++ .committed issue :: last)
    (isCheck : check.event = .checked account version step)
    (isIssue : issue.event = .issued sess) (sameThread : issue.thread = check.thread)
    (sameRun : .ended check.thread ∉ middle) (later : .committed change ∈ middle ++ last)
    (changes : change.event.changesCredential account = true) {now : Datetime}
    (valid : st.world.database.Authenticates sess now) :
    change.event.keeps = some sess := by
  obtain ⟨row, found, _, fenced⟩ :=
    session_fenced (reaches_history reached) isTrail isCheck isIssue sameThread sameRun
  obtain ⟨cur, accountRow, isCurrent, _, evaluated⟩ := valid
  rw [found] at isCurrent
  cases isCurrent
  obtain ⟨unrevoked, _⟩ := evaluate_joined_row_ok.mp evaluated
  rcases fenced change later changes with revoked | kept
  · rw [unrevoked] at revoked
    cases revoked
  · exact kept

theorem credential_changes_fence_sessions_kept :
    ∃ (st : LoginState) (first middle last : List (Entry Database Event))
      (check issue change : Commit Database Event) (now : Datetime),
      Reaches Sample.ciphers Sample.database st ∧
      st.world.trail = first ++ .committed check :: middle ++ .committed issue :: last ∧
      check.event = .checked 1 1 (some 2) ∧ issue.event = .issued 7 ∧
      issue.thread = check.thread ∧ .ended check.thread ∉ middle ∧
      .committed change ∈ middle ++ last ∧ change.event.changesCredential 1 = true ∧
      st.world.database.Authenticates 7 now ∧ change.event.keeps = some 7 := by
  obtain ⟨st, played, isRun⟩ := Option.map_eq_some_iff.mp Sample.kept_run_plays
  have reached := Sample.runs_reach (.inl rfl) played
  simp only [Bool.and_eq_true, decide_eq_true_eq] at isRun
  obtain ⟨check, _, isTrail, checkThread, isCheck, more⟩ := Sample.events_cons isRun.1
  obtain ⟨issue, _, rfl, issueThread, isIssue, more⟩ := Sample.events_cons more
  obtain ⟨change, last, rfl, _, isChange, more⟩ := Sample.events_cons more
  obtain rfl := map_eq_nil_iff.mp more
  have hist := reaches_history reached
  rw [isTrail] at hist
  have isHere : [.committed check, .committed issue, .committed change] =
      [.committed check, .committed issue] ++ Entry.committed change :: [] := rfl
  rw [isHere] at hist
  obtain ⟨now, valid⟩ := kept_authenticates (history_step hist).2 isChange
  have isDatabase : st.world.database = change.after := by
    rw [← history_replay hist]
    rfl
  rw [← isDatabase] at valid
  have changes : change.event.changesCredential 1 = true := by
    rw [isChange]
    rfl
  have sameThread := issueThread.trans checkThread.symm
  exact ⟨st, [], [], [.committed change], check, issue, change, now, reached, isTrail, isCheck,
    isIssue, sameThread, not_mem_nil, mem_singleton_self _, changes, valid,
    @credential_changes_fence_sessions _ _ _ reached 1 7 1 (some 2) [] [] [.committed change] check
      issue change isTrail isCheck isIssue sameThread not_mem_nil (mem_singleton_self _)
      changes now valid⟩

theorem stale_session_behind {account sess : UUID} {row : SessionRow} {accountRow : AccountRow}
    {database : Database} {first last : List (Entry Database Event)}
    {change commit : Commit Database Event}
    (hist : History (discipline initial) initial (first ++ .committed change :: last) database)
    (found : change.after.sessions.get sess = some row) (isAccount : row.accountId = account)
    (foundAccount : change.after.accounts.get account = some accountRow)
    (behind : row.authzVersion < accountRow.authzVersion)
    (unrevived : ∀ commit, .committed commit ∈ last → ¬Revives account sess commit)
    (mem : .committed commit ∈ last) :
    (∀ now, ¬commit.after.Authenticates sess now) ∧
      (commit.event = .touched sess → commit.since ≤ first.length) := by
  obtain ⟨inner, rest, rfl⟩ := append_of_mem mem
  have isAppend : first ++ Entry.committed change :: (inner ++ .committed commit :: rest) =
      (first ++ .committed change :: inner) ++ .committed commit :: rest := by simp
  rw [isAppend] at hist
  obtain ⟨earlier, respects⟩ := history_step hist
  have before := session_stays_behind earlier rfl found isAccount foundAccount behind
    fun other inside => unrevived other (by simp [inside])
  constructor
  · rintro now ⟨cur, currentAccount, isCurrent, isCurrentAccount, evaluated⟩
    have upTo := history_after hist
    rw [append_assoc] at upTo
    obtain ⟨stale, staleAccount, isStale, ofAccount, isStaleAccount, _, stillBehind⟩ :=
      session_stays_behind upTo rfl found isAccount foundAccount behind fun other inside => by
        refine unrevived other ?_
        rcases mem_append.mp inside with inInner | isLast
        · exact mem_append_left _ inInner
        · rw [mem_singleton.mp isLast]
          exact mem
    rw [isStale] at isCurrent
    cases isCurrent
    rw [ofAccount, isStaleAccount] at isCurrentAccount
    cases isCurrentAccount
    exact stillBehind.ne' (evaluate_joined_row_ok.mp evaluated).2.2.2.2
  · intro isTouch
    by_contra afterwards
    rw [not_le] at afterwards
    have reports := respects.reports
    unfold Reports at reports
    rw [isTouch] at reports
    obtain ⟨touched, seenAccount, isTouched, isSeen, sameVersion⟩ := reports
    obtain ⟨cur, _, isCurrent, ofAccount, _, isVersion, _⟩ := before
    rw [isCurrent] at isTouched
    cases isTouched
    -- The statement saw a trail that has the change, where the account was already ahead.
    have isSeenTrail : (first ++ Entry.committed change :: inner).take commit.since =
        first ++ .committed change :: inner.take (commit.since - first.length - 1) := by
      rw [take_append, take_of_length_le afterwards.le]
      obtain ⟨more, isMore⟩ : ∃ more, commit.since - first.length = more + 1 :=
        ⟨commit.since - first.length - 1, by omega⟩
      rw [isMore]
      rfl
    have seenHistory : History (discipline initial) initial
        ((first ++ .committed change :: inner).take commit.since)
        (replay initial ((first ++ .committed change :: inner).take commit.since)) := by
      have whole := earlier
      rw [← take_append_drop commit.since (first ++ Entry.committed change :: inner)] at whole
      exact history_earlier whole
    obtain ⟨seen, ahead, _, _, isAhead, seenVersion, stillBehind⟩ :=
      session_stays_behind seenHistory isSeenTrail found isAccount foundAccount behind
        fun other inside =>
          unrevived other (mem_append_left _ (mem_of_mem_take inside))
    rw [ofAccount, isAhead] at isSeen
    cases isSeen
    omega

/-- A session an authorization change left behind stays unauthenticated exactly if no password
change keeps it while it is not at the version of its account. -/
theorem stale_sessions_stay_stale (reached : Reaches ciphers initial st)
    {account sess : UUID} {row : SessionRow} {accountRow : AccountRow}
    {first last : List (Entry Database Event)} {change : Commit Database Event}
    (isTrail : st.world.trail = first ++ .committed change :: last)
    (isChange : change.event = .authorized account)
    (found : change.after.sessions.get sess = some row) (isAccount : row.accountId = account)
    (foundAccount : change.after.accounts.get account = some accountRow)
    (behind : row.authzVersion < accountRow.authzVersion) :
    (∀ commit, .committed commit ∈ .committed change :: last →
      (∀ now, ¬commit.after.Authenticates sess now) ∧
        (commit.event = .touched sess → commit.since ≤ first.length)) ↔
    ∀ commit, .committed commit ∈ last → ¬Revives account sess commit := by
  have hist := reaches_history reached
  rw [isTrail] at hist
  constructor
  · rintro stale commit mem ⟨⟨step, isKept⟩, _⟩
    have notValid := (stale commit (mem_cons_of_mem _ mem)).1
    obtain ⟨inner, rest, rfl⟩ := append_of_mem mem
    have isAppend : first ++ Entry.committed change :: (inner ++ .committed commit :: rest) =
        (first ++ .committed change :: inner) ++ .committed commit :: rest := by simp
    rw [isAppend] at hist
    obtain ⟨now, valid⟩ := kept_authenticates (history_step hist).2 isKept
    exact notValid now valid
  · intro unrevived commit mem
    rcases mem_cons.mp mem with isHere | inside
    · cases isHere
      constructor
      · rintro now ⟨cur, currentAccount, isCurrent, isCurrentAccount, evaluated⟩
        rw [found] at isCurrent
        cases isCurrent
        rw [isAccount, foundAccount] at isCurrentAccount
        cases isCurrentAccount
        exact behind.ne' (evaluate_joined_row_ok.mp evaluated).2.2.2.2
      · intro isTouch
        rw [isChange] at isTouch
        cases isTouch
    · exact stale_session_behind hist found isAccount foundAccount behind unrevived inside

theorem revived_run_reached :
    ∃ (st : LoginState) (first : List (Entry Database Event))
      (demotion change : Commit Database Event) (row : SessionRow) (accountRow : AccountRow),
      Reaches Sample.ciphers Sample.database st ∧
      st.world.trail = first ++ .committed demotion :: [.committed change] ∧
      demotion.event = .authorized 1 ∧ change.event = .passwordChanged 1 (some 7) (some 3) ∧
      demotion.after.sessions.get 7 = some row ∧ row.accountId = 1 ∧
      demotion.after.accounts.get 1 = some accountRow ∧
      row.authzVersion < accountRow.authzVersion := by
  obtain ⟨st, played, isRun⟩ := Option.map_eq_some_iff.mp Sample.revived_run_plays
  simp only [Bool.and_eq_true, decide_eq_true_eq] at isRun
  obtain ⟨check, _, isTrail, _, _, more⟩ := Sample.events_cons isRun.1
  obtain ⟨issue, _, rfl, _, _, more⟩ := Sample.events_cons more
  obtain ⟨demotion, _, rfl, _, isDemotion, more⟩ := Sample.events_cons more
  obtain ⟨change, last, rfl, _, isChange, more⟩ := Sample.events_cons more
  obtain rfl := map_eq_nil_iff.mp more
  rw [isTrail] at isRun
  obtain ⟨isLeft, isAhead⟩ := Bool.and_eq_true_iff.mp isRun.2
  obtain ⟨row, found, isRow⟩ := (Option.any_eq_true _ _).mp isLeft
  obtain ⟨accountRow, foundAccount, isVersion⟩ := (Option.any_eq_true _ _).mp isAhead
  simp only [Bool.and_eq_true, decide_eq_true_eq] at isRow isVersion
  exact ⟨st, [.committed check, .committed issue], demotion, change, row, accountRow,
    Sample.runs_reach (.inr (.inl rfl)) played, isTrail, isDemotion, isChange, found, isRow.1,
    foundAccount, by omega⟩

theorem stale_session_authenticates_again :
    ∃ (st : LoginState) (first last : List (Entry Database Event))
      (change : Commit Database Event) (row : SessionRow) (accountRow : AccountRow) (now : Datetime),
      Reaches Sample.ciphers Sample.database st ∧
      st.world.trail = first ++ .committed change :: last ∧ change.event = .authorized 1 ∧
      change.after.sessions.get 7 = some row ∧ row.accountId = 1 ∧
      change.after.accounts.get 1 = some accountRow ∧
      row.authzVersion < accountRow.authzVersion ∧
      st.world.database.Authenticates 7 now := by
  obtain ⟨st, first, demotion, change, row, accountRow, reached, isTrail, isDemotion, isChange,
    found, isAccount, foundAccount, behind⟩ := revived_run_reached
  have hist := reaches_history reached
  have isAppend : first ++ Entry.committed demotion :: [.committed change] =
      (first ++ [.committed demotion]) ++ .committed change :: [] := by simp
  rw [isTrail, isAppend] at hist
  obtain ⟨now, valid⟩ := kept_authenticates (history_step hist).2 isChange
  have isDatabase : st.world.database = change.after := by
    rw [← history_replay hist]
    unfold replay
    rw [foldl_append]
    rfl
  rw [← isDatabase] at valid
  exact ⟨st, first, [.committed change], demotion, row, accountRow, now, reached, isTrail,
    isDemotion, found, isAccount, foundAccount, behind, valid⟩

theorem stale_sessions_stay_stale_demoted :
    ∃ (st : LoginState) (first last : List (Entry Database Event))
      (change : Commit Database Event),
      Reaches Sample.ciphers Sample.database st ∧
      st.world.trail = first ++ .committed change :: last ∧ change.event = .authorized 1 ∧
      ((∀ commit, .committed commit ∈ .committed change :: last →
        (∀ now, ¬commit.after.Authenticates 7 now) ∧
          (commit.event = .touched 7 → commit.since ≤ first.length)) ↔
      ∀ commit, .committed commit ∈ last → ¬Revives 1 7 commit) := by
  obtain ⟨st, first, demotion, change, row, accountRow, reached, isTrail, isDemotion, _, found,
    isAccount, foundAccount, behind⟩ := revived_run_reached
  exact ⟨st, first, [.committed change], demotion, reached, isTrail, isDemotion,
    stale_sessions_stay_stale reached isTrail isDemotion found isAccount foundAccount behind⟩

theorem issued_authenticates {sess : UUID} {trail : List (Entry Database Event)}
    {commit : Commit Database Event} (respects : Respects initial trail commit)
    (isIssue : commit.event = .issued sess) :
    ∃ now, commit.after.Authenticates sess now := by
  have reports := respects.reports
  unfold Reports at reports
  rw [isIssue] at reports
  obtain ⟨row, accountRow, _, found, foundAccount, unrevoked, isEnabled, isVersion, _⟩ := reports
  refine ⟨min row.idleExpiresAt row.absoluteExpiresAt - 1, row, accountRow, found, foundAccount, ?_⟩
  rw [evaluate_joined_row_ok]
  exact ⟨unrevoked, (Int.sub_lt_self _ Int.one_pos).trans_le (min_le_left _ _),
    (Int.sub_lt_self _ Int.one_pos).trans_le (min_le_right _ _), isEnabled, isVersion.symm⟩

/-- A session of an OIDC login is bound to the roles its identity was resolved with exactly if no
authorization change commits between the resolution and the session. -/
theorem oidc_sessions_bound_to_roles (reached : Reaches ciphers initial st)
    {account sess : UUID} {roles : Finset OperatorRole}
    {first middle last : List (Entry Database Event)} {resolve issue : Commit Database Event}
    (isTrail : st.world.trail = first ++ .committed resolve :: middle ++ .committed issue :: last)
    (isResolve : resolve.event = .resolved account roles)
    (isIssue : issue.event = .issued sess) (sameThread : issue.thread = resolve.thread)
    (sameRun : .ended resolve.thread ∉ middle) :
    ((∀ now, st.world.database.Authenticates sess now →
        ∃ accountRow, st.world.database.accounts.get account = some accountRow ∧
          accountRow.roles = roles) ∧
      ((∃ change, .committed change ∈ middle ∧ change.event = .authorized account) →
        ∀ now, ¬issue.after.Authenticates sess now)) ↔
    ∀ change, .committed change ∈ middle → change.event ≠ .authorized account := by
  have hist := reaches_history reached
  rw [isTrail] at hist
  constructor
  · rintro ⟨_, noSession⟩ change mem isChange
    obtain ⟨now, valid⟩ := issued_authenticates (history_step hist).2 isIssue
    exact noSession ⟨change, mem, isChange⟩ now valid
  · intro unchanged
    constructor
    · rintro now ⟨cur, currentAccount, isCurrent, isCurrentAccount, evaluated⟩
      obtain ⟨row, accountRow, found, isAccount, foundAccount, _, _, isRoles⟩ :=
        session_resolved hist rfl isResolve isIssue sameThread sameRun unchanged
      rw [found] at isCurrent
      cases isCurrent
      rw [isAccount, foundAccount] at isCurrentAccount
      cases isCurrentAccount
      have sameVersion := (evaluate_joined_row_ok.mp evaluated).2.2.2.2
      exact ⟨_, foundAccount, isRoles sameVersion.symm⟩
    · rintro ⟨change, mem, isChange⟩
      exact absurd isChange (unchanged change mem)

theorem drifted_run_reached :
    ∃ (st : LoginState) (resolve change issue : Commit Database Event) (accountRow : AccountRow),
      Reaches Sample.ciphers Sample.database st ∧
      st.world.trail = [] ++ .committed resolve :: [.committed change] ++ .committed issue :: [] ∧
      resolve.event = .resolved 5 {.operator} ∧ change.event = .authorized 5 ∧
      issue.event = .issued 7 ∧ issue.thread = resolve.thread ∧
      st.world.database.accounts.get 5 = some accountRow ∧ accountRow.roles = {.viewer} := by
  obtain ⟨st, played, isRun⟩ := Option.map_eq_some_iff.mp Sample.drifted_run_plays
  simp only [Bool.and_eq_true, decide_eq_true_eq] at isRun
  obtain ⟨resolve, _, isTrail, resolveThread, isResolve, more⟩ := Sample.events_cons isRun.1
  obtain ⟨change, _, rfl, _, isChange, more⟩ := Sample.events_cons more
  obtain ⟨issue, last, rfl, issueThread, isIssue, more⟩ := Sample.events_cons more
  obtain rfl := map_eq_nil_iff.mp more
  obtain ⟨accountRow, foundAccount, isRoles⟩ := Option.map_eq_some_iff.mp isRun.2
  exact ⟨st, resolve, change, issue, accountRow, Sample.runs_reach (.inr (.inr rfl)) played,
    isTrail, isResolve, isChange, isIssue, issueThread.trans resolveThread.symm, foundAccount,
    isRoles⟩

theorem oidc_session_under_other_roles :
    ∃ (st : LoginState) (resolve change issue : Commit Database Event) (accountRow : AccountRow)
      (now : Datetime),
      Reaches Sample.ciphers Sample.database st ∧
      st.world.trail = [] ++ .committed resolve :: [.committed change] ++ .committed issue :: [] ∧
      resolve.event = .resolved 5 {.operator} ∧ change.event = .authorized 5 ∧
      issue.event = .issued 7 ∧ issue.thread = resolve.thread ∧
      st.world.database.Authenticates 7 now ∧
      st.world.database.accounts.get 5 = some accountRow ∧ accountRow.roles = {.viewer} ∧
      accountRow.roles ≠ {.operator} := by
  obtain ⟨st, resolve, change, issue, accountRow, reached, isTrail, isResolve, isChange, isIssue,
    sameThread, foundAccount, isRoles⟩ := drifted_run_reached
  have hist := reaches_history reached
  rw [isTrail] at hist
  obtain ⟨now, valid⟩ := issued_authenticates (history_step hist).2 isIssue
  have isDatabase : st.world.database = issue.after := by
    rw [← history_replay hist]
    rfl
  rw [← isDatabase] at valid
  refine ⟨st, resolve, change, issue, accountRow, now, reached, isTrail, isResolve, isChange,
    isIssue, sameThread, valid, foundAccount, isRoles, ?_⟩
  rw [isRoles]
  decide

theorem oidc_sessions_bound_to_roles_drifted :
    ∃ (st : LoginState) (resolve change issue : Commit Database Event),
      Reaches Sample.ciphers Sample.database st ∧
      st.world.trail = [] ++ .committed resolve :: [.committed change] ++ .committed issue :: [] ∧
      (((∀ now, st.world.database.Authenticates 7 now →
        ∃ accountRow, st.world.database.accounts.get 5 = some accountRow ∧
          accountRow.roles = {.operator}) ∧
      ((∃ other, .committed other ∈ [Entry.committed change] ∧ other.event = .authorized 5) →
        ∀ now, ¬issue.after.Authenticates 7 now)) ↔
      ∀ other, .committed other ∈ [Entry.committed change] → other.event ≠ .authorized 5) := by
  obtain ⟨st, resolve, change, issue, _, reached, isTrail, isResolve, _, isIssue, sameThread, _⟩ :=
    drifted_run_reached
  exact ⟨st, resolve, change, issue, reached, isTrail,
    oidc_sessions_bound_to_roles reached isTrail isResolve isIssue sameThread (by simp)⟩

/-- The TOTP steps accepted for an account while its secret stays increase strictly. -/
theorem totp_steps_spent_once (reached : Reaches ciphers initial st) (account : UUID) :
    (spentSteps account st.world.trail).Pairwise (· < ·) :=
  (spent_steps_bounded account (reaches_history reached)).1

theorem totp_steps_spent_once_twice :
    ∃ st : LoginState, Reaches Sample.ciphers Sample.database st ∧
      spentSteps 1 st.world.trail = [2, 3] ∧
      (spentSteps 1 st.world.trail).Pairwise (· < ·) := by
  obtain ⟨st, played, isRun⟩ := Option.map_eq_some_iff.mp Sample.kept_run_plays
  simp only [Bool.and_eq_true, decide_eq_true_eq] at isRun
  have reached := Sample.runs_reach (.inl rfl) played
  exact ⟨st, reached, isRun.2, totp_steps_spent_once reached 1⟩

/-- Whatever the clients interleave, fail and lose: from any earlier database on, identities only
advance, so a session that was revoked never authenticates again. -/
theorem identities_only_advance (reached : Reaches ciphers initial st)
    {first : List (Entry Database Event)} (isEarlier : first <+: st.world.trail) :
    Advanced (replay initial first) st.world.database ∧
      ∀ sess row, (replay initial first).sessions.get sess = some row →
        row.revokedAt.isSome = true → ∀ now, ¬st.world.database.Authenticates sess now := by
  have advanced := history_advanced (reaches_history reached) isEarlier
  refine ⟨advanced, ?_⟩
  rintro sess row found revoked now ⟨cur, account, isCurrent, _, evaluated⟩
  obtain ⟨moved, isMoved, _, stays⟩ := advanced.sessions sess row found
  rw [isCurrent] at isMoved
  cases isMoved
  have unrevoked := (evaluate_joined_row_ok.mp evaluated).1
  rw [unrevoked] at stays
  cases stays revoked

theorem identities_only_advance_kept :
    ∃ st : LoginState, Reaches Sample.ciphers Sample.database st ∧
      spentSteps 1 st.world.trail = [2, 3] ∧ Advanced Sample.database st.world.database := by
  obtain ⟨st, played, isRun⟩ := Option.map_eq_some_iff.mp Sample.kept_run_plays
  simp only [Bool.and_eq_true, decide_eq_true_eq] at isRun
  have reached := Sample.runs_reach (.inl rfl) played
  exact ⟨st, reached, isRun.2, (identities_only_advance reached nil_prefix).1⟩

end RtspProxy.Logins
