import Mathlib.Data.List.Sort
import RtspProxy.Live.Consistency
import RtspProxy.Live.Registrations

/-!
# How fresh an authorization is

`_authorization_current` with the refresh that concurrent checks share. A refresh
fixes its list of sessions, looks their epochs up in the session store and notes
them; time passes between any two of these steps, sessions come and go and the
store changes. The world keeps what no code reads: every lookup, every note with
the time of its lookup, and every check that found its session authorized.
-/

namespace RtspProxy.Live

open Nodes Probes Lib Lib.Action CameraLiveUpdates Dict

variable {Index Data : Type} {cfg : LiveSettings Index Data}

/-- An epoch as the session store had it. -/
structure Lookup where
  sessionId : UUID
  version : Int
  time : Int

/-- An epoch that the hub wrote down, with the time it was looked up. -/
structure Note where
  sessionId : UUID
  version : Int
  readAt : Int
  time : Int

/-- Where a task of `_refresh_authorization_epochs` is. -/
inductive RefreshPhase
  | started
  | listed (sids : List UUID) (listedAt : Int)
  | looked (sids : List UUID) (listedAt : Int) (cur : Dict UUID Int) (readAt : Int)
  | returned (sids : List UUID) (listedAt : Int) (cur : Dict UUID Int)
      (readAt checkedAt : Int)
  | noted (sids : List UUID) (listedAt notedAt : Int)
  | cancelled

def RefreshPhase.isDone : RefreshPhase → Bool
  | .noted _ _ _ | .cancelled => true
  | _ => false

/-- A call of `_authorization_current` that waits for a refresh. -/
structure WaitingCheck where
  sessionId : UUID
  expected : Int
  began : Int
  task : Nat

/-- A call that found its session authorized, and the refresh it waited for. -/
structure Report where
  sessionId : UUID
  expected : Int
  began : Int
  waited : Option Nat

structure AuthorizationWorld (Index Data : Type) where
  hub : CameraLiveUpdates Index Data := {}
  store : UUID → Option Int := fun _ => none
  clock : Int := 0
  tasks : List RefreshPhase := []
  checks : List WaitingCheck := []
  lookups : List Lookup := []
  notes : List Note := []
  reports : List Report := []

/-! ## The check and the refresh -/

def recentlyChecked (reauth : Int) (hub : CameraLiveUpdates Index Data) (sessionId : UUID)
    (expected now : Int) : Bool :=
  match hub.authorizationEpochs.get sessionId with
  | none => false
  | some (version, observedAt) => decide (version = expected ∧ now - observedAt < reauth)

def observedCurrent (hub : CameraLiveUpdates Index Data) (sessionId : UUID) (expected : Int) : Bool :=
  match hub.authorizationEpochs.get sessionId with
  | none => false
  | some (version, _) => decide (version = expected)

/-- `_await_authorization_refresh` joins the refresh that runs or starts one. -/
def joinRefresh (tasks : List RefreshPhase) : List RefreshPhase × Nat :=
  match tasks.getLast? with
  | none => ([.started], 0)
  | some last =>
    if last.isDone then (tasks ++ [.started], tasks.length) else (tasks, tasks.length - 1)

/-- `tuple(sorted(self._session_subscriptions))`. -/
def listedSessions (hub : CameraLiveUpdates Index Data) : List UUID :=
  (hub.sessionSubscriptions.items.map Prod.fst).insertionSort (· ≤ ·)

/-- `authorize_sessions`: the sessions that are current, with their versions. -/
def authorizeSessions (store : UUID → Option Int) : List UUID → Dict UUID Int
  | [] => .empty
  | sessionId :: rest =>
    match store sessionId with
    | none => authorizeSessions store rest
    | some version => (authorizeSessions store rest).set sessionId version

inductive AuthorizationMove (Index : Type)
  | tick (elapsed : Nat)
  /-- A session is created, changed or revoked in the store. -/
  | change (sessionId : UUID) (epoch : Option Int)
  /-- `authorize` of a caller of `open`. -/
  | authorize (sessionId : UUID)
  /-- A piece of any coroutine; an `open` goes on from one of the lookups. -/
  | request (req : LiveRequest Index) (lookup : Nat)
  | begin (sessionId : UUID) (expected : Int)
  | list (task : Nat)
  | look (task : Nat)
  | fail (task : Nat)
  | deliver (task : Nat)
  | note (task : Nat)
  | cancel (task : Nat)
  | resume (check : Nat)
  | expire (check : Nat)

namespace AuthorizationWorld

/-- What a request notes: the epoch of a session that it registered. -/
def notedBy (w : AuthorizationWorld Index Data) (after : CameraLiveUpdates Index Data)
    (req : LiveRequest Index) (lookup : Nat) : List Note :=
  match entering req, w.lookups[lookup]? with
  | some (sessionId, version, time), some found =>
    if w.hub.authorizationEpochs.get sessionId ≠ some (version, time) ∧
        after.authorizationEpochs.get sessionId = some (version, time) then
      [⟨sessionId, version, found.time, w.clock⟩]
    else []
  | _, _ => []

def notedAll (w : AuthorizationWorld Index Data) (sids : List UUID)
    (cur : Dict UUID Int) (readAt : Int) : List Note :=
  (sids.filter w.hub.sessionSubscriptions.contains).map fun sessionId =>
    ⟨sessionId, (cur.get sessionId).getD 0, readAt, w.clock⟩

def setTask (w : AuthorizationWorld Index Data) (task : Nat) (phase : RefreshPhase) :
    AuthorizationWorld Index Data :=
  { w with tasks := w.tasks.set task phase }

def next [DecidableEq Data] (cfg : LiveSettings Index Data) (reauth : Int)
    (w : AuthorizationWorld Index Data) : AuthorizationMove Index → AuthorizationWorld Index Data
  | .tick elapsed => { w with clock := w.clock + elapsed }
  | .change sessionId epoch => { w with store := Function.update w.store sessionId epoch }
  | .authorize sessionId =>
    match w.store sessionId with
    | none => w
    | some version =>
      { w with lookups := w.lookups ++ [⟨sessionId, version, w.clock⟩] }
  | .request req lookup =>
    let hub := after cfg w.hub req
    { w with hub, notes := w.notes ++ w.notedBy hub req lookup }
  | .begin sessionId expected =>
    if recentlyChecked reauth w.hub sessionId expected w.clock then
      { w with reports := w.reports ++ [⟨sessionId, expected, w.clock, none⟩] }
    else
      let joined := joinRefresh w.tasks
      { w with
        tasks := joined.1
        checks := w.checks ++ [⟨sessionId, expected, w.clock, joined.2⟩] }
  | .list task =>
    match w.tasks[task]? with
    | some .started =>
      let sids := listedSessions w.hub
      -- With no sessions the task is over.
      if sids = [] then w.setTask task (.noted [] w.clock w.clock)
      else w.setTask task (.listed sids w.clock)
    | _ => w
  | .look task =>
    match w.tasks[task]? with
    | some (.listed sids listedAt) =>
      { w.setTask task (.looked sids listedAt (authorizeSessions w.store sids)
          w.clock) with
        lookups := w.lookups ++ sids.filterMap fun sessionId =>
          (w.store sessionId).map fun version => ⟨sessionId, version, w.clock⟩ }
    | _ => w
  | .fail task =>
    match w.tasks[task]? with
    | some (.listed sids listedAt) | some (.looked sids listedAt _ _) =>
      w.setTask task (.returned sids listedAt .empty w.clock w.clock)
    | _ => w
  | .deliver task =>
    match w.tasks[task]? with
    | some (.looked sids listedAt cur readAt) =>
      w.setTask task (.returned sids listedAt cur readAt w.clock)
    | _ => w
  | .note task =>
    match w.tasks[task]? with
    | some (.returned sids listedAt cur readAt checkedAt) =>
      { w.setTask task (.noted sids listedAt w.clock) with
        hub := (refreshAuthorizationEpochs sids cur checkedAt w.hub).2
        notes := w.notes ++ w.notedAll sids cur readAt }
    | _ => w
  | .cancel task =>
    match w.tasks[task]? with
    | some phase => if phase.isDone then w else w.setTask task .cancelled
    | none => w
  | .resume check =>
    match w.checks[check]? with
    | none => w
    | some waiting =>
      match w.tasks[waiting.task]? with
      | some (.noted _ _ _) =>
        let left := { w with checks := w.checks.eraseIdx check }
        if observedCurrent w.hub waiting.sessionId waiting.expected then
          { left with reports := w.reports ++
              [⟨waiting.sessionId, waiting.expected, waiting.began, some waiting.task⟩] }
        else left
      | some .cancelled => { w with checks := w.checks.eraseIdx check }
      | _ => w
  | .expire check => { w with checks := w.checks.eraseIdx check }

/-- A refresh of the epochs is a task; an `open` that registers does it now, with the version of its
lookup; versions start at 1. -/
def Possible (w : AuthorizationWorld Index Data) : AuthorizationMove Index → Prop
  | .request req lookup =>
    RegistersOnly req ∧ ∀ sessionId version time,
      entering req = some (sessionId, version, time) → time = w.clock ∧
        ∃ found, w.lookups[lookup]? = some found ∧ found.sessionId = sessionId ∧
          found.version = version
  | .begin _ expected => 1 ≤ expected
  | _ => True

inductive Reaches [DecidableEq Data] (cfg : LiveSettings Index Data) (reauthorize : Int) :
    AuthorizationWorld Index Data → Prop
  | start : Reaches cfg reauthorize {}
  | step {w : AuthorizationWorld Index Data} (reached : Reaches cfg reauthorize w)
      (move : AuthorizationMove Index) (possible : w.Possible move) :
      Reaches cfg reauthorize (w.next cfg reauthorize move)

variable {w left : AuthorizationWorld Index Data} {reauth : Int}

/-- The hub noted the version of the session at or after a time, having looked it up before. -/
def Backed (w : AuthorizationWorld Index Data) (sessionId : UUID) (version bound : Int) : Prop :=
  ∃ note ∈ w.notes, note.sessionId = sessionId ∧ note.version = version ∧ bound ≤ note.time ∧
    note.readAt ≤ note.time ∧ ∃ lookup ∈ w.lookups, lookup.sessionId = sessionId ∧
      lookup.version = version ∧ lookup.time = note.readAt

def Vouched (w : AuthorizationWorld Index Data) (sessionId : UUID) (bound : Int) : Prop :=
  ∀ version time, w.hub.authorizationEpochs.get sessionId = some (version, time) →
    1 ≤ version → w.Backed sessionId version bound

def LookedUp (w : AuthorizationWorld Index Data) (cur : Dict UUID Int) (readAt : Int) : Prop :=
  readAt ≤ w.clock ∧ ∀ sessionId version, cur.get sessionId = some version →
    ∃ lookup ∈ w.lookups, lookup.sessionId = sessionId ∧ lookup.version = version ∧
      lookup.time = readAt

/-- A session that is not in the list has been noted after the list was fixed, or not at all. -/
def ListedBy (w : AuthorizationWorld Index Data) (sids : List UUID) (listedAt : Int) : Prop :=
  listedAt ≤ w.clock ∧ ∀ sessionId, sessionId ∉ sids → w.Vouched sessionId listedAt

def PhaseSound (w : AuthorizationWorld Index Data) : RefreshPhase → Prop
  | .started | .cancelled => True
  | .listed sids listedAt => w.ListedBy sids listedAt
  | .looked sids listedAt cur readAt =>
    w.ListedBy sids listedAt ∧ w.LookedUp cur readAt
  | .returned sids listedAt cur readAt checkedAt =>
    w.ListedBy sids listedAt ∧ w.LookedUp cur readAt ∧ checkedAt ≤ w.clock
  | .noted sids listedAt notedAt =>
    w.ListedBy sids listedAt ∧ notedAt ≤ w.clock ∧ ∀ sessionId ∈ sids, w.Vouched sessionId notedAt

/-- The check waited for a refresh that had fixed its list, without the session, before the check
began. -/
def Overlooked (w : AuthorizationWorld Index Data) (report : Report) : Prop :=
  ∃ task sids listedAt notedAt, report.waited = some task ∧
    w.tasks[task]? = some (.noted sids listedAt notedAt) ∧
    report.sessionId ∉ sids ∧ listedAt < report.began

structure Sound (reauthorize : Int) (w : AuthorizationWorld Index Data) : Prop where
  looked : ∀ lookup ∈ w.lookups, lookup.time ≤ w.clock
  registered : ∀ sessionId, w.hub.authorizationEpochs.get sessionId ≠ none →
    w.hub.sessionSubscriptions.get sessionId ≠ none
  backed : ∀ sessionId version time,
    w.hub.authorizationEpochs.get sessionId = some (version, time) → 1 ≤ version →
      w.Backed sessionId version time
  phases : ∀ (task : Nat) phase, w.tasks[task]? = some phase → w.PhaseSound phase
  checks : ∀ check ∈ w.checks, 1 ≤ check.expected ∧ check.began ≤ w.clock ∧
    check.task < w.tasks.length ∧ ∀ sids listedAt notedAt,
      w.tasks[check.task]? = some (.noted sids listedAt notedAt) → check.began ≤ notedAt
  reports : ∀ report ∈ w.reports, w.Overlooked report ∨
    w.Backed report.sessionId report.expected (report.began - reauthorize)

variable {sessionId : UUID} {sids : List UUID} {cur : Dict UUID Int} {task : Nat}

section Moves

theorem backed_grows {version bound lower : Int} (backed : w.Backed sessionId version bound)
    (weaker : lower ≤ bound) (notes : ∀ note ∈ w.notes, note ∈ left.notes)
    (lookups : ∀ lookup ∈ w.lookups, lookup ∈ left.lookups) :
    left.Backed sessionId version lower := by
  obtain ⟨note, mem, isSession, isVersion, late, pre, lookup, inLookups, rest⟩ := backed
  exact ⟨note, notes note mem, isSession, isVersion, weaker.trans late, pre, lookup,
    lookups lookup inLookups, rest⟩

/-- What a move leaves of a world: nothing that was kept is lost, and what is new is justified. -/
structure Continues (reauthorize : Int) (w left : AuthorizationWorld Index Data) : Prop where
  clock : w.clock ≤ left.clock
  notes : ∀ note ∈ w.notes, note ∈ left.notes
  lookups : ∀ lookup ∈ w.lookups, lookup ∈ left.lookups
  looked : ∀ lookup ∈ left.lookups, lookup.time ≤ left.clock
  registered : ∀ sessionId, left.hub.authorizationEpochs.get sessionId ≠ none →
    left.hub.sessionSubscriptions.get sessionId ≠ none
  entries : ∀ sessionId version time,
    left.hub.authorizationEpochs.get sessionId = some (version, time) → 1 ≤ version →
      w.hub.authorizationEpochs.get sessionId = some (version, time) ∨
        left.Backed sessionId version left.clock ∧ time ≤ left.clock
  count : w.tasks.length ≤ left.tasks.length
  ended : ∀ (task : Nat) sids listedAt notedAt,
    w.tasks[task]? = some (.noted sids listedAt notedAt) →
      left.tasks[task]? = some (.noted sids listedAt notedAt)
  phases : ∀ (task : Nat) phase, left.tasks[task]? = some phase →
    w.tasks[task]? = some phase ∨ left.PhaseSound phase ∧
      ∀ sids listedAt notedAt, phase = .noted sids listedAt notedAt → notedAt = w.clock
  checks : ∀ check ∈ left.checks, check ∈ w.checks ∨ 1 ≤ check.expected ∧
    check.began = w.clock ∧ check.task < left.tasks.length ∧
    ∀ sids listedAt notedAt, left.tasks[check.task]? ≠ some (.noted sids listedAt notedAt)
  reports : ∀ report ∈ left.reports, report ∈ w.reports ∨ left.Overlooked report ∨
    left.Backed report.sessionId report.expected (report.began - reauthorize)

variable (continues : Continues reauth w left)

include continues

theorem vouched_continues {bound : Int}
    (vouched : w.Vouched sessionId bound) (early : bound ≤ w.clock) :
    left.Vouched sessionId bound := by
  intro version time found positive
  rcases continues.entries sessionId version time found positive with pre | ⟨backed, _⟩
  · exact backed_grows (vouched version time pre positive) (le_refl _) continues.notes
      continues.lookups
  · exact backed_grows backed (early.trans continues.clock) (fun _ mem => mem)
      fun _ mem => mem

theorem listed_continues {listedAt : Int}
    (listed : w.ListedBy sids listedAt) : left.ListedBy sids listedAt :=
  ⟨listed.1.trans continues.clock, fun sessionId absent =>
    vouched_continues continues (listed.2 sessionId absent) listed.1⟩

theorem looked_up_continues {readAt : Int}
    (lookedUp : w.LookedUp cur readAt) : left.LookedUp cur readAt := by
  refine ⟨lookedUp.1.trans continues.clock, fun sessionId version found => ?_⟩
  obtain ⟨lookup, mem, rest⟩ := lookedUp.2 sessionId version found
  exact ⟨lookup, continues.lookups lookup mem, rest⟩

omit continues

variable {phase : RefreshPhase}

theorem phase_continues (continues : Continues reauth w left)
    (sound : w.PhaseSound phase) : left.PhaseSound phase := by
  cases phase with
  | started | cancelled => exact trivial
  | listed sids listedAt => exact listed_continues continues sound
  | looked sids listedAt cur readAt =>
    exact ⟨listed_continues continues sound.1, looked_up_continues continues sound.2⟩
  | returned sids listedAt cur readAt checkedAt =>
    exact ⟨listed_continues continues sound.1, looked_up_continues continues sound.2.1,
      sound.2.2.trans continues.clock⟩
  | noted sids listedAt notedAt =>
    exact ⟨listed_continues continues sound.1, sound.2.1.trans continues.clock,
      fun sessionId mem => vouched_continues continues (sound.2.2 sessionId mem) sound.2.1⟩

theorem sound_continues (sound : Sound reauth w)
    (continues : Continues reauth w left) : Sound reauth left where
  looked := continues.looked
  registered := continues.registered
  backed sessionId version time found positive := by
    rcases continues.entries sessionId version time found positive with pre | ⟨backed, early⟩
    · exact backed_grows (sound.backed sessionId version time pre positive) (le_refl _)
        continues.notes continues.lookups
    · exact backed_grows backed early (fun _ mem => mem) fun _ mem => mem
  phases task phase found := by
    rcases continues.phases task phase found with pre | ⟨isSound, _⟩
    · exact phase_continues continues (sound.phases task phase pre)
    · exact isSound
  checks check mem := by
    rcases continues.checks check mem with pre | ⟨expected, began, task, isOpen⟩
    · obtain ⟨expected, began, task, done⟩ := sound.checks check pre
      refine ⟨expected, began.trans continues.clock, task.trans_le continues.count, ?_⟩
      intro sids listedAt notedAt found
      rcases continues.phases _ _ found with same | ⟨_, now⟩
      · exact done sids listedAt notedAt same
      · rw [now sids listedAt notedAt rfl]
        exact began
    · exact ⟨expected, began ▸ continues.clock, task, fun sids listedAt notedAt found =>
        absurd found (isOpen sids listedAt notedAt)⟩
  reports report mem := by
    rcases continues.reports report mem with pre | vouched
    · rcases sound.reports report pre with overlooked | backed
      · obtain ⟨task, sids, listedAt, notedAt, waited, found, rest⟩ := overlooked
        exact .inl ⟨task, sids, listedAt, notedAt, waited,
          continues.ended task sids listedAt notedAt found, rest⟩
      · exact .inr (backed_grows backed (le_refl _) continues.notes continues.lookups)
    · exact vouched

theorem continues_refl (sound : Sound reauth w) : Continues reauth w w where
  clock := le_refl _
  notes _ mem := mem
  lookups _ mem := mem
  looked := sound.looked
  registered := sound.registered
  entries _ _ _ found _ := .inl found
  count := le_refl _
  ended _ _ _ _ found := found
  phases _ _ found := .inl found
  checks _ mem := .inl mem
  reports _ mem := .inl mem

theorem continues_aside (sound : Sound reauth w) (clock : w.clock ≤ left.clock)
    (isHub : left.hub = w.hub) (isTasks : left.tasks = w.tasks)
    (notes : left.notes = w.notes) (lookups : ∀ lookup ∈ w.lookups, lookup ∈ left.lookups)
    (looked : ∀ lookup ∈ left.lookups, lookup ∈ w.lookups ∨ lookup.time ≤ left.clock)
    (checks : ∀ check ∈ left.checks, check ∈ w.checks)
    (reports : ∀ report ∈ left.reports, report ∈ w.reports ∨ left.Overlooked report ∨
      left.Backed report.sessionId report.expected (report.began - reauth)) :
    Continues reauth w left where
  clock := clock
  notes note mem := notes ▸ mem
  lookups := lookups
  looked lookup mem := by
    rcases looked lookup mem with pre | now
    · exact (sound.looked lookup pre).trans clock
    · exact now
  registered := by
    rw [isHub]
    exact sound.registered
  entries sessionId version time found _ := .inl (isHub ▸ found)
  count := by rw [isTasks]
  ended _ _ _ _ found := isTasks ▸ found
  phases _ _ found := .inl (isTasks ▸ found)
  checks check mem := .inl (checks check mem)
  reports := reports

variable {pre : RefreshPhase}

theorem continues_set (continues : Continues reauth w { left with tasks := w.tasks })
    (found : w.tasks[task]? = some pre) (running : pre.isDone = false)
    (isTasks : left.tasks = w.tasks.set task phase) (isChecks : left.checks = w.checks)
    (isReports : left.reports = w.reports) (sound : left.PhaseSound phase)
    (now : ∀ sids listedAt notedAt, phase = .noted sids listedAt notedAt →
      notedAt = w.clock) : Continues reauth w left where
  clock := continues.clock
  notes := continues.notes
  lookups := continues.lookups
  looked := continues.looked
  registered := continues.registered
  entries := continues.entries
  count := by rw [isTasks, List.length_set]
  ended other sids listedAt notedAt isOther := by
    rw [isTasks, List.getElem?_set_ne]
    · exact isOther
    · rintro rfl
      rw [found] at isOther
      cases isOther
      cases running
  phases other cur isOther := by
    rw [isTasks] at isOther
    by_cases same : task = other
    · subst same
      rw [List.getElem?_set_self (List.getElem?_eq_some_iff.mp found).1] at isOther
      cases isOther
      exact .inr ⟨sound, now⟩
    · rw [List.getElem?_set_ne same] at isOther
      exact .inl isOther
  checks check mem := .inl (isChecks ▸ mem)
  reports report mem := .inl (isReports ▸ mem)

theorem listed_more {listedAt : Int} {more : List Lookup} (listed : w.ListedBy sids listedAt) :
    ListedBy { w with lookups := w.lookups ++ more } sids listedAt :=
  ⟨listed.1, fun sessionId absent version time found positive =>
    backed_grows (listed.2 sessionId absent version time found positive) (le_refl _)
      (fun _ mem => mem) fun _ mem => List.mem_append_left _ mem⟩

theorem continues_task {more : List Lookup}
    (sound : Sound reauth w) (found : w.tasks[task]? = some pre)
    (running : pre.isDone = false) (now : ∀ lookup ∈ more, lookup.time ≤ w.clock)
    (phaseSound : PhaseSound { w with lookups := w.lookups ++ more } phase)
    (ends : ∀ sids listedAt notedAt, phase = .noted sids listedAt notedAt → notedAt = w.clock) :
    Continues reauth w { w.setTask task phase with lookups := w.lookups ++ more } := by
  have aside : Continues reauth w { w with lookups := w.lookups ++ more } := by
    refine continues_aside sound (le_refl _) rfl rfl rfl
      (fun lookup mem => List.mem_append_left _ mem) ?_ (fun _ mem => mem)
      fun _ mem => .inl mem
    intro lookup mem
    exact (List.mem_append.mp mem).imp_right (now lookup)
  refine continues_set aside found running rfl rfl rfl ?_ ends
  cases phase <;> exact phaseSound

theorem continues_phase (sound : Sound reauth w)
    (found : w.tasks[task]? = some pre) (running : pre.isDone = false)
    (phaseSound : w.PhaseSound phase)
    (ends : ∀ sids listedAt notedAt, phase = .noted sids listedAt notedAt →
      notedAt = w.clock) : Continues reauth w (w.setTask task phase) := by
  refine continues_set (continues_refl sound) found running rfl rfl rfl ?_ ends
  cases phase <;> exact phaseSound

end Moves

section Requests

/-- What a request leaves of the epochs: the old ones, and that of the session it registers. -/
structure Entered (hub : CameraLiveUpdates Index Data) (req : LiveRequest Index)
    (sessions : Dict UUID Nat) (epochs : Dict UUID (Int × Int)) : Prop where
  entries : ∀ sessionId epoch, epochs.get sessionId = some epoch →
    hub.authorizationEpochs.get sessionId = some epoch ∨
      entering req = some (sessionId, epoch.1, epoch.2)
  registered : ∀ sessionId, epochs.get sessionId ≠ none → sessions.get sessionId ≠ none

variable {hub : CameraLiveUpdates Index Data} {req : LiveRequest Index}

theorem entered_droppable : Droppable (Entered hub req) where
  drop sessions epochs sessionId entered := by
    constructor
    · intro other epoch found
      rw [get_pop] at found
      split_ifs at found
      exact entered.entries other epoch found
    · intro other found
      rw [get_pop] at found ⊢
      split_ifs at found ⊢
      · exact (found rfl).elim
      · exact entered.registered other found
  clear := ⟨fun _ _ found => (nomatch found), fun _ found => (found rfl).elim⟩

theorem entered_set {version time : Int} {sessions : Dict UUID Nat} {epochs : Dict UUID (Int × Int)}
    {handle : Nat} (enters : entering req = some (sessionId, version, time))
    (entered : Entered hub req sessions epochs) :
    Entered hub req (sessions.set sessionId handle) (epochs.set sessionId (version, time)) := by
  constructor
  · intro other epoch found
    rw [get_set] at found
    split_ifs at found with same
    · cases found
      exact .inr (same ▸ enters)
    · exact entered.entries other epoch found
  · intro other found
    rw [get_set] at found ⊢
    split_ifs at found ⊢
    · exact Option.some_ne_none _
    · exact entered.registered other found

theorem request_entered [DecidableEq Data] (sound : Sound reauth w)
    (registersOnly : RegistersOnly req) :
    Registers (Entered w.hub req) (after cfg w.hub req) :=
  request_registers entered_droppable registersOnly
    (fun _ _ _ enters _ _ _ entered => entered_set enters entered)
    ⟨fun _ _ found => .inl found, sound.registered⟩

theorem continues_request [DecidableEq Data] {lookup : Nat} (sound : Sound reauth w)
    (possible : w.Possible (.request req lookup)) :
    Continues reauth w
      (w.next cfg reauth (.request req lookup)) := by
  have entered : Registers (Entered w.hub req) (after cfg w.hub req) :=
    request_entered sound possible.1
  refine
    { clock := le_refl _
      notes := fun _ mem => List.mem_append_left _ mem
      lookups := fun _ mem => mem
      looked := sound.looked
      registered := entered.registered
      entries := ?_
      count := le_refl _
      ended := fun _ _ _ _ found => found
      phases := fun _ _ found => .inl found
      checks := fun _ mem => .inl mem
      reports := fun _ mem => .inl mem }
  intro sessionId version time found _
  by_cases pre : w.hub.authorizationEpochs.get sessionId = some (version, time)
  · exact .inl pre
  have enters := (entered.entries sessionId (version, time) found).resolve_left pre
  obtain ⟨now, lookedUp, isLookup, isSession, isVersion⟩ :=
    possible.2 sessionId version time enters
  have mem := List.mem_of_getElem? isLookup
  have noted : w.notedBy (after cfg w.hub req) req lookup =
      [⟨sessionId, version, lookedUp.time, w.clock⟩] := by
    simp only [notedBy, enters, isLookup]
    exact if_pos ⟨pre, found⟩
  refine .inr ⟨⟨⟨sessionId, version, lookedUp.time, w.clock⟩, ?_, rfl, rfl, le_refl _,
    sound.looked lookedUp mem, lookedUp, mem, isSession, isVersion, rfl⟩, now.le⟩
  exact List.mem_append_right _ (noted ▸ List.mem_singleton_self _)

end Requests

section Refreshing

variable {hub : CameraLiveUpdates Index Data}

theorem mem_listed_sessions (registered : hub.sessionSubscriptions.get sessionId ≠ none) :
    sessionId ∈ listedSessions hub := by
  obtain ⟨handle, found⟩ := Option.ne_none_iff_exists'.mp registered
  exact (List.mem_insertionSort _).mpr
    (List.mem_map_of_mem (get_eq_some.mp found))

theorem listed_sound (sound : Sound reauth w) :
    w.ListedBy (listedSessions w.hub) w.clock := by
  refine ⟨le_refl _, fun sessionId absent version time found => ?_⟩
  have registered := sound.registered sessionId (found ▸ Option.some_ne_none _)
  exact (absent (mem_listed_sessions registered)).elim

theorem continues_list [DecidableEq Data] (sound : Sound reauth w) :
    Continues reauth w (w.next cfg reauth (.list task)) := by
  have listed := listed_sound sound
  unfold next
  dsimp only
  split
  · rename_i found
    split_ifs with empty
    · rw [empty] at listed
      refine continues_phase sound found rfl ⟨listed, le_refl _, fun _ mem => (nomatch mem)⟩ ?_
      intro _ _ _ same
      cases same
      rfl
    · exact continues_phase sound found rfl listed fun _ _ _ same => (nomatch same)
  · exact continues_refl sound

theorem authorize_sessions_current {store : UUID → Option Int} {version : Int}
    (found : (authorizeSessions store sids).get sessionId = some version) :
    sessionId ∈ sids ∧ store sessionId = some version := by
  induction sids with
  | nil => cases found
  | cons first rest ih =>
    rw [authorizeSessions] at found
    cases isStored : store first with
    | none =>
      simp only [isStored] at found
      exact (ih found).imp_left (List.mem_cons_of_mem _)
    | some stored =>
      simp only [isStored] at found
      rw [get_set] at found
      split_ifs at found with same
      · cases found
        subst same
        exact ⟨List.mem_cons_self, isStored⟩
      · exact (ih found).imp_left (List.mem_cons_of_mem _)

variable (sound : Sound reauth w)

include sound

theorem continues_look [DecidableEq Data] :
    Continues reauth w (w.next cfg reauth (.look task)) := by
  unfold next
  dsimp only
  split
  · rename_i sids listedAt found
    have listed := sound.phases task _ found
    refine continues_task sound found rfl ?_ ⟨listed_more listed, le_refl _, ?_⟩
      fun _ _ _ same => (nomatch same)
    · intro lookup mem
      obtain ⟨sessionId, _, isLookup⟩ := List.mem_filterMap.mp mem
      obtain ⟨version, _, rfl⟩ := Option.map_eq_some_iff.mp isLookup
      exact le_refl _
    · intro sessionId version isCurrent
      obtain ⟨mem, stored⟩ := authorize_sessions_current isCurrent
      refine ⟨⟨sessionId, version, w.clock⟩, List.mem_append_right _ ?_, rfl, rfl, rfl⟩
      exact List.mem_filterMap.mpr ⟨sessionId, mem, by rw [stored]; rfl⟩
  · exact continues_refl sound

theorem continues_fail [DecidableEq Data] :
    Continues reauth w (w.next cfg reauth (.fail task)) := by
  have nothing : w.LookedUp .empty w.clock :=
    ⟨le_refl _, fun _ _ found => (nomatch found)⟩
  unfold next
  dsimp only
  split
  · rename_i found
    exact continues_phase sound found rfl ⟨sound.phases task _ found, nothing, le_refl _⟩
      fun _ _ _ same => (nomatch same)
  · rename_i found
    exact continues_phase sound found rfl ⟨(sound.phases task _ found).1, nothing, le_refl _⟩
      fun _ _ _ same => (nomatch same)
  · exact continues_refl sound

theorem continues_deliver [DecidableEq Data] :
    Continues reauth w (w.next cfg reauth (.deliver task)) := by
  unfold next
  dsimp only
  split
  · rename_i found
    obtain ⟨listed, lookedUp⟩ := sound.phases task _ found
    exact continues_phase sound found rfl ⟨listed, lookedUp, le_refl _⟩
      fun _ _ _ same => (nomatch same)
  · exact continues_refl sound

theorem continues_cancel [DecidableEq Data] :
    Continues reauth w (w.next cfg reauth (.cancel task)) := by
  unfold next
  dsimp only
  split
  · rename_i phase found
    split_ifs with isDone
    · exact continues_refl sound
    · exact continues_phase sound found (Bool.eq_false_iff.mpr isDone) trivial
        fun _ _ _ same => (nomatch same)
  · exact continues_refl sound

omit sound

theorem refresh_epochs_sessions {checkedAt : Int} :
    (refreshAuthorizationEpochs sids cur checkedAt hub).2.sessionSubscriptions =
      hub.sessionSubscriptions := by
  have keeps : Keeps (fun left => left.sessionSubscriptions = hub.sessionSubscriptions)
      (refreshAuthorizationEpochs sids cur checkedAt : LiveAction Index Data Unit) := by
    refine keeps_for_each fun sessionId _ => meets_update fun left same => ?_
    split_ifs <;> exact same
  exact keeps hub rfl

theorem refresh_epochs_get {checkedAt : Int} (sessionId : UUID) :
    (refreshAuthorizationEpochs sids cur checkedAt hub).2.authorizationEpochs.get
        sessionId =
      if sessionId ∈ sids ∧ hub.sessionSubscriptions.contains sessionId then
        some ((cur.get sessionId).getD 0, checkedAt)
      else hub.authorizationEpochs.get sessionId := by
  induction sids generalizing hub with
  | nil =>
    rw [if_neg fun listed => (nomatch listed.1)]
    rfl
  | cons first rest ih =>
    have first_step :
        refreshAuthorizationEpochs (first :: rest) cur checkedAt hub =
          refreshAuthorizationEpochs rest cur checkedAt
            (if hub.sessionSubscriptions.contains first then
              { hub with
                authorizationEpochs := hub.authorizationEpochs.set first
                  ((cur.get first).getD 0, checkedAt) }
            else hub) := rfl
    rw [first_step, ih]
    by_cases isRegistered : hub.sessionSubscriptions.contains first
    · simp only [isRegistered, if_true, get_set]
      by_cases same : sessionId = first
      · subst same
        simp [isRegistered]
      · simp [same]
    · simp only [isRegistered]
      by_cases same : sessionId = first
      · subst same
        simp [isRegistered]
      · simp [same]

theorem refresh_backed {readAt : Int} {version : Int} (lookedUp : w.LookedUp cur readAt)
    (mem : sessionId ∈ sids) (isRegistered : w.hub.sessionSubscriptions.contains sessionId)
    (isVersion : (cur.get sessionId).getD 0 = version) (positive : 1 ≤ version)
    (hub : CameraLiveUpdates Index Data) (tasks : List RefreshPhase) :
    Backed { w with hub, tasks, notes := w.notes ++ w.notedAll sids cur readAt }
      sessionId version w.clock := by
  have found : cur.get sessionId = some version := by
    cases isCurrent : cur.get sessionId with
    | none =>
      rw [isCurrent, Option.getD_none] at isVersion
      omega
    | some stored =>
      rw [isCurrent, Option.getD_some] at isVersion
      rw [isVersion]
  obtain ⟨lookup, isLookup, isSession, sameVersion, isTime⟩ := lookedUp.2 sessionId version found
  refine ⟨⟨sessionId, (cur.get sessionId).getD 0, readAt, w.clock⟩, ?_, rfl, isVersion,
    le_refl _, lookedUp.1, lookup, isLookup, isSession, sameVersion, isTime⟩
  exact List.mem_append_right _ (List.mem_map_of_mem (List.mem_filter.mpr ⟨mem, isRegistered⟩))

theorem continues_note [DecidableEq Data] (sound : Sound reauth w) :
    Continues reauth w (w.next cfg reauth (.note task)) := by
  unfold next
  dsimp only
  split
  case h_2 => exact continues_refl sound
  rename_i sids listedAt cur readAt checkedAt found
  obtain ⟨listed, lookedUp, early⟩ := sound.phases task _ found
  have noted : Continues reauth w
      { w with
        hub := (refreshAuthorizationEpochs sids cur checkedAt w.hub).2
        notes := w.notes ++ w.notedAll sids cur readAt } := by
    refine
      { clock := le_refl _
        notes := fun _ mem => List.mem_append_left _ mem
        lookups := fun _ mem => mem
        looked := sound.looked
        registered := ?_
        entries := ?_
        count := le_refl _
        ended := fun _ _ _ _ found => found
        phases := fun _ _ found => .inl found
        checks := fun _ mem => .inl mem
        reports := fun _ mem => .inl mem }
    · intro sessionId
      rw [refresh_epochs_get, refresh_epochs_sessions]
      split_ifs with isNoted
      · exact fun _ missing => by simp [contains, missing] at isNoted
      · exact sound.registered sessionId
    · intro sessionId version time isEntry positive
      rw [refresh_epochs_get] at isEntry
      split_ifs at isEntry with isNoted
      · cases isEntry
        exact .inr ⟨refresh_backed lookedUp isNoted.1 isNoted.2 rfl positive _ _, early⟩
      · exact .inl isEntry
  have stillListed := listed_continues noted listed
  refine continues_set noted found rfl rfl rfl rfl ?_ ?_
  · refine ⟨stillListed, le_refl _, ?_⟩
    intro sessionId mem version time isEntry positive
    have registered := noted.registered sessionId (isEntry ▸ Option.some_ne_none _)
    rw [refresh_epochs_sessions] at registered
    have isRegistered : w.hub.sessionSubscriptions.contains sessionId :=
      Option.isSome_iff_ne_none.mpr registered
    rw [setTask, refresh_epochs_get, if_pos ⟨mem, isRegistered⟩] at isEntry
    cases isEntry
    exact refresh_backed lookedUp mem isRegistered rfl positive _ _
  · intro _ _ _ same
    cases same
    rfl

end Refreshing

section Checks

theorem join_refresh_running (tasks : List RefreshPhase) :
    ((joinRefresh tasks).1 = tasks ∨ (joinRefresh tasks).1 = tasks ++ [.started]) ∧
      ∃ phase, (joinRefresh tasks).1[(joinRefresh tasks).2]? = some phase ∧
        phase.isDone = false := by
  rw [joinRefresh]
  cases isLast : tasks.getLast? with
  | none =>
    rw [List.getLast?_eq_none_iff.mp isLast]
    exact ⟨.inr rfl, .started, rfl, rfl⟩
  | some last =>
    dsimp only
    split_ifs with isDone
    · exact ⟨.inr rfl, .started, List.getElem?_concat_length, rfl⟩
    · rw [List.getLast?_eq_getElem?] at isLast
      exact ⟨.inl rfl, last, isLast, Bool.eq_false_iff.mpr isDone⟩

theorem continues_begin [DecidableEq Data] {expected : Int} (sound : Sound reauth w)
    (possible : 1 ≤ expected) :
    Continues reauth w (w.next cfg reauth (.begin sessionId expected)) := by
  rw [next]
  split_ifs with recent
  · refine continues_aside sound (le_refl _) rfl rfl rfl (fun _ mem => mem)
      (fun _ mem => .inl mem) (fun _ mem => mem) ?_
    intro report mem
    rcases List.mem_append.mp mem with pre | isNew
    · exact .inl pre
    refine .inr (.inr ?_)
    rw [List.mem_singleton.mp isNew]
    rw [recentlyChecked] at recent
    split at recent
    · cases recent
    · rename_i version observedAt found
      obtain ⟨rfl, young⟩ := of_decide_eq_true recent
      refine backed_grows (sound.backed sessionId version observedAt found possible) ?_
        (fun _ mem => mem) fun _ mem => mem
      dsimp only
      omega
  · obtain ⟨started, phase, isPhase, running⟩ := join_refresh_running w.tasks
    dsimp only
    refine
      { clock := le_refl _
        notes := fun _ mem => mem
        lookups := fun _ mem => mem
        looked := sound.looked
        registered := sound.registered
        entries := fun _ _ _ found _ => .inl found
        count := ?_
        ended := ?_
        phases := ?_
        checks := ?_
        reports := fun _ mem => .inl mem }
    · rcases started with same | more
      · rw [same]
      · rw [more, List.length_append]
        exact Nat.le_add_right _ _
    · intro task sids listedAt notedAt found
      rcases started with same | more
      · rw [same]
        exact found
      · rw [more, List.getElem?_append_left (List.getElem?_eq_some_iff.mp found).1]
        exact found
    · intro task phase found
      rcases started with same | more
      · exact .inl (same ▸ found)
      rw [more] at found
      by_cases old : task < w.tasks.length
      · rw [List.getElem?_append_left old] at found
        exact .inl found
      · rw [List.getElem?_append_right (not_lt.mp old)] at found
        have isStarted := List.mem_singleton.mp (List.mem_of_getElem? found)
        rw [isStarted]
        exact .inr ⟨trivial, fun _ _ _ same => (nomatch same)⟩
    · intro check mem
      rcases List.mem_append.mp mem with pre | isNew
      · exact .inl pre
      rw [List.mem_singleton.mp isNew]
      refine .inr ⟨possible, rfl, (List.getElem?_eq_some_iff.mp isPhase).1, ?_⟩
      intro sids listedAt notedAt found
      rw [isPhase] at found
      cases found
      cases running

theorem continues_dropped {check : Nat} (sound : Sound reauth w) :
    Continues reauth w { w with checks := w.checks.eraseIdx check } :=
  continues_aside sound (le_refl _) rfl rfl rfl (fun _ mem => mem)
    (fun _ mem => .inl mem) (fun _ mem => List.mem_of_mem_eraseIdx mem)
    fun _ mem => .inl mem

theorem waited_justified {check : WaitingCheck} {listedAt notedAt : Int}
    (sound : Sound reauth w) (positive : 0 < reauth) (mem : check ∈ w.checks)
    (found : w.tasks[check.task]? = some (.noted sids listedAt notedAt))
    (cur : observedCurrent w.hub check.sessionId check.expected) :
    w.Overlooked ⟨check.sessionId, check.expected, check.began, some check.task⟩ ∨
      w.Backed check.sessionId check.expected (check.began - reauth) := by
  obtain ⟨possible, _, _, late⟩ := sound.checks check mem
  have began := late sids listedAt notedAt found
  obtain ⟨listed, _, noted⟩ := sound.phases check.task _ found
  have backs : ∀ bound, w.Vouched check.sessionId bound → check.began ≤ bound →
      w.Backed check.sessionId check.expected (check.began - reauth) := by
    intro bound vouched isLate
    rw [observedCurrent] at cur
    split at cur
    · cases cur
    · rename_i version time isEntry
      have isVersion := of_decide_eq_true cur
      rw [← isVersion] at possible ⊢
      exact backed_grows (vouched version time isEntry possible) (by omega)
        (fun _ mem => mem) fun _ mem => mem
  by_cases isListed : check.sessionId ∈ sids
  · exact .inr (backs notedAt (noted _ isListed) began)
  by_cases early : listedAt < check.began
  · exact .inl ⟨check.task, sids, listedAt, notedAt, rfl, found, isListed, early⟩
  · exact .inr (backs listedAt (listed.2 _ isListed) (not_lt.mp early))

theorem continues_resume [DecidableEq Data] {check : Nat} (sound : Sound reauth w)
    (positive : 0 < reauth) :
    Continues reauth w (w.next cfg reauth (.resume check)) := by
  rw [next]
  cases isCheck : w.checks[check]? with
  | none => exact continues_refl sound
  | some waiting =>
    dsimp only
    split
    · rename_i found
      split_ifs with cur
      · refine continues_aside sound (le_refl _) rfl rfl rfl (fun _ mem => mem)
          (fun _ mem => .inl mem) (fun _ mem => List.mem_of_mem_eraseIdx mem) ?_
        intro report mem
        rcases List.mem_append.mp mem with pre | isNew
        · exact .inl pre
        · have justified := waited_justified sound positive (List.mem_of_getElem? isCheck) found cur
          rw [List.mem_singleton.mp isNew]
          exact .inr justified
      · exact continues_dropped sound
    · exact continues_dropped sound
    · exact continues_refl sound

end Checks

section Runs

theorem continues_next [DecidableEq Data] (sound : Sound reauth w)
    (positive : 0 < reauth) (move : AuthorizationMove Index) (possible : w.Possible move) :
    Continues reauth w (w.next cfg reauth move) := by
  have same : ∀ lookup ∈ w.lookups, lookup ∈ w.lookups ∨ lookup.time ≤ w.clock :=
    fun _ mem => .inl mem
  cases move with
  | tick elapsed =>
    exact continues_aside sound (le_add_of_nonneg_right (Int.natCast_nonneg _)) rfl rfl rfl
      (fun _ mem => mem) (fun _ mem => .inl mem) (fun _ mem => mem)
      fun _ mem => .inl mem
  | change =>
    exact continues_aside sound (le_refl _) rfl rfl rfl (fun _ mem => mem) same
      (fun _ mem => mem) fun _ mem => .inl mem
  | authorize sessionId =>
    rw [next]
    cases w.store sessionId with
    | none => exact continues_refl sound
    | some version =>
      refine continues_aside sound (le_refl _) rfl rfl rfl
        (fun _ mem => List.mem_append_left _ mem) ?_ (fun _ mem => mem)
        fun _ mem => .inl mem
      intro lookup mem
      rcases List.mem_append.mp mem with pre | isNew
      · exact .inl pre
      · rw [List.mem_singleton.mp isNew]
        exact .inr (le_refl _)
  | request => exact continues_request sound possible
  | begin => exact continues_begin sound possible
  | list => exact continues_list sound
  | look => exact continues_look sound
  | fail => exact continues_fail sound
  | deliver => exact continues_deliver sound
  | note => exact continues_note sound
  | cancel => exact continues_cancel sound
  | resume => exact continues_resume sound positive
  | expire => exact continues_dropped sound

theorem start_sound : Sound reauth ({} : AuthorizationWorld Index Data) where
  looked _ mem := (nomatch mem)
  registered _ found := (found rfl).elim
  backed _ _ _ found _ := (nomatch found)
  phases _ _ found := by simp at found
  checks _ mem := (nomatch mem)
  reports _ mem := (nomatch mem)

theorem reaches_sound [DecidableEq Data] (positive : 0 < reauth)
    (reached : Reaches cfg reauth w) : Sound reauth w := by
  induction reached with
  | start => exact start_sound
  | step _ move possible ih => exact sound_continues ih (continues_next ih positive move possible)

/-- A session that a check found authorized was noted by the hub with the expected version, at most
`reauthorize_seconds` before the check began, after it had been looked up; or the check waited for a
refresh that had fixed its list, without the session, before the check began. -/
theorem reported_authorization_noted [DecidableEq Data] (positive : 0 < reauth)
    (reached : Reaches cfg reauth w) :
    ∀ report ∈ w.reports, w.Overlooked report ∨
      w.Backed report.sessionId report.expected (report.began - reauth) :=
  (reaches_sound positive reached).reports

theorem reaches_moves [DecidableEq Data] {moves : List (AuthorizationMove Index)}
    (reached : Reaches cfg reauth w)
    (possible : ∀ move ∈ moves, ∀ w : AuthorizationWorld Index Data, w.Possible move) :
    Reaches cfg reauth (moves.foldl (next cfg reauth) w) := by
  induction moves generalizing w with
  | nil => exact reached
  | cons move rest ih =>
    exact ih (.step reached move (possible move List.mem_cons_self w))
      fun later mem => possible later (List.mem_cons_of_mem move mem)

end Runs

section LateNote

/-- The session is created, looked up and opens a subscription. -/
def registered : AuthorizationWorld Unit Unit :=
  ((({} : AuthorizationWorld Unit Unit).next sampleSettings 1000
    (.change sampleSession (some 1))).next sampleSettings 1000
    (.authorize sampleSession)).next sampleSettings 1000
    (.request (openSample 0x40008000000000000007 (by decide)) 0)

/-- The session is revoked right after the lookup of a refresh, which takes 200 ms to return. -/
def lateNote : AuthorizationWorld Unit Unit :=
  [.tick 1000, .begin sampleSession 1, .list 0, .look 0, .change sampleSession none, .tick 200,
    .deliver 0, .note 0, .resume 0, .tick 950,
    .begin sampleSession 1].foldl (next sampleSettings 1000) registered

theorem late_note_reaches : Reaches sampleSettings 1000 lateNote := by
  have opens : Reaches sampleSettings 1000 registered := by
    refine .step (.step (.step .start (.change sampleSession (some 1)) trivial)
      (.authorize sampleSession) trivial)
      (.request (openSample 0x40008000000000000007 (by decide)) 0) ⟨trivial, ?_⟩
    intro sessionId version time enters
    have isEntering : entering (openSample 0x40008000000000000007 (by decide)) =
        some (sampleSession, 1, 0) := rfl
    rw [isEntering] at enters
    cases enters
    exact ⟨rfl, ⟨sampleSession, 1, 0⟩, rfl, rfl, rfl⟩
  refine reaches_moves opens fun move mem w => ?_
  simp only [List.mem_cons, List.not_mem_nil, or_false] at mem
  rcases mem with rfl | rfl | rfl | rfl | rfl | rfl | rfl | rfl | rfl | rfl | rfl <;>
    first | exact trivial | exact le_refl _

/-- The check reports a session authorized whose lookups are all older. -/
theorem authorized_by_older_lookup :
    ∃ w : AuthorizationWorld Unit Unit, Reaches sampleSettings 1000 w ∧
      ∃ report ∈ w.reports, ∀ lookup ∈ w.lookups,
        lookup.sessionId = report.sessionId → lookup.time < report.began - 1000 := by
  have reports : lateNote.reports.any (fun report => decide (report.began = 2150)) = true := by
    decide +kernel
  have lookups : lateNote.lookups.all (fun lookup => decide (lookup.time ≤ 1000)) = true := by
    decide +kernel
  obtain ⟨report, mem, began⟩ := List.any_eq_true.mp reports
  refine ⟨lateNote, late_note_reaches, report, mem, fun lookup isLookup _ => ?_⟩
  have old := of_decide_eq_true (List.all_eq_true.mp lookups lookup isLookup)
  rw [of_decide_eq_true began]
  omega

theorem reported_authorization_noted_late :
    lateNote.reports ≠ [] ∧ ∀ report ∈ lateNote.reports, lateNote.Overlooked report ∨
      lateNote.Backed report.sessionId report.expected (report.began - 1000) := by
  refine ⟨?_, reported_authorization_noted (by decide) late_note_reaches⟩
  have some : lateNote.reports.isEmpty = false := by decide +kernel
  exact List.isEmpty_eq_false_iff.mp some

end LateNote

end AuthorizationWorld

end RtspProxy.Live
