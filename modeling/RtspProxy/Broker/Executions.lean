import RtspProxy.Broker.Safety

/-!
# A probe never runs unguarded

Any number of threads run `execute`, `retry_pending_cleanup` and
`reconcile_startup`, in any order and with any collaborator failing. In every
state reached, and in every step from there, the resources of a record come and
go in the one safe order: the run gate opens only under the exact guard and
while the unit is held, the guard outlasts the unit, the channels and the sealed
input outlast both, and a record leaves the table when nothing is left of it.
-/

namespace RtspProxy.Broker

open Nodes Probes Lib Lib.Program Lib.Program.Prog ProbeExecutionBroker

abbrev BrokerState := SystemState Call Answer Failure Unit World

def task {Result : Type} (prog : Program Result) : Program Unit := prog.andThen fun _ => pure ()

inductive BrokerTask : Program Unit → Prop
  | execute (received : ReceivedProbeInput) (timeout : Rat)
      (cancelled : Option (Program Bool)) (reads : ReadsOnly cancelled) :
      BrokerTask (task (execute received timeout cancelled))
  | retryPendingCleanup (timeout : Rat) :
      BrokerTask (task (retryPendingCleanup timeout))
  | reconcileStartup (timeout : Rat) :
      BrokerTask (task (reconcileStartup timeout))

def InCall (st : BrokerState) (tid : Nat) (req : Call) : Prop :=
  ∃ next, st.threads tid = some (.call req next)

/-- A step gives nothing up before its turn. -/
structure OrderedStep (pre post : World) : Prop where
  /-- The run gate opens under the exact guard of the request, while the unit is held. -/
  gate : ∀ record < pre.allocated, (pre.records record).gateReleased = false →
    (post.records record).gateReleased = true →
      (pre.records record).guard = some (pre.records record).guardLease ∧
        (pre.records record).guardLive = true ∧
        ∃ jobPath, (pre.records record).systemd = some ((pre.records record).unitLease jobPath)
  /-- The guard goes after the unit. -/
  guard : ∀ record < pre.allocated,
    (pre.records record).guard ≠ none ∧ (post.records record).guard = none ∨
      (pre.records record).guardLive = true ∧ (post.records record).guardLive = false →
        (pre.records record).systemd = none ∧ (pre.records record).unitLive = false
  /-- The channels go after both. -/
  channels : ∀ record < pre.allocated, (pre.records record).channels ≠ none →
    (post.records record).channels = none →
      (pre.records record).systemd = none ∧ (pre.records record).guard = none
  /-- The sealed input counts as closed after all of these, and when it is. -/
  input : ∀ record < pre.allocated, (pre.records record).receivedClosed = false →
    (post.records record).receivedClosed = true → (pre.records record).slotsEmpty = true ∧
        pre.closed (pre.records record).received.handle = true
  leaving : ∀ record, pre.Active record → ¬post.Active record →
    (pre.records record).collected = true
  /-- An execution starts only after the last recovery reported nothing unresolved. -/
  entering : ∀ record < pre.allocated, ¬pre.Active record → post.Active record →
    pre.recoveryReady = true ∧ pre.unitsReport = some 0 ∧ pre.guardsReport = some 0

structure GuardedState (st : BrokerState) : Prop where
  guarded : ∀ record < st.world.allocated, (st.world.records record).gateReleased = true →
    (st.world.records record).unitLive = true → (st.world.records record).guardLive = true
  oneRecord : ∀ record other, st.world.Active record → st.world.Active other →
    (st.world.records record).requestId = (st.world.records other).requestId → record = other
  room : st.world.active.length ≤ 128
  closesChannels : ∀ tid record channels, InCall st tid (.closeChannels record channels) →
    (st.world.records record).systemd = none ∧ (st.world.records record).guard = none
  closesInput : ∀ tid record, InCall st tid (.closeReceived record) →
    (st.world.records record).slotsEmpty = true
  recovery : ∀ tid, InCall st tid .reconcileUnits ∨ InCall st tid .reconcileGuards →
    st.world.recoveryReady = false ∧ ∀ record, ¬st.world.Active record

theorem ordered_idle (w : World) : OrderedStep w w := by
  constructor
  case gate =>
    intro rec _ shut isOpen
    rw [shut] at isOpen
    cases isOpen
  case guard =>
    rintro rec _ (⟨held, released⟩ | ⟨live, gone⟩)
    · exact absurd released held
    · rw [live] at gone
      cases gone
  case channels =>
    intro rec _ held released
    exact absurd released held
  case input =>
    intro rec _ isOpen isClosed
    rw [isOpen] at isClosed
    cases isClosed
  case leaving =>
    intro rec isActive gone
    exact absurd isActive gone
  case entering =>
    intro rec _ outside isActive
    exact absurd isActive outside

variable {post : World}

theorem ordered_same {pre : World}
    (sameRecords : ∀ rec < pre.allocated, post.records rec = pre.records rec)
    (sameActive : ∀ rec < pre.allocated, post.Active rec ↔ pre.Active rec)
    (keyed : ∀ rec, pre.Active rec → rec < pre.allocated) :
    OrderedStep pre post := by
  have idle := ordered_idle pre
  constructor
  case gate =>
    intro rec present
    rw [sameRecords rec present]
    exact idle.gate rec present
  case guard =>
    intro rec present
    rw [sameRecords rec present]
    exact idle.guard rec present
  case channels =>
    intro rec present
    rw [sameRecords rec present]
    exact idle.channels rec present
  case input =>
    intro rec present
    rw [sameRecords rec present]
    exact idle.input rec present
  case leaving =>
    intro rec isActive gone
    exact absurd ((sameActive rec (keyed rec isActive)).mpr isActive) gone
  case entering =>
    intro rec present outside isActive
    exact absurd ((sameActive rec present).mp isActive) outside

variable {w : World}

theorem ordered_change {rec : Nat} {own : ExecutionOwnership}
    (sound : (w.records rec).Sound w.closed (w.Active rec))
    (step : RecordStep w.closed (w.Active rec) (w.records rec) own) :
    OrderedStep w (w.put rec own) := by
  have idle := ordered_idle w
  constructor
  case gate =>
    intro other present
    by_cases isRecord : other = rec
    · subst isRecord
      rw [put_records_self]
      intro shut isOpen
      cases step with
      | releaseGate unit guarded live =>
        obtain ⟨lease, isLease⟩ := Option.ne_none_iff_exists'.mp unit
        obtain ⟨jobPath, isExact⟩ := sound.exactUnit lease isLease
        exact ⟨guarded, live, jobPath, isLease.trans (congrArg some isExact)⟩
      | _ => exact (Bool.false_ne_true (shut.symm.trans isOpen)).elim
    · rw [put_records_ne isRecord]
      exact idle.gate other present
  case guard =>
    intro other present
    by_cases isRecord : other = rec
    · subst isRecord
      rw [put_records_self]
      intro released
      cases step with
      | releaseGuard noUnit =>
        refine ⟨noUnit, ?_⟩
        by_contra live
        exact sound.unit (by simpa using live) noUnit
      | publishGuard => simp at released
      | _ => exact idle.guard other present released
    · rw [put_records_ne isRecord]
      exact idle.guard other present
  case channels =>
    intro other present
    by_cases isRecord : other = rec
    · subst isRecord
      rw [put_records_self]
      intro held released
      cases step with
      | releaseChannels noUnit noGuard => exact ⟨noUnit, noGuard⟩
      | publishChannels => cases released
      | _ => exact absurd released held
    · rw [put_records_ne isRecord]
      exact idle.channels other present
  case input =>
    intro other present
    by_cases isRecord : other = rec
    · subst isRecord
      rw [put_records_self]
      intro isOpen isClosed
      cases step with
      | markClosed empty closed resting => exact ⟨empty, closed⟩
      | _ => exact (Bool.false_ne_true (isOpen.symm.trans isClosed)).elim
    · rw [put_records_ne isRecord]
      exact idle.input other present
  case leaving =>
    intro other isActive gone
    exact absurd ((active_put step.origin.1).mpr isActive) gone
  case entering =>
    intro other _ outside isActive
    exact absurd ((active_put step.origin.1).mp isActive) outside

variable {tid : Nat} {calm : Prop}

theorem step_ordered {pre : World}
    (inv : Invariant calm pre) (step : BrokerStep calm tid pre post) :
    OrderedStep pre post := by
  have present (rec : Nat) (isActive : pre.Active rec) : rec < pre.allocated :=
    (inv.keyed _ rec isActive).1
  have same (sameRecords : post.records = pre.records) (sameTable : post.active = pre.active) :
      OrderedStep pre post := by
    refine ordered_same (fun rec _ => congrFun sameRecords rec) ?_ present
    intro rec _
    unfold World.Active
    rw [sameRecords]
    unfold World.Owns
    rw [sameTable]
  cases step with
  | allocate received held =>
    exact ordered_same (fun rec => allocate_old) (fun rec => allocate_active_old) present
  | enter rec locks own ready free room executing unclosed booked =>
    refine { ordered_idle pre with leaving := ?_, entering := ?_ }
    · intro other isActive gone
      exact absurd ((active_set free).mpr (.inr isActive)) gone
    · intro other _ _ _
      exact ⟨ready, inv.ready ready⟩
  | change rec locks ownership step =>
    exact ordered_change (inv.records rec locks.1) step
  | lock rec isPresent free =>
    exact ordered_change (inv.records rec isPresent) (.relock (some tid))
  | leave rec locks isActive collected =>
    refine { ordered_idle pre with leaving := ?_, entering := ?_ }
    · intro other wasActive gone
      by_cases isRecord : other = rec
      · rw [isRecord]
        exact collected
      · exact absurd ((active_pop isActive).mpr ⟨isRecord, wasActive⟩) gone
    · intro other _ outside stillActive
      exact absurd ((active_pop isActive).mp stillActive).2 outside
  | _ => exact same rfl rfl

theorem task_safe {Result : Type} {prog : Program Result}
    (safe : SafeAmong (protocol calm) tid (fun _ _ => True) prog w) :
    SafeAmong (protocol calm) tid (fun _ _ => True) (task prog) w :=
  safe_and_then safe fun _ _ _ => trivial

theorem broker_task_safe (tid : Nat) (w : World) (prog : Program Unit)
    (isTask : BrokerTask prog) :
    SafeAmong (protocol False) tid (fun _ _ => True) prog w := by
  cases isTask with
  | execute received timeout cancelled reads =>
    exact task_safe (execute_safe reads False.elim)
  | retryPendingCleanup timeout => exact task_safe retry_safe
  | reconcileStartup timeout => exact task_safe reconcile_startup_safe

theorem guarded_state {st : BrokerState} (safe : AllSafe (protocol calm) st) : GuardedState st := by
  have inv : Invariant calm st.world := safe.1
  have permits {tid : Nat} {req : Call} (inCall : InCall st tid req) :
      Permitted calm tid st.world req := by
    obtain ⟨next, at_⟩ := inCall
    exact all_safe_permits safe at_
  constructor
  case guarded => exact fun rec present => (inv.records rec present).guarded
  case oneRecord =>
    intro rec other isActive otherActive sameId
    unfold World.Active World.Owns at isActive otherActive
    rw [sameId, otherActive] at isActive
    exact (Option.some.inj isActive).symm
  case room => exact inv.room
  case closesChannels => exact fun tid rec channels inCall => (permits inCall).2
  case closesInput => exact fun tid rec inCall => (permits inCall).2
  case recovery =>
    rintro tid inCall
    have recovering : st.world.recoveryLock = some tid ∧ st.world.recoveryReady = false ∧
        st.world.active.length = 0 := by
      rcases inCall with units | guards
      · exact permits units
      · exact permits guards
    refine ⟨recovering.2.1, ?_⟩
    intro rec isActive
    have mem := Dict.get_eq_some.mp isActive
    have empty : st.world.active.items = [] := List.eq_nil_of_length_eq_zero recovering.2.2
    rw [empty] at mem
    cases mem

/-- No interleaving and no failing collaborator lets a probe run unguarded, a guard leave before
its unit, or a record leave the table before everything it owned. -/
theorem broker_keeps_probes_guarded {st : BrokerState}
    (reached : SystemReachable (machine False) BrokerTask Fresh st) :
    GuardedState st ∧ ∀ next, SystemStep (machine False) BrokerTask st next →
      OrderedStep st.world next.world := by
  have safe : AllSafe (protocol False) st :=
    all_safe_reachable (fun _ => fresh_invariant)
      (fun tid w prog isTask _ => broker_task_safe tid w prog isTask) reached
  refine ⟨guarded_state safe, ?_⟩
  intro next step
  obtain same | ⟨actor, effect⟩ := all_safe_effect safe step
  · rw [same]
    exact ordered_idle st.world
  · exact step_ordered safe.1 effect

/-- Whatever the collaborators do, a run of the broker's threads is one of the abstract broker, step
by step with the same threads and worlds. -/
theorem broker_runs_refine {start : World} (fresh : Fresh start) {trace : List (Nat × World)}
    {st : BrokerState} (run : SystemRun (machine False) BrokerTask
      { world := start, threads := fun _ => none } trace st) :
    Traces (BrokerStep False) start trace := by
  refine system_run_traces (protocol False) (fun _ _ => .idle) ?_ (.initial fresh) run
  exact all_safe_reachable (fun _ => fresh_invariant)
    (fun tid w prog isTask _ => broker_task_safe tid w prog isTask)

namespace Sample

def generation : UUID := 0x11111111111141118111111111111111#128

/-- A request for the port at `192.0.2.10`, with half a minute left at time zero. -/
def received (requestId : UUID) (port : Nat) (valid : 1 ≤ port ∧ port ≤ 65535)
    (version : requestId.isVersion4 = true) : ReceivedProbeInput where
  request :=
    { requestId
      endpointGeneration := generation
      target := { address := .v4 0xC000020A#32, port, valid }
      deadlineUnixMs := 30001
      valid := ⟨version, by decide, by decide⟩ }
  handle := port

theorem rtsp_port : 1 ≤ 554 ∧ 554 ≤ 65535 := by decide

def first : ReceivedProbeInput :=
  received 0x22222222222242228222222222222222#128 554 rtsp_port (by decide)

def start : World where
  records _ := { received := first, operationLock := none, owner := 0 }
  allocated := 0
  active := Dict.empty
  recoveryReady := false
  recoveryLock := none
  retryLock := none
  unitsReport := none
  guardsReport := none
  closed _ := false
  activeTargets _ := none
  admissionLock := none
  checkBegan := false
  cleanupFailed := false
  stopping := false

/-- What is chosen for a call: its chance and what a collaborator answers. -/
abbrev Chosen (req : Call) : Type := Chance × Except Failure (Answer req)

def wellBehaved (received : ReceivedProbeInput) : (req : Call) → Chosen req
  | .query .monotonic => ({}, .ok (some 0))
  | .query .wallClockMs => ({}, .ok (some 1))
  | .query .readable => ({}, .ok false)
  | .query .receiveRequest => ({}, .ok received)
  | .query (.closeChildEnds _) | .query (.sendResponse _ _) => ({}, .ok ())
  | .query (.resolveCgroup _) => ({}, .ok "/sys/fs/cgroup")
  | .createOwned _ | .startOwned .. | .installOwned .. | .releaseGate _ | .ensureCollected ..
  | .ensureReleased .. | .closeReceived _ | .closeInput _ => ({ took := true }, .ok ())
  | .closeChannels .. => ({}, .ok ())
  | .reconcileUnits | .reconcileGuards => ({}, .ok 0)
  | _ => ({}, .error .exception)

def performChosen (tid : Nat) (w : World) (req : Call) (chosen : Chosen req) :
    Option (Except Failure (Answer req) × World) :=
  perform tid w chosen.1 req chosen.2

theorem perform_chosen_executes {req : Call}
    {chosen : Chosen req} {ans : Except Failure (Answer req)}
    (acted : performChosen tid w req chosen = some (ans, post)) :
    (machine False).exec tid w req ans post :=
  ⟨False.elim, chosen.1, chosen.2, acted⟩

theorem start_fresh : Fresh start := ⟨rfl, rfl, rfl, rfl, rfl, rfl, fun _ => rfl, rfl, rfl⟩

/-- Recovery, then one execution up to the release of its run gate. -/
def guardedRun : List (Move Call Answer Failure Unit Chosen) :=
  [.start 0 (task (reconcileStartup 10)), .advance 0 9 (wellBehaved first),
    .start 1 (task (execute first 20 none)),
    .advance 1 16 (wellBehaved first)]

theorem guarded_run_plays :
    ((play performChosen guardedRun { world := start, threads := fun _ => none }).map fun st =>
      (st.world.records 0).gateReleased && (st.world.records 0).unitLive) = some true := by
  decide +kernel

theorem guarded_run_allowed (tid : Nat) (prog : Program Unit)
    (mem : Move.start tid prog ∈ guardedRun) : BrokerTask prog := by
  simp only [guardedRun, List.mem_cons, reduceCtorEq, false_or, or_false, List.not_mem_nil,
    Move.start.injEq] at mem
  rcases mem with ⟨_, rfl⟩ | ⟨_, rfl⟩
  · exact .reconcileStartup 10
  · refine .execute first 20 none ?_
    rintro check ⟨⟩

end Sample

open Sample

theorem broker_keeps_probes_guarded_while_one_runs :
    ∃ st : BrokerState, SystemReachable (machine False) BrokerTask Fresh st ∧
      (st.world.records 0).gateReleased = true ∧ (st.world.records 0).unitLive = true ∧
      GuardedState st ∧ ∀ next, SystemStep (machine False) BrokerTask st next →
        OrderedStep st.world next.world := by
  obtain ⟨st, played, isRunning⟩ := Option.map_eq_some_iff.mp guarded_run_plays
  have reached : SystemReachable (machine False) BrokerTask Fresh st :=
    play_reachable perform_chosen_executes guarded_run_allowed
      (.initial start_fresh) played
  obtain ⟨released, live⟩ := Bool.and_eq_true_iff.mp isRunning
  exact ⟨st, reached, released, live, broker_keeps_probes_guarded reached⟩

theorem broker_runs_refine_while_one_runs : ∃ start trace, ∃ st : BrokerState, Fresh start ∧
    SystemRun (machine False) BrokerTask { world := start, threads := fun _ => none } trace st ∧
      (st.world.records 0).unitLive = true ∧ Traces (BrokerStep False) start trace := by
  obtain ⟨st, played, isRunning⟩ := Option.map_eq_some_iff.mp guarded_run_plays
  obtain ⟨start, trace, fresh, run⟩ := reachable_run (play_reachable perform_chosen_executes
    guarded_run_allowed (.initial start_fresh) played)
  exact ⟨start, trace, st, fresh, run, (Bool.and_eq_true_iff.mp isRunning).2,
    broker_runs_refine fresh run⟩

end RtspProxy.Broker
