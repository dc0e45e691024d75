import RtspProxy.Broker.Executions

/-!
# A target belongs to one execution at a time

Connections are served concurrently over one broker. A connection takes its
target under the admission lock and gives it back after it has asked the broker
how many cleanups are unresolved. `ExclusiveStep` says what that is for.

The count looks only at records whose cleanup is pending, so a record that
another thread is just cleaning up is not counted. In the runs of `machine True`
no thread counts while the record of its own connection is in that state, and
there every step is exclusive.
-/

namespace RtspProxy.Broker

open Nodes Probes Lib Lib.Program Lib.Program.Prog Sample
  ProbeExecutionBroker ProbeBrokerService

/-- Nothing is left of the execution: no unit, guard, channel or input. -/
def Gone (w : World) (rec : Nat) : Prop :=
  (w.records rec).slotsEmpty = true ∧ (w.records rec).unitLive = false ∧
    (w.records rec).guardLive = false ∧
    w.closed (w.records rec).received.handle = true

structure ExclusiveStep (pre post : World) : Prop where
  /-- A target is taken when nothing is left of its earlier executions, by a check that began while
  neither a cleanup failure nor a shutdown was known. -/
  admitted : ∀ target, pre.activeTargets target = none → post.activeTargets target ≠ none →
    (∀ rec < pre.allocated, (pre.records rec).target = target → Gone pre rec) ∧
      pre.checkBegan = true
  /-- A target is given back when nothing is left of its executions or admission is closed. -/
  returned : ∀ target, pre.activeTargets target ≠ none → post.activeTargets target = none →
    pre.cleanupFailed = true ∨
      ∀ rec < pre.allocated, (pre.records rec).target = target → Gone pre rec
  /-- Closed is closed for good. -/
  closed : pre.cleanupFailed = true → post.cleanupFailed = true

inductive ServiceTask (settings : Settings) : Program Unit → Prop
  | connection : ServiceTask settings (serveConnection settings)
  | ownedConnection : ServiceTask settings (serveOwnedConnection settings)
  | startup : ServiceTask settings (ProbeBrokerService.reconcileStartup settings)
  | finish : ServiceTask settings (finishServing settings)
  | shutdown : ServiceTask settings (send .requestShutdown)

variable {w : World}

theorem quiet_gone {calm : Prop} {rec : Nat} (inv : Invariant calm w)
    (present : rec < w.allocated) (quiet : Quiet w rec) : Gone w rec := by
  have sound := inv.records rec present
  obtain ⟨_, noUnit, noGuard⟩ := slots_empty_iff.mp quiet.2.1
  refine ⟨quiet.2.1, ?_, ?_, quiet.2.2⟩
  · by_contra live
    exact sound.unit (by simpa using live) noUnit
  · by_contra live
    exact sound.guard (by simpa using live) noGuard

variable {post pre : World}

theorem step_exclusive {tid : Nat} (inv : Invariant True pre)
    (step : BrokerStep True tid pre post) : ExclusiveStep pre post := by
  have held := inv.held trivial
  have same (targets : post.activeTargets = pre.activeTargets)
      (failed : pre.cleanupFailed = true → post.cleanupFailed = true) :
      ExclusiveStep pre post := by
    refine ⟨?_, ?_, failed⟩
    · intro target absent present
      rw [targets] at present
      exact absurd absent present
    · intro target present absent
      rw [targets] at absent
      exact absurd absent present
  cases step with
  | allocate received isHeld =>
    refine ⟨?_, ?_, id⟩
    · intro target absent present
      refine absurd ((if_neg ?_).trans absent) present
      rintro ⟨_, own⟩
      rw [absent] at own
      cases own
    · intro target present absent
      have missing : (if target = received.request.target ∧
          pre.activeTargets target = some { thread := tid } then
          some { thread := tid, record := some pre.allocated } else pre.activeTargets target) = none :=
        absent
      split_ifs at missing
      exact absurd missing present
  | addTarget target own absent clean began =>
    refine ⟨?_, ?_, id⟩
    · intro other isAbsent present
      have isTarget : other = target := by
        by_contra differ
        exact present ((if_neg differ).trans isAbsent)
      refine ⟨?_, began⟩
      intro rec isRecord ofTarget
      rcases held rec isRecord with booked | failed | quiet
      · unfold Booked at booked
        rw [ofTarget, isAbsent] at booked
        cases booked
      · rw [clean] at failed
        cases failed
      · exact quiet_gone inv isRecord quiet
    · intro other present gone
      by_cases isTarget : other = target
      · exact absurd (isTarget ▸ absent) present
      · exact absurd ((if_neg isTarget).symm.trans gone) present
  | discardTarget target holder isHeld own finished =>
    refine ⟨?_, ?_, id⟩
    · intro other absent present
      by_cases isTarget : other = target
      · exact absurd (if_pos isTarget) present
      · exact absurd ((if_neg isTarget).trans absent) present
    · intro other present gone
      have isTarget : other = target := by
        by_contra differ
        exact present ((if_neg differ).symm.trans gone)
      by_cases failed : pre.cleanupFailed = true
      · exact .inl failed
      right
      intro rec isRecord ofTarget
      have quiet : Quiet pre rec := by
        rcases held rec isRecord with booked | hasFailed | quiet
        · unfold Booked at booked
          rw [ofTarget, isTarget, isHeld] at booked
          rcases finished trivial rec (by rw [Option.some.inj booked]) with hasFailed | quiet
          · exact absurd hasFailed failed
          · exact quiet
        · exact absurd hasFailed failed
        · exact quiet
      exact quiet_gone inv isRecord quiet
  | publishFailure free => exact same rfl fun _ => rfl
  | _ => exact same rfl id

/-! ## Calls that give no target back -/

def KeepsTargets : Call → Prop
  | .discardTarget _ => False
  | _ => True

section KeepsTargets

variable {rec : Nat} {req : ProbeBrokerRequest} {timeout deadline : Rat}
  {cancelled : Option (Program Bool)}

variable {Result : Type}

theorem reads_keep_targets {prog : Program Result}
    (only : Only Call.Reads prog) : Only KeepsTargets prog := by
  refine only_weaken only ?_
  intro req reads
  cases req <;> trivial

theorem cleans_keep_targets {prog : Program Result}
    (only : Only Cleans prog) : Only KeepsTargets prog := by
  refine only_weaken only ?_
  intro req cleans
  cases req <;> trivial

theorem stage_keeps_targets {stage : String} {body : Program Result}
    (only : Only KeepsTargets body) : Only KeepsTargets (atStage stage body) :=
  only_handle only fun _ => trivial

theorem attempt_keeps_targets (reads : ReadsOnly cancelled) :
    Only KeepsTargets (attempt req rec timeout cancelled) := by
  have active : Only KeepsTargets (requireActive cancelled) :=
    reads_keep_targets (only_require_active reads)
  have left (deadline : Rat) : Only KeepsTargets (remaining deadline) :=
    reads_keep_targets (only_remaining deadline)
  refine only_bind (stage_keeps_targets ?_) ?_
  · refine only_bind (only_ask trivial) fun _ => only_bind
      (reads_keep_targets (only_execution_deadline req timeout)) fun _ =>
        only_bind active fun _ => only_bind (only_ask trivial) fun _ => only_bind ?_ fun _ => trivial
    refine only_bind (only_ask trivial) ?_
    intro ownership
    cases ownership.channels <;> trivial
  rintro ⟨deadline, channels⟩
  refine only_bind (stage_keeps_targets ?_) fun _ => ?_
  · exact only_bind active fun _ => only_bind (left deadline) fun _ =>
      only_bind (only_ask trivial) fun _ => only_ask trivial
  refine only_bind (stage_keeps_targets ?_) fun _ => ?_
  · exact only_bind active fun _ => only_bind (left deadline) fun _ => only_ask trivial
  refine only_bind (stage_keeps_targets ?_) fun _ => ?_
  · exact only_bind active fun _ => only_bind (left deadline) fun _ =>
      only_bind (only_ask trivial) fun _ =>
        only_bind (reads_keep_targets (only_request_remaining req)) fun _ =>
          only_bind (left deadline) fun _ => trivial
  refine only_bind (stage_keeps_targets ?_) fun _ => ?_
  · refine only_bind active fun _ => only_bind (only_ask trivial) fun _ =>
      only_bind (only_ask trivial) ?_
    intro ownership
    cases ownership.systemd <;> trivial
  refine only_bind (stage_keeps_targets ?_) fun _ => ?_
  · exact only_bind (left deadline) fun _ => only_ask trivial
  exact stage_keeps_targets (only_bind active fun _ =>
    reads_keep_targets (only_decode_result _))

theorem raise_failures_keeps_targets {primary : Option Failure} {cleanup : List Failure} :
    Only KeepsTargets (raiseFailures primary cleanup) := by
  unfold raiseFailures
  cases failureOf primary cleanup <;> trivial

theorem execute_claimed_keeps_targets (reads : ReadsOnly cancelled) :
    Only KeepsTargets (executeClaimed req rec timeout cancelled) := by
  refine only_and_then (attempt_keeps_targets reads) ?_
  intro out
  refine only_bind (only_ask trivial) ?_
  intro owns
  split_ifs
  · refine only_bind (only_ask trivial) fun _ =>
      only_bind (reads_keep_targets only_cleanup_deadline) fun deadline =>
        only_bind (cleans_keep_targets (cleans_ownership deadline)) fun errors =>
          only_bind raise_failures_keeps_targets fun _ => only_bind (only_ask trivial) ?_
    intro ownership
    split_ifs
    · trivial
    · cases out <;> trivial
  · exact only_bind (cleans_keep_targets cleans_received) fun _ =>
      only_bind raise_failures_keeps_targets fun _ => trivial

theorem execute_record_keeps_targets (reads : ReadsOnly cancelled) (requestId : UUID) :
    Only KeepsTargets (ensuring (executeClaimed req rec timeout cancelled)
      (endOperation requestId rec)) :=
  only_and_then (execute_claimed_keeps_targets reads) fun _ =>
    only_bind (cleans_keep_targets (cleans_ensuring (only_ask trivial) (only_ask trivial)))
      fun _ => trivial

end KeepsTargets

section Holds

variable {calm : Prop} {tid : Nat} {rec : Nat} {received : ReceivedProbeInput}

variable {target : ProbeConnectGuardTarget} {req : Call}

variable {ans : Except Failure (Answer req)}

theorem keeps_targets_held (keeps : KeepsTargets req)
    (ran : (machine calm).exec tid pre req ans post) {holder : TargetHolder}
    (made : holder.record = none → ∀ input, req ≠ .newOwnership input)
    (held : pre.activeTargets target = some holder) :
    post.activeTargets target = some holder := by
  obtain ⟨_, chance, wish, acted⟩ := ran
  cases req with
  | discardTarget => cases keeps
  | newOwnership received =>
    cases acted
    refine (if_neg ?_).trans held
    rintro ⟨_, unmade⟩
    rw [held] at unmade
    exact made (by rw [Option.some.inj unmade]) received rfl
  | register rec =>
    have isAfter : post = (enter pre rec).2 :=
      (congrArg Prod.snd (Option.some.inj acted)).symm
    rw [isAfter]
    unfold enter
    dsimp only
    split_ifs <;> exact held
  | query | ownsRecord | ownership | pendingRecords | unresolvedCleanupCount | cleanupFailedIsSet
  | stoppingIsSet | closeChannels | releaseOperation | markReceivedClosed | releaseRetry
  | releaseRecovery | setRecoveryReady | reconcileUnits | reconcileGuards | releaseAdmission
  | requestShutdown =>
    cases acted
    exact held
  | beginCleaning rec =>
    cases acted
    split_ifs <;> exact held
  | finalizeOwnership requestId rec =>
    cases acted
    unfold finalize
    split_ifs <;> exact held
  | claimPending requestId rec =>
    cases acted
    unfold claim
    split_ifs <;> exact held
  | releaseChannels | acquireRetry | acquireOperation | acquireRecovery | beginRecovery
  | acquireAdmission | admissionIsOpen | publishCleanupFailure =>
    simp only [perform] at acted
    split_ifs at acted <;> cases acted <;> exact held
  | addTarget target =>
    simp only [perform] at acted
    split_ifs at acted with absent
    · cases acted
      refine (if_neg ?_).trans held
      rintro rfl
      rw [absent] at held
      cases held
    · cases acted
      exact held
  | createOwned | startOwned | installOwned | releaseGate | readOutput | ensureCollected
  | ensureReleased =>
    obtain ⟨_, ⟨_, rfl⟩ | ⟨_, rfl, _⟩⟩ := collaborate_cases acted <;> exact held
  | closeReceived | closeInput =>
    obtain ⟨_, _, acted⟩ := close_collaborates acted
    obtain ⟨_, ⟨_, rfl⟩ | ⟨_, rfl, _⟩⟩ := collaborate_cases acted <;> exact held

theorem cleans_table (cleans : Cleans req)
    (ran : (machine calm).exec tid pre req ans post) {requestId : UUID}
    (owns : post.Owns requestId rec) : pre.Owns requestId rec := by
  obtain ⟨_, chance, wish, acted⟩ := ran
  cases req with
  | query | ownership | pendingRecords | unresolvedCleanupCount | closeChannels | releaseOperation
  | markReceivedClosed | releaseRetry =>
    cases acted
    exact owns
  | finalizeOwnership other made =>
    cases acted
    unfold finalize at owns
    split_ifs at owns
    · unfold World.Owns at owns
      rw [Dict.get_pop] at owns
      split_ifs at owns
      exact owns
    · exact owns
    · exact owns
  | claimPending other made =>
    cases acted
    unfold claim at owns
    split_ifs at owns <;> exact owns
  | releaseChannels | acquireRetry | acquireOperation | publishCleanupFailure =>
    simp only [perform] at acted
    split_ifs at acted <;> cases acted <;> exact owns
  | ensureCollected | ensureReleased =>
    obtain ⟨_, ⟨_, rfl⟩ | ⟨_, rfl, _⟩⟩ := collaborate_cases acted <;> exact owns
  | closeReceived | closeInput =>
    obtain ⟨_, _, acted⟩ := close_collaborates acted
    obtain ⟨_, ⟨_, rfl⟩ | ⟨_, rfl, _⟩⟩ := collaborate_cases acted <;> exact owns
  | _ => cases cleans

/-- The thread holds the target of the request, and a record it has made for it is the one it
holds it for. -/
structure Assigned (tid : Nat) (received : ReceivedProbeInput) (made : Option Nat)
    (w : World) : Prop where
  holds : w.activeTargets received.request.target = some { thread := tid, record := made }
  record : ∀ rec, made = some rec → rec < w.allocated ∧
    (w.records rec).received = received ∧ (w.records rec).owner = tid

variable {made : Option Nat} {actor : Nat}

theorem assigned_effect
    (effect : Effect actor pre post) (assigned : Assigned tid received made pre)
    (holds : post.activeTargets received.request.target = some { thread := tid, record := made }) :
    Assigned tid received made post := by
  refine ⟨holds, ?_⟩
  intro rec isMade
  obtain ⟨present, isInput, own⟩ := assigned.record rec isMade
  obtain ⟨sameInput, sameOwner⟩ := effect.origin rec present
  exact ⟨Nat.lt_of_lt_of_le present effect.allocated, sameInput.trans isInput, sameOwner.trans own⟩

theorem stable_assigned :
    Stable (protocol calm) tid (Assigned tid received made) := by
  refine stable_of_effect ?_
  intro pre post actor differ _ effect assigned
  exact assigned_effect effect assigned (effect.targets _ _ (Ne.symm differ) assigned.holds)

theorem assigned_kept (keeps : KeepsTargets req)
    (unmade : made = none → ∀ input, req ≠ .newOwnership input)
    (permitted : Permitted calm tid pre req)
    (ran : (machine calm).exec tid pre req ans post)
    (assigned : Assigned tid received made pre) : Assigned tid received made post :=
  assigned_effect (step_effect (call_steps permitted ran)) assigned
    (keeps_targets_held keeps ran unmade assigned.holds)

/-- The execution is over: its record, if it made one, rests. -/
def Concluded (tid : Nat) (received : ReceivedProbeInput) (made : Option Nat) (w : World) :
    Prop :=
  Assigned tid received made w ∧ ∀ rec, made = some rec → Rests rec w

theorem stable_concluded :
    Stable (protocol calm) tid (Concluded tid received made) := by
  rintro pre post beforeHolds afterHolds ⟨actor, differ, step⟩ ⟨assigned, rests⟩
  have effect := step_effect step
  refine ⟨stable_assigned pre post beforeHolds afterHolds ⟨actor, differ, step⟩ assigned, ?_⟩
  intro rec isMade
  obtain ⟨present, resting⟩ := rests rec isMade
  have notOwn : (pre.records rec).owner ≠ actor := by
    rw [(assigned.record rec isMade).2.2]
    exact Ne.symm differ
  exact ⟨Nat.lt_of_lt_of_le present effect.allocated, effect.resting rec present notOwn resting⟩

theorem step_stays_resting
    (step : BrokerStep calm actor pre post) (present : rec < pre.allocated)
    (resting : (pre.records rec).state ≠ .executing) :
    (post.records rec).state ≠ .executing := by
  have put {ownership : ExecutionOwnership} {other : Nat}
      (rests : (pre.records other).state ≠ .executing → ownership.state ≠ .executing) :
      ((pre.put other ownership).records rec).state ≠ .executing := by
    by_cases isRecord : rec = other
    · subst isRecord
      rw [put_records_self]
      exact rests resting
    · rw [put_records_ne isRecord]
      exact resting
  cases step with
  | allocate received held =>
    rw [allocate_old present]
    exact resting
  | change other locks ownership step => exact put step.rests
  | lock other isPresent free => exact put id
  | _ => exact resting

theorem concluded_kept (cleans : Cleans req) (permitted : Permitted calm tid pre req)
    (ran : (machine calm).exec tid pre req ans post)
    (concluded : Concluded tid received made pre) : Concluded tid received made post := by
  obtain ⟨assigned, rests⟩ := concluded
  have step := call_steps permitted ran
  have effect := step_effect step
  have keeps : KeepsTargets req := by cases req <;> trivial
  have unmade : made = none → ∀ input, req ≠ .newOwnership input := by
    rintro _ input rfl
    exact cleans
  refine ⟨assigned_kept keeps unmade permitted ran assigned, ?_⟩
  intro rec isMade
  obtain ⟨present, resting⟩ := rests rec isMade
  refine ⟨Nat.lt_of_lt_of_le present effect.allocated, ?_⟩
  intro isActive
  have sameId : (post.records rec).requestId = (pre.records rec).requestId := by
    unfold ExecutionOwnership.requestId
    rw [(effect.origin rec present).1]
  have wasActive : pre.Active rec := by
    unfold World.Active at isActive
    rw [sameId] at isActive
    exact cleans_table cleans ran isActive
  exact step_stays_resting step present (resting wasActive)

theorem execute_concludes {timeout : Rat} {cancelled : Option (Program Bool)}
    (reads : ReadsOnly cancelled)
    (held : w.activeTargets received.request.target = some { thread := tid }) :
    SafeAmong (protocol True) tid
      (Always fun post => ∃ made, Concluded tid received made post)
      (execute received timeout cancelled) w := by
  refine safe_validate_timeout (fun _ => ⟨none, ⟨held, nofun⟩, nofun⟩) ?_
  refine safe_then (new_ownership_holds fun _ => held) (fun _ _ => False.elim) ?_
  rintro rec made ⟨holding, booked, isInput⟩
  have assigned : Assigned tid received (some rec) made := by
    refine ⟨?_, ?_⟩
    · have isBooked := booked trivial
      unfold Booked ExecutionOwnership.target at isBooked
      rw [isInput] at isBooked
      exact isBooked
    · rintro _ ⟨⟩
      exact ⟨holding.1.1, isInput, holding.2.2.1⟩
  refine safe_weaken (safe_frame_only stable_assigned ?_ (execute_record_keeps_targets reads _)
    assigned (execute_record_rests reads holding booked)) ?_
  · intro req pre ans post keeps _ permitted ran
    exact assigned_kept keeps nofun permitted ran
  · rintro out post ⟨rests, stillAssigned⟩
    refine ⟨some rec, stillAssigned, ?_⟩
    rintro _ ⟨⟩
    exact rests

abbrev HoldsAdmission (tid : Nat) (w : World) : Prop := w.admissionLock = some tid

theorem stable_admission : Stable (protocol calm) tid (HoldsAdmission tid) := by
  refine stable_of_effect ?_
  intro pre post actor differ _ effect own
  exact (effect.admission tid (Ne.symm differ) own).1

/-- The check under the admission lock found no cleanup failure. -/
def Clean (tid : Nat) (w : World) : Prop :=
  HoldsAdmission tid w ∧ w.cleanupFailed = false

theorem stable_clean : Stable (protocol calm) tid (Clean tid) := by
  refine stable_of_effect ?_
  rintro pre post actor differ _ effect ⟨own, clean⟩
  obtain ⟨stillOwn, _, sameFailed⟩ := effect.admission tid (Ne.symm differ) own
  exact ⟨stillOwn, sameFailed.trans clean⟩

/-- The check under the admission lock found admission open, so it was open when it began. -/
def Open (tid : Nat) (w : World) : Prop :=
  Clean tid w ∧ w.checkBegan = true

theorem stable_open : Stable (protocol calm) tid (Open tid) := by
  refine stable_of_effect ?_
  rintro pre post actor differ _ effect ⟨⟨own, clean⟩, began⟩
  obtain ⟨stillOwn, sameBegan, sameFailed⟩ := effect.admission tid (Ne.symm differ) own
  exact ⟨⟨stillOwn, sameFailed.trans clean⟩, sameBegan.trans began⟩

theorem stable_held {holder : TargetHolder} (own : holder.thread = tid) :
    Stable (protocol calm) tid fun w => w.activeTargets target = some holder := by
  refine stable_of_effect ?_
  intro pre post actor differ _ effect held
  exact effect.targets target holder (own ▸ Ne.symm differ) held

theorem acquire_admission_holds :
    SafeAmong (protocol calm) tid (Always (HoldsAdmission tid)) (send .acquireAdmission)
      w := by
  refine safe_ask outlasts_true.stable trivial (fun _ _ _ => trivial) ?_
  rintro pre ans post _ _ ⟨_, chance, wish, acted⟩
  simp only [perform] at acted
  split_ifs at acted
  cases acted
  rfl

theorem read_cleanup_failed (own : HoldsAdmission tid w) :
    SafeAmong (protocol calm) tid
      (Returns (fun failed post => HoldsAdmission tid post ∧ (failed = false → Clean tid post))
        fun _ _ => False) (send .cleanupFailedIsSet) w := by
  refine safe_ask stable_admission own (fun _ _ _ => trivial) ?_
  rintro pre ans post _ own ⟨_, chance, wish, acted⟩
  cases acted
  exact ⟨own, fun clean => ⟨own, clean⟩⟩

theorem read_stopping (clean : Clean tid w) :
    SafeAmong (protocol calm) tid
      (Returns (fun stopping post => HoldsAdmission tid post ∧
        (stopping = false → Open tid post)) fun _ _ => False) (send .stoppingIsSet) w := by
  refine safe_ask stable_clean clean (fun _ _ _ => trivial) ?_
  rintro pre ans post inv clean ⟨_, chance, wish, acted⟩
  cases acted
  refine ⟨clean.1, fun notStopping => ⟨clean, ?_⟩⟩
  by_contra notBegan
  have taken : pre.admissionLock ≠ none := by
    rw [clean.1]
    exact Option.some_ne_none _
  rcases inv.began taken (by simpa using notBegan) with failed | stopping
  · rw [clean.2] at failed
    cases failed
  · rw [notStopping] at stopping
    cases stopping

theorem add_target_holds (isOpen : Open tid w) :
    SafeAmong (protocol calm) tid
      (Returns (fun _ post => HoldsAdmission tid post ∧
        post.activeTargets target = some { thread := tid }) fun _ => HoldsAdmission tid)
      (send (.addTarget target)) w := by
  refine safe_ask stable_open isOpen (fun _ _ isOpen => ⟨isOpen.1.1, isOpen.1.2, isOpen.2⟩) ?_
  rintro pre ans post _ isOpen ⟨_, chance, wish, acted⟩
  simp only [perform] at acted
  split_ifs at acted
  · cases acted
    exact ⟨isOpen.1.1, if_pos rfl⟩
  · cases acted
    exact isOpen.1.1

theorem release_admission_keeps {fact : World → Prop} (stable : Stable (protocol calm) tid fact)
    (unlocked : ∀ w, fact w → fact { w with admissionLock := none })
    (own : HoldsAdmission tid w) (holds : fact w) :
    SafeAmong (protocol calm) tid (Returns (fun _ => fact) fun _ _ => False)
      (send .releaseAdmission) w := by
  refine safe_ask (stable_and stable_admission stable) ⟨own, holds⟩ (fun _ _ both => both.1) ?_
  rintro pre ans post _ ⟨_, isFact⟩ ⟨_, chance, wish, acted⟩
  cases acted
  exact unlocked pre isFact

theorem admit_holds :
    SafeAmong (protocol calm) tid
      (Returns (fun _ post => post.activeTargets target = some { thread := tid }) fun _ _ => True)
      (admitTarget target) w := by
  refine safe_then (safe_returns acquire_admission_holds) (fun _ _ _ => trivial) ?_
  intro _ taken own
  have checked : SafeAmong (protocol calm) tid
      (Returns (fun _ post => HoldsAdmission tid post ∧
        post.activeTargets target = some { thread := tid }) fun _ => HoldsAdmission tid)
      (do
        if ← send .cleanupFailedIsSet then raise (.service "probe_broker_cleanup_failed")
        else if ← send .stoppingIsSet then raise (.service "probe_broker_stopping")
        else send (.addTarget target)) taken := by
    refine safe_then (read_cleanup_failed own) (fun _ _ => False.elim) ?_
    rintro failed cur ⟨own, clean⟩
    cases failed with
    | true => exact own
    | false =>
      refine safe_then (read_stopping (clean rfl)) (fun _ _ => False.elim) ?_
      rintro stopping later ⟨own, isOpen⟩
      cases stopping with
      | true => exact own
      | false => exact add_target_holds (isOpen rfl)
  refine safe_and_then checked ?_
  rintro (err | _) post ended
  · exact safe_then (release_admission_keeps outlasts_true.stable (fun _ _ => trivial) ended trivial)
      (fun _ _ => False.elim) fun _ _ _ => trivial
  · exact safe_then (release_admission_keeps (stable_held rfl) (fun _ held => held) ended.1 ended.2)
      (fun _ _ => False.elim) fun _ _ held => held

def InputClosed (received : ReceivedProbeInput) (w : World) : Prop :=
  w.closed received.handle = true ∨ w.cleanupFailed = true

theorem input_closed_kept
    (step : BrokerStep calm actor pre post) (isClosed : InputClosed received pre) :
    InputClosed received post := by
  have effect := step_effect step
  rcases isClosed with closed | failed
  · exact .inl (effect.closed _ closed)
  · exact .inr (effect.failed failed)

theorem stable_input_closed : Stable (protocol calm) tid (InputClosed received) := by
  rintro pre post _ _ ⟨actor, _, step⟩ isClosed
  exact input_closed_kept step isClosed

theorem concluded_outlasts :
    Outlasts calm tid fun w =>
      Concluded tid received made w ∧ InputClosed received w where
  stable := stable_and stable_concluded stable_input_closed
  kept _ _ _ _ cleans _ permitted ran both :=
    ⟨concluded_kept cleans permitted ran both.1,
      input_closed_kept (call_steps permitted ran) both.2⟩

theorem publish_failure_safe (concluded : Concluded tid received made w) :
    SafeAmong (protocol calm) tid
      (Always fun post => Concluded tid received made post ∧ post.cleanupFailed = true)
      (send .publishCleanupFailure) w := by
  refine safe_ask stable_concluded concluded (fun _ _ _ => trivial) ?_
  intro pre ans post _ concluded ran
  have kept : Concluded tid received made post :=
    concluded_kept (by trivial) (by trivial) ran concluded
  obtain ⟨_, chance, wish, acted⟩ := ran
  simp only [perform] at acted
  split_ifs at acted
  cases acted
  exact ⟨kept, rfl⟩

theorem close_input_safe (concluded : Concluded tid received made w) :
    SafeAmong (protocol True) tid
      (Always fun post => Concluded tid received made post ∧ InputClosed received post)
      ((send (.closeInput received)).handle fun _ => send .publishCleanupFailure) w := by
  have closing : SafeAmong (protocol True) tid
      (Returns (fun _ post => Concluded tid received made post ∧ InputClosed received post)
        fun _ => Concluded tid received made) (send (.closeInput received)) w := by
    refine safe_ask stable_concluded concluded (fun _ _ _ => trivial) ?_
    intro pre ans post _ concluded ran
    have kept : Concluded tid received made post :=
      concluded_kept (by trivial) (by trivial) ran concluded
    obtain ⟨_, chance, wish, acted⟩ := ran
    obtain ⟨_, _, acted⟩ := close_collaborates acted
    obtain ⟨_, ⟨_, rfl⟩ | ⟨_, rfl, raises⟩⟩ := collaborate_cases acted
    · cases ans with
      | ok _ => exact ⟨kept, .inl (if_pos rfl)⟩
      | error _ => exact kept
    · obtain ⟨err, rfl⟩ := raises rfl
      exact kept
  refine safe_handle (fun _ => Concluded tid received made) closing ?_
  intro _ post concluded
  exact safe_weaken (publish_failure_safe concluded) fun _ _ both => ⟨both.1, .inr both.2⟩

/-- A record that rests and is counted as no unresolved one, while it is not being cleaned up, has
left the table. -/
theorem count_zero_left
    (concluded : Concluded tid received made w) (calmly : CalmCount tid w)
    (none_ : w.countPending = 0) (isMade : made = some rec) : ¬w.Active rec := by
  intro isActive
  obtain ⟨assigned, rests⟩ := concluded
  have notExecuting := (rests rec isMade).2 isActive
  have notCleaning := calmly _ rec (isMade ▸ assigned.holds) isActive
  have isPending : (w.records rec).state = .cleanupPending := by
    cases st : (w.records rec).state with
    | executing => exact absurd st notExecuting
    | cleaning => exact absurd st notCleaning
    | cleanupPending => rfl
  have mem : rec ∈ w.active.values.filter fun rec =>
      decide ((w.records rec).state = .cleanupPending) :=
    List.mem_filter.mpr ⟨Dict.mem_values.mpr ⟨_, isActive⟩, decide_eq_true isPending⟩
  unfold World.countPending at none_
  rw [List.eq_nil_of_length_eq_zero none_] at mem
  cases mem

variable {settings : Settings}

variable (concluded : Concluded tid received made w)

include concluded

theorem cleanup_is_resolved_safe (isClosed : InputClosed received w) :
    SafeAmong (protocol True) tid
      (Returns (fun resolved post => (Concluded tid received made post ∧
          InputClosed received post) ∧
            (resolved = true → ∀ rec, made = some rec → ¬post.Active rec))
        fun _ _ => False) (cleanupIsResolved settings) w := by
  have retried := @retry_pending_cleanup_safe True tid w
    (fun w => Concluded tid received made w ∧ InputClosed received w)
    (fun count w => count = 0 → ∀ rec, made = some rec → ¬w.Active rec)
    settings.cleanupRetryTimeoutSeconds concluded_outlasts
    (fun w _ both calmly none_ rec isMade =>
      count_zero_left both.1 (calmly trivial) none_ isMade)
    (fun count => by
      rintro pre post beforeHolds afterHolds ⟨actor, differ, step⟩ ⟨both, counted⟩
      refine ⟨concluded_outlasts.stable pre post beforeHolds afterHolds ⟨actor, differ, step⟩
        both, ?_⟩
      intro none_ rec isMade
      obtain ⟨present, _, own⟩ := both.1.1.record rec isMade
      exact (step_effect step).outside rec present (own ▸ Ne.symm differ)
        (counted none_ rec isMade))
    (fun _ both => ⟨⟨⟨both.1.1.holds, both.1.1.record⟩, both.1.2⟩, both.2⟩)
    (fun _ _ counted => counted) ⟨concluded, isClosed⟩
  refine safe_and_then retried ?_
  rintro (err | count) post ended
  · exact ⟨ended, nofun⟩
  · exact ⟨ended.1, fun isZero => ended.2 (of_decide_eq_true isZero)⟩

theorem discard_target_safe (ended : w.cleanupFailed = true ∨
      InputClosed received w ∧ ∀ rec, made = some rec → ¬w.Active rec) :
    SafeAmong (protocol True) tid (fun _ _ => True)
      (send (.discardTarget received.request.target)) w := by
  have stable : Stable (protocol True) tid fun w =>
      Concluded tid received made w ∧ (w.cleanupFailed = true ∨
        InputClosed received w ∧ ∀ rec, made = some rec → ¬w.Active rec) := by
    rintro pre post beforeHolds afterHolds ⟨actor, differ, step⟩ ⟨concluded, ended⟩
    have effect := step_effect step
    refine ⟨stable_concluded pre post beforeHolds afterHolds ⟨actor, differ, step⟩ concluded, ?_⟩
    rcases ended with failed | ⟨isClosed, left⟩
    · exact .inl (effect.failed failed)
    · refine .inr ⟨input_closed_kept step isClosed, ?_⟩
      intro rec isMade
      obtain ⟨present, _, own⟩ := concluded.1.record rec isMade
      exact effect.outside rec present (own ▸ Ne.symm differ) (left rec isMade)
  refine safe_ask stable ⟨concluded, ended⟩ ?_ fun _ _ _ _ _ _ => trivial
  rintro cur inv ⟨⟨assigned, _⟩, ended⟩
  refine ⟨_, assigned.holds, rfl, ?_⟩
  intro _ rec isMade
  rcases ended with failed | ⟨isClosed | failed, left⟩
  · exact .inl failed
  · right
    obtain ⟨present, isInput, _⟩ := assigned.record rec isMade
    have outside := left rec isMade
    refine ⟨fun isActive => absurd isActive outside,
      (inv.records rec present).outside outside, ?_⟩
    rw [isInput]
    exact isClosed
  · exact .inl failed

theorem conclude_started_safe :
    SafeAmong (protocol True) tid (fun _ _ => True) (concludeConnection settings received true)
      w := by
  refine safe_then (safe_returns (close_input_safe concluded)) (fun _ _ _ => trivial) ?_
  rintro _ closed ⟨concluded, isClosed⟩
  refine safe_then (cleanup_is_resolved_safe concluded isClosed) (fun _ _ => False.elim) ?_
  rintro resolved post ⟨⟨concluded, isClosed⟩, left⟩
  cases resolved with
  | true => exact discard_target_safe concluded (.inr ⟨isClosed, left rfl⟩)
  | false =>
    refine safe_then (safe_returns (publish_failure_safe concluded)) (fun _ _ _ => trivial) ?_
    rintro _ published ⟨concluded, failed⟩
    exact discard_target_safe concluded (.inl failed)

omit concluded

theorem publish_failure_any : Keeps calm tid (fun _ => True) (send .publishCleanupFailure) :=
  fun _ _ => safe_ask outlasts_true.stable trivial (fun _ _ _ => trivial) fun _ _ _ _ _ _ => trivial

theorem conclude_unstarted_safe :
    SafeAmong (protocol True) tid (fun _ _ => True) (concludeConnection settings received false)
      w := by
  have closing : Keeps True tid (fun _ => True) (send (.closeInput received)) := fun _ _ =>
    safe_ask outlasts_true.stable trivial (fun _ _ _ => trivial) fun _ _ _ _ _ _ => trivial
  exact maintains_bind (maintains_handle closing fun _ => publish_failure_any)
    (fun _ => maintains_pure) w trivial

theorem only_read_wall_clock : Only Call.Reads readWallClockMs := by
  refine only_bind (only_query _) ?_
  intro ans
  cases ans with
  | none => trivial
  | some observed =>
    dsimp only
    split_ifs <;> trivial

theorem only_remaining_request (deadlineUnixMs : Int) :
    Only Call.Reads (remainingRequestSeconds deadlineUnixMs) := by
  refine only_bind only_read_wall_clock ?_
  intro observedAt
  split_ifs <;> trivial

theorem only_request_cancelled : Only Call.Reads requestCancelled := by
  refine only_bind (only_ask trivial) ?_
  intro isOpen
  split_ifs
  · exact only_query _
  · trivial

theorem only_respond (req : ProbeBrokerRequest)
    (out : Except Failure ProbeExecutionResult) : Only Call.Reads (respond req out) := by
  refine only_bind ?_ fun _ => only_bind (only_remaining_request _) fun _ => only_query _
  cases out with
  | ok res => trivial
  | error err =>
    dsimp only
    split_ifs
    · exact only_bind (only_bind only_read_wall_clock fun _ => trivial) fun _ => trivial
    · trivial

theorem only_or_return {body : Program Unit} (only : Only Call.Reads body) :
    Only Call.Reads (orReturn body) := by
  refine only_handle only ?_
  intro err
  cases err <;> trivial

theorem run_request_concludes :
    SafeAmong (protocol True) tid
      (Returns (fun ran post => ran.1 = true → ∃ made, Concluded tid received made post)
        fun _ _ => False) (runRequest received) w := by
  have admitted : SafeAmong (protocol True) tid
      (Returns (fun _ post => post.activeTargets received.request.target = some { thread := tid })
        fun _ _ => True)
      (do
        let seconds ← remainingRequestSeconds received.request.deadlineUnixMs
        admitTarget received.request.target
        return seconds) w := by
    refine maintains_then (keeps_reads outlasts_true.stable (only_remaining_request _))
      (fun _ _ _ => trivial) ?_ trivial
    intro seconds cur _
    exact safe_then admit_holds (fun _ _ _ => trivial) fun _ _ held => held
  refine safe_and_then admitted ?_
  rintro (err | seconds) post held
  · exact nofun
  · have reads : ReadsOnly (some requestCancelled) := by
      rintro check ⟨⟩
      exact only_request_cancelled
    refine safe_and_then (execute_concludes reads held) ?_
    intro out later concluded
    exact fun _ => concluded

theorem serve_received_safe :
    SafeAmong (protocol True) tid (fun _ _ => True) (serveReceived settings received) w := by
  unfold serveReceived
  split_ifs
  · refine safe_then run_request_concludes (fun _ _ => False.elim) ?_
    rintro ⟨started, out⟩ ran concluded
    cases started with
    | false =>
      exact safe_ensuring (keeps_reads outlasts_true.stable
        (only_or_return (only_respond received.request out)) ran trivial)
          fun _ _ => conclude_unstarted_safe
    | true =>
      obtain ⟨made, isConcluded⟩ := concluded rfl
      exact safe_ensuring (keeps_reads stable_concluded
        (only_or_return (only_respond received.request out)) ran isConcluded)
          fun _ => conclude_started_safe
  · refine safe_ensuring (keeps_reads outlasts_true.stable ?_ w trivial)
      fun _ _ => conclude_unstarted_safe
    exact only_or_return trivial

theorem serve_connection_safe :
    SafeAmong (protocol True) tid (fun _ _ => True) (serveConnection settings) w := by
  refine safe_and_then (keeps_reads outlasts_true.stable (only_query .receiveRequest) w trivial)
    ?_
  rintro (err | received) post _
  · refine keeps_reads outlasts_true.stable ?_ post trivial
    exact only_or_return trivial
  · exact serve_received_safe

theorem cleanup_is_resolved_any :
    SafeAmong (protocol calm) tid (fun _ _ => True) (cleanupIsResolved settings) w := by
  refine safe_and_then retry_safe ?_
  rintro (err | count) post _ <;> exact trivial

theorem service_task_safe {prog : Program Unit} (isTask : ServiceTask settings prog) :
    SafeAmong (protocol True) tid (fun _ _ => True) prog w := by
  cases isTask with
  | connection => exact serve_connection_safe
  | ownedConnection =>
    refine safe_and_then serve_connection_safe ?_
    rintro (err | _) post _
    · exact publish_failure_any post trivial
    · exact trivial
  | startup =>
    have recovers : Keeps True tid (fun _ => True)
        (ProbeExecutionBroker.reconcileStartup settings.startupTimeoutSeconds) :=
      fun _ _ => reconcile_startup_safe
    refine maintains_bind (maintains_handle recovers fun _ => maintains_raise) ?_ w trivial
    intro unresolved
    split_ifs
    · exact maintains_raise
    · exact maintains_raise
    · exact maintains_pure
  | finish =>
    have resolves : Keeps True tid (fun _ => True) (cleanupIsResolved settings) :=
      fun _ _ => cleanup_is_resolved_any
    refine maintains_bind resolves ?_ w trivial
    intro resolved
    split_ifs
    · refine maintains_bind (keeps_reads outlasts_true.stable (only_ask trivial)) ?_
      intro failed
      split_ifs
      · exact maintains_raise
      · exact maintains_pure
    · exact maintains_bind publish_failure_any fun _ => maintains_raise
  | shutdown =>
    exact safe_ask outlasts_true.stable trivial (fun _ _ _ => trivial) fun _ _ _ _ _ _ => trivial

end Holds

/-- While no thread counts unresolved cleanups with the record of its own connection being cleaned
up, targets are exclusive. -/
theorem calm_service_keeps_targets_exclusive (settings : Settings) {st : BrokerState}
    (reached : SystemReachable (machine True) (ServiceTask settings) Fresh st) :
    ∀ next, SystemStep (machine True) (ServiceTask settings) st next →
      ExclusiveStep st.world next.world := by
  intro next step
  have safe : AllSafe (protocol True) st :=
    all_safe_reachable (fun _ => fresh_invariant)
      (fun tid w prog isTask _ => service_task_safe isTask) reached
  obtain same | ⟨actor, effect⟩ := all_safe_effect safe step
  · rw [same]
    exact @step_exclusive _ _ 0 safe.1 .idle
  · exact step_exclusive safe.1 effect

namespace Sample

def settings : Settings where
  permitsTarget _ := true
  startupTimeoutSeconds := 10
  cleanupRetryTimeoutSeconds := 10

/-- Recovery, then a connection up to its end. -/
def servedRun : List (Move Call Answer Failure Unit Chosen) :=
  [.start 0 (ProbeBrokerService.reconcileStartup settings), .advance 0 9 (wellBehaved first),
    .start 1 (serveOwnedConnection settings), .advance 1 70 (wellBehaved first)]

def isCount : Call → Bool
  | .unresolvedCleanupCount => true
  | _ => false

/-- Unresolved records are counted only while none is being cleaned up. -/
def performCalm (tid : Nat) (w : World) (req : Call) (chosen : Chosen req) :
    Option (Except Failure (Answer req) × World) :=
  if isCount req = true ∧
      ∃ item ∈ w.active.items, (w.records item.2).state = .cleaning then none
  else performChosen tid w req chosen

theorem perform_calm_executes {tid : Nat} {req : Call}
    {chosen : Chosen req} {ans : Except Failure (Answer req)}
    (acted : performCalm tid w req chosen = some (ans, post)) :
    (machine True).exec tid w req ans post := by
  unfold performCalm at acted
  split_ifs at acted with cleaned
  refine ⟨?_, chosen.1, chosen.2, acted⟩
  rintro _ rfl target rec _ isActive cleaning
  exact cleaned ⟨rfl, _, Dict.get_eq_some.mp isActive, cleaning⟩

theorem served_run_plays :
    ((play performCalm servedRun { world := start, threads := fun _ => none }).map fun st =>
      decide (st.world.allocated = 1 ∧ st.world.active.length = 0 ∧
        st.world.activeTargets first.request.target = none ∧
        st.world.cleanupFailed = false)) = some true := by
  decide +kernel

theorem served_run_allowed (tid : Nat) (prog : Program Unit)
    (mem : Move.start tid prog ∈ servedRun) : ServiceTask settings prog := by
  simp only [servedRun, List.mem_cons, reduceCtorEq, false_or, or_false, List.not_mem_nil,
    Move.start.injEq] at mem
  rcases mem with ⟨_, rfl⟩ | ⟨_, rfl⟩
  · exact .startup
  · exact .ownedConnection

end Sample

/-- A connection has counted the unresolved records and given its target back. -/
theorem calm_service_keeps_targets_exclusive_once_counted :
    ∃ st : BrokerState, SystemReachable (machine True) (ServiceTask settings) Fresh st ∧
      st.world.allocated = 1 ∧ st.world.activeTargets first.request.target = none ∧
      st.world.cleanupFailed = false ∧
      ∀ next, SystemStep (machine True) (ServiceTask settings) st next →
        ExclusiveStep st.world next.world := by
  obtain ⟨st, played, isServed⟩ := Option.map_eq_some_iff.mp served_run_plays
  have reached : SystemReachable (machine True) (ServiceTask settings) Fresh st :=
    play_reachable perform_calm_executes served_run_allowed (.initial start_fresh) played
  obtain ⟨made, _, given, resolved⟩ := of_decide_eq_true isServed
  exact ⟨st, reached, made, given, resolved,
    calm_service_keeps_targets_exclusive settings reached⟩

namespace Sample

def second : ReceivedProbeInput :=
  received 0x33333333333343338333333333333333#128 555 (by decide) (by decide)

def third : ReceivedProbeInput :=
  received 0x44444444444444448444444444444444#128 554 rtsp_port (by decide)

/-- The unit is started, the execution fails, and the unit cannot be collected. -/
def uncollectable : (req : Call) → Chosen req
  | .query (.closeChildEnds _) | .ensureCollected .. => ({}, .error .exception)
  | req => wellBehaved first req

def channelless : (req : Call) → Chosen req
  | .createOwned _ => ({}, .error .exception)
  | req => wellBehaved second req

/-- The first connection ends with its unit uncollected. Before it counts, the second one claims its
record for cleanup; so it counts none and gives its target back, and the third one asks for it. -/
def exposedRun : List (Move Call Answer Failure Unit Chosen) :=
  [.start 0 (ProbeBrokerService.reconcileStartup settings), .advance 0 9 (wellBehaved first),
    .start 1 (serveOwnedConnection settings),
    .advance 1 33 uncollectable,
    .start 2 (serveOwnedConnection settings),
    .advance 2 38 channelless,
    .advance 1 3 uncollectable,
    .start 3 (serveOwnedConnection settings),
    .advance 3 5 (wellBehaved third)]

theorem exposed_run_plays :
    ((play performChosen exposedRun { world := start, threads := fun _ => none }).bind fun st =>
      (advance performChosen (wellBehaved third) 3 1 st).map fun next =>
        decide (st.world.activeTargets third.request.target = none ∧
          next.world.activeTargets third.request.target ≠ none ∧ 0 < st.world.allocated ∧
          (st.world.records 0).target = third.request.target ∧
          (st.world.records 0).slotsEmpty = false ∧ st.world.admissionOpen = true)) =
        some true := by
  decide +kernel

theorem exposed_run_allowed (tid : Nat) (prog : Program Unit)
    (mem : Move.start tid prog ∈ exposedRun) : ServiceTask settings prog := by
  simp only [exposedRun, List.mem_cons, reduceCtorEq, false_or, or_false, List.not_mem_nil,
    Move.start.injEq] at mem
  rcases mem with ⟨_, rfl⟩ | ⟨_, rfl⟩ | ⟨_, rfl⟩ | ⟨_, rfl⟩
  · exact .startup
  · exact .ownedConnection
  · exact .ownedConnection
  · exact .ownedConnection

end Sample

/-- A target is given to a third connection while the unit of the first is neither collected nor
published as a failure. -/
theorem service_gives_held_target_away :
    ¬∀ (settings : Settings) (st next : BrokerState),
      SystemReachable (machine False) (ServiceTask settings) Fresh st →
      SystemStep (machine False) (ServiceTask settings) st next →
      ExclusiveStep st.world next.world := by
  intro exclusive
  obtain ⟨st, played, stepped⟩ := Option.bind_eq_some_iff.mp exposed_run_plays
  obtain ⟨next, advanced, exposed⟩ := Option.map_eq_some_iff.mp stepped
  obtain ⟨absent, present, made, isTarget, held, _⟩ := of_decide_eq_true exposed
  have reached : SystemReachable (machine False) (ServiceTask settings) Fresh st :=
    play_reachable perform_chosen_executes exposed_run_allowed
      (.initial start_fresh) played
  rcases advance_one perform_chosen_executes advanced with same | step
  · rw [same] at present
    exact present absent
  · have gone := ((exclusive settings st next reached step.1).admitted _ absent present).1 0
      made isTarget
    rw [gone.1] at held
    cases held

end RtspProxy.Broker
