import RtspProxy.Observability.DeliveryInvariant

/-!
# At most one delivery

The protocol between the threads of the delivery system: a thread reports only
under tokens it claimed itself. Under it `run_once` is safe, the invariant holds
in every state the system reaches, and tokens of claims that are over stay so.
-/

namespace RtspProxy.Observability

open Nodes Lib Lib.RecordTable
open Lib.Program
open Lib.Program.Prog (ask raise)

section Protocol

variable {largest : NotificationDispatcher}

theorem delivery_exec_invariant {tid : Nat} {w post : DeliveryWorld} {req : DeliveryCall}
    {ans : Except ObservabilityError (DeliveryAnswer req)}
    (inv : DeliveryInvariant largest.maxAttempts w)
    (permitted : deliveryPermitted largest.maxAttempts tid w req)
    (ran : deliveryMachine.exec tid w req ans post) :
    DeliveryInvariant largest.maxAttempts post := by
  cases req with
  | clock =>
    obtain ⟨_, rfl⟩ := ran
    exact inv
  | claimNotification now lease =>
    obtain ⟨claimToken, fresh, answers⟩ := ran
    obtain ⟨_, rfl⟩ := Prod.mk.inj answers
    exact claim_invariant inv fresh
  | send msg =>
    obtain ⟨report, _, rfl⟩ := ran
    exact send_invariant inv permitted
  | completeNotification noteId claimToken report =>
    obtain ⟨_, rfl⟩ := Prod.mk.inj (ran : (ans, post) = _)
    exact complete_invariant inv permitted.1 permitted.2
  | observeIncident node observedAt =>
    obtain ⟨incId, msgId, freshIncident, freshMessage, answers, log⟩ := ran
    have isAfter : post = { w with
        store := (observeIncident w.store node observedAt incId msgId).2 } := by
      cases post
      simp only [DeliveryWorld.mk.injEq]
      exact ⟨(Prod.mk.inj answers).2, log⟩
    rw [isAfter]
    exact observe_invariant inv largest.maxAttemptsValid.1 freshIncident freshMessage

theorem delivery_exec_effect {tid : Nat} {w post : DeliveryWorld} {req : DeliveryCall}
    {ans : Except ObservabilityError (DeliveryAnswer req)}
    (permitted : deliveryPermitted largest.maxAttempts tid w req)
    (ran : deliveryMachine.exec tid w req ans post) :
    deliveryEffect tid w post := by
  cases req with
  | clock =>
    obtain ⟨_, rfl⟩ := ran
    exact ⟨[], by simp, by simp⟩
  | claimNotification now lease =>
    obtain ⟨claimToken, _, answers⟩ := ran
    obtain ⟨_, rfl⟩ := Prod.mk.inj answers
    exact ⟨_, rfl, by simp⟩
  | send msg =>
    obtain ⟨report, _, rfl⟩ := ran
    refine ⟨_, rfl, ?_⟩
    intro claimToken again reported
    obtain ⟨token, isToken, same⟩ := List.mem_map.mp reported
    cases same
    exact (permitted claimToken (Option.mem_toList.mp isToken)).1
  | completeNotification noteId claimToken report =>
    obtain ⟨_, rfl⟩ := Prod.mk.inj (ran : (ans, post) = _)
    exact ⟨_, rfl, by simp⟩
  | observeIncident node observedAt =>
    obtain ⟨_, _, _, _, _, log⟩ := ran
    exact ⟨[], by simp [log], by simp⟩

def deliveryProtocol (largest : NotificationDispatcher) : Protocol deliveryMachine where
  invariant := DeliveryInvariant largest.maxAttempts
  effect := deliveryEffect
  permitted := deliveryPermitted largest.maxAttempts
  sound invariant permitted ran :=
    ⟨delivery_exec_invariant invariant permitted ran, delivery_exec_effect permitted ran⟩
  leaves _ _ invariant := ⟨invariant, [], by simp [deliveryMachine], by simp⟩

variable {tid : Nat} {w : DeliveryWorld}

theorem unreported_stable (claimToken : UUID) :
    Stable (deliveryProtocol largest) tid (Unreported tid claimToken) := by
  rintro pre post inv _ ⟨other, differ, added, log, own⟩ ⟨⟨msgId, claimed⟩, unreported⟩
  refine ⟨⟨msgId, by rw [log]; exact List.mem_append_left _ claimed⟩, ?_⟩
  intro report reported
  rw [log] at reported
  rcases List.mem_append.mp reported with old | new
  · exact unreported report old
  · obtain ⟨otherId, otherClaimed⟩ := own claimToken report new
    exact differ
      (inv.once claimToken tid msgId other otherId claimed otherClaimed).1.symm

/-- The thread holds the token, and the transport reported exactly this under it. -/
def Reported (tid : Nat) (claimToken : UUID) (report : SendReport) (w : DeliveryWorld) :
    Prop :=
  (∃ msgId, .claimed tid msgId claimToken ∈ w.log) ∧
    ∀ other, .reported claimToken other ∈ w.log ↔ other = report

theorem reported_stable (claimToken : UUID) (report : SendReport) :
    Stable (deliveryProtocol largest) tid (Reported tid claimToken report) := by
  rintro pre post inv _ ⟨actor, differ, added, log, own⟩ ⟨⟨msgId, claimed⟩, reports⟩
  refine ⟨⟨msgId, by rw [log]; exact List.mem_append_left _ claimed⟩, ?_⟩
  intro other
  rw [log, List.mem_append, reports]
  refine or_iff_left ?_
  intro new
  obtain ⟨otherId, otherClaimed⟩ := own claimToken other new
  exact differ
    (inv.once claimToken tid msgId actor otherId claimed otherClaimed).1.symm

theorem safe_current_time {prop : DeliveryWorld → Prop}
    (stable : Stable (deliveryProtocol largest) tid prop) (holds : prop w)
    (now : Option Datetime) :
    SafeAmong (deliveryProtocol largest) tid
      (Returns (fun _ post => prop post) fun _ _ => True) (currentTime now) w := by
  cases now with
  | none =>
    refine safe_ask stable holds (fun _ _ _ => trivial) ?_
    rintro cur ans post _ still ⟨⟨time, rfl⟩, rfl⟩
    exact still
  | some time => exact safe_pure holds

theorem safe_complete {noteId claimToken : UUID} {report : SendReport}
    {completion : CompletionReport} (within : completion.maxAttempts ≤ largest.maxAttempts)
    (out : (completion.succeeded, completion.deliveryAmbiguous) = deliveryOutcome report.answer)
    (reported : Reported tid claimToken report w) :
    SafeAmong (deliveryProtocol largest) tid
      (Returns (fun _ _ => True) fun _ _ => True)
      (perform (.completeNotification noteId claimToken completion)) w := by
  refine safe_ask (reported_stable claimToken report) reported ?_ ?_
  · intro cur _ still
    refine ⟨within, ?_⟩
    intro failed definite
    have isRejected : report = .rejected := by
      rw [failed, definite] at out
      cases report
      · cases out
      · cases out
      · rfl
    subst isRejected
    refine ⟨(still.2 .rejected).mpr rfl, ?_, ?_⟩
    · rw [still.2]
      exact SendReport.noConfusion
    · rw [still.2]
      exact SendReport.noConfusion
  · intro cur res final _ _ _
    cases res <;> trivial

theorem safe_deliver (dispatcher : NotificationDispatcher) (now : Option Datetime)
    (within : dispatcher.maxAttempts ≤ largest.maxAttempts) {notification : NotificationMessage}
    {claimToken : UUID} (isToken : notification.claimToken = some claimToken)
    (unreported : Unreported tid claimToken w) :
    SafeAmong (deliveryProtocol largest) tid (fun _ _ => True)
      (dispatcher.deliver now notification claimToken) w := by
  have sends : SafeAmong (deliveryProtocol largest) tid
      (fun (ans : Except ObservabilityError Unit) post => ∃ report : SendReport,
        ans = report.answer ∧ Reported tid claimToken report post)
      (perform (.send notification)) w := by
    refine safe_ask (unreported_stable claimToken) unreported ?_ ?_
    · intro cur _ still token isOther
      cases isToken.symm.trans isOther
      exact still
    · rintro cur ans post _ ⟨⟨msgId, claimed⟩, silent⟩ ⟨report, isAnswer, rfl⟩
      refine ⟨report, isAnswer, ⟨msgId, List.mem_append_left _ claimed⟩, ?_⟩
      intro other
      simp [DeliveryWorld.record, isToken, silent]
  refine safe_and_then sends ?_
  rintro ans post ⟨report, rfl, reported⟩
  refine safe_then (safe_current_time (reported_stable claimToken report) reported now)
    (fun _ _ _ => trivial) ?_
  intro completedAt later still
  refine safe_then (safe_complete within rfl still) (fun _ _ _ => trivial)
    (fun _ _ _ => trivial)

theorem safe_run_once (dispatcher : NotificationDispatcher) (now : Option Datetime)
    (within : dispatcher.maxAttempts ≤ largest.maxAttempts) :
    SafeAmong (deliveryProtocol largest) tid (fun _ _ => True) (dispatcher.runOnce now) w := by
  have nothing : Stable (deliveryProtocol largest) tid fun _ => True :=
    fun _ _ _ _ _ _ => trivial
  refine safe_then (safe_current_time nothing trivial now) (fun _ _ _ => trivial) ?_
  intro claimTime post _
  have claims : SafeAmong (deliveryProtocol largest) tid
      (Returns (fun claimed later => ∀ notification claimToken, claimed = some notification →
        notification.claimToken = some claimToken → Unreported tid claimToken later)
        fun _ _ => True)
      (perform (.claimNotification claimTime dispatcher.leaseTimeout)) post := by
    refine safe_ask nothing trivial (fun _ _ _ => trivial) ?_
    rintro cur ans later inv _ ⟨claimToken, fresh, answers⟩
    obtain ⟨rfl, rfl⟩ := Prod.mk.inj answers
    intro notification token isClaimed isToken
    obtain ⟨_, old, _, _, isMessage⟩ := claim_some isClaimed
    rw [isMessage] at isToken
    cases isToken
    refine ⟨⟨notification.id, claim_log_claimed.mpr (.inr ⟨rfl, rfl, notification, isClaimed, rfl⟩)⟩,
      ?_⟩
    intro report reported
    have old : .reported claimToken report ∈ cur.log :=
      (List.mem_append.mp reported).resolve_right claim_unreported
    obtain ⟨owner, msgId, recorded⟩ := inv.reports claimToken report old
    exact fresh owner msgId recorded
  refine safe_then claims (fun _ _ _ => trivial) ?_
  intro claimed later unreported
  cases claimed with
  | none => trivial
  | some notification =>
    dsimp only
    split
    · trivial
    · next claimToken isToken =>
        exact safe_deliver dispatcher now within isToken
          (unreported notification claimToken rfl isToken)

theorem safe_observe (node : MediaNode) (observedAt : Option Datetime) :
    SafeAmong (deliveryProtocol largest) tid (fun _ _ => True) (observe node observedAt) w := by
  have nothing : Stable (deliveryProtocol largest) tid fun _ => True :=
    fun _ _ _ _ _ _ => trivial
  refine safe_then (safe_current_time nothing trivial observedAt) (fun _ _ _ => trivial) ?_
  intro timestamp post _
  exact safe_ask nothing trivial (fun _ _ _ => trivial) (fun _ _ _ _ _ _ => trivial)

theorem delivery_starts_safe {prog : DeliveryProgram Unit} (starts : deliveryStarts largest prog) :
    SafeAmong (deliveryProtocol largest) tid (fun _ _ => True) prog w := by
  rcases starts with ⟨dispatcher, now, within, rfl⟩ | ⟨node, observedAt, rfl⟩
  · refine safe_and_then (safe_run_once dispatcher now within) ?_
    intro out post _
    cases out <;> trivial
  · refine safe_and_then (safe_observe node observedAt) ?_
    intro out post _
    cases out <;> trivial

theorem delivery_system_invariant
    {st : SystemState DeliveryCall DeliveryAnswer ObservabilityError Unit DeliveryWorld}
    (reached : DeliverySystem largest st) :
    DeliveryInvariant largest.maxAttempts st.world := by
  have initial : ∀ w, w = { store := {}, log := [] } →
      (deliveryProtocol largest).invariant w := by
    rintro w rfl
    refine ⟨List.nodup_nil, ?_, ?_, ?_, ?_, ?_, ?_, ?_⟩ <;> simp
  exact safe_system initial (fun _ _ _ starts _ => delivery_starts_safe starts) reached

end Protocol

/-- The token is that of a claim nobody completed and no lease ended. -/
def CurrentClaim (store : ObservabilityStore) (claimToken : UUID) : Prop :=
  ∃ msg ∈ store.notifications, msg.status = .processing ∧ msg.claimToken = some claimToken

def StaleToken (w : DeliveryWorld) (claimToken : UUID) : Prop :=
  (∃ tid msgId, .claimed tid msgId claimToken ∈ w.log) ∧ ¬CurrentClaim w.store claimToken

section Stale

variable {w : DeliveryWorld} {claimToken : UUID}

theorem stale_token_claim {tid : Nat} {now lease : Int} {token : UUID}
    (stale : StaleToken w claimToken) (fresh : w.FreshToken token) :
    StaleToken (w.claim tid now lease token).2 claimToken := by
  obtain ⟨⟨owner, msgId, recorded⟩, ended⟩ := stale
  refine ⟨⟨owner, msgId, claim_log_kept recorded⟩, ?_⟩
  rintro ⟨msg, mem, processing, isToken⟩
  obtain ⟨old, oldMember, isSwept | ⟨_, _, isClaimed⟩⟩ := mem_claim mem
  · rcases swept_cases now lease old with unchanged | ⟨_, expired⟩
    · rw [isSwept, unchanged] at processing isToken
      exact ended ⟨old, oldMember, processing, isToken⟩
    · rw [isSwept, expired] at processing
      cases processing
  · rw [isClaimed] at isToken
    cases isToken
    exact fresh owner msgId recorded

theorem stale_token_complete {noteId token : UUID} {report : CompletionReport}
    (stale : StaleToken w claimToken) :
    StaleToken (w.complete noteId token report).2 claimToken := by
  obtain ⟨⟨owner, msgId, recorded⟩, ended⟩ := stale
  refine ⟨⟨owner, msgId, complete_log_kept recorded⟩, ?_⟩
  rintro ⟨msg, mem, processing, isToken⟩
  by_cases carried : ∃ cur, carriesClaim w.store noteId token cur
  · obtain ⟨cur, carries⟩ := carried
    have inStore : msg ∈
        replace (·.id) (completedMessage report cur) w.store.notifications := by
      rw [← complete_notifications report carries]
      exact mem
    rcases mem_of_mem_replace inStore with rfl | old
    · cases isToken
    · exact ended ⟨msg, old, processing, isToken⟩
  · obtain ⟨code, raises⟩ := complete_raises report (not_exists.mp carried)
    rw [raises] at mem
    exact ended ⟨msg, mem, processing, isToken⟩

theorem observe_processing {node : MediaNode} {observedAt : Datetime} {incId msgId : UUID}
    {store : ObservabilityStore} {msg : NotificationMessage}
    (mem : msg ∈ (observeIncident store node observedAt incId msgId).2.notifications)
    (processing : msg.status = .processing) : msg ∈ store.notifications := by
  have old : ∀ inc kind, msg ∈ store.notifications ++
      [newMessage inc kind msgId observedAt] → msg ∈ store.notifications := by
    intro inc kind inAppended
    rcases List.mem_append.mp inAppended with old | new
    · exact old
    · rw [List.mem_singleton.mp new] at processing
      cases processing
  rcases observe_cases store node observedAt incId msgId with
    ⟨_, observes⟩ | ⟨cur, _, observes⟩ | ⟨_, _, observes⟩
  · rw [observes] at mem
    exact old _ _ mem
  · rw [observes] at mem
    exact old _ _ mem
  · rw [observes] at mem
    exact mem

theorem stale_token_exec {tid : Nat} {post : DeliveryWorld} {req : DeliveryCall}
    {ans : Except ObservabilityError (DeliveryAnswer req)} (stale : StaleToken w claimToken)
    (ran : deliveryMachine.exec tid w req ans post) :
    StaleToken post claimToken := by
  cases req with
  | clock =>
    obtain ⟨_, rfl⟩ := ran
    exact stale
  | claimNotification now lease =>
    obtain ⟨token, fresh, answers⟩ := ran
    obtain ⟨_, rfl⟩ := Prod.mk.inj answers
    exact stale_token_claim stale fresh
  | send msg =>
    obtain ⟨report, _, rfl⟩ := ran
    obtain ⟨⟨owner, msgId, recorded⟩, ended⟩ := stale
    exact ⟨⟨owner, msgId, List.mem_append_left _ recorded⟩, ended⟩
  | completeNotification noteId token report =>
    obtain ⟨_, rfl⟩ := Prod.mk.inj (ran : (ans, post) = _)
    exact stale_token_complete stale
  | observeIncident node observedAt =>
    obtain ⟨incId, msgId, _, _, answers, log⟩ := ran
    have isStore := (Prod.mk.inj answers).2
    refine ⟨log ▸ stale.1, ?_⟩
    rintro ⟨msg, mem, processing, isToken⟩
    rw [isStore] at mem
    exact stale.2 ⟨msg, observe_processing mem processing, processing, isToken⟩

theorem stale_token_runs {largest : NotificationDispatcher}
    {st later : SystemState DeliveryCall DeliveryAnswer ObservabilityError Unit DeliveryWorld}
    (steps : Relation.ReflTransGen (SystemStep deliveryMachine (deliveryStarts largest)) st later)
    (stale : StaleToken st.world claimToken) : StaleToken later.world claimToken := by
  induction steps with
  | refl => exact stale
  | tail _ step ih =>
    cases step with
    | start => exact ih
    | call tid req next ans post at_ ran => exact stale_token_exec ih ran
    | leave => exact ih

theorem stale_completion (stale : ¬CurrentClaim w.store claimToken) (noteId : UUID)
    (report : CompletionReport) :
    ∃ code, completeNotification w.store noteId claimToken report =
      (.error (.valueError code), w.store) := by
  rcases complete_cases w.store noteId claimToken report with
    ⟨cur, ⟨isCurrent, processing, isToken⟩, _⟩ | ⟨_, code, raises⟩
  · exact absurd ⟨cur, lookup_mem isCurrent, processing, isToken⟩ stale
  · exact ⟨code, raises⟩

end Stale

/-- However dispatchers claim, send, complete and crash, and whenever leases expire: a claim
returns only messages each of whose earlier claims the dispatcher that held it completed after a
definite rejection, so that none was reported accepted or ambiguous, and none was abandoned by a
crash; no message has more attempts than the configured maximum; a recovery message is claimed
only when its incident has a failure message, and that one is terminal; and a completion with the
token of a claim that is over changes nothing, then and at any later time. -/
theorem delivery_at_most_once {largest : NotificationDispatcher}
    {st : SystemState DeliveryCall DeliveryAnswer ObservabilityError Unit DeliveryWorld}
    (reached : DeliverySystem largest st) :
    (∀ now lease claimToken msg,
      (claimNotification st.world.store now lease claimToken).1 = some msg →
      ∀ tid earlier, .claimed tid msg.id earlier ∈ st.world.log →
        .reported earlier .accepted ∉ st.world.log ∧
          .reported earlier .ambiguous ∉ st.world.log ∧
          .reported earlier .rejected ∈ st.world.log ∧
          .completed earlier ∈ st.world.log) ∧
    (∀ msg ∈ st.world.store.notifications, msg.attempts ≤ largest.maxAttempts) ∧
    (∀ now lease claimToken msg,
      (claimNotification st.world.store now lease claimToken).1 = some msg →
      msg.kind = .recovery →
      (∃ failure ∈ st.world.store.notifications,
        failure.kind = .failure ∧ failure.incidentId = msg.incidentId) ∧
      ∀ failure ∈ (claimNotification st.world.store now lease claimToken).2.notifications,
        failure.kind = .failure → failure.incidentId = msg.incidentId →
        failure.status.isTerminal = true) ∧
    ∀ later, Relation.ReflTransGen (SystemStep deliveryMachine (deliveryStarts largest)) st later →
      ∀ claimToken, StaleToken st.world claimToken → ∀ noteId report, ∃ code,
        completeNotification later.world.store noteId claimToken report =
          (.error (.valueError code), later.world.store) := by
  have invariant := delivery_system_invariant reached
  refine ⟨?_, fun msg mem => (invariant.attempts msg mem).2.1, ?_, ?_⟩
  · intro now lease claimToken msg claimed tid earlier recorded
    obtain ⟨_, old, oldMember, isClaimable, isMessage⟩ := claim_some claimed
    have sameId : msg.id = old.id := by rw [isMessage]; rfl
    rcases invariant.claims tid msg.id earlier recorded with
      released | ⟨holder, holderMember, isHolder, holds⟩
    · exact ⟨released.1.2.1, released.1.2.2, released.1.1, released.2⟩
    · have same := distinct_eq invariant.ids holderMember oldMember
        (isHolder.trans sameId)
      subst same
      exact absurd (claimable_pending isClaimable) (holds_not_pending holds)
  · intro now lease claimToken msg claimed recovery
    obtain ⟨_, old, oldMember, isClaimable, isMessage⟩ := claim_some claimed
    have isRecovery : old.kind = .recovery := by rw [isMessage] at recovery; exact recovery
    have sameIncident : msg.incidentId = old.incidentId := by rw [isMessage]; rfl
    obtain ⟨failure, failureMember, isFailure, same, terminal⟩ :=
      claimable_recovery isClaimable isRecovery
    have kept : failure ∈
        (claimNotification st.world.store now lease claimToken).2.notifications :=
      terminal_mem_claim failureMember terminal
    obtain ⟨oldFailure, oldFailureMember, id, kind, inc⟩ := mem_claim_kept kept
    refine ⟨⟨oldFailure, oldFailureMember, kind ▸ isFailure,
      inc ▸ same.trans sameIncident.symm⟩, ?_⟩
    intro other otherMember otherFailure otherSame
    have only := failures_kept invariant (claim_distinct invariant now lease claimToken)
      (fun msg => mem_claim_kept) other otherMember failure kept otherFailure isFailure
      (otherSame.trans (sameIncident.trans same.symm))
    rw [only]
    exact terminal
  · intro later steps claimToken stale noteId report
    exact stale_completion (stale_token_runs steps stale).2 noteId report

def sampleDispatcher : NotificationDispatcher :=
  { maxAttempts := 2, retryDelay := 60, leaseTimeout := 120
    maxAttemptsValid := by decide, timingValid := by decide }

def failedNode : MediaNode :=
  { id := 1, name := "edge", externalPort := 8554, state := .running, runtimeState := .failed }

def observedWorld : DeliveryWorld :=
  { store := (observeIncident {} failedNode 0 10 11).2, log := [] }

/-- The dispatcher claimed the message under token 20, and the relay rejected it. -/
def rejectedWorld : DeliveryWorld :=
  let claimed := (observedWorld.claim 0 5 120 20).2
  let reported := claimed.record claimed.store [.reported 20 .rejected]
  (reported.complete 11 20
    { succeeded := false, completedAt := 5, maxAttempts := 2, retryDelay := 60 }).2

theorem observed_world_reachable :
    DeliverySystem sampleDispatcher { world := observedWorld, threads := fun _ => none } := by
  have observes : deliveryMachine.exec 0 { store := {}, log := [] } (.observeIncident failedNode 0)
      (.ok (some (openedIncident failedNode 0 10))) observedWorld := by
    refine ⟨10, 11, ⟨?_, ?_⟩, ⟨?_, ?_⟩, rfl, rfl⟩ <;> simp
  have runs : Runs deliveryMachine 0 (do let _ ← observe failedNode (some 0))
      { store := {}, log := [] } (.ok ()) observedWorld :=
    .call observes (.done _ _)
  exact reachable_alone (.inr ⟨failedNode, some 0, rfl⟩) runs (.initial rfl)

theorem rejected_world_reachable :
    DeliverySystem sampleDispatcher { world := rejectedWorld, threads := fun _ => none } := by
  have claims : deliveryMachine.exec 0 observedWorld (.claimNotification 5 120)
      (.ok (observedWorld.claim 0 5 120 20).1) (observedWorld.claim 0 5 120 20).2 := by
    refine ⟨20, ?_, rfl⟩
    simp [DeliveryWorld.FreshToken, observedWorld]
  have runs : Runs deliveryMachine 0 (do let _ ← sampleDispatcher.runOnce (some 5))
      observedWorld (.ok ()) rejectedWorld :=
    .call claims (.call ⟨.rejected, rfl, rfl⟩ (.call rfl (.done _ _)))
  exact reachable_alone (.inl ⟨sampleDispatcher, some 5, le_refl _, rfl⟩) runs
    observed_world_reachable

theorem delivery_at_most_once_retried :
    ((claimNotification rejectedWorld.store 65 120 21).1.map (·.attempts)) = some 2 ∧
      (∀ msg ∈ rejectedWorld.store.notifications, msg.attempts ≤ 2) ∧
      ∀ msg, (claimNotification rejectedWorld.store 65 120 21).1 = some msg →
        ∀ tid earlier, .claimed tid msg.id earlier ∈ rejectedWorld.log →
          .reported earlier .accepted ∉ rejectedWorld.log ∧
            .completed earlier ∈ rejectedWorld.log := by
  have res := delivery_at_most_once rejected_world_reachable
  refine ⟨by decide +kernel, res.2.1, ?_⟩
  intro msg claimed tid earlier recorded
  obtain ⟨notAccepted, _, _, completed⟩ := res.1 65 120 21 msg claimed tid earlier recorded
  exact ⟨notAccepted, completed⟩

end RtspProxy.Observability
