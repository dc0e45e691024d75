import RtspProxy.Observability.Delivery

/-!
# The invariant of the delivery system

Every claim in the log is over, current, or the last one of a terminal message.
One lemma per call of the store says that it keeps the invariant, when the call
is permitted: a dispatcher sends under a token of its own, once, and completes
with a definite failure only when the transport reported one.
-/

namespace RtspProxy.Observability

open Nodes Lib Lib.RecordTable List DeliveryWorld
open Lib.Program
open Lib.Program.Prog (ask raise)

/-- The transport reported that the relay did not take the message, and nothing else. -/
def Rejected (log : List DeliveryEvent) (claimToken : UUID) : Prop :=
  .reported claimToken .rejected ∈ log ∧ .reported claimToken .accepted ∉ log ∧
    .reported claimToken .ambiguous ∉ log

/-- The claim is over, and its message may be claimed again. -/
def Released (log : List DeliveryEvent) (claimToken : UUID) : Prop :=
  Rejected log claimToken ∧ .completed claimToken ∈ log

/-- The claim is the current one of the message, or the message is never claimed again. -/
def Holds (msg : NotificationMessage) (claimToken : UUID) : Prop :=
  msg.status.isTerminal = true ∨ msg.status = .processing ∧ msg.claimToken = some claimToken

structure DeliveryInvariant (limit : Int) (w : DeliveryWorld) : Prop where
  ids : DistinctKeys (·.id) w.store.notifications
  failures : ∀ left ∈ w.store.notifications, ∀ right ∈ w.store.notifications,
    left.kind = .failure → right.kind = .failure → left.incidentId = right.incidentId →
    left = right
  attempts : ∀ msg ∈ w.store.notifications, 0 ≤ msg.attempts ∧ msg.attempts ≤ limit ∧
      (msg.status = .pending → msg.attempts < limit)
  tokens : ∀ msg ∈ w.store.notifications, msg.status = .processing →
    ∃ tid claimToken, msg.claimToken = some claimToken ∧ .claimed tid msg.id claimToken ∈ w.log
  once : ∀ claimToken tid msgId other otherId, .claimed tid msgId claimToken ∈ w.log →
    .claimed other otherId claimToken ∈ w.log → tid = other ∧ msgId = otherId
  reports : ∀ claimToken report, .reported claimToken report ∈ w.log →
    ∃ tid msgId, .claimed tid msgId claimToken ∈ w.log
  claims : ∀ tid msgId claimToken, .claimed tid msgId claimToken ∈ w.log →
    Released w.log claimToken ∨ ∃ msg ∈ w.store.notifications, msg.id = msgId ∧ Holds msg claimToken
  recoveries : ∀ msg ∈ w.store.notifications, msg.kind = .recovery →
    0 < msg.attempts → ∃ failure ∈ w.store.notifications,
      failure.kind = .failure ∧ failure.incidentId = msg.incidentId ∧
        failure.status.isTerminal = true

def deliveryEffect (tid : Nat) (pre post : DeliveryWorld) : Prop :=
  ∃ added, post.log = pre.log ++ added ∧ ∀ claimToken report, .reported claimToken report ∈ added →
      ∃ msgId, .claimed tid msgId claimToken ∈ pre.log

/-- The thread holds the token, and the transport has reported nothing under it. -/
def Unreported (tid : Nat) (claimToken : UUID) (w : DeliveryWorld) : Prop :=
  (∃ msgId, .claimed tid msgId claimToken ∈ w.log) ∧ ∀ report, .reported claimToken report ∉ w.log

def deliveryPermitted (limit : Int) (tid : Nat) (w : DeliveryWorld) : DeliveryCall → Prop
  | .clock | .claimNotification .. | .observeIncident .. => True
  | .send msg => ∀ claimToken, msg.claimToken = some claimToken → Unreported tid claimToken w
  | .completeNotification _ claimToken report => report.maxAttempts ≤ limit ∧
      (report.succeeded = false → report.deliveryAmbiguous = false → Rejected w.log claimToken)

variable {msg : NotificationMessage}

section Log

variable {limit : Int} {log added : List DeliveryEvent} {claimToken : UUID}

theorem rejected_append (rejected : Rejected log claimToken)
    (unreported : ∀ report, .reported claimToken report ∉ added) :
    Rejected (log ++ added) claimToken := by
  obtain ⟨isRejected, notAccepted, notAmbiguous⟩ := rejected
  refine ⟨mem_append_left _ isRejected, ?_, ?_⟩
  · simp [notAccepted, unreported]
  · simp [notAmbiguous, unreported]

theorem released_append (released : Released log claimToken)
    (unreported : ∀ report, .reported claimToken report ∉ added) :
    Released (log ++ added) claimToken :=
  ⟨rejected_append released.1 unreported, mem_append_left _ released.2⟩

theorem holds_swept (now lease : Int) (holds : Holds msg claimToken) :
    Holds (sweptMessage now lease msg) claimToken := by
  rcases swept_cases now lease msg with unchanged | ⟨_, expired⟩
  · rw [unchanged]
    exact holds
  · rw [expired]
    exact .inl rfl

theorem holds_not_pending (holds : Holds msg claimToken) : msg.status ≠ .pending := by
  intro pending
  rcases holds with terminal | ⟨processing, _⟩
  · rw [pending] at terminal
    cases terminal
  · rw [pending] at processing
    cases processing

end Log

theorem failures_kept {limit : Int} {w : DeliveryWorld}
    (inv : DeliveryInvariant limit w) {notes : List NotificationMessage}
    (ids : DistinctKeys (·.id) notes) (kept : ∀ msg ∈ notes, ∃ old ∈ w.store.notifications,
      msg.id = old.id ∧ msg.kind = old.kind ∧ msg.incidentId = old.incidentId) :
    ∀ left ∈ notes, ∀ right ∈ notes,
      left.kind = .failure → right.kind = .failure → left.incidentId = right.incidentId →
      left = right := by
  intro left leftMember right rightMember leftFailure rightFailure same
  obtain ⟨oldLeft, oldLeftMember, leftId, leftKind, leftIncident⟩ := kept left leftMember
  obtain ⟨oldRight, oldRightMember, rightId, rightKind, rightIncident⟩ := kept right rightMember
  have sameOld := inv.failures oldLeft oldLeftMember oldRight oldRightMember
    (leftKind ▸ leftFailure) (rightKind ▸ rightFailure)
    (leftIncident.symm.trans (same.trans rightIncident))
  refine distinct_eq ids leftMember rightMember ?_
  rw [leftId, rightId, sameOld]

variable {msgId : UUID}

section Claim

variable {limit : Int} {w : DeliveryWorld} {tid : Nat} {now lease : Int}
  {claimToken : UUID}

theorem claim_log_claimed {other : Nat} {token : UUID} :
    .claimed other msgId token ∈ (w.claim tid now lease claimToken).2.log ↔
      .claimed other msgId token ∈ w.log ∨ other = tid ∧ token = claimToken ∧ ∃ msg,
          (w.claim tid now lease claimToken).1 = some msg ∧ msg.id = msgId := by
  cases claimed : claimNotification w.store now lease claimToken with
  | mk res store =>
    cases res with
    | none => simp [claim, record, claimed]
    | some msg =>
      simp [claim, record, claimed]
      grind

theorem claim_log_kept {event : DeliveryEvent} (recorded : event ∈ w.log) :
    event ∈ (w.claim tid now lease claimToken).2.log :=
  mem_append_left _ recorded

theorem claim_unreported {token : UUID} {report : SendReport} :
    .reported token report ∉ ((w.claim tid now lease claimToken).1.toList.map
      fun msg => DeliveryEvent.claimed tid msg.id claimToken) := by
  simp

theorem claim_attempts (inv : DeliveryInvariant limit w)
    (mem : msg ∈ (claimNotification w.store now lease claimToken).2.notifications) :
    0 ≤ msg.attempts ∧ msg.attempts ≤ limit ∧ (msg.status = .pending → msg.attempts < limit) := by
  obtain ⟨old, oldMember, isSwept | ⟨isClaimable, _, isClaimed⟩⟩ := mem_claim mem
  · have bounds := inv.attempts old oldMember
    rw [isSwept]
    rcases swept_cases now lease old with unchanged | ⟨_, expired⟩
    · rw [unchanged]
      exact bounds
    · rw [expired]
      refine ⟨bounds.1, bounds.2.1, ?_⟩
      intro pending
      cases pending
  · have bounds := inv.attempts old oldMember
    have below := bounds.2.2 (claimable_pending isClaimable)
    rw [isClaimed]
    refine ⟨?_, ?_, ?_⟩
    · dsimp only [claimedMessage]
      omega
    · dsimp only [claimedMessage]
      omega
    · intro pending
      cases pending

theorem claim_recoveries (inv : DeliveryInvariant limit w)
    (mem : msg ∈ (claimNotification w.store now lease claimToken).2.notifications)
    (recovery : msg.kind = .recovery) (claimed : 0 < msg.attempts) :
    ∃ failure ∈ (claimNotification w.store now lease claimToken).2.notifications,
      failure.kind = .failure ∧ failure.incidentId = msg.incidentId ∧
        failure.status.isTerminal = true := by
  obtain ⟨old, oldMember, isSwept | ⟨isClaimable, _, isClaimed⟩⟩ := mem_claim mem
  · rw [isSwept, swept_kind] at recovery
    rw [isSwept, swept_attempts] at claimed
    obtain ⟨failure, failureMember, isFailure, same, terminal⟩ :=
      inv.recoveries old oldMember recovery claimed
    refine ⟨failure, terminal_mem_claim (terminal_mem_expire failureMember terminal) terminal,
      isFailure, ?_, terminal⟩
    rw [isSwept, swept_incident]
    exact same
  · rw [isClaimed] at recovery
    obtain ⟨failure, failureMember, isFailure, same, terminal⟩ :=
      claimable_recovery isClaimable recovery
    refine ⟨failure, terminal_mem_claim failureMember terminal, isFailure, ?_, terminal⟩
    rw [isClaimed]
    exact same

theorem mem_claim_kept
    (mem : msg ∈ (claimNotification w.store now lease claimToken).2.notifications) :
    ∃ old ∈ w.store.notifications, msg.id = old.id ∧ msg.kind = old.kind ∧
      msg.incidentId = old.incidentId := by
  obtain ⟨old, oldMember, isSwept | ⟨_, _, isClaimed⟩⟩ := mem_claim mem
  · refine ⟨old, oldMember, ?_, ?_, ?_⟩ <;> simp [isSwept]
  · refine ⟨old, oldMember, ?_, ?_, ?_⟩ <;> simp [isClaimed, claimedMessage]

theorem claim_distinct (inv : DeliveryInvariant limit w) (now lease : Int)
    (claimToken : UUID) : DistinctKeys (·.id)
      (claimNotification w.store now lease claimToken).2.notifications := by
  unfold DistinctKeys
  rw [claim_ids]
  exact inv.ids

theorem claim_invariant (inv : DeliveryInvariant limit w) (fresh : w.FreshToken claimToken) :
    DeliveryInvariant limit (w.claim tid now lease claimToken).2 := by
  have ids := claim_distinct inv now lease claimToken
  refine ⟨ids, failures_kept inv ids fun msg => mem_claim_kept,
    fun msg => claim_attempts inv, ?_, ?_, ?_, ?_,
    fun msg => claim_recoveries inv⟩
  · intro msg mem processing
    obtain ⟨old, oldMember, isSwept | ⟨_, taken, isClaimed⟩⟩ := mem_claim mem
    · rcases swept_cases now lease old with unchanged | ⟨_, expired⟩
      · rw [isSwept, unchanged] at processing ⊢
        obtain ⟨owner, token, isToken, recorded⟩ := inv.tokens old oldMember processing
        exact ⟨owner, token, isToken, claim_log_kept recorded⟩
      · rw [isSwept, expired] at processing
        cases processing
    · refine ⟨tid, claimToken, by rw [isClaimed]; rfl, ?_⟩
      exact claim_log_claimed.mpr (.inr ⟨rfl, rfl, msg, taken, rfl⟩)
  · intro token owner msgId other otherId first second
    rcases claim_log_claimed.mp first with oldFirst | ⟨rfl, isNew, msg, isMessage, rfl⟩
    · rcases claim_log_claimed.mp second with oldSecond | ⟨_, rfl, _⟩
      · exact inv.once token owner msgId other otherId oldFirst oldSecond
      · exact absurd oldFirst (fresh owner msgId)
    · rcases claim_log_claimed.mp second with oldSecond | ⟨rfl, _, again, isAgain, rfl⟩
      · exact absurd (isNew ▸ oldSecond) (fresh other otherId)
      · have same := isMessage.symm.trans isAgain
        cases same
        exact ⟨rfl, rfl⟩
  · intro token report reported
    have old : .reported token report ∈ w.log :=
      (mem_append.mp reported).resolve_right claim_unreported
    obtain ⟨owner, msgId, recorded⟩ := inv.reports token report old
    exact ⟨owner, msgId, claim_log_kept recorded⟩
  · intro owner msgId token recorded
    rcases claim_log_claimed.mp recorded with old | ⟨rfl, rfl, msg, taken, rfl⟩
    · rcases inv.claims owner msgId token old with
        released | ⟨msg, mem, rfl, holds⟩
      · exact .inl (released_append released fun _ => claim_unreported)
      · refine .inr ⟨sweptMessage now lease msg, ?_, swept_id _ _ _, holds_swept now lease holds⟩
        exact swept_mem_claim now lease claimToken mem (holds_not_pending holds)
    · obtain ⟨mem, old, _, _, isClaimed⟩ := claim_some taken
      refine .inr ⟨msg, mem, rfl, .inr ?_⟩
      rw [isClaimed]
      exact ⟨rfl, rfl⟩

end Claim

section Complete

variable {limit : Int} {w : DeliveryWorld} {noteId claimToken : UUID}
  {report : CompletionReport}

theorem complete_log_kept {event : DeliveryEvent} (recorded : event ∈ w.log) :
    event ∈ (w.complete noteId claimToken report).2.log :=
  mem_append_left _ recorded

theorem complete_raises (report : CompletionReport) (stale : ∀ cur,
      ¬carriesClaim w.store noteId claimToken cur) :
    ∃ code, w.complete noteId claimToken report = (.error (.valueError code), w) := by
  rcases complete_cases w.store noteId claimToken report with
    ⟨cur, carries, _⟩ | ⟨_, code, raises⟩
  · exact absurd carries (stale cur)
  · refine ⟨code, ?_⟩
    simp only [complete, raises, record, Except.toOption, Option.toList_none, map_nil, append_nil]

variable {cur : NotificationMessage}

theorem complete_log (carries : carriesClaim w.store noteId claimToken cur) :
    (w.complete noteId claimToken report).2.log = w.log ++ [.completed claimToken] := by
  rcases complete_cases w.store noteId claimToken report with
    ⟨other, _, completes⟩ | ⟨nobody, _⟩
  · simp only [complete, completes, record]
    rfl
  · exact absurd carries (nobody cur)

variable (inv : DeliveryInvariant limit w)

include inv

variable (carries : carriesClaim w.store noteId claimToken cur)

include carries

theorem mem_complete :
    msg ∈ (w.complete noteId claimToken report).2.store.notifications ↔
      msg = completedMessage report cur ∨ msg ∈ w.store.notifications ∧ msg.id ≠ cur.id := by
  have notes : (w.complete noteId claimToken report).2.store.notifications =
      replace (·.id) (completedMessage report cur) w.store.notifications :=
    complete_notifications report carries
  rw [notes]
  exact mem_replace inv.ids (lookup_mem carries.1) rfl

theorem mem_complete_of_not_processing
    (mem : msg ∈ w.store.notifications) (notProcessing : msg.status ≠ .processing) :
    msg ∈ (w.complete noteId claimToken report).2.store.notifications := by
  refine (mem_complete inv carries).mpr (.inr ⟨mem, ?_⟩)
  intro sameId
  have same := distinct_eq inv.ids mem (lookup_mem carries.1) sameId
  exact notProcessing (same ▸ carries.2.1)

theorem mem_complete_kept
    (mem : msg ∈ (w.complete noteId claimToken report).2.store.notifications) :
    ∃ old ∈ w.store.notifications, msg.id = old.id ∧ msg.kind = old.kind ∧
      msg.incidentId = old.incidentId ∧ msg.attempts = old.attempts := by
  rcases (mem_complete inv carries).mp mem with rfl | ⟨oldMember, _⟩
  · exact ⟨cur, lookup_mem carries.1, rfl, rfl, rfl, rfl⟩
  · exact ⟨msg, oldMember, rfl, rfl, rfl, rfl⟩

omit carries

theorem complete_attempts (within : report.maxAttempts ≤ limit)
    (carries : carriesClaim w.store noteId claimToken cur)
    (mem : msg ∈ (w.complete noteId claimToken report).2.store.notifications) :
    0 ≤ msg.attempts ∧ msg.attempts ≤ limit ∧ (msg.status = .pending → msg.attempts < limit) := by
  rcases (mem_complete inv carries).mp mem with rfl | ⟨oldMember, _⟩
  · have bounds := inv.attempts cur (lookup_mem carries.1)
    refine ⟨bounds.1, bounds.2.1, ?_⟩
    intro pending
    have below := (next_status_pending pending).2.2
    dsimp only [completedMessage]
    omega
  · exact inv.attempts msg oldMember

theorem complete_claims (reported : report.succeeded = false → report.deliveryAmbiguous = false →
      Rejected w.log claimToken)
    (carries : carriesClaim w.store noteId claimToken cur) {owner : Nat}
    {token : UUID} (recorded : .claimed owner msgId token ∈ w.log) :
    Released (w.complete noteId claimToken report).2.log token ∨
      ∃ msg ∈ (w.complete noteId claimToken report).2.store.notifications,
        msg.id = msgId ∧ Holds msg token := by
  rw [complete_log carries]
  have unreported : ∀ (token : UUID) (sent : SendReport),
      DeliveryEvent.reported token sent ∉ [.completed claimToken] := by simp
  rcases inv.claims owner msgId token recorded with
    released | ⟨msg, mem, rfl, holds⟩
  · exact .inl (released_append released (unreported token))
  · by_cases sameId : msg.id = cur.id
    · have same := distinct_eq inv.ids mem
        (lookup_mem carries.1) sameId
      subst same
      have isCurrent : token = claimToken := by
        rcases holds with terminal | ⟨_, isToken⟩
        · rw [carries.2.1] at terminal
          cases terminal
        · exact Option.some.inj (isToken.symm.trans carries.2.2)
      subst isCurrent
      rcases next_status_cases report msg.attempts with pending | terminal
      · obtain ⟨failed, definite, _⟩ := next_status_pending pending
        exact .inl ⟨rejected_append (reported failed definite) (unreported token), by simp⟩
      · exact .inr ⟨completedMessage report msg,
          (mem_complete inv carries).mpr (.inl rfl), rfl, .inl terminal⟩
    · exact .inr ⟨msg, (mem_complete inv carries).mpr (.inr ⟨mem, sameId⟩), rfl, holds⟩

theorem complete_invariant (within : report.maxAttempts ≤ limit)
    (reported : report.succeeded = false → report.deliveryAmbiguous = false →
      Rejected w.log claimToken) :
    DeliveryInvariant limit (w.complete noteId claimToken report).2 := by
  by_cases carried : ∃ cur, carriesClaim w.store noteId claimToken cur
  · obtain ⟨cur, carries⟩ := carried
    have ids : DistinctKeys (·.id)
        (w.complete noteId claimToken report).2.store.notifications := by
      have notes := complete_notifications report carries
      exact notes ▸ distinct_replace.mpr inv.ids
    have oldClaim : ∀ {owner msgId token},
        .claimed owner msgId token ∈ (w.complete noteId claimToken report).2.log →
        .claimed owner msgId token ∈ w.log := by
      intro owner msgId token recorded
      rw [complete_log carries] at recorded
      simpa using recorded
    refine ⟨ids, failures_kept inv ids ?_,
      fun msg => complete_attempts inv within carries, ?_, ?_, ?_, fun owner msgId token recorded =>
        complete_claims inv reported carries (oldClaim recorded), ?_⟩
    · intro msg mem
      obtain ⟨old, oldMember, id, kind, inc, _⟩ := mem_complete_kept inv carries mem
      exact ⟨old, oldMember, id, kind, inc⟩
    · intro msg mem processing
      rcases (mem_complete inv carries).mp mem with rfl | ⟨oldMember, _⟩
      · exfalso
        rcases next_status_cases report cur.attempts with pending | terminal
        · cases pending.symm.trans processing
        · have isProcessing : report.nextStatus cur.attempts = .processing := processing
          rw [isProcessing] at terminal
          cases terminal
      · obtain ⟨owner, token, isToken, recorded⟩ := inv.tokens msg oldMember processing
        exact ⟨owner, token, isToken, complete_log_kept recorded⟩
    · intro token owner msgId other otherId first second
      exact inv.once token owner msgId other otherId (oldClaim first) (oldClaim second)
    · intro token sent reported
      rw [complete_log carries] at reported
      have old : .reported token sent ∈ w.log := by simpa using reported
      obtain ⟨owner, msgId, recorded⟩ := inv.reports token sent old
      exact ⟨owner, msgId, complete_log_kept recorded⟩
    · intro msg mem recovery claimed
      obtain ⟨old, oldMember, _, kind, inc, attempts⟩ :=
        mem_complete_kept inv carries mem
      obtain ⟨failure, failureMember, isFailure, same, terminal⟩ :=
        inv.recoveries old oldMember (kind ▸ recovery) (attempts ▸ claimed)
      refine ⟨failure, mem_complete_of_not_processing inv carries failureMember ?_, isFailure,
        inc ▸ same, terminal⟩
      intro processing
      rw [processing] at terminal
      cases terminal
  · obtain ⟨code, raises⟩ := complete_raises report (not_exists.mp carried)
    rw [raises]
    exact inv

omit inv

end Complete

section Others

variable {limit : Int} {w : DeliveryWorld} {tid : Nat}

theorem send_invariant (inv : DeliveryInvariant limit w) {report : SendReport}
    (own : ∀ claimToken, msg.claimToken = some claimToken → Unreported tid claimToken w) :
    DeliveryInvariant limit (w.record w.store
      (msg.claimToken.toList.map fun claimToken => .reported claimToken report)) := by
  have oldClaim : ∀ {owner msgId token}, .claimed owner msgId token ∈ (w.record w.store
        (msg.claimToken.toList.map fun claimToken => .reported claimToken report)).log →
      .claimed owner msgId token ∈ w.log := by
    intro owner msgId token recorded
    simpa [record] using recorded
  refine ⟨inv.ids, inv.failures, inv.attempts, ?_, ?_, ?_, ?_, inv.recoveries⟩
  · intro other mem processing
    obtain ⟨owner, token, isToken, recorded⟩ := inv.tokens other mem processing
    exact ⟨owner, token, isToken, mem_append_left _ recorded⟩
  · intro token owner msgId other otherId first second
    exact inv.once token owner msgId other otherId (oldClaim first) (oldClaim second)
  · intro token sent reported
    have claimed : ∃ owner msgId, .claimed owner msgId token ∈ w.log := by
      rcases mem_append.mp reported with old | new
      · exact inv.reports token sent old
      · obtain ⟨claimToken, isToken, same⟩ := mem_map.mp new
        cases same
        exact ⟨tid, (own token (Option.mem_toList.mp isToken)).1⟩
    obtain ⟨owner, msgId, recorded⟩ := claimed
    exact ⟨owner, msgId, mem_append_left _ recorded⟩
  · intro owner msgId token recorded
    rcases inv.claims owner msgId token (oldClaim recorded) with released | holds
    · refine .inl (released_append released ?_)
      intro again reported
      obtain ⟨sent, isSent, same⟩ := mem_map.mp reported
      cases same
      exact (own token (Option.mem_toList.mp isSent)).2 .rejected released.1.1
    · exact .inr holds

/-- A store that only gained pending messages, at most one of them a failure, of a new incident. -/
theorem append_invariant (inv : DeliveryInvariant limit w) (positive : 1 ≤ limit)
    {store : ObservabilityStore} {inc : NotificationIncident} {kind : NotificationKind}
    {availableAt : Datetime} (notes : store.notifications =
      w.store.notifications ++ [newMessage inc kind msgId availableAt])
    (freshMessage : w.FreshMessage msgId)
    (freshFailure : kind = .failure → ∀ msg ∈ w.store.notifications, msg.incidentId ≠ inc.id) :
    DeliveryInvariant limit { w with store := store } := by
  have members : ∀ {msg}, msg ∈ store.notifications ↔
      msg ∈ w.store.notifications ∨ msg = newMessage inc kind msgId availableAt := by
    intro msg
    rw [notes]
    simp
  refine ⟨?_, ?_, ?_, ?_, inv.once, inv.reports, ?_, ?_⟩
  · dsimp only
    rw [notes]
    exact distinct_append_singleton inv.ids freshMessage.1
  · intro left leftMember right rightMember leftFailure rightFailure same
    rcases members.mp leftMember with oldLeft | rfl
    · rcases members.mp rightMember with oldRight | rfl
      · exact inv.failures left oldLeft right oldRight leftFailure rightFailure same
      · exact absurd same (freshFailure rightFailure left oldLeft)
    · rcases members.mp rightMember with oldRight | rfl
      · exact absurd same.symm (freshFailure leftFailure right oldRight)
      · rfl
  · intro msg mem
    rcases members.mp mem with old | rfl
    · exact inv.attempts msg old
    · exact ⟨le_refl 0, by dsimp only [newMessage]; omega, fun _ => by dsimp only [newMessage]; omega⟩
  · intro msg mem processing
    rcases members.mp mem with old | rfl
    · exact inv.tokens msg old processing
    · cases processing
  · intro owner claimedId token recorded
    rcases inv.claims owner claimedId token recorded with
      released | ⟨msg, mem, isMessage, holds⟩
    · exact .inl released
    · exact .inr ⟨msg, members.mpr (.inl mem), isMessage, holds⟩
  · intro msg mem recovery claimed
    rcases members.mp mem with old | rfl
    · obtain ⟨failure, failureMember, facts⟩ := inv.recoveries msg old recovery claimed
      exact ⟨failure, members.mpr (.inl failureMember), facts⟩
    · exact absurd claimed (lt_irrefl 0)

theorem observe_invariant (inv : DeliveryInvariant limit w) (positive : 1 ≤ limit)
    {node : MediaNode} {observedAt : Datetime} {incidentId : UUID}
    (freshIncident : w.FreshIncident incidentId) (freshMessage : w.FreshMessage msgId) :
    DeliveryInvariant limit
      { w with
        store := (observeIncident w.store node observedAt incidentId msgId).2 } := by
  rcases observe_cases w.store node observedAt incidentId msgId with
    ⟨_, observes⟩ | ⟨cur, _, observes⟩ | ⟨_, _, observes⟩
  · rw [observes]
    exact append_invariant inv positive rfl freshMessage fun _ => freshIncident.2
  · rw [observes]
    exact append_invariant inv positive rfl freshMessage (by rintro ⟨⟩)
  · rw [observes]
    exact inv

end Others

end RtspProxy.Observability
