import RtspProxy.Observability.Store

/-!
# What the operations of the observability store do

One lemma per operation says everything it can do: an observation opens an
incident, recovers one or changes nothing; a claim sweeps the expired leases and
then takes the first claimable message; a completion rewrites the message whose
current claim it carries or changes nothing. Later proofs use these lemmas and
never unfold the operations again.
-/

namespace RtspProxy.Observability

open Nodes Lib Lib.RecordTable List

variable {store : ObservabilityStore}

def openedIncident (node : MediaNode) (observedAt : Datetime) (incidentId : UUID) :
    NotificationIncident :=
  { id := incidentId, nodeId := node.id, state := .opened, openedAt := observedAt }

def recoveredIncident (cur : NotificationIncident) (observedAt : Datetime) :
    NotificationIncident :=
  { id := cur.id, nodeId := cur.nodeId, state := .recovered, openedAt := cur.openedAt
    recoveredAt := some observedAt }

def newMessage (inc : NotificationIncident) (kind : NotificationKind) (id : UUID)
    (availableAt : Datetime) : NotificationMessage :=
  { id, incidentId := inc.id, nodeId := inc.nodeId, kind
    dedupeKey := dedupeKey inc.id kind, status := .pending, attempts := 0, availableAt }

def opensIncident (store : ObservabilityStore) (node : MediaNode) : Prop :=
  nodeFailedForIncident node = true ∧
    ∀ latest, latestIncident store node.id = some latest → latest.state ≠ .opened

/-- The observation ends the outage of which `current` is the incident. -/
def recoversIncident (store : ObservabilityStore) (node : MediaNode)
    (cur : NotificationIncident) : Prop :=
  nodeRecoveredForIncident node = true ∧ latestIncident store node.id = some cur ∧
    cur.state = .opened

variable {node : MediaNode}

theorem not_failed_and_recovered (failed : nodeFailedForIncident node = true) :
    nodeRecoveredForIncident node = false := by
  simp only [nodeFailedForIncident, nodeRecoveredForIncident, decide_eq_true_eq,
    decide_eq_false_iff_not] at failed ⊢
  rintro ⟨running, _⟩
  rw [running] at failed
  simp at failed

theorem latest_open_eq_none :
    (latestIncident store node.id).filter (fun inc => decide (inc.state = .opened)) =
      none ↔ ∀ latest, latestIncident store node.id = some latest → latest.state ≠ .opened := by
  simp

theorem latest_open_eq_some {cur : NotificationIncident} :
    (latestIncident store node.id).filter (fun inc => decide (inc.state = .opened)) =
      some cur ↔ latestIncident store node.id = some cur ∧ cur.state = .opened := by
  simp

theorem observe_cases (store : ObservabilityStore) (node : MediaNode) (observedAt : Datetime)
    (incId msgId : UUID) :
    (opensIncident store node ∧ observeIncident store node observedAt incId msgId =
        (.ok (some (openedIncident node observedAt incId)),
          { incidents := store.incidents ++ [openedIncident node observedAt incId]
            notifications := store.notifications ++
              [newMessage (openedIncident node observedAt incId) .failure msgId observedAt] })) ∨
    (∃ cur, recoversIncident store node cur ∧ observeIncident store node observedAt incId msgId =
        (.ok (some (recoveredIncident cur observedAt)),
          { incidents := store.incidents.set (store.incidents.length - 1)
              (recoveredIncident cur observedAt)
            notifications := store.notifications ++
              [newMessage (recoveredIncident cur observedAt) .recovery msgId observedAt] })) ∨
    (¬opensIncident store node ∧ (∀ cur, ¬recoversIncident store node cur) ∧
      observeIncident store node observedAt incId msgId =
        (.ok (latestIncident store node.id), store)) := by
  cases failed : nodeFailedForIncident node with
  | true =>
    have notRecovered := not_failed_and_recovered failed
    cases isOpen : (latestIncident store node.id).filter
        (fun inc => decide (inc.state = .opened)) with
    | none =>
      refine .inl ⟨⟨failed, latest_open_eq_none.mp isOpen⟩, ?_⟩
      simp only [observeIncident, failed, if_true, isOpen]
      rfl
    | some cur =>
      obtain ⟨latest, opened⟩ := latest_open_eq_some.mp isOpen
      refine .inr (.inr ⟨?_, ?_, ?_⟩)
      · intro opens
        exact opens.2 cur latest opened
      · intro other recovers
        have isRecovered := recovers.1
        rw [notRecovered] at isRecovered
        exact Bool.noConfusion isRecovered
      · simp only [observeIncident, failed, if_true, isOpen]
        rw [latest]
  | false =>
    have notOpens : ¬opensIncident store node := by
      intro opens
      have isFailed := opens.1
      rw [failed] at isFailed
      exact Bool.noConfusion isFailed
    cases recovered : nodeRecoveredForIncident node with
    | false =>
      refine .inr (.inr ⟨notOpens, ?_, ?_⟩)
      · intro other recovers
        have isRecovered := recovers.1
        rw [recovered] at isRecovered
        exact Bool.noConfusion isRecovered
      · simp [observeIncident, failed, recovered]
    | true =>
      cases isOpen : (latestIncident store node.id).filter
          (fun inc => decide (inc.state = .opened)) with
      | none =>
        refine .inr (.inr ⟨notOpens, ?_, ?_⟩)
        · rintro other ⟨_, latest, opened⟩
          exact latest_open_eq_none.mp isOpen other latest opened
        · simp only [observeIncident, failed, recovered, isOpen]
          rfl
      | some cur =>
        obtain ⟨latest, opened⟩ := latest_open_eq_some.mp isOpen
        refine .inr (.inl ⟨cur, ⟨recovered, latest, opened⟩, ?_⟩)
        simp only [observeIncident, failed, recovered, isOpen]
        rfl

@[simp] theorem close_notifications (incId : UUID) (completedAt : Datetime) :
    (closeIncidentIfComplete store incId completedAt).notifications = store.notifications := by
  unfold closeIncidentIfComplete
  split
  · rfl
  · dsimp only
    split_ifs <;> rfl

@[simp] theorem expire_notifications (now lease : Int) :
    (expireLeases store now lease).notifications =
      store.notifications.map (sweptMessage now lease) := by
  have closing : ∀ (expired : List UUID) (cur : ObservabilityStore),
      (expired.foldl (fun cur incId => closeIncidentIfComplete cur incId now)
        cur).notifications = cur.notifications := by
    intro expired
    induction expired with
    | nil => intro cur; rfl
    | cons incId rest ih =>
      intro cur
      rw [foldl_cons, ih, close_notifications]
  exact closing _ _

theorem claim_cases (store : ObservabilityStore) (now lease : Int) (claimToken : UUID) :
    ((∀ msg ∈ (expireLeases store now lease).notifications,
        claimable (expireLeases store now lease).notifications now msg = false) ∧
      claimNotification store now lease claimToken = (none, expireLeases store now lease)) ∨
    ∃ pre msg rest, (expireLeases store now lease).notifications = pre ++ msg :: rest ∧
      (∀ earlier ∈ pre,
        claimable (expireLeases store now lease).notifications now earlier = false) ∧
      claimable (expireLeases store now lease).notifications now msg = true ∧
      claimNotification store now lease claimToken =
        (some (claimedMessage (expireLeases store now lease).notifications now claimToken
            msg),
          { expireLeases store now lease with
            notifications := pre ++
              claimedMessage (expireLeases store now lease).notifications now claimToken
                msg :: rest }) := by
  generalize sweptIs : expireLeases store now lease = swept
  cases found : swept.notifications.findIdx? (claimable swept.notifications now) with
  | none =>
    refine .inl ⟨findIdx?_eq_none_iff.mp found, ?_⟩
    simp only [claimNotification, sweptIs, found]
  | some index =>
    obtain ⟨bound, isClaimable, first⟩ := findIdx?_eq_some_iff_getElem.mp found
    refine .inr ⟨swept.notifications.take index, swept.notifications[index],
      swept.notifications.drop (index + 1), ?_, ?_, isClaimable, ?_⟩
    · rw [getElem_cons_drop, take_append_drop]
    · intro earlier mem
      obtain ⟨position, positionBound, isEarlier⟩ := mem_take_iff_getElem.mp mem
      rw [← isEarlier]
      have pre : position < index := by omega
      exact Bool.eq_false_iff.mpr (first position pre)
    · simp only [claimNotification, sweptIs, found, getElem?_eq_getElem bound]
      rw [set_eq_take_append_cons_drop, if_pos bound]

def NotificationMessage.identity (msg : NotificationMessage) :
    UUID × UUID × UUID × NotificationKind :=
  (msg.id, msg.incidentId, msg.nodeId, msg.kind)

variable (now lease : Int)

include now lease

variable (msg : NotificationMessage)

include msg

theorem swept_identity :
    (sweptMessage now lease msg).identity = msg.identity := by
  unfold sweptMessage
  split_ifs <;> rfl

@[simp] theorem swept_id :
    (sweptMessage now lease msg).id = msg.id := by
  unfold sweptMessage
  split_ifs <;> rfl

@[simp] theorem swept_incident :
    (sweptMessage now lease msg).incidentId = msg.incidentId := by
  unfold sweptMessage
  split_ifs <;> rfl

@[simp] theorem swept_kind :
    (sweptMessage now lease msg).kind = msg.kind := by
  unfold sweptMessage
  split_ifs <;> rfl

@[simp] theorem swept_attempts :
    (sweptMessage now lease msg).attempts = msg.attempts := by
  unfold sweptMessage
  split_ifs <;> rfl

theorem swept_cases :
    sweptMessage now lease msg = msg ∨
      msg.status = .processing ∧ sweptMessage now lease msg = expiredMessage now msg := by
  unfold sweptMessage
  split_ifs with expired
  · exact .inr ⟨(of_decide_eq_true expired).1, rfl⟩
  · exact .inl rfl

omit msg

omit now lease

variable {now lease : Int} {msg : NotificationMessage}

theorem swept_not_terminal (pending : msg.status = .pending) :
    (sweptMessage now lease msg).status.isTerminal = false := by
  rcases swept_cases now lease msg with unchanged | ⟨processing, _⟩
  · rw [unchanged, pending]
    rfl
  · rw [pending] at processing
    cases processing

variable {notifications : List NotificationMessage}

theorem claimable_pending {now : Datetime}
    (isClaimable : claimable notifications now msg = true) : msg.status = .pending :=
  (of_decide_eq_true isClaimable).1.1

theorem claim_identities (store : ObservabilityStore) (now lease : Int) (claimToken : UUID) :
    (claimNotification store now lease claimToken).2.notifications.map (·.identity) =
      store.notifications.map (·.identity) := by
  have swept : (expireLeases store now lease).notifications.map (·.identity) =
      store.notifications.map (·.identity) := by
    rw [expire_notifications, map_map]
    apply map_congr_left
    intro msg _
    exact swept_identity now lease msg
  rcases claim_cases store now lease claimToken with
    ⟨_, claims⟩ | ⟨pre, msg, rest, parts, _, _, claims⟩
  · rw [claims, swept]
  · rw [claims, ← swept, parts]
    simp [claimedMessage, NotificationMessage.identity]

variable {claimToken : UUID}

theorem claim_ids :
    (claimNotification store now lease claimToken).2.notifications.map (·.id) =
      store.notifications.map (·.id) := by
  have identities := congrArg (map Prod.fst)
    (claim_identities store now lease claimToken)
  simpa [NotificationMessage.identity, Function.comp_def] using identities

theorem mem_claim (mem : msg ∈ (claimNotification store now lease claimToken).2.notifications) :
    ∃ old ∈ store.notifications, msg = sweptMessage now lease old ∨
      claimable (expireLeases store now lease).notifications now old = true ∧
        (claimNotification store now lease claimToken).1 = some msg ∧
        msg = claimedMessage (expireLeases store now lease).notifications now claimToken
          old := by
  rcases claim_cases store now lease claimToken with
    ⟨_, claims⟩ | ⟨pre, taken, rest, parts, _, isClaimable, claims⟩
  · rw [claims, expire_notifications] at mem
    obtain ⟨old, oldMember, isSwept⟩ := mem_map.mp mem
    exact ⟨old, oldMember, .inl isSwept.symm⟩
  · rw [claims] at mem
    have sweptMember : ∀ other ∈ pre ++ taken :: rest, ∃ old ∈ store.notifications,
        other = sweptMessage now lease old := by
      intro other otherMember
      rw [← parts, expire_notifications] at otherMember
      obtain ⟨old, oldMember, isSwept⟩ := mem_map.mp otherMember
      exact ⟨old, oldMember, isSwept.symm⟩
    rcases mem_append.mp mem with inBefore | inRest
    · obtain ⟨old, oldMember, isSwept⟩ := sweptMember msg (mem_append_left _ inBefore)
      exact ⟨old, oldMember, .inl isSwept⟩
    · rcases mem_cons.mp inRest with isTaken | inRest
      · obtain ⟨old, oldMember, isSwept⟩ := sweptMember taken (by simp)
        have pending := claimable_pending isClaimable
        have sameOld : taken = old := by
          rcases swept_cases now lease old with unchanged | ⟨_, expired⟩
          · exact isSwept.trans unchanged
          · rw [isSwept, expired] at pending
            cases pending
        subst sameOld
        refine ⟨taken, oldMember, .inr ⟨isClaimable, ?_, isTaken⟩⟩
        rw [claims, isTaken]
      · obtain ⟨old, oldMember, isSwept⟩ := sweptMember msg (by simp [inRest])
        exact ⟨old, oldMember, .inl isSwept⟩

theorem swept_mem_claim (now lease : Int) (claimToken : UUID) {old : NotificationMessage}
    (mem : old ∈ store.notifications) (notPending : old.status ≠ .pending) :
    sweptMessage now lease old ∈
      (claimNotification store now lease claimToken).2.notifications := by
  have sweptMember : sweptMessage now lease old ∈
      (expireLeases store now lease).notifications := by
    rw [expire_notifications]
    exact mem_map_of_mem mem
  rcases claim_cases store now lease claimToken with
    ⟨_, claims⟩ | ⟨pre, taken, rest, parts, _, isClaimable, claims⟩
  · rw [claims]
    exact sweptMember
  · rw [claims]
    rw [parts] at sweptMember
    rcases mem_append.mp sweptMember with inBefore | inRest
    · exact mem_append_left _ inBefore
    · rcases mem_cons.mp inRest with isTaken | inRest
      · exfalso
        have pending := claimable_pending isClaimable
        rw [← isTaken] at pending
        rcases swept_cases now lease old with unchanged | ⟨_, expired⟩
        · exact notPending (unchanged ▸ pending)
        · rw [expired] at pending
          cases pending
      · exact mem_append_right _ (mem_cons_of_mem _ inRest)

theorem terminal_mem_claim (mem : msg ∈ (expireLeases store now lease).notifications)
    (terminal : msg.status.isTerminal = true) :
    msg ∈ (claimNotification store now lease claimToken).2.notifications := by
  rw [expire_notifications] at mem
  obtain ⟨old, oldMember, rfl⟩ := mem_map.mp mem
  refine swept_mem_claim now lease claimToken oldMember ?_
  intro pending
  rw [swept_not_terminal pending] at terminal
  cases terminal

theorem terminal_mem_expire (mem : msg ∈ store.notifications)
    (terminal : msg.status.isTerminal = true) :
    msg ∈ (expireLeases store now lease).notifications := by
  rw [expire_notifications]
  have unchanged : sweptMessage now lease msg = msg := by
    rcases swept_cases now lease msg with same | ⟨processing, _⟩
    · exact same
    · rw [processing] at terminal
      cases terminal
  rw [← unchanged]
  exact mem_map_of_mem mem

theorem mem_failure_terminal {incId : UUID} :
    incId ∈ failureTerminal notifications ↔ ∃ failure ∈ notifications,
      failure.kind = .failure ∧ failure.incidentId = incId ∧ failure.status.isTerminal = true := by
  simp only [failureTerminal, mem_map, mem_filter, Bool.and_eq_true, decide_eq_true_eq]
  constructor
  · rintro ⟨failure, ⟨mem, isFailure, terminal⟩, same⟩
    exact ⟨failure, mem, isFailure, same, terminal⟩
  · rintro ⟨failure, mem, isFailure, same, terminal⟩
    exact ⟨failure, ⟨mem, isFailure, terminal⟩, same⟩

/-- A recovery message is claimed only once a failure message of its incident is terminal. -/
theorem claimable_recovery {now : Datetime}
    (isClaimable : claimable notifications now msg = true) (recovery : msg.kind = .recovery)
    : ∃ failure ∈ notifications, failure.kind = .failure ∧ failure.incidentId = msg.incidentId ∧
        failure.status.isTerminal = true := by
  rcases (of_decide_eq_true isClaimable).2 with isFailure | terminal
  · rw [recovery] at isFailure
    cases isFailure
  · exact mem_failure_terminal.mp terminal

theorem claim_some (claimed : (claimNotification store now lease claimToken).1 = some msg) :
    msg ∈ (claimNotification store now lease claimToken).2.notifications ∧
      ∃ old ∈ store.notifications,
        claimable (expireLeases store now lease).notifications now old = true ∧
        msg = claimedMessage (expireLeases store now lease).notifications now claimToken
          old := by
  rcases claim_cases store now lease claimToken with
    ⟨_, claims⟩ | ⟨pre, taken, rest, parts, _, isClaimable, claims⟩
  · rw [claims] at claimed
    cases claimed
  · rw [claims] at claimed ⊢
    cases claimed
    refine ⟨by simp, taken, ?_, isClaimable, rfl⟩
    have mem : taken ∈ (expireLeases store now lease).notifications := by
      rw [parts]
      simp
    rw [expire_notifications] at mem
    obtain ⟨old, oldMember, isSwept⟩ := mem_map.mp mem
    rcases swept_cases now lease old with unchanged | ⟨_, expired⟩
    · rw [← isSwept, unchanged]
      exact oldMember
    · have pending := claimable_pending isClaimable
      rw [← isSwept, expired] at pending
      cases pending

theorem next_status_pending {report : CompletionReport} {attempts : Int}
    (pending : report.nextStatus attempts = .pending) :
    report.succeeded = false ∧ report.deliveryAmbiguous = false ∧ attempts < report.maxAttempts := by
  unfold CompletionReport.nextStatus at pending
  split_ifs at pending with succeeded final
  obtain ⟨notAmbiguous, below⟩ := not_or.mp final
  exact ⟨by simpa using succeeded, by simpa using notAmbiguous, by omega⟩

theorem next_status_cases (report : CompletionReport) (attempts : Int) :
    report.nextStatus attempts = .pending ∨ (report.nextStatus attempts).isTerminal = true := by
  unfold CompletionReport.nextStatus
  split_ifs
  · exact .inr rfl
  · exact .inr rfl
  · exact .inl rfl

/-- The completion carries the current claim of a message. -/
def carriesClaim (store : ObservabilityStore) (noteId claimToken : UUID)
    (cur : NotificationMessage) : Prop :=
  lookup (·.id) noteId store.notifications = some cur ∧
    cur.status = .processing ∧ cur.claimToken = some claimToken

theorem complete_cases (store : ObservabilityStore) (noteId claimToken : UUID)
    (report : CompletionReport) :
    (∃ cur, carriesClaim store noteId claimToken cur ∧
      completeNotification store noteId claimToken report = (.ok (completedMessage report cur),
          closeIncidentIfComplete
            { store with
              notifications := replace (·.id) (completedMessage report cur)
                store.notifications }
            cur.incidentId report.completedAt)) ∨
    ((∀ cur, ¬carriesClaim store noteId claimToken cur) ∧
      ∃ code, completeNotification store noteId claimToken report =
        (.error (.valueError code), store)) := by
  cases found : lookup (·.id) noteId store.notifications with
  | none =>
    refine .inr ⟨?_, "notification_not_found", by simp only [completeNotification, found]⟩
    rintro cur ⟨isFound, _⟩
    rw [found] at isFound
    cases isFound
  | some cur =>
    by_cases claimed : cur.status = .processing ∧ cur.claimToken = some claimToken
    · refine .inl ⟨cur, ⟨found, claimed⟩, ?_⟩
      have passes : ¬(cur.status ≠ .processing ∨ cur.claimToken ≠ some claimToken) := by
        simp [claimed]
      simp only [completeNotification, found, if_neg passes]
      rfl
    · refine .inr ⟨?_, "notification_not_claimed", ?_⟩
      · rintro other ⟨isFound, held⟩
        rw [found] at isFound
        cases isFound
        exact claimed held
      · have raises : cur.status ≠ .processing ∨ cur.claimToken ≠ some claimToken :=
          not_and_or.mp claimed
        simp only [completeNotification, found, if_pos raises]

theorem complete_notifications {noteId : UUID} (report : CompletionReport)
    {cur : NotificationMessage} (carries : carriesClaim store noteId claimToken cur) :
    (completeNotification store noteId claimToken report).2.notifications =
      replace (·.id) (completedMessage report cur) store.notifications := by
  rcases complete_cases store noteId claimToken report with
    ⟨other, otherCarries, completes⟩ | ⟨nobody, _⟩
  · have same := carries.1.symm.trans otherCarries.1
    cases same
    rw [completes, close_notifications]
  · exact absurd carries (nobody cur)

theorem complete_identities (store : ObservabilityStore) (noteId claimToken : UUID)
    (report : CompletionReport) :
    (completeNotification store noteId claimToken report).2.notifications.map (·.identity) =
      store.notifications.map (·.identity) := by
  rcases complete_cases store noteId claimToken report with
    ⟨cur, carries, _⟩ | ⟨_, code, raises⟩
  · rw [complete_notifications report carries]
    have isCurrent := carries.1
    rw [← lookup_key isCurrent] at isCurrent
    exact map_replace isCurrent rfl
  · rw [raises]

def NotificationIncident.trace (inc : NotificationIncident) :
    UUID × UUID × Datetime × Option Datetime :=
  (inc.id, inc.nodeId, inc.openedAt, inc.recoveredAt)

theorem close_cases (store : ObservabilityStore) (incId : UUID) (completedAt : Datetime) :
    closeIncidentIfComplete store incId completedAt = store ∨
    ∃ inc, lookup (·.id) incId store.incidents = some inc ∧ inc.state = .recovered ∧
      closeIncidentIfComplete store incId completedAt = { store with
          incidents := replace (·.id)
            { inc with state := .closed, closedAt := some completedAt } store.incidents } := by
  cases found : lookup (·.id) incId store.incidents with
  | none =>
    left
    simp only [closeIncidentIfComplete, found]
  | some inc =>
    by_cases recovered : inc.state = .recovered
    · simp only [closeIncidentIfComplete, found, recovered, ne_eq, not_true_eq_false, if_false]
      split_ifs
      · exact .inl rfl
      · exact .inr ⟨inc, rfl, recovered, rfl⟩
    · left
      simp only [closeIncidentIfComplete, found, ne_eq, recovered, not_false_eq_true, if_true]

theorem close_traces (incId : UUID) (completedAt : Datetime) :
    (closeIncidentIfComplete store incId completedAt).incidents.map (·.trace) =
      store.incidents.map (·.trace) := by
  rcases close_cases store incId completedAt with unchanged | ⟨inc, found, _, closes⟩
  · rw [unchanged]
  · rw [closes]
    rw [← lookup_key found] at found
    exact map_replace found rfl

theorem mem_close {incId : UUID} {completedAt : Datetime} {inc : NotificationIncident}
    (mem : inc ∈ (closeIncidentIfComplete store incId completedAt).incidents) :
    inc ∈ store.incidents ∨ inc.state = .closed ∧
      ∃ old ∈ store.incidents, old.state = .recovered ∧ inc.recoveredAt = old.recoveredAt := by
  rcases close_cases store incId completedAt with unchanged | ⟨old, found, recovered, closes⟩
  · rw [unchanged] at mem
    exact .inl mem
  · rw [closes] at mem
    rcases mem_of_mem_replace mem with isClosed | kept
    · rw [isClosed]
      exact .inr ⟨rfl, old, lookup_mem found, recovered, rfl⟩
    · exact .inl kept

theorem expire_keeps {prop : ObservabilityStore → Prop} (closing : ∀ cur incId, prop cur →
      prop (closeIncidentIfComplete cur incId now)) (holds : prop { store with
      notifications := store.notifications.map (sweptMessage now lease) }) :
    prop (expireLeases store now lease) := by
  have folded : ∀ (expired : List UUID) (cur : ObservabilityStore), prop cur →
      prop (expired.foldl (fun cur incId =>
        closeIncidentIfComplete cur incId now) cur) := by
    intro expired
    induction expired with
    | nil =>
      intro cur currentHolds
      exact currentHolds
    | cons incId rest ih =>
      intro cur currentHolds
      exact ih _ (closing cur incId currentHolds)
  exact folded _ _ holds

theorem claim_incidents (store : ObservabilityStore) (now lease : Int) (claimToken : UUID) :
    (claimNotification store now lease claimToken).2.incidents =
      (expireLeases store now lease).incidents := by
  rcases claim_cases store now lease claimToken with
    ⟨_, claims⟩ | ⟨pre, taken, rest, parts, _, _, claims⟩
  · rw [claims]
  · rw [claims]

end RtspProxy.Observability
