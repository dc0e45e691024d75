import RtspProxy.Observability.Agreement

/-!
# One operation in both stores

Each operation that meets the condition gives the same answer in both stores and
leaves them in agreement. The checks of the database pass because of the
invariant: an open incident is the latest of its node, and no recovered incident
is without an outstanding message.
-/

namespace RtspProxy.Observability

open Nodes Lib Lib.RecordTable Lib.Raising List StoreOperation Sql

theorem dedupe_key_injective {left right : UUID} {leftKind rightKind : NotificationKind}
    (same : dedupeKey left leftKind = dedupeKey right rightKind) :
    left = right ∧ leftKind = rightKind := by
  have texts := congrArg String.toList same
  simp only [dedupeKey, String.toList_append] at texts
  have kinds := append_inj texts (by simp [UUID.str_length])
  have ids := append_inj kinds.1 (by simp [UUID.str_length])
  have names := append_inj ids.1 rfl
  constructor
  · exact UUID.str_injective (String.toList_injective names.2)
  · cases leftKind <;> cases rightKind
    · rfl
    · exact absurd kinds.2 (by decide)
    · exact absurd kinds.2 (by decide)
    · rfl

section Observe

variable {hist : List StoreOperation} {store : ObservabilityStore} {tables : NotifierTables}
  {node : MediaNode} {observedAt : Datetime} {incidentId msgId : UUID}

theorem insert_message_ok {inc : NotificationIncident} {kind : NotificationKind}
    {id : UUID} {availableAt : Datetime} (inv : AgreementInvariant hist store)
    (messages : tables.messages.map (notificationFromRow · none) = store.notifications.map stored)
    (known : ∃ other ∈ tables.incidents, other.id = inc.id)
    (freshId : ∀ msg ∈ store.notifications, msg.id ≠ id)
    (freshKind : ∀ msg ∈ store.notifications, ¬(msg.incidentId = inc.id ∧ msg.kind = kind)) :
    insertMessage tables (pendingRow inc kind id availableAt) = .ok { tables with
        messages := tables.messages ++ [pendingRow inc kind id availableAt] } := by
  have agrees : Agrees { store with incidents := tables.incidents } tables := ⟨rfl, messages⟩
  have owned : ¬∀ other ∈ tables.incidents,
      other.id ≠ (pendingRow inc kind id availableAt).incidentId := by
    intro nobody
    rcases known with ⟨other, mem, same⟩
    exact nobody other mem same
  have noId : ¬∃ other ∈ tables.messages, other.id = (pendingRow inc kind id availableAt).id := by
    apply no_row_of_no_message agrees _ freshId
    intro row msg same isId
    rw [← (row_fields same).1]
    exact isId
  have noKind : ¬∃ other ∈ tables.messages,
      other.incidentId = (pendingRow inc kind id availableAt).incidentId ∧
        other.kind = (pendingRow inc kind id availableAt).kind := by
    apply no_row_of_no_message agrees _ freshKind
    intro row msg same holds
    rcases row_fields same with ⟨_, sameIncident, _, sameKind, _⟩
    rw [← sameIncident, ← sameKind]
    exact holds
  have noKey : ¬∃ other ∈ tables.messages,
      other.dedupeKey = (pendingRow inc kind id availableAt).dedupeKey := by
    rintro ⟨row, mem, isKey⟩
    obtain ⟨msg, messageMember, same⟩ := message_of_row agrees mem
    have key := inv.keys msg messageMember
    rw [← (row_fields same).2.2.2.2.1, isKey] at key
    rcases dedupe_key_injective key with ⟨sameIncident, sameKind⟩
    exact freshKind msg messageMember ⟨sameIncident.symm, sameKind.symm⟩
  unfold insertMessage
  rw [check_passes owned, check_passes noId, check_passes noKey, check_passes noKind]
  rfl

theorem fresh_kind (fresh : (StoreOperation.observe node observedAt incidentId msgId).Fresh store)
    {kind : NotificationKind} : ∀ msg ∈ store.notifications,
      ¬(msg.incidentId = incidentId ∧ msg.kind = kind) := by
  intro msg mem holds
  exact fresh.2.1 msg mem holds.1

variable (inv : AgreementInvariant hist store)

include inv

theorem insert_incident_ok (agrees : Agrees store tables)
    (fresh : (StoreOperation.observe node observedAt incidentId msgId).Fresh store)
    (opens : opensIncident store node) :
    insertIncident tables (openedIncident node observedAt incidentId) = .ok { tables with
        incidents := tables.incidents ++ [openedIncident node observedAt incidentId] } := by
  have noId : ¬∃ other ∈ tables.incidents,
      other.id = (openedIncident node observedAt incidentId).id := by
    rw [agrees.incidents]
    rintro ⟨other, mem, same⟩
    exact fresh.1 other mem same
  have noOpen : ¬((openedIncident node observedAt incidentId).state = .opened ∧
      ∃ other ∈ tables.incidents,
        other.nodeId = (openedIncident node observedAt incidentId).nodeId ∧
          other.state = .opened) := by
    rw [agrees.incidents]
    rintro ⟨_, other, mem, sameNode, opened⟩
    have isLatest := open_is_latest inv mem opened
    rw [sameNode] at isLatest
    exact opens.2 other isLatest opened
  unfold insertIncident
  rw [check_passes noId, check_passes noOpen]
  rfl

theorem observe_opens_agrees (agrees : Agrees store tables) (isNode : node.id ∈ tables.mediaNodes)
    (fresh : (StoreOperation.observe node observedAt incidentId msgId).Fresh store)
    (opens : opensIncident store node) :
    observeIncidentSql tables node observedAt incidentId msgId =
      .ok (some (openedIncident node observedAt incidentId), { tables with
          incidents := tables.incidents ++ [openedIncident node observedAt incidentId]
          messages := tables.messages ++
            [pendingRow (openedIncident node observedAt incidentId) .failure msgId
              observedAt] }) := by
  have notBoth : ¬(nodeFailedForIncident node = true ∧ nodeRecoveredForIncident node = true) := by
    rw [not_failed_and_recovered opens.1]
    simp
  have noneOpen : (latestRow tables node.id).filter
      (fun inc => decide (inc.state = .opened)) = none := by
    rw [latest_row_eq inv agrees]
    exact latest_open_eq_none.mpr opens.2
  have inserted : insertMessage
      { tables with incidents := tables.incidents ++ [openedIncident node observedAt incidentId] }
      (pendingRow (openedIncident node observedAt incidentId) .failure msgId observedAt) = _ :=
    insert_message_ok inv agrees.messages ⟨_, by simp, rfl⟩ fresh.2.2 (fresh_kind fresh)
  unfold observeIncidentSql collectorObserve
  rw [check_passes notBoth, check_passes (not_not_intro isNode)]
  dsimp only
  rw [noneOpen, opens.1]
  dsimp only
  apply (bind_of_ok (insert_incident_ok inv agrees fresh opens)).trans
  exact bind_of_ok inserted

theorem no_recovery_message {cur : NotificationIncident} (mem : cur ∈ store.incidents)
    (opened : cur.state = .opened) : ∀ msg ∈ store.notifications,
      ¬(msg.incidentId = cur.id ∧ msg.kind = .recovery) := by
  intro msg messageMember holds
  have counts := (inv.paired.counts cur mem).2
  rw [(inv.paired.states cur mem).mp opened] at counts
  unfold ObservabilityStore.messageCount at counts
  have notCounted := countP_eq_zero.mp counts msg messageMember
  simp [isMessageOf, holds] at notCounted

theorem observe_recovers_agrees
    (agrees : Agrees store tables) (isNode : node.id ∈ tables.mediaNodes)
    (fresh : (StoreOperation.observe node observedAt incidentId msgId).Fresh store)
    {cur : NotificationIncident} (recovers : recoversIncident store node cur)
    (isLast : store.incidents.getLast? = some cur) :
    observeIncidentSql tables node observedAt incidentId msgId =
      .ok (some (recoveredIncident cur observedAt), { tables with
          incidents := store.incidents.dropLast ++ [recoveredIncident cur observedAt]
          messages := tables.messages ++
            [pendingRow (recoveredIncident cur observedAt) .recovery msgId observedAt] }) := by
  have notFailed : nodeFailedForIncident node = false := by
    cases failed : nodeFailedForIncident node with
    | false => rfl
    | true =>
      have notRecovered := not_failed_and_recovered failed
      rw [recovers.1] at notRecovered
      cases notRecovered
  have notBoth : ¬(nodeFailedForIncident node = true ∧ nodeRecoveredForIncident node = true) := by
    rw [notFailed]
    simp
  have isOpen : (latestRow tables node.id).filter
      (fun inc => decide (inc.state = .opened)) = some cur := by
    rw [latest_row_eq inv agrees]
    exact latest_open_eq_some.mpr recovers.2
  have mem : cur ∈ store.incidents := (latest_node recovers.2.1).1
  have sameIncident : ({ cur with state := .recovered, recoveredAt := some observedAt } :
      NotificationIncident) = recoveredIncident cur observedAt := by
    simp [recoveredIncident, inv.unclosed cur mem recovers.2.2]
  have upd : update (fun row => decide (row.id = cur.id))
      (fun row => ({ row with state := .recovered, recoveredAt := some observedAt } :
        NotificationIncident)) tables.incidents =
      store.incidents.dropLast ++ [recoveredIncident cur observedAt] := by
    have distinct := inv.paired.ids
    have parts := last_parts isLast
    generalize store.incidents.dropLast = earlier at parts ⊢
    rw [agrees.incidents, ← sameIncident]
    rw [parts] at distinct ⊢
    exact update_middle distinct
  have noMessage := no_recovery_message inv mem recovers.2.2
  have inserted : insertMessage
      { tables with
        incidents := store.incidents.dropLast ++ [recoveredIncident cur observedAt] }
      (pendingRow (recoveredIncident cur observedAt) .recovery msgId observedAt) = _ :=
    insert_message_ok inv agrees.messages ⟨_, by simp, rfl⟩ fresh.2.2 noMessage
  unfold observeIncidentSql collectorObserve
  rw [check_passes notBoth, check_passes (not_not_intro isNode)]
  dsimp only
  rw [isOpen, notFailed, recovers.1]
  dsimp only
  rw [upd, sameIncident]
  exact bind_of_ok inserted

theorem observe_idle_agrees (agrees : Agrees store tables) (isNode : node.id ∈ tables.mediaNodes)
    (notOpens : ¬opensIncident store node) (noRecovery : ∀ cur, ¬recoversIncident store node cur) :
    observeIncidentSql tables node observedAt incidentId msgId =
      .ok (latestIncident store node.id, tables) := by
  have notBoth : ¬(nodeFailedForIncident node = true ∧ nodeRecoveredForIncident node = true) := by
    intro both
    rw [not_failed_and_recovered both.1] at both
    cases both.2
  unfold observeIncidentSql collectorObserve
  rw [check_passes notBoth, check_passes (not_not_intro isNode)]
  rw [latest_row_eq inv agrees]
  dsimp only
  cases failed : nodeFailedForIncident node with
  | true =>
    cases isOpen : (latestIncident store node.id).filter
        (fun inc => decide (inc.state = .opened)) with
    | none => exact absurd ⟨failed, latest_open_eq_none.mp isOpen⟩ notOpens
    | some cur => rfl
  | false =>
    cases recovered : nodeRecoveredForIncident node with
    | false => rfl
    | true =>
      cases isOpen : (latestIncident store node.id).filter
          (fun inc => decide (inc.state = .opened)) with
      | none => rfl
      | some cur => exact absurd ⟨recovered, latest_open_eq_some.mp isOpen⟩ (noRecovery cur)

theorem observe_agrees (agrees : Agrees store tables)
    (isNode : node.id ∈ tables.mediaNodes) (recoversLast : RecoversLast store node)
    (fresh : (StoreOperation.observe node observedAt incidentId msgId).Fresh store) :
    (StoreOperation.observe node observedAt incidentId msgId).SameAnswer store tables ∧
      Agrees ((StoreOperation.observe node observedAt incidentId msgId).apply store)
        ((StoreOperation.observe node observedAt incidentId msgId).applySql tables) ∧
      ((StoreOperation.observe node observedAt incidentId msgId).applySql tables).mediaNodes =
        tables.mediaNodes := by
  simp only [SameAnswer, StoreOperation.apply, applySql]
  rcases observe_cases store node observedAt incidentId msgId with
    ⟨opens, observes⟩ | ⟨cur, recovers, observes⟩ | ⟨notOpens, noRecovery, observes⟩
  · have inSql := observe_opens_agrees inv agrees isNode fresh opens
    rw [observes, inSql]
    refine ⟨⟨_, _, rfl, rfl⟩, ⟨?_, ?_⟩, rfl⟩
    · rw [agrees.incidents]
    · simp only [map_append, agrees.messages]
      rfl
  · have isLast := recoversLast cur recovers
    have inSql := observe_recovers_agrees inv agrees isNode fresh recovers isLast
    rw [observes, inSql, recovered_incidents isLast]
    refine ⟨⟨_, _, rfl, rfl⟩, ⟨rfl, ?_⟩, rfl⟩
    simp only [map_append, agrees.messages]
    rfl
  · rw [observes, observe_idle_agrees inv agrees isNode notOpens noRecovery]
    exact ⟨⟨_, _, rfl, rfl⟩, agrees, rfl⟩

omit inv

end Observe

variable {row : NotificationRow} {msg : NotificationMessage}

section Claim

variable {hist : List StoreOperation} {store : ObservabilityStore} {tables : NotifierTables}
  {now lease : Int} {claimToken : UUID}

theorem expire_none (unexpired : ∀ msg ∈ store.notifications, leaseExpired now lease msg = false) :
    expireLeases store now lease = store := by
  have noneExpired : store.notifications.filter (leaseExpired now lease) = [] := by
    rw [filter_eq_nil_iff]
    intro msg mem
    rw [unexpired msg mem]
    exact Bool.false_ne_true
  have unswept : store.notifications.map (sweptMessage now lease) = store.notifications := by
    conv_rhs => rw [← map_id store.notifications]
    apply map_congr_left
    intro msg mem
    simp [sweptMessage, unexpired msg mem]
  simp only [expireLeases, noneExpired, unswept]
  rfl

theorem row_ids (agrees : Agrees store tables) :
    tables.messages.map (·.id) = store.notifications.map (·.id) := by
  apply map_eq_of_views agrees.messages
  intro row _ msg _ same
  exact (row_fields same).1

theorem not_complete (inv : AgreementInvariant hist store) (agrees : Agrees store tables)
    {inc : NotificationIncident} (mem : inc ∈ store.incidents) :
    incidentComplete tables.messages inc = false := by
  apply Bool.eq_false_iff.mpr
  intro complete
  rcases of_decide_eq_true complete with ⟨recovered, _, allTerminal⟩
  obtain ⟨msg, messageMember, own, outstanding⟩ := inv.outstanding inc mem recovered
  obtain ⟨row, rowMember, same⟩ := row_of_message agrees messageMember
  rcases row_fields same with ⟨_, sameIncident, _, _, _, sameStatus, _⟩
  apply allTerminal
  refine ⟨row, ?_, ?_⟩
  · simp [rowMember, sameIncident, own]
  · rw [sameStatus]
    exact outstanding

theorem sweep_none (inv : AgreementInvariant hist store) (agrees : Agrees store tables)
    (unexpired : ∀ msg ∈ store.notifications, leaseExpired now lease msg = false) :
    sweepTables tables now (now - lease) = tables := by
  have messages : update (rowExpired (now - lease)) expiredRow tables.messages =
      tables.messages := by
    apply update_none
    intro row mem
    obtain ⟨msg, messageMember, same⟩ := message_of_row agrees mem
    rcases row_fields same with ⟨_, _, _, _, _, status, _, _, _, _, claimedAt⟩
    rw [← unexpired msg messageMember]
    simp only [rowExpired, leaseExpired, status, claimedAt]
  have incidents : update (incidentComplete tables.messages) (closedRow now) tables.incidents =
      tables.incidents := by
    apply update_none
    intro inc mem
    rw [agrees.incidents] at mem
    exact not_complete inv agrees mem
  simp only [sweepTables, messages, incidents]

theorem row_claimable_eq (agrees : Agrees store tables)
    (same : notificationFromRow row none = stored msg) :
    rowClaimable tables.messages now row = claimable store.notifications now msg := by
  rcases row_fields same with ⟨_, inc, _, kind, _, status, _, availableAt, _⟩
  have terminal : (∃ failure ∈ tables.messages, failure.incidentId = msg.incidentId ∧
      failure.kind = .failure ∧ failure.status.isTerminal = true) ↔
      msg.incidentId ∈ failureTerminal store.notifications := by
    rw [mem_failure_terminal]
    constructor
    · rintro ⟨failureRow, mem, own, isFailure, isTerminal⟩
      obtain ⟨failure, failureMember, sameFailure⟩ := message_of_row agrees mem
      rcases row_fields sameFailure with ⟨_, failureIncident, _, failureKind, _, failureStatus, _⟩
      rw [failureIncident] at own
      rw [failureKind] at isFailure
      rw [failureStatus] at isTerminal
      exact ⟨failure, failureMember, isFailure, own, isTerminal⟩
    · rintro ⟨failure, mem, isFailure, own, isTerminal⟩
      obtain ⟨failureRow, rowMember, sameFailure⟩ := row_of_message agrees mem
      rcases row_fields sameFailure with ⟨_, failureIncident, _, failureKind, _, failureStatus, _⟩
      refine ⟨failureRow, rowMember, ?_, ?_, ?_⟩
      · rw [failureIncident, own]
      · rw [failureKind, isFailure]
      · rw [failureStatus, isTerminal]
  simp only [rowClaimable, claimable, inc, kind, status, availableAt, terminal]

theorem failure_status_eq (agrees : Agrees store tables) (incidentId : UUID) :
    (tables.messages.find? fun failure =>
        decide (failure.incidentId = incidentId ∧ failure.kind = .failure)).map (·.status) =
      (store.notifications.find? fun cand =>
        decide (cand.incidentId = incidentId) && decide (cand.kind = .failure)).map
          (·.status) := by
  have viewed := congrArg (fun messages => (messages.find? fun msg =>
    decide (msg.incidentId = incidentId ∧ msg.kind = .failure)).map
      NotificationMessage.status) agrees.messages
  simp only [find?_map, Option.map_map] at viewed
  have sameTest : (fun cand : NotificationMessage =>
      decide (cand.incidentId = incidentId) && decide (cand.kind = .failure)) =
      fun cand => decide (cand.incidentId = incidentId ∧ cand.kind = .failure) := by
    funext cand
    simp
  rw [sameTest]
  exact viewed

theorem due_earlier_iff {left right : NotificationRow} {leftMessage rightMessage : NotificationMessage}
    (leftSame : notificationFromRow left none = stored leftMessage)
    (rightSame : notificationFromRow right none = stored rightMessage) :
    dueEarlier left right = true ↔ leftMessage.availableAt < rightMessage.availableAt ∨
      leftMessage.availableAt = rightMessage.availableAt ∧
        leftMessage.id.int < rightMessage.id.int := by
  rcases row_fields leftSame with ⟨leftId, _, _, _, _, _, _, leftAvailable, _⟩
  rcases row_fields rightSame with ⟨rightId, _, _, _, _, _, _, rightAvailable, _⟩
  simp [dueEarlier, leftId, leftAvailable, rightId, rightAvailable]

theorem candidate_eq (agrees : Agrees store tables)
    (ids : DistinctKeys (·.id) store.notifications) {first : NotificationMessage}
    (rowMember : row ∈ tables.messages) (same : notificationFromRow row none = stored first)
    (isClaimable : claimable store.notifications now first = true)
    (ordered : ∀ other ∈ store.notifications, claimable store.notifications now other = true →
      other ≠ first → first.availableAt < other.availableAt ∨
        first.availableAt = other.availableAt ∧ first.id.int < other.id.int) :
    firstBy dueEarlier (tables.messages.filter (rowClaimable tables.messages now)) = some row := by
  have rowIds : DistinctKeys (·.id) tables.messages := by
    unfold DistinctKeys
    rw [row_ids agrees]
    exact ids
  apply first_by_eq
  · rw [mem_filter, row_claimable_eq agrees same]
    exact ⟨rowMember, isClaimable⟩
  · intro otherRow otherMember
    rcases mem_filter.mp otherMember with ⟨inTable, otherClaimable⟩
    obtain ⟨other, inStore, sameOther⟩ := message_of_row agrees inTable
    rw [row_claimable_eq agrees sameOther] at otherClaimable
    by_cases isFirst : other = first
    · left
      apply distinct_eq rowIds inTable rowMember
      rw [(row_fields sameOther).1, (row_fields same).1, isFirst]
    · right
      have earlier := ordered other inStore otherClaimable isFirst
      constructor
      · exact (due_earlier_iff same sameOther).mpr earlier
      · apply Bool.eq_false_iff.mpr
        intro later
        exact lexicographic_asymm earlier ((due_earlier_iff sameOther same).mp later)

theorem claimed_alike {notifications : List NotificationMessage}
    (same : notificationFromRow row none = stored msg) :
    notificationFromRow (claimedRow now claimToken row) none =
      stored (claimedMessage notifications now claimToken msg) := by
  rcases row_fields same with
    ⟨id, inc, node, kind, key, _, attempts, availableAt, lastError, _, _⟩
  simp [notificationFromRow, claimedRow, stored, claimedMessage, id, inc, node, kind, key,
    attempts, availableAt, lastError]

theorem claimed_delivered (agrees : Agrees store tables)
    (same : notificationFromRow row none = stored msg) :
    delivered (claimedMessage store.notifications now claimToken msg) =
      delivered (notificationFromRow (claimedRow now claimToken row)
        ((tables.messages.find? fun failure => decide (failure.incidentId =
            (claimedRow now claimToken row).incidentId ∧ failure.kind = .failure)).map
          (·.status))) := by
  have out := failure_status_eq agrees msg.incidentId
  rcases row_fields same with
    ⟨id, inc, node, kind, key, _, attempts, availableAt, lastError, _, _⟩
  cases isKind : msg.kind with
  | failure =>
    simp [delivered, claimedMessage, notificationFromRow, claimedRow, stored, id, inc, node,
      kind, key, attempts, availableAt, lastError, isKind]
  | recovery =>
    have rowIncident : (claimedRow now claimToken row).incidentId = msg.incidentId := inc
    rw [rowIncident, out]
    simp [delivered, claimedMessage, notificationFromRow, claimedRow, id, inc, node,
      kind, key, attempts, availableAt, lastError, isKind, failureOutcome]

theorem claimed_messages (agrees : Agrees store tables)
    (ids : DistinctKeys (·.id) store.notifications)
    {pre rest : List NotificationMessage} {first : NotificationMessage}
    (parts : store.notifications = pre ++ first :: rest)
    (same : notificationFromRow row none = stored first) :
    (update (fun other => decide (other.id = row.id)) (claimedRow now claimToken)
        tables.messages).map (notificationFromRow · none) =
      (pre ++ claimedMessage store.notifications now claimToken first :: rest).map stored := by
  have upd : update (fun other => decide (other.id = first.id))
        (claimedMessage store.notifications now claimToken) store.notifications =
      pre ++ claimedMessage store.notifications now claimToken first :: rest := by
    generalize claimedMessage store.notifications now claimToken = assign
    rw [parts] at ids ⊢
    exact update_middle ids
  rw [← upd, update, update, map_map, map_map]
  apply map_eq_of_views agrees.messages
  intro otherRow _ other _ sameOther
  dsimp only [Function.comp_apply]
  rw [(row_fields sameOther).1, (row_fields same).1]
  by_cases isTaken : other.id = first.id
  · simp only [isTaken, decide_true, if_true]
    exact claimed_alike sameOther
  · simp only [isTaken, decide_false]
    exact sameOther

theorem claim_agrees (inv : AgreementInvariant hist store) (agrees : Agrees store tables)
    {mediaNodes : List UUID} (cond : agreementMet mediaNodes store (.claim now lease claimToken)) :
    (claim now lease claimToken).SameAnswer store tables ∧
      Agrees ((claim now lease claimToken).apply store)
        ((claim now lease claimToken).applySql tables) ∧
      ((claim now lease claimToken).applySql tables).mediaNodes = tables.mediaNodes := by
  have unswept := expire_none cond.1
  have sameTables := sweep_none inv agrees cond.1
  have cases_ := claim_cases store now lease claimToken
  rw [unswept] at cases_
  simp only [SameAnswer, StoreOperation.apply, applySql, claimNotificationSql, notifierClaim]
  rw [sameTables]
  rcases cases_ with ⟨nothing, claims⟩ | ⟨pre, first, rest, parts, earlier, isClaimable, claims⟩
  · have noCandidate : tables.messages.filter (rowClaimable tables.messages now) = [] := by
      rw [filter_eq_nil_iff]
      intro row mem
      obtain ⟨msg, messageMember, same⟩ := message_of_row agrees mem
      rw [row_claimable_eq agrees same, nothing msg messageMember]
      exact Bool.false_ne_true
    rw [claims, noCandidate]
    exact ⟨⟨_, _, rfl, rfl⟩, agrees, rfl⟩
  · have firstMember : first ∈ store.notifications := by
      rw [parts]
      simp
    have isFirst : takenFirst store now first := by
      unfold takenFirst
      rw [find?_eq_some_iff_append]
      refine ⟨isClaimable, pre, rest, parts, ?_⟩
      intro other mem
      rw [earlier other mem]
      rfl
    obtain ⟨row, rowMember, same⟩ := row_of_message agrees firstMember
    have cand := candidate_eq agrees inv.ids rowMember same isClaimable
      (cond.2 first isFirst)
    have withinAttempts : ¬¬(0 ≤ (claimedRow now claimToken row).attempts ∧
        (claimedRow now claimToken row).attempts ≤ 10) := by
      have bounds := inv.attempts first firstMember
      have below := bounds.2.2 (claimable_pending isClaimable)
      simp only [claimedRow, (row_fields same).2.2.2.2.2.2.1, not_not]
      omega
    rw [claims, cand]
    dsimp only
    rw [check_passes withinAttempts]
    refine ⟨⟨_, _, rfl, ?_⟩, ⟨agrees.incidents, ?_⟩, rfl⟩
    · exact congrArg some (claimed_delivered agrees same)
    · exact claimed_messages agrees inv.ids parts same

end Claim

section Complete

variable {hist : List StoreOperation} {store : ObservabilityStore} {tables : NotifierTables}
  {noteId claimToken : UUID} {report : CompletionReport}

theorem lookup_row (agrees : Agrees store tables) (wanted : UUID) :
    (lookup (·.id) wanted tables.messages).map (notificationFromRow · none) =
      (lookup (·.id) wanted store.notifications).map stored := by
  have viewed := congrArg (fun messages => messages.find? fun msg : NotificationMessage =>
    decide (msg.id = wanted)) agrees.messages
  simp only [find?_map] at viewed
  exact viewed

variable {cur : NotificationMessage}

theorem completed_alike {currentRow : NotificationRow}
    (same : notificationFromRow row none = stored msg)
    (sameCurrent : notificationFromRow currentRow none = stored cur) (isCurrent : msg = cur) :
    notificationFromRow (completedRow report currentRow row) none =
      stored (completedMessage report msg) := by
  subst isCurrent
  rcases row_fields same with ⟨id, inc, node, kind, key, _, attempts, _⟩
  have currentAttempts := (row_fields sameCurrent).2.2.2.2.2.2.1
  have nextStatus : (if report.succeeded then NotificationStatus.sent
      else if report.deliveryAmbiguous ∨ currentRow.attempts ≥ report.maxAttempts then .failedFinal
      else .pending) = report.nextStatus msg.attempts := by
    rw [currentAttempts]
    rfl
  have availableAt : ∀ succeeded : Bool, report.succeeded = succeeded →
      (if (report.nextStatus msg.attempts).isTerminal then report.completedAt
        else report.completedAt + report.retryDelay) =
      if report.succeeded ∨ report.nextStatus msg.attempts = .failedFinal then
        report.completedAt
      else report.completedAt + report.retryDelay := by
    intro succeeded isSucceeded
    unfold CompletionReport.nextStatus
    rw [isSucceeded]
    cases succeeded with
    | true => simp [NotificationStatus.isTerminal]
    | false =>
      by_cases final : report.deliveryAmbiguous = true ∨ msg.attempts ≥ report.maxAttempts
      · simp [NotificationStatus.isTerminal, final]
      · simp [NotificationStatus.isTerminal, final]
  simp only [notificationFromRow, completedRow, stored, completedMessage, nextStatus, id, inc,
    node, kind, key, attempts, availableAt report.succeeded rfl]

theorem close_nothing (inv : AgreementInvariant hist store)
    (carries : carriesClaim store noteId claimToken cur)
    (unsettled : ¬settlesIncident store cur report) :
    closeIncidentIfComplete
      { store with
        notifications := replace (·.id) (completedMessage report cur)
          store.notifications } cur.incidentId report.completedAt =
      { store with
        notifications := replace (·.id) (completedMessage report cur)
          store.notifications } := by
  have currentMember := lookup_mem carries.1
  have members : ∀ msg, msg ∈ replace (·.id) (completedMessage report cur)
        store.notifications ↔ msg = completedMessage report cur ∨
      msg ∈ store.notifications ∧ msg.id ≠ cur.id := by
    intro msg
    exact mem_replace inv.ids currentMember rfl
  unfold closeIncidentIfComplete
  cases found : lookup (·.id) cur.incidentId store.incidents with
  | none => rfl
  | some inc =>
    dsimp only
    split_ifs with notRecovered outstanding
    · rfl
    · rfl
    · exfalso
      apply unsettled
      have allTerminal : ∀ msg ∈ replace (·.id) (completedMessage report cur)
          store.notifications, msg.incidentId = cur.incidentId →
          msg.status.isTerminal = true := by
        intro msg mem own
        by_contra notTerminal
        apply outstanding
        right
        rw [any_eq_true]
        refine ⟨msg, ?_, ?_⟩
        · rw [mem_filter]
          exact ⟨mem, by simp [own]⟩
        · simpa using notTerminal
      constructor
      · exact allTerminal (completedMessage report cur) ((members _).mpr (.inl rfl)) rfl
      · refine ⟨inc, lookup_mem found, lookup_key found, not_not.mp notRecovered, ?_⟩
        intro other otherMember own differ
        exact allTerminal other ((members other).mpr (.inr ⟨otherMember, differ⟩)) own

theorem completed_messages (agrees : Agrees store tables)
    (ids : DistinctKeys (·.id) store.notifications)
    (isCurrent : lookup (·.id) noteId store.notifications = some cur)
    (same : notificationFromRow row none = stored cur) :
    (update (fun other => decide (other.id = noteId)) (completedRow report row)
        tables.messages).map (notificationFromRow · none) =
      (replace (·.id) (completedMessage report cur) store.notifications).map
        stored := by
  have upd : update (fun other => decide (other.id = noteId))
        (completedMessage report) store.notifications =
      replace (·.id) (completedMessage report cur) store.notifications :=
    update_eq_replace ids isCurrent rfl
  rw [← upd, update, update, map_map, map_map]
  apply map_eq_of_views agrees.messages
  intro otherRow _ other otherMember sameOther
  dsimp only [Function.comp_apply]
  rw [(row_fields sameOther).1]
  by_cases isNamed : other.id = noteId
  · have isOther : other = cur := by
      apply distinct_eq ids otherMember (lookup_mem isCurrent)
      rw [isNamed, lookup_key isCurrent]
    simp only [isNamed, decide_true, if_true]
    exact completed_alike sameOther same isOther
  · simp only [isNamed, decide_false]
    exact sameOther

theorem notifier_complete_claimed (inv : AgreementInvariant hist store)
    (agrees : Agrees store tables)
    (valid : 1 ≤ report.maxAttempts ∧ report.maxAttempts ≤ 10 ∧ 0 < report.retryDelay)
    (carries : carriesClaim store noteId claimToken cur)
    (isRow : lookup (·.id) noteId tables.messages = some row)
    (same : notificationFromRow row none = stored cur) :
    completeNotificationSql tables noteId claimToken report =
      .ok (.ok (notificationFromRow (completedRow report row row) none), { tables with
          messages := update (fun other => decide (other.id = noteId))
            (completedRow report row) tables.messages }) := by
  have accepted : ¬(¬(1 ≤ report.maxAttempts ∧ report.maxAttempts ≤ 10) ∨ report.retryDelay ≤ 0) := by
    omega
  rcases row_fields same with ⟨_, _, _, _, _, status, _, _, _, token, _⟩
  have claimed : ¬(row.status ≠ .processing ∨ row.claimToken ≠ some claimToken) := by
    rw [status, token, carries.2.1, carries.2.2]
    simp
  have closesNothing : update (fun inc => decide (inc.id = row.incidentId) &&
      incidentComplete tables.messages inc) (closedRow report.completedAt) tables.incidents =
      tables.incidents := by
    apply update_none
    intro inc mem
    rw [agrees.incidents] at mem
    rw [not_complete inv agrees mem]
    simp
  unfold completeNotificationSql notifierComplete
  rw [check_passes accepted, isRow]
  dsimp only
  rw [if_neg claimed, closesNothing]
  rfl

theorem notifier_complete_unclaimed (agrees : Agrees store tables)
    (valid : 1 ≤ report.maxAttempts ∧ report.maxAttempts ≤ 10 ∧ 0 < report.retryDelay)
    (nobody : ∀ cur, ¬carriesClaim store noteId claimToken cur) :
    completeNotificationSql tables noteId claimToken report =
      .ok (.error (.valueError "notification_not_claimed"), tables) := by
  have accepted : ¬(¬(1 ≤ report.maxAttempts ∧ report.maxAttempts ≤ 10) ∨ report.retryDelay ≤ 0) := by
    omega
  unfold completeNotificationSql notifierComplete
  rw [check_passes accepted]
  have found := lookup_row agrees noteId
  cases isRow : lookup (·.id) noteId tables.messages with
  | none => rfl
  | some row =>
    rw [isRow] at found
    cases isCurrent : lookup (·.id) noteId store.notifications with
    | none =>
      rw [isCurrent] at found
      cases found
    | some cur =>
      rw [isCurrent] at found
      rcases row_fields (Option.some.inj found) with
        ⟨_, _, _, _, _, status, _, _, _, token, _⟩
      have notClaimed : row.status ≠ .processing ∨ row.claimToken ≠ some claimToken := by
        by_contra both
        rcases not_or.mp both with ⟨processing, isToken⟩
        rw [status] at processing
        rw [token] at isToken
        exact nobody cur ⟨isCurrent, not_not.mp processing, not_not.mp isToken⟩
      dsimp only
      rw [if_pos notClaimed]
      rfl

theorem complete_agrees (inv : AgreementInvariant hist store) (agrees : Agrees store tables)
    {mediaNodes : List UUID}
    (cond : agreementMet mediaNodes store (.complete noteId claimToken report)) :
    (complete noteId claimToken report).SameAnswer store tables ∧
      Agrees ((complete noteId claimToken report).apply store)
        ((complete noteId claimToken report).applySql tables) ∧
      ((complete noteId claimToken report).applySql tables).mediaNodes = tables.mediaNodes := by
  simp only [SameAnswer, StoreOperation.apply, applySql]
  rcases complete_cases store noteId claimToken report with
    ⟨cur, carries, completes⟩ | ⟨nobody, code, raises⟩
  · have found := lookup_row agrees noteId
    rw [carries.1] at found
    cases isRow : lookup (·.id) noteId tables.messages with
    | none =>
      rw [isRow] at found
      cases found
    | some row =>
      rw [isRow] at found
      have same := Option.some.inj found
      rw [completes, notifier_complete_claimed inv agrees cond.1 carries isRow same,
        close_nothing inv carries (cond.2 cur carries)]
      refine ⟨⟨_, _, rfl, ?_⟩, ⟨agrees.incidents, ?_⟩, rfl⟩
      · have alike : notificationFromRow (completedRow report row row) none =
            stored (completedMessage report cur) := completed_alike same same rfl
        exact congrArg some alike.symm
      · exact completed_messages agrees inv.ids carries.1 same
  · rw [raises, notifier_complete_unclaimed agrees cond.1 nobody]
    exact ⟨⟨_, _, rfl, rfl⟩, agrees, rfl⟩

end Complete

end RtspProxy.Observability
