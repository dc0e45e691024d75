import RtspProxy.Observability.AgreementSteps

/-!
# Agreement over whole histories

The condition keeps the invariant, so the two stores agree after every history
that meets it; and the completion that settles a recovered incident always ends
the agreement.
-/

namespace RtspProxy.Observability

open Nodes Lib Lib.RecordTable List StoreOperation

section Keeps

variable {hist : List StoreOperation} {store : ObservabilityStore} {mediaNodes : List UUID}

variable {observedAt : Datetime}

theorem opens_succession (inv : AgreementInvariant hist store) {node : MediaNode}
    {incId : UUID} (opens : opensIncident store node)
    (later : ∀ incident ∈ store.incidents, incident.nodeId = node.id →
      openedLater (openedIncident node observedAt incId) incident = true) :
    ((store.incidents ++ [openedIncident node observedAt incId]).map (·.trace)).Pairwise
      succeeds := by
  rw [map_append, pairwise_append]
  refine ⟨inv.succession, pairwise_singleton _ _, ?_⟩
  intro earlier earlierMember new isNew sameNode
  obtain ⟨incident, mem, rfl⟩ := mem_map.mp earlierMember
  rw [map_singleton, mem_singleton] at isNew
  subst isNew
  have own : incident.nodeId = node.id := sameNode
  constructor
  · exact opened_later_trace.mp (later incident mem own)
  · intro ongoing
    have opened := (inv.paired.states incident mem).mpr ongoing
    have isLatest := open_is_latest inv mem opened
    rw [own] at isLatest
    exact opens.2 incident isLatest opened

theorem recovers_succession {cur : NotificationIncident} {earlier : List NotificationIncident}
    (succession : ((earlier ++ [cur]).map (·.trace)).Pairwise succeeds) :
    ((earlier ++ [recoveredIncident cur observedAt]).map (·.trace)).Pairwise succeeds := by
  rw [map_append, pairwise_append] at succession ⊢
  refine ⟨succession.1, pairwise_singleton _ _, ?_⟩
  intro pre beforeMember post isAfter
  rw [map_singleton, mem_singleton] at isAfter
  subst isAfter
  exact succession.2.2 pre beforeMember cur.trace (by simp)

variable (inv : AgreementInvariant hist store)

include inv

theorem observe_keeps_agreement {node : MediaNode}
    {incId msgId : UUID} (fresh : (StoreOperation.observe node observedAt incId msgId).Fresh store)
    (cond : agreementMet mediaNodes store (.observe node observedAt incId msgId)) :
    AgreementInvariant (hist ++ [.observe node observedAt incId msgId])
      (observeIncident store node observedAt incId msgId).2 := by
  have paired := observe_keeps inv.paired fresh cond.2.1
  rcases observe_cases store node observedAt incId msgId with
    ⟨opens, observes⟩ | ⟨cur, recovers, observes⟩ | ⟨_, _, observes⟩
  · rw [observes] at paired ⊢
    refine ⟨paired, distinct_append_singleton inv.ids fresh.2.2, ?_, ?_, ?_,
      opens_succession inv opens (cond.2.2 opens), ?_⟩
    · intro msg mem
      rcases mem_append.mp mem with old | new
      · exact inv.keys msg old
      · rw [mem_singleton.mp new]
        rfl
    · intro msg mem
      rcases mem_append.mp mem with old | new
      · exact inv.attempts msg old
      · rw [mem_singleton.mp new]
        simp [newMessage]
    · intro incident mem recovered
      rcases mem_append.mp mem with old | new
      · obtain ⟨msg, messageMember, facts⟩ := inv.outstanding incident old recovered
        exact ⟨msg, mem_append_left _ messageMember, facts⟩
      · rw [mem_singleton.mp new] at recovered
        cases recovered
    · intro incident mem opened
      rcases mem_append.mp mem with old | new
      · exact inv.unclosed incident old opened
      · rw [mem_singleton.mp new]
        rfl
  · have isLast := cond.2.1 cur recovers
    have parts := last_parts isLast
    rw [observes, recovered_incidents isLast] at paired
    rw [observes, recovered_incidents isLast]
    generalize store.incidents.dropLast = earlier at parts paired ⊢
    have earlierMember : ∀ incident ∈ earlier, incident ∈ store.incidents := by
      intro incident mem
      rw [parts]
      exact mem_append_left _ mem
    have succession := inv.succession
    rw [parts] at succession
    refine ⟨paired, distinct_append_singleton inv.ids fresh.2.2, ?_, ?_, ?_,
      recovers_succession succession, ?_⟩
    · intro msg mem
      rcases mem_append.mp mem with old | new
      · exact inv.keys msg old
      · rw [mem_singleton.mp new]
        rfl
    · intro msg mem
      rcases mem_append.mp mem with old | new
      · exact inv.attempts msg old
      · rw [mem_singleton.mp new]
        simp [newMessage]
    · intro incident mem recovered
      rcases mem_append.mp mem with old | new
      · obtain ⟨msg, messageMember, facts⟩ :=
          inv.outstanding incident (earlierMember incident old) recovered
        exact ⟨msg, mem_append_left _ messageMember, facts⟩
      · rw [mem_singleton.mp new]
        exact ⟨_, mem_append_right _ (mem_singleton_self _), rfl, rfl⟩
    · intro incident mem opened
      rcases mem_append.mp mem with old | new
      · exact inv.unclosed incident (earlierMember incident old) opened
      · rw [mem_singleton.mp new]
        rfl
  · rw [observes] at paired ⊢
    exact { inv with paired := paired }

theorem claim_keeps_agreement {now lease : Int} {claimToken : UUID}
    (cond : agreementMet mediaNodes store (.claim now lease claimToken)) :
    AgreementInvariant (hist ++ [.claim now lease claimToken])
      (claimNotification store now lease claimToken).2 := by
  have paired := claim_keeps inv.paired now lease claimToken
  have unswept := expire_none cond.1
  have ids : DistinctKeys (·.id)
      (claimNotification store now lease claimToken).2.notifications := by
    unfold DistinctKeys
    rw [claim_ids]
    exact inv.ids
  have cases_ := claim_cases store now lease claimToken
  rw [unswept] at cases_
  rcases cases_ with ⟨_, claims⟩ | ⟨pre, first, rest, parts, _, isClaimable, claims⟩
  · rw [claims] at paired ⊢
    exact { inv with paired := paired }
  · rw [claims] at paired ids ⊢
    have firstMember : first ∈ store.notifications := by
      rw [parts]
      simp
    have members : ∀ msg, msg ∈
        pre ++ claimedMessage store.notifications now claimToken first :: rest →
        msg ∈ store.notifications ∨
          msg = claimedMessage store.notifications now claimToken first := by
      intro msg mem
      have inStore : msg ∈ pre ++ first :: rest → msg ∈ store.notifications := by
        rw [parts]
        exact id
      simp only [mem_append, mem_cons] at mem inStore
      tauto
    refine ⟨paired, ids, ?_, ?_, ?_, inv.succession, inv.unclosed⟩
    · intro msg mem
      rcases members msg mem with old | new
      · exact inv.keys msg old
      · rw [new]
        exact inv.keys first firstMember
    · intro msg mem
      rcases members msg mem with old | new
      · exact inv.attempts msg old
      · have bounds := inv.attempts first firstMember
        have below := bounds.2.2 (claimable_pending isClaimable)
        rw [new]
        simp only [claimedMessage]
        refine ⟨by omega, by omega, ?_⟩
        intro pending
        cases pending
    · intro incident mem recovered
      obtain ⟨msg, messageMember, own, outstanding⟩ :=
        inv.outstanding incident mem recovered
      rw [parts] at messageMember
      by_cases isFirst : msg = first
      · subst isFirst
        exact ⟨_, mem_append_right _ mem_cons_self, own, rfl⟩
      · refine ⟨msg, ?_, own, outstanding⟩
        simp only [mem_append, mem_cons, isFirst, false_or] at messageMember ⊢
        tauto

theorem complete_keeps_agreement {noteId claimToken : UUID} {report : CompletionReport}
    (cond : agreementMet mediaNodes store (.complete noteId claimToken report)) :
    AgreementInvariant (hist ++ [.complete noteId claimToken report])
      (completeNotification store noteId claimToken report).2 := by
  have paired := complete_keeps inv.paired noteId claimToken report
  rcases complete_cases store noteId claimToken report with
    ⟨cur, carries, completes⟩ | ⟨_, code, raises⟩
  · have unsettled := cond.2 cur carries
    have currentMember := lookup_mem carries.1
    have members : ∀ msg, msg ∈ replace (·.id) (completedMessage report cur)
          store.notifications ↔ msg = completedMessage report cur ∨
        msg ∈ store.notifications ∧ msg.id ≠ cur.id := by
      intro msg
      exact mem_replace inv.ids currentMember rfl
    rw [completes, close_nothing inv carries unsettled] at paired ⊢
    refine ⟨paired, distinct_replace.mpr inv.ids, ?_, ?_, ?_, inv.succession, inv.unclosed⟩
    · intro msg mem
      rcases (members msg).mp mem with rfl | ⟨old, _⟩
      · exact inv.keys cur currentMember
      · exact inv.keys msg old
    · intro msg mem
      rcases (members msg).mp mem with rfl | ⟨old, _⟩
      · have bounds := inv.attempts cur currentMember
        refine ⟨bounds.1, bounds.2.1, ?_⟩
        intro pending
        have below := (next_status_pending pending).2.2
        have limit := cond.1.2.1
        simp only [completedMessage]
        omega
      · exact inv.attempts msg old
    · intro incident mem recovered
      obtain ⟨msg, messageMember, own, outstanding⟩ :=
        inv.outstanding incident mem recovered
      by_cases isCurrent : msg.id = cur.id
      · have same := distinct_eq inv.ids messageMember currentMember isCurrent
        subst same
        rcases next_status_cases report msg.attempts with pending | terminal
        · exact ⟨completedMessage report msg, (members _).mpr (.inl rfl), own,
            by simp [completedMessage, pending, NotificationStatus.isTerminal]⟩
        · by_contra noneOutstanding
          apply unsettled
          refine ⟨terminal, incident, mem, own.symm, recovered, ?_⟩
          intro other otherMember sameIncident differ
          by_contra notTerminal
          apply noneOutstanding
          exact ⟨other, (members other).mpr (.inr ⟨otherMember, differ⟩),
            sameIncident.trans own, by simpa using notTerminal⟩
      · exact ⟨msg, (members msg).mpr (.inr ⟨messageMember, isCurrent⟩), own, outstanding⟩
  · rw [raises] at paired ⊢
    exact { inv with paired := paired }

theorem operation_agrees {tables : NotifierTables}
    (agrees : Agrees store tables) (nodes : tables.mediaNodes = mediaNodes)
    {op : StoreOperation} (fresh : op.Fresh store) (cond : agreementMet mediaNodes store op) :
    op.SameAnswer store tables ∧ Agrees (op.apply store) (op.applySql tables) ∧
      (op.applySql tables).mediaNodes = tables.mediaNodes := by
  cases op with
  | observe node observedAt incId msgId =>
    have isNode : node.id ∈ tables.mediaNodes := by
      rw [nodes]
      exact cond.1
    exact observe_agrees inv agrees isNode cond.2.1 fresh
  | claim now lease claimToken => exact claim_agrees inv agrees cond
  | complete noteId claimToken report => exact complete_agrees inv agrees cond

omit inv

theorem agreement_run_invariant {tables : NotifierTables}
    (run : AgreementRun mediaNodes hist store tables) :
    AgreementInvariant hist store ∧ Agrees store tables ∧ tables.mediaNodes = mediaNodes := by
  induction run with
  | start =>
    refine ⟨⟨incident_run_invariant .start, nodup_nil, ?_, ?_, ?_, Pairwise.nil, ?_⟩,
      ⟨rfl, rfl⟩, rfl⟩
    · simp
    · simp
    · simp
    · simp
  | @step hist store tables op _ fresh cond ih =>
    rcases ih with ⟨inv, agrees, nodes⟩
    rcases operation_agrees inv agrees nodes fresh cond with ⟨_, agreesAfter, nodesAfter⟩
    refine ⟨?_, agreesAfter, nodesAfter.trans nodes⟩
    cases op with
    | observe node observedAt incId msgId =>
      exact observe_keeps_agreement inv fresh cond
    | claim now lease claimToken => exact claim_keeps_agreement inv cond
    | complete noteId claimToken report =>
      exact complete_keeps_agreement inv cond

end Keeps

section Settling

variable {hist : List StoreOperation} {store : ObservabilityStore} {tables : NotifierTables}
  {noteId claimToken : UUID} {report : CompletionReport} {cur : NotificationMessage}

theorem message_counts_sum (store : ObservabilityStore) (incId : UUID) :
    (store.notifications.filter fun msg => decide (msg.incidentId = incId)).length =
      store.messageCount incId .failure + store.messageCount incId .recovery := by
  unfold ObservabilityStore.messageCount
  induction store.notifications with
  | nil => rfl
  | cons msg rest ih =>
    rw [countP_cons, countP_cons, filter_cons]
    by_cases own : msg.incidentId = incId
    · cases kind : msg.kind with
      | failure =>
        simp only [isMessageOf, own, kind, decide_true, if_true, length_cons, ih,
          reduceCtorEq, and_false, decide_false]
        simp
        omega
      | recovery =>
        simp only [isMessageOf, own, kind, decide_true, if_true, length_cons, ih,
          reduceCtorEq, and_false, decide_false]
        simp
        omega
    · simp [isMessageOf, own, ih]

theorem settled_closes (inv : AgreementInvariant hist store)
    (carries : carriesClaim store noteId claimToken cur)
    (settles : settlesIncident store cur report) :
    ∃ incident ∈ (completeNotification store noteId claimToken report).2.incidents,
      incident.id = cur.incidentId ∧ incident.state = .closed := by
  rcases settles with ⟨terminal, incident, mem, isIncident, recovered, others⟩
  have currentMember := lookup_mem carries.1
  have found : lookup (·.id) cur.incidentId store.incidents = some incident := by
    rw [← isIncident]
    exact lookup_of_mem inv.paired.ids mem
  let upd : ObservabilityStore :=
    { store with
      notifications := replace (·.id) (completedMessage report cur)
        store.notifications }
  have two : (upd.notifications.filter fun msg =>
      decide (msg.incidentId = cur.incidentId)).length = 2 := by
    have identities : upd.notifications.map (·.identity) =
        store.notifications.map (·.identity) := by
      have isCurrent := carries.1
      rw [← lookup_key isCurrent] at isCurrent
      exact map_replace isCurrent rfl
    have counts := inv.paired.counts incident mem
    have isRecovered : incident.recoveredAt.isSome = true := by
      rw [Option.isSome_iff_ne_none]
      intro ongoing
      rw [(inv.paired.states incident mem).mpr ongoing] at recovered
      cases recovered
    rw [message_counts_sum, message_count_of_identities identities,
      message_count_of_identities identities, ← isIncident, counts.1, counts.2, if_pos isRecovered]
  have noneOutstanding : (upd.notifications.filter fun msg =>
      decide (msg.incidentId = cur.incidentId)).any
        (fun msg => !msg.status.isTerminal) = false := by
    rw [any_eq_false]
    intro msg messageMember
    rcases mem_filter.mp messageMember with ⟨inStore, own⟩
    have sameId : cur.id = (completedMessage report cur).id := rfl
    rcases (mem_replace inv.ids currentMember sameId).mp inStore with
      isCompleted | ⟨old, differ⟩
    · rw [isCompleted]
      simp [completedMessage, terminal]
    · simp [others msg old (of_decide_eq_true own) differ]
  have closes : closeIncidentIfComplete upd cur.incidentId report.completedAt = { upd with
        incidents := replace (·.id)
          { incident with state := .closed, closedAt := some report.completedAt }
          store.incidents } := by
    unfold closeIncidentIfComplete
    rw [show lookup (·.id) cur.incidentId upd.incidents = some incident from found]
    dsimp only
    rw [two, noneOutstanding]
    simp [recovered, upd]
  rcases complete_cases store noteId claimToken report with
    ⟨other, otherCarries, completes⟩ | ⟨nobody, _⟩
  · cases carries.1.symm.trans otherCarries.1
    rw [completes]
    change ∃ closed ∈ (closeIncidentIfComplete upd cur.incidentId report.completedAt).incidents, _
    rw [closes]
    exact ⟨_, updated_mem_replace mem rfl, isIncident, rfl⟩
  · exact absurd carries (nobody cur)

/-- The database leaves the incident recovered: the query that should close it still counts the
message it completes as outstanding. -/
theorem settled_stays_recovered (inv : AgreementInvariant hist store) (agrees : Agrees store tables)
    (valid : 1 ≤ report.maxAttempts ∧ report.maxAttempts ≤ 10 ∧ 0 < report.retryDelay)
    (carries : carriesClaim store noteId claimToken cur)
    (settles : settlesIncident store cur report) :
    ∀ incident ∈ ((complete noteId claimToken report).applySql
      tables).incidents, incident.id = cur.incidentId → incident.state = .recovered := by
  have found := lookup_row agrees noteId
  rw [carries.1] at found
  cases isRow : lookup (·.id) noteId tables.messages with
  | none =>
    rw [isRow] at found
    cases found
  | some row =>
    rw [isRow] at found
    have same := Option.some.inj found
    simp only [applySql]
    rw [notifier_complete_claimed inv agrees valid carries isRow same]
    intro incident mem isIncident
    rcases settles with ⟨_, settled, settledMember, isSettled, recovered, _⟩
    rw [agrees.incidents] at mem
    have sameIncident := distinct_eq inv.paired.ids mem settledMember
      (isIncident.trans isSettled.symm)
    rw [sameIncident]
    exact recovered

end Settling

/-- Both stores agree after every history whose operations meet the condition, and answer every
further such operation alike. A completion that settles a recovered incident never keeps the
agreement: the in-memory store closes the incident, the database leaves it recovered. -/
theorem notifier_stores_agree {mediaNodes : List UUID} {hist : List StoreOperation}
    {store : ObservabilityStore} {tables : NotifierTables}
    (run : AgreementRun mediaNodes hist store tables) :
    Agrees store tables ∧
    (∀ op : StoreOperation, op.Fresh store →
      agreementMet mediaNodes store op → op.SameAnswer store tables ∧
        Agrees (op.apply store) (op.applySql tables)) ∧
    ∀ (noteId claimToken : UUID) (report : CompletionReport) (cur : NotificationMessage),
      1 ≤ report.maxAttempts ∧ report.maxAttempts ≤ 10 ∧ 0 < report.retryDelay →
      carriesClaim store noteId claimToken cur →
      settlesIncident store cur report →
      (∃ incident ∈ ((complete noteId claimToken report).apply
        store).incidents, incident.id = cur.incidentId ∧ incident.state = .closed) ∧
      ∀ incident ∈ ((complete noteId claimToken report).applySql
        tables).incidents, incident.id = cur.incidentId → incident.state = .recovered := by
  rcases agreement_run_invariant run with ⟨inv, agrees, nodes⟩
  refine ⟨agrees, ?_, ?_⟩
  · intro op fresh cond
    rcases operation_agrees inv agrees nodes fresh cond with ⟨answers, post, _⟩
    exact ⟨answers, post⟩
  · intro noteId claimToken report cur valid carries settles
    exact ⟨settled_closes inv carries settles,
      settled_stays_recovered inv agrees valid carries settles⟩

def sentReport (completedAt : Datetime) : CompletionReport :=
  { succeeded := true, completedAt, maxAttempts := 3, retryDelay := 60 }

def outageHistory : List StoreOperation :=
  [.observe (downNode 1) 0 10 11, .claim 1 120 21, .complete 11 21 (sentReport 2),
    .observe (upNode 1) 3 30 31, .claim 4 120 41]

def outageStore : ObservabilityStore := outageHistory.foldl apply {}

def outageTables : NotifierTables :=
  outageHistory.foldl applySql { mediaNodes := [1] }

/-- The last completion closes the incident in one store only. -/
theorem database_misses_closing :
    StoreRun (fun _ _ => True) outageHistory outageStore ∧
      outageTables.incidents = outageStore.incidents ∧
      (((complete 31 41 (sentReport 5)).apply outageStore).incidents.map
        (·.state)) = [.closed] ∧
      (((complete 31 41 (sentReport 5)).applySql outageTables).incidents.map
        (·.state)) = [.recovered] := by
  have opened : StoreRun (fun _ _ => True) [.observe (downNode 1) 0 10 11] _ :=
    @StoreRun.step _ [] _ (.observe (downNode 1) 0 10 11) .start ⟨by simp, by simp, by simp⟩ trivial
  have claimed := @StoreRun.step _ _ _ (.claim 1 120 21) opened trivial trivial
  have completed := @StoreRun.step _ _ _ (.complete 11 21 (sentReport 2)) claimed trivial trivial
  have fresh : (StoreOperation.observe (upNode 1) 3 30 31).Fresh
      ((outageHistory.take 3).foldl apply {}) := by
    refine ⟨?_, ?_, ?_⟩ <;> decide +kernel
  have recovered := @StoreRun.step _ _ _ (.observe (upNode 1) 3 30 31) completed fresh trivial
  have run := @StoreRun.step _ _ _ (.claim 4 120 41) recovered trivial trivial
  exact ⟨run, by decide +kernel, by decide +kernel, by decide +kernel⟩

/-- Up to the completion of the failure message the two agree. -/
theorem notifier_stores_agree_opened :
    AgreementRun [1] [.observe (downNode 1) 0 10 11, .claim 1 120 21]
        ((outageHistory.take 2).foldl apply {})
        ((outageHistory.take 2).foldl applySql { mediaNodes := [1] }) ∧
      Agrees ((outageHistory.take 3).foldl apply {})
        ((outageHistory.take 3).foldl applySql { mediaNodes := [1] }) := by
  have opens : agreementMet [1] {} (.observe (downNode 1) 0 10 11) := by
    refine ⟨by decide, ?_, by simp⟩
    intro cur recovers
    cases recovers.1
  have opened := @AgreementRun.step [1] [] _ _ (.observe (downNode 1) 0 10 11) .start
    ⟨by simp, by simp, by simp⟩ opens
  have claims : agreementMet [1] (apply {} (.observe (downNode 1) 0 10 11))
      (.claim 1 120 21) := by
    refine ⟨by decide +kernel, ?_⟩
    intro first isFirst other mem _ differ
    have onlyOne : ∀ msg ∈ (apply {} (.observe (downNode 1) 0 10 11)).notifications,
        msg = newMessage (openedIncident (downNode 1) 0 10) .failure 11 0 := by
      decide +kernel
    have firstMember := mem_of_find?_eq_some isFirst
    exact absurd ((onlyOne other mem).trans (onlyOne first firstMember).symm) differ
  have run := @AgreementRun.step [1] _ _ _ (.claim 1 120 21) opened trivial claims
  have completes : agreementMet [1] ((outageHistory.take 2).foldl apply {})
      (.complete 11 21 (sentReport 2)) := by
    refine ⟨by decide, ?_⟩
    rintro cur _ ⟨_, incident, mem, _, recovered, _⟩
    have noneRecovered : ∀ incident ∈
        ((outageHistory.take 2).foldl apply {}).incidents,
        incident.state ≠ .recovered := by
      decide +kernel
    exact noneRecovered incident mem recovered
  exact ⟨run, ((notifier_stores_agree run).2.1 (.complete 11 21 (sentReport 2)) trivial completes).2⟩

end RtspProxy.Observability
