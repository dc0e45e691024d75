import RtspProxy.Observability.Steps

/-!
# Incidents and their messages

The observations of a node alone decide its outages: `outages` reads them off a
history. The incidents of the node should be these outages, one incident each,
with one failure message and, after the recovery, one recovery message; and an
observation should leave the other nodes' incidents and messages alone.

`observe_incident` writes a recovered incident over the last incident of the list.
-/

namespace RtspProxy.Observability

open Nodes Lib Lib.RecordTable List ObservabilityStore NotificationIncident

inductive StoreOperation
  | observe (node : MediaNode) (observedAt : Datetime) (incidentId msgId : UUID)
  | claim (now leaseTimeout : Int) (claimToken : UUID)
  | complete (noteId claimToken : UUID) (report : CompletionReport)

namespace StoreOperation

def apply (store : ObservabilityStore) : StoreOperation → ObservabilityStore
  | observe node observedAt incidentId msgId =>
    (observeIncident store node observedAt incidentId msgId).2
  | claim now lease claimToken => (claimNotification store now lease claimToken).2
  | complete noteId claimToken report =>
    (completeNotification store noteId claimToken report).2

/-- `uuid4()` draws identifiers that no incident and no message has. -/
def Fresh (store : ObservabilityStore) : StoreOperation → Prop
  | observe _ _ incidentId msgId =>
    (∀ inc ∈ store.incidents, inc.id ≠ incidentId) ∧
      (∀ msg ∈ store.notifications, msg.incidentId ≠ incidentId) ∧
      ∀ msg ∈ store.notifications, msg.id ≠ msgId
  | claim .. | complete .. => True

end StoreOperation

/-- The stores a history of operations leads to, where every operation meets a condition. -/
inductive StoreRun (meets : ObservabilityStore → StoreOperation → Prop) :
    List StoreOperation → ObservabilityStore → Prop
  | start : StoreRun meets [] {}
  | step {hist : List StoreOperation} {store : ObservabilityStore} {op : StoreOperation}
      (run : StoreRun meets hist store) (fresh : op.Fresh store)
      (cond : meets store op) :
      StoreRun meets (hist ++ [op]) (op.apply store)

structure Outage where
  openedAt : Datetime
  recoveredAt : Option Datetime := none
  deriving DecidableEq

def isOngoing (outages : List Outage) : Bool :=
  outages.getLast?.any fun outage => outage.recoveredAt.isNone

def observedOutages (node : MediaNode) (observedAt : Datetime) (outages : List Outage) :
    List Outage :=
  if nodeFailedForIncident node then
    if isOngoing outages then outages else outages ++ [{ openedAt := observedAt }]
  else if nodeRecoveredForIncident node && isOngoing outages then
    outages.dropLast ++ (outages.getLast?.toList.map fun outage =>
      { outage with recoveredAt := some observedAt })
  else outages

def operatedOutages (nodeId : UUID) (outages : List Outage) : StoreOperation → List Outage
  | .observe node observedAt _ _ =>
    if node.id = nodeId then observedOutages node observedAt outages else outages
  | .claim .. | .complete .. => outages

/-- The outages of a node, from its observations in a history. -/
def outages (nodeId : UUID) (hist : List StoreOperation) : List Outage :=
  hist.foldl (operatedOutages nodeId) []

def isMessageOf (incidentId : UUID) (kind : NotificationKind) (msg : NotificationMessage) :
    Bool :=
  decide (msg.incidentId = incidentId ∧ msg.kind = kind)

namespace ObservabilityStore

def incidentsOf (store : ObservabilityStore) (nodeId : UUID) : List NotificationIncident :=
  store.incidents.filter fun inc => decide (inc.nodeId = nodeId)

def messagesOf (store : ObservabilityStore) (nodeId : UUID) : List NotificationMessage :=
  store.notifications.filter fun msg => decide (msg.nodeId = nodeId)

def messageCount (store : ObservabilityStore) (incidentId : UUID) (kind : NotificationKind) : Nat :=
  store.notifications.countP (isMessageOf incidentId kind)

end ObservabilityStore

/-- The observation of one node changes nothing that belongs to another one. -/
def Isolated (store post : ObservabilityStore) (node : MediaNode) : Prop :=
  ∀ nodeId, nodeId ≠ node.id → post.incidentsOf nodeId = store.incidentsOf nodeId ∧
    post.messagesOf nodeId = store.messagesOf nodeId

/-- Every outage of a node is one incident with its messages. -/
def Paired (hist : List StoreOperation) (store : ObservabilityStore) (nodeId : UUID) : Prop :=
  (store.incidentsOf nodeId).map (fun inc =>
      { openedAt := inc.openedAt, recoveredAt := inc.recoveredAt : Outage }) =
    outages nodeId hist ∧
  ((store.incidentsOf nodeId).map (·.id)).Nodup ∧
  ∀ inc ∈ store.incidentsOf nodeId, store.messageCount inc.id .failure = 1 ∧
    store.messageCount inc.id .recovery = if inc.recoveredAt.isSome then 1 else 0

/-- The observation does not end an outage whose incident another one follows. -/
def RecoversLast (store : ObservabilityStore) (node : MediaNode) : Prop :=
  ∀ cur, recoversIncident store node cur → store.incidents.getLast? = some cur

def recoversLastMet (store : ObservabilityStore) : StoreOperation → Prop
  | .observe node _ _ _ => RecoversLast store node
  | .claim .. | .complete .. => True

variable {cur : NotificationIncident} {observedAt : Datetime}

section Isolation

variable {store : ObservabilityStore} {node : MediaNode}

theorem latest_eq_get_last (store : ObservabilityStore) (nodeId : UUID) :
    latestIncident store nodeId = (store.incidentsOf nodeId).getLast? := by
  unfold latestIncident incidentsOf
  rw [← head?_filter, filter_reverse, head?_reverse]

theorem latest_node {nodeId : UUID} {latest : NotificationIncident}
    (isLatest : latestIncident store nodeId = some latest) :
    latest ∈ store.incidents ∧ latest.nodeId = nodeId := by
  rw [latest_eq_get_last] at isLatest
  have mem := mem_of_getLast? isLatest
  simpa [incidentsOf] using mem

variable {last : NotificationIncident}

theorem last_of_other_node (isLatest : latestIncident store node.id = some cur)
    (isLast : store.incidents.getLast? = some last) (differ : last ≠ cur) :
    last.nodeId ≠ node.id := by
  intro sameNode
  have parts : store.incidents = store.incidents.dropLast ++ [last] := by
    rw [dropLast_append_getLast? last isLast]
  apply differ
  rw [latest_eq_get_last, incidentsOf, parts, filter_append] at isLatest
  simpa [sameNode] using isLatest

theorem set_last {incidents : List NotificationIncident} {upd : NotificationIncident} :
    (incidents ++ [last]).set ((incidents ++ [last]).length - 1) upd = incidents ++ [upd] := by
  simp

theorem last_parts (isLast : store.incidents.getLast? = some last) :
    store.incidents = store.incidents.dropLast ++ [last] := by
  rw [dropLast_append_getLast? last isLast]

theorem recovers_not_opens (recovers : recoversIncident store node cur) :
    ¬opensIncident store node := by
  intro opens
  have notRecovered := not_failed_and_recovered opens.1
  rw [recovers.1] at notRecovered
  cases notRecovered

theorem recovered_incidents (isLast : store.incidents.getLast? = some last) :
    store.incidents.set (store.incidents.length - 1) (recoveredIncident cur observedAt) =
      store.incidents.dropLast ++ [recoveredIncident cur observedAt] := by
  have parts := last_parts isLast
  generalize store.incidents.dropLast = earlier at parts
  rw [parts, set_last]

theorem recovery_overwrites_other {post : ObservabilityStore}
    (recovers : recoversIncident store node cur) (isLast : store.incidents.getLast? = some last)
    (differ : last ≠ cur) (incidents : post.incidents =
      store.incidents.dropLast ++ [recoveredIncident cur observedAt]) :
    ¬Isolated store post node := by
  intro isolated
  have otherNode := last_of_other_node recovers.2.1 isLast differ
  have sameNode : cur.nodeId = node.id := (latest_node recovers.2.1).2
  have kept := (isolated last.nodeId otherNode).1
  unfold incidentsOf at kept
  rw [incidents, last_parts isLast] at kept
  have lengths := congrArg length kept
  simp [filter_append, recoveredIncident, sameNode, Ne.symm otherNode] at lengths

/-- An observation leaves the other nodes alone exactly when it does not end an outage whose
incident another one follows. -/
theorem observe_isolated_iff (store : ObservabilityStore) (node : MediaNode) (observedAt : Datetime)
    (incidentId msgId : UUID) :
    Isolated store (observeIncident store node observedAt incidentId msgId).2 node ↔
      RecoversLast store node := by
  rcases observe_cases store node observedAt incidentId msgId with
    ⟨opens, observes⟩ | ⟨cur, recovers, observes⟩ | ⟨_, noRecovery, observes⟩
  · constructor
    · intro _ cur recovers
      exact absurd opens (recovers_not_opens recovers)
    · intro _ nodeId other
      rw [observes]
      simp [incidentsOf, messagesOf, filter_append, openedIncident, newMessage, Ne.symm other]
  · obtain ⟨mem, sameNode⟩ := latest_node recovers.2.1
    cases isLast : store.incidents.getLast? with
    | none =>
      rw [getLast?_eq_none_iff.mp isLast] at mem
      cases mem
    | some last =>
      have incidents : store.incidents.set (store.incidents.length - 1)
          (recoveredIncident cur observedAt) =
          store.incidents.dropLast ++ [recoveredIncident cur observedAt] :=
        recovered_incidents isLast
      constructor
      · intro isolated other otherRecovers
        have sameLatest := recovers.2.1.symm.trans otherRecovers.2.1
        cases sameLatest
        by_contra notLast
        have differ : last ≠ cur := by
          intro same
          exact notLast (by rw [same] at isLast; exact isLast)
        apply recovery_overwrites_other recovers isLast differ _ isolated
        · exact observedAt
        · rw [observes]
          exact incidents
      · intro recoversLast nodeId other
        have isCurrent := recoversLast cur recovers
        cases isLast.symm.trans isCurrent
        rw [observes]
        constructor
        · simp only [incidentsOf]
          rw [incidents]
          conv_rhs => rw [last_parts isLast]
          simp [filter_append, recoveredIncident, sameNode, Ne.symm other]
        · simp [messagesOf, filter_append, newMessage, recoveredIncident, sameNode, Ne.symm other]
  · constructor
    · intro _ cur recovers
      exact absurd recovers (noRecovery cur)
    · intro _ nodeId _
      rw [observes]
      exact ⟨rfl, rfl⟩

end Isolation

def NotificationIncident.outage (inc : NotificationIncident) : Outage :=
  { openedAt := inc.openedAt, recoveredAt := inc.recoveredAt }

structure IncidentInvariant (hist : List StoreOperation) (store : ObservabilityStore) : Prop where
  ids : DistinctKeys (·.id) store.incidents
  states : ∀ incident ∈ store.incidents, incident.state = .opened ↔ incident.recoveredAt = none
  counts : ∀ incident ∈ store.incidents, store.messageCount incident.id .failure = 1 ∧
    store.messageCount incident.id .recovery = if incident.recoveredAt.isSome then 1 else 0
  outages : ∀ nodeId, (store.incidentsOf nodeId).map (·.outage) = outages nodeId hist

theorem outages_append (nodeId : UUID) (hist : List StoreOperation) (op : StoreOperation) :
    outages nodeId (hist ++ [op]) = operatedOutages nodeId (outages nodeId hist) op := by
  simp [outages, foldl_append]

section Pairing

variable {hist : List StoreOperation} {store post : ObservabilityStore}

theorem message_count_of_identities
    (same : post.notifications.map (·.identity) = store.notifications.map (·.identity))
    (incidentId : UUID) (kind : NotificationKind) :
    post.messageCount incidentId kind = store.messageCount incidentId kind := by
  have byIdentity : ∀ notes : List NotificationMessage,
      notes.countP (isMessageOf incidentId kind) = (notes.map (·.identity)).countP (fun identity =>
          decide (identity.2.1 = incidentId ∧ identity.2.2.2 = kind)) := by
    intro notes
    rw [countP_map]
    rfl
  unfold messageCount
  rw [byIdentity, byIdentity, same]

theorem incidents_of_traces
    (same : post.incidents.map (·.trace) = store.incidents.map (·.trace)) (nodeId : UUID) :
    (post.incidentsOf nodeId).map (·.outage) = (store.incidentsOf nodeId).map (·.outage) := by
  have byTrace : ∀ incidents : List NotificationIncident,
      (incidents.filter fun inc => decide (inc.nodeId = nodeId)).map (·.outage) =
        ((incidents.map (·.trace)).filter fun trace => decide (trace.2.1 = nodeId)).map
          fun trace => { openedAt := trace.2.2.1, recoveredAt := trace.2.2.2 : Outage } := by
    intro incidents
    rw [filter_map, map_map]
    rfl
  unfold incidentsOf
  rw [byTrace, byTrace, same]

theorem invariant_of_same (inv : IncidentInvariant hist store) {op : StoreOperation}
    (noObservation : ∀ nodeId outages, operatedOutages nodeId outages op = outages)
    (traces : post.incidents.map (·.trace) = store.incidents.map (·.trace))
    (identities : post.notifications.map (·.identity) = store.notifications.map (·.identity))
    (states : ∀ inc ∈ post.incidents, inc.state = .opened ↔ inc.recoveredAt = none) :
    IncidentInvariant (hist ++ [op]) post := by
  have ids : post.incidents.map (·.id) = store.incidents.map (·.id) := by
    have firsts := congrArg (map Prod.fst) traces
    simpa [trace, Function.comp_def] using firsts
  constructor
  · unfold DistinctKeys
    rw [ids]
    exact inv.ids
  · exact states
  · intro inc mem
    have traced : inc.trace ∈ store.incidents.map (·.trace) := by
      rw [← traces]
      exact mem_map_of_mem mem
    obtain ⟨old, oldMember, sameTrace⟩ := mem_map.mp traced
    simp only [trace, Prod.mk.injEq] at sameTrace
    rw [message_count_of_identities identities, message_count_of_identities identities,
      ← sameTrace.1, ← sameTrace.2.2.2]
    exact inv.counts old oldMember
  · intro nodeId
    rw [outages_append, noObservation, incidents_of_traces traces]
    exact inv.outages nodeId

variable {incidentId : UUID}

theorem close_states {completedAt : Datetime}
    (states : ∀ inc ∈ store.incidents, inc.state = .opened ↔ inc.recoveredAt = none) :
    ∀ inc ∈ (closeIncidentIfComplete store incidentId completedAt).incidents,
      inc.state = .opened ↔ inc.recoveredAt = none := by
  intro inc mem
  rcases mem_close mem with kept | ⟨closed, old, oldMember, recovered, same⟩
  · exact states inc kept
  · have oldState := states old oldMember
    rw [recovered] at oldState
    rw [closed, same]
    simpa using oldState

theorem claim_keeps (inv : IncidentInvariant hist store) (now lease : Int) (claimToken : UUID) :
    IncidentInvariant (hist ++ [.claim now lease claimToken])
      (claimNotification store now lease claimToken).2 := by
  have swept : (expireLeases store now lease).incidents.map (·.trace) =
        store.incidents.map (·.trace) ∧
      ∀ inc ∈ (expireLeases store now lease).incidents,
        inc.state = .opened ↔ inc.recoveredAt = none := by
    have closing : ∀ (cur : ObservabilityStore) (incidentId : UUID),
        (cur.incidents.map (·.trace) = store.incidents.map (·.trace) ∧
          ∀ inc ∈ cur.incidents, inc.state = .opened ↔ inc.recoveredAt = none) →
        (closeIncidentIfComplete cur incidentId now).incidents.map (·.trace) =
            store.incidents.map (·.trace) ∧
          ∀ inc ∈ (closeIncidentIfComplete cur incidentId now).incidents,
            inc.state = .opened ↔ inc.recoveredAt = none := by
      intro cur incidentId holds
      exact ⟨(close_traces incidentId now).trans holds.1, close_states holds.2⟩
    exact expire_keeps closing ⟨rfl, inv.states⟩
  apply invariant_of_same inv (fun _ _ => rfl)
  · rw [claim_incidents]
    exact swept.1
  · exact claim_identities store now lease claimToken
  · rw [claim_incidents]
    exact swept.2

theorem complete_keeps (inv : IncidentInvariant hist store)
    (noteId claimToken : UUID) (report : CompletionReport) :
    IncidentInvariant (hist ++ [.complete noteId claimToken report])
      (completeNotification store noteId claimToken report).2 := by
  have incidents : (completeNotification store noteId claimToken report).2.incidents.map
        (·.trace) = store.incidents.map (·.trace) ∧
      ∀ inc ∈ (completeNotification store noteId claimToken report).2.incidents,
        inc.state = .opened ↔ inc.recoveredAt = none := by
    rcases complete_cases store noteId claimToken report with
      ⟨cur, _, completes⟩ | ⟨_, code, raises⟩
    · rw [completes]
      exact ⟨close_traces _ _, close_states inv.states⟩
    · rw [raises]
      exact ⟨rfl, inv.states⟩
  exact invariant_of_same inv (fun _ _ => rfl) incidents.1
    (complete_identities store noteId claimToken report) incidents.2

theorem incidents_of_append (store : ObservabilityStore) (earlier : List NotificationIncident)
    (inc : NotificationIncident) (incidents : store.incidents = earlier ++ [inc]) (nodeId : UUID) :
    (store.incidentsOf nodeId).map (·.outage) =
      (earlier.filter fun other => decide (other.nodeId = nodeId)).map (·.outage) ++
        if inc.nodeId = nodeId then [inc.outage] else [] := by
  unfold incidentsOf
  rw [incidents, filter_append, map_append]
  by_cases own : inc.nodeId = nodeId
  · simp [own]
  · simp [own]

theorem is_ongoing_iff (inv : IncidentInvariant hist store) (nodeId : UUID) :
    isOngoing (outages nodeId hist) = true ↔
      ∃ latest, latestIncident store nodeId = some latest ∧ latest.state = .opened := by
  unfold isOngoing
  rw [← inv.outages nodeId, getLast?_map, latest_eq_get_last]
  cases isLatest : (store.incidentsOf nodeId).getLast? with
  | none => simp
  | some latest =>
    have mem : latest ∈ store.incidents := by
      rw [← latest_eq_get_last] at isLatest
      exact (latest_node isLatest).1
    simp [outage, inv.states latest mem]

variable {msgId : UUID}

theorem message_count_append {notes : List NotificationMessage}
    {inc : NotificationIncident} {kind : NotificationKind} {availableAt : Datetime}
    (appended : post.notifications =
      notes ++ [newMessage inc kind msgId availableAt]) (incidentId : UUID)
    (counted : NotificationKind) :
    post.messageCount incidentId counted = notes.countP (isMessageOf incidentId counted) +
        if inc.id = incidentId ∧ kind = counted then 1 else 0 := by
  unfold messageCount
  rw [appended, countP_append, countP_singleton]
  exact congrArg _ (if_congr decide_eq_true_iff rfl rfl)

variable {node : MediaNode}

variable (inv : IncidentInvariant hist store)

include inv

theorem opens_keeps (fresh : (StoreOperation.observe node observedAt incidentId msgId).Fresh store)
    (opens : opensIncident store node)
    (incidents : post.incidents = store.incidents ++ [openedIncident node observedAt incidentId])
    (notes : post.notifications = store.notifications ++
      [newMessage (openedIncident node observedAt incidentId) .failure msgId observedAt]) :
    IncidentInvariant (hist ++ [.observe node observedAt incidentId msgId]) post := by
  have members : ∀ {inc}, inc ∈ post.incidents →
      inc ∈ store.incidents ∨ inc = openedIncident node observedAt incidentId := by
    intro inc mem
    rw [incidents] at mem
    simpa using mem
  have unknown : ∀ kind, store.notifications.countP (isMessageOf incidentId kind) = 0 := by
    intro kind
    rw [countP_eq_zero]
    intro msg mem
    simp [isMessageOf, fresh.2.1 msg mem]
  constructor
  · rw [incidents]
    exact distinct_append_singleton inv.ids fresh.1
  · intro inc mem
    rcases members mem with old | new
    · exact inv.states inc old
    · rw [new]
      simp [openedIncident]
  · intro inc mem
    rw [message_count_append notes, message_count_append notes]
    rcases members mem with old | new
    · have other : incidentId ≠ inc.id := Ne.symm (fresh.1 inc old)
      have counts := inv.counts inc old
      unfold messageCount at counts
      simpa [openedIncident, other] using counts
    · rw [new]
      dsimp only [openedIncident]
      rw [unknown, unknown]
      simp
  · intro nodeId
    rw [outages_append, incidents_of_append post _ _ incidents]
    by_cases own : node.id = nodeId
    · subst own
      have notOngoing : isOngoing (outages node.id hist) = false := by
        apply Bool.eq_false_iff.mpr
        intro ongoing
        rcases (is_ongoing_iff inv node.id).mp ongoing with ⟨latest, isLatest, opened⟩
        exact opens.2 latest isLatest opened
      simp only [operatedOutages, observedOutages, if_true, opens.1, notOngoing]
      rw [← inv.outages node.id]
      simp [openedIncident, outage, incidentsOf]
    · simp only [operatedOutages, own, openedIncident, if_false, append_nil]
      exact inv.outages nodeId

theorem recovers_keeps (recovers : recoversIncident store node cur)
    (isLast : store.incidents.getLast? = some cur) (incidents : post.incidents =
      store.incidents.dropLast ++ [recoveredIncident cur observedAt])
    (notes : post.notifications = store.notifications ++
      [newMessage (recoveredIncident cur observedAt) .recovery msgId observedAt]) :
    IncidentInvariant (hist ++ [.observe node observedAt incidentId msgId]) post := by
  have parts := last_parts isLast
  generalize store.incidents.dropLast = earlier at parts incidents
  have sameNode : cur.nodeId = node.id := (latest_node recovers.2.1).2
  have currentMember : cur ∈ store.incidents := by
    rw [parts]
    simp
  have ongoing : cur.recoveredAt = none :=
    (inv.states cur currentMember).mp recovers.2.2
  have ids : post.incidents.map (·.id) = store.incidents.map (·.id) := by
    rw [incidents, parts]
    simp [recoveredIncident]
  have distinct : ∀ inc ∈ earlier, cur.id ≠ inc.id := by
    intro inc mem same
    have nodup := inv.ids
    unfold DistinctKeys at nodup
    rw [parts, map_append, nodup_append] at nodup
    exact nodup.2.2 inc.id (mem_map_of_mem mem) cur.id (by simp) same.symm
  have counts := fun inc mem => inv.counts inc mem
  unfold messageCount at counts
  constructor
  · unfold DistinctKeys
    rw [ids]
    exact inv.ids
  · intro inc mem
    rw [incidents] at mem
    rcases mem_append.mp mem with old | new
    · apply inv.states
      rw [parts]
      exact mem_append_left _ old
    · rw [mem_singleton.mp new]
      simp [recoveredIncident]
  · intro inc mem
    rw [message_count_append notes, message_count_append notes]
    rw [incidents] at mem
    rcases mem_append.mp mem with old | new
    · have inStore : inc ∈ store.incidents := by
        rw [parts]
        exact mem_append_left _ old
      simpa [recoveredIncident, distinct inc old] using counts inc inStore
    · rw [mem_singleton.mp new]
      have currentCounts := counts cur currentMember
      rw [ongoing] at currentCounts
      dsimp only [recoveredIncident]
      rw [currentCounts.1, currentCounts.2]
      simp
  · intro nodeId
    rw [outages_append, incidents_of_append post _ _ incidents, ← inv.outages nodeId,
      incidents_of_append store _ _ parts]
    by_cases own : node.id = nodeId
    · subst own
      have isOpen : isOngoing (outages node.id hist) = true :=
        (is_ongoing_iff inv node.id).mpr ⟨cur, recovers.2⟩
      rw [← inv.outages node.id, incidents_of_append store _ _ parts] at isOpen
      have notFailed : nodeFailedForIncident node = false := by
        cases failed : nodeFailedForIncident node with
        | false => rfl
        | true =>
          have notRecovered := not_failed_and_recovered failed
          rw [recovers.1] at notRecovered
          cases notRecovered
      simp only [operatedOutages, if_true, observedOutages, notFailed, recovers.1, isOpen]
      simp [sameNode, recoveredIncident, outage]
    · have other : ¬cur.nodeId = nodeId := by
        rw [sameNode]
        exact own
      simp [operatedOutages, own, recoveredIncident, other]

theorem observe_keeps
    (fresh : (StoreOperation.observe node observedAt incidentId msgId).Fresh store)
    (recoversLast : RecoversLast store node) :
    IncidentInvariant (hist ++ [.observe node observedAt incidentId msgId])
      (observeIncident store node observedAt incidentId msgId).2 := by
  rcases observe_cases store node observedAt incidentId msgId with
    ⟨opens, observes⟩ | ⟨cur, recovers, observes⟩ | ⟨notOpens, noRecovery, observes⟩
  · rw [observes]
    exact opens_keeps inv fresh opens rfl rfl
  · have isLast := recoversLast cur recovers
    rw [observes]
    exact recovers_keeps inv recovers isLast (recovered_incidents isLast) rfl
  · rw [observes]
    refine ⟨inv.ids, inv.states, inv.counts, ?_⟩
    intro nodeId
    rw [outages_append, ← inv.outages nodeId]
    by_cases own : node.id = nodeId
    · subst own
      have ongoing := is_ongoing_iff inv node.id
      rw [← inv.outages node.id] at ongoing
      cases failed : nodeFailedForIncident node with
      | true =>
        have isOpen : isOngoing ((store.incidentsOf node.id).map (·.outage)) = true := by
          apply ongoing.mpr
          by_contra noneOpen
          apply notOpens
          exact ⟨failed, fun latest isLatest opened => noneOpen ⟨latest, isLatest, opened⟩⟩
        simp [operatedOutages, observedOutages, failed, isOpen]
      | false =>
        have notRecovers : (nodeRecoveredForIncident node &&
            isOngoing ((store.incidentsOf node.id).map (·.outage))) = false := by
          apply Bool.eq_false_iff.mpr
          intro both
          rcases Bool.and_eq_true_iff.mp both with ⟨recovered, isOpen⟩
          rcases ongoing.mp isOpen with ⟨latest, isLatest, opened⟩
          exact noRecovery latest ⟨recovered, isLatest, opened⟩
        simp [operatedOutages, observedOutages, failed, notRecovers]
    · simp [operatedOutages, own]

omit inv

theorem incident_run_invariant (run : StoreRun recoversLastMet hist store) :
    IncidentInvariant hist store := by
  induction run with
  | start =>
    constructor
    · exact nodup_nil
    · simp
    · simp
    · intro nodeId
      rfl
  | @step hist store op _ fresh cond ih =>
    cases op with
    | observe node observedAt incidentId msgId => exact observe_keeps ih fresh cond
    | claim now lease claimToken => exact claim_keeps ih now lease claimToken
    | complete noteId claimToken report =>
      exact complete_keeps ih noteId claimToken report

end Pairing

/-- An observation leaves the other nodes alone exactly when it does not end an outage whose
incident another one follows in the list. In a history all of whose observations are such, every
outage of every node is one incident, with one failure message and, once recovered, one recovery
message. -/
theorem incidents_isolated_and_paired (store : ObservabilityStore) (node : MediaNode)
    (observedAt : Datetime) (incidentId msgId : UUID) (hist : List StoreOperation) :
    (Isolated store (observeIncident store node observedAt incidentId msgId).2 node ↔
      RecoversLast store node) ∧
    (StoreRun recoversLastMet hist store → ∀ nodeId, Paired hist store nodeId) := by
  constructor
  · exact observe_isolated_iff store node observedAt incidentId msgId
  · intro run nodeId
    have invariant := incident_run_invariant run
    refine ⟨invariant.outages nodeId, ?_, ?_⟩
    · exact distinct_filter _ invariant.ids
    · intro inc mem
      exact invariant.counts inc (mem_of_mem_filter mem)

def downNode (id : UUID) : MediaNode :=
  { id := id, name := "edge", externalPort := 8554, state := .running, runtimeState := .failed }

def upNode (id : UUID) : MediaNode :=
  { id := id, name := "edge", externalPort := 8554, state := .running, runtimeState := .running
    health := .healthy }

def overlapping : List StoreOperation :=
  [.observe (downNode 1) 0 10 11, .observe (downNode 2) 1 20 21]

def overlappingStore : ObservabilityStore := overlapping.foldl StoreOperation.apply {}

theorem overlapping_run {meets : ObservabilityStore → StoreOperation → Prop}
    (first : meets {} (.observe (downNode 1) 0 10 11))
    (second : meets (StoreOperation.apply {} (.observe (downNode 1) 0 10 11))
      (.observe (downNode 2) 1 20 21)) :
    StoreRun meets overlapping overlappingStore := by
  refine .step (.step .start ?_ first) ?_ second
  · exact ⟨by simp, by simp, by simp⟩
  · refine ⟨?_, ?_, ?_⟩ <;> decide +kernel

/-- The recovery of node 1 overwrites the incident of node 2, whose outage has none from then
on. -/
theorem recovery_erases_other_incident :
    StoreRun (fun _ _ => True) overlapping overlappingStore ∧
      ¬Isolated overlappingStore (observeIncident overlappingStore (upNode 1) 2 30 31).2 (upNode 1) ∧
      StoreRun (fun _ _ => True) (overlapping ++ [.observe (upNode 1) 2 30 31])
        (observeIncident overlappingStore (upNode 1) 2 30 31).2 ∧
      ¬Paired (overlapping ++ [.observe (upNode 1) 2 30 31])
        (observeIncident overlappingStore (upNode 1) 2 30 31).2 2 := by
  have run : StoreRun (fun _ _ => True) overlapping overlappingStore :=
    overlapping_run trivial trivial
  refine ⟨run, ?_, ?_, ?_⟩
  · intro isolated
    have kept := (isolated 2 (by decide)).1
    revert kept
    decide +kernel
  · refine .step run ?_ trivial
    refine ⟨?_, ?_, ?_⟩ <;> decide +kernel
  · intro paired
    have incidents := paired.1
    revert incidents
    decide +kernel

/-- When node 2 recovers first, both outages are paired. -/
theorem incidents_isolated_and_paired_nested :
    Paired (overlapping ++ [.observe (upNode 2) 2 30 31])
        (observeIncident overlappingStore (upNode 2) 2 30 31).2 2 ∧
      outages 2 (overlapping ++ [.observe (upNode 2) 2 30 31]) =
        [{ openedAt := 1, recoveredAt := some 2 }] ∧
      Isolated overlappingStore (observeIncident overlappingStore (upNode 2) 2 30 31).2
        (upNode 2) := by
  have opening : ∀ (store : ObservabilityStore) (id : UUID), RecoversLast store (downNode id) := by
    intro store id cur recovers
    cases recovers.1
  have last : RecoversLast overlappingStore (upNode 2) := by
    intro cur recovers
    rw [← recovers.2.1]
    decide +kernel
  have run : StoreRun recoversLastMet (overlapping ++ [.observe (upNode 2) 2 30 31])
      (observeIncident overlappingStore (upNode 2) 2 30 31).2 := by
    refine .step (overlapping_run (opening _ 1) (opening _ 2)) ?_ last
    refine ⟨?_, ?_, ?_⟩ <;> decide +kernel
  exact ⟨(incidents_isolated_and_paired _ (upNode 2) 2 30 31 _).2 run 2, by decide +kernel,
    (incidents_isolated_and_paired _ (upNode 2) 2 30 31 []).1.mpr last⟩

end RtspProxy.Observability
