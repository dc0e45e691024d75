import RtspProxy.Observability.Incidents
import RtspProxy.Observability.Sql

/-!
# The in-memory store and the database side by side

Both stores take the same operations with the same identifiers. They agree when
their incidents are the same and their messages have the same columns. The
e-mail shows `failure_delivery_outcome` of a recovery message only; for a
failure message the database reports its own status there and the in-memory
store nothing.

`agreementMet` is the condition under which one operation keeps the agreement. It
leaves out what the two do differently: a recovery that the in-memory store
writes over the last incident, the order in which pending messages are taken,
`available_at` of a message whose lease ran out, and the completion of the last
outstanding message of a recovered incident, which only the in-memory store closes.
-/

namespace RtspProxy.Observability

open Nodes Lib List

def stored (msg : NotificationMessage) : NotificationMessage :=
  { msg with failureDeliveryOutcome := none }

def delivered (msg : NotificationMessage) : NotificationMessage :=
  match msg.kind with
  | .failure => stored msg
  | .recovery => msg

structure Agrees (store : ObservabilityStore) (tables : NotifierTables) : Prop where
  incidents : tables.incidents = store.incidents
  messages : tables.messages.map (notificationFromRow · none) = store.notifications.map stored

namespace StoreOperation

/-- The tables after the operation; an exception leaves them as they were. -/
def applySql (tables : NotifierTables) : StoreOperation → NotifierTables
  | observe node observedAt incidentId msgId =>
    match observeIncidentSql tables node observedAt incidentId msgId with
    | .ok (_, post) => post
    | .error _ => tables
  | claim now lease claimToken =>
    match claimNotificationSql tables now lease claimToken with
    | .ok (_, post) => post
    | .error _ => tables
  | complete noteId claimToken report =>
    match completeNotificationSql tables noteId claimToken report with
    | .ok (_, post) => post
    | .error _ => tables

/-- The two stores answer alike: the same incident, the same claimed message, and a completion
that both accept or both reject. -/
def SameAnswer (store : ObservabilityStore) (tables : NotifierTables) : StoreOperation → Prop
  | observe node observedAt incidentId msgId =>
    ∃ incident post, observeIncidentSql tables node observedAt incidentId msgId =
        .ok (incident, post) ∧
      (observeIncident store node observedAt incidentId msgId).1 = .ok incident
  | claim now lease claimToken =>
    ∃ msg post, claimNotificationSql tables now lease claimToken = .ok (msg, post) ∧
      (claimNotification store now lease claimToken).1.map delivered = msg.map delivered
  | complete noteId claimToken report =>
    ∃ res post, completeNotificationSql tables noteId claimToken report = .ok (res, post) ∧
      (completeNotification store noteId claimToken report).1.toOption.map stored =
        res.toOption.map stored

end StoreOperation

/-- The message is pending and due, and what the list has before it is not. -/
def takenFirst (store : ObservabilityStore) (now : Datetime) (first : NotificationMessage) : Prop :=
  store.notifications.find? (claimable store.notifications now) = some first

/-- The completion makes the last outstanding message of a recovered incident terminal. -/
def settlesIncident (store : ObservabilityStore) (cur : NotificationMessage)
    (report : CompletionReport) : Prop :=
  (report.nextStatus cur.attempts).isTerminal = true ∧
    ∃ incident ∈ store.incidents, incident.id = cur.incidentId ∧ incident.state = .recovered ∧
      ∀ other ∈ store.notifications, other.incidentId = cur.incidentId → other.id ≠ cur.id →
        other.status.isTerminal = true

def agreementMet (mediaNodes : List UUID) (store : ObservabilityStore) : StoreOperation → Prop
  | .observe node observedAt incidentId _ =>
    node.id ∈ mediaNodes ∧ RecoversLast store node ∧
      (opensIncident store node → ∀ incident ∈ store.incidents, incident.nodeId = node.id →
        openedLater (openedIncident node observedAt incidentId) incident = true)
  | .claim now lease _ =>
    (∀ msg ∈ store.notifications, leaseExpired now lease msg = false) ∧
      ∀ first, takenFirst store now first → ∀ other ∈ store.notifications,
        claimable store.notifications now other = true → other ≠ first →
        first.availableAt < other.availableAt ∨
          first.availableAt = other.availableAt ∧ first.id.int < other.id.int
  | .complete noteId claimToken report =>
    (1 ≤ report.maxAttempts ∧ report.maxAttempts ≤ 10 ∧ 0 < report.retryDelay) ∧
      ∀ cur, carriesClaim store noteId claimToken cur → ¬settlesIncident store cur report

/-- Both stores after a history all of whose operations meet the condition. -/
inductive AgreementRun (mediaNodes : List UUID) :
    List StoreOperation → ObservabilityStore → NotifierTables → Prop
  | start : AgreementRun mediaNodes [] {} { mediaNodes := mediaNodes }
  | step {hist : List StoreOperation} {store : ObservabilityStore} {tables : NotifierTables}
      {op : StoreOperation} (run : AgreementRun mediaNodes hist store tables)
      (fresh : op.Fresh store) (cond : agreementMet mediaNodes store op) :
      AgreementRun mediaNodes (hist ++ [op]) (op.apply store)
        (op.applySql tables)

/-- Two incidents of one node: the later one was opened later, after the earlier one recovered. -/
def succeeds (earlier later : UUID × UUID × Datetime × Option Datetime) : Prop :=
  earlier.2.1 = later.2.1 → (earlier.2.2.1 < later.2.2.1 ∨
      earlier.2.2.1 = later.2.2.1 ∧ earlier.1.int < later.1.int) ∧ earlier.2.2.2 ≠ none

structure AgreementInvariant (hist : List StoreOperation) (store : ObservabilityStore) : Prop where
  paired : IncidentInvariant hist store
  ids : RecordTable.DistinctKeys (·.id) store.notifications
  keys : ∀ msg ∈ store.notifications, msg.dedupeKey = dedupeKey msg.incidentId msg.kind
  attempts : ∀ msg ∈ store.notifications, 0 ≤ msg.attempts ∧ msg.attempts ≤ 10 ∧
    (msg.status = .pending → msg.attempts < 10)
  outstanding : ∀ incident ∈ store.incidents, incident.state = .recovered →
    ∃ msg ∈ store.notifications, msg.incidentId = incident.id ∧ msg.status.isTerminal = false
  succession : (store.incidents.map (·.trace)).Pairwise succeeds
  unclosed : ∀ incident ∈ store.incidents, incident.state = .opened → incident.closedAt = none

section Rows

variable {store : ObservabilityStore} {tables : NotifierTables}

theorem row_fields {row : NotificationRow} {msg : NotificationMessage}
    (same : notificationFromRow row none = stored msg) :
    row.id = msg.id ∧ row.incidentId = msg.incidentId ∧ row.nodeId = msg.nodeId ∧
      row.kind = msg.kind ∧ row.dedupeKey = msg.dedupeKey ∧ row.status = msg.status ∧
      row.attempts = msg.attempts ∧ row.availableAt = msg.availableAt ∧
      row.lastErrorCode = msg.lastErrorCode ∧ row.claimToken = msg.claimToken ∧
      row.claimedAt = msg.claimedAt := by
  simpa [notificationFromRow, stored] using same

theorem message_of_row (agrees : Agrees store tables) {row : NotificationRow}
    (mem : row ∈ tables.messages) : ∃ msg ∈ store.notifications,
      notificationFromRow row none = stored msg := by
  have inMap : notificationFromRow row none ∈ store.notifications.map stored := by
    rw [← agrees.messages]
    exact mem_map_of_mem mem
  obtain ⟨msg, messageMember, same⟩ := mem_map.mp inMap
  exact ⟨msg, messageMember, same.symm⟩

theorem row_of_message (agrees : Agrees store tables) {msg : NotificationMessage}
    (mem : msg ∈ store.notifications) : ∃ row ∈ tables.messages,
      notificationFromRow row none = stored msg := by
  have inMap : stored msg ∈ tables.messages.map (notificationFromRow · none) := by
    rw [agrees.messages]
    exact mem_map_of_mem mem
  obtain ⟨row, rowMember, same⟩ := mem_map.mp inMap
  exact ⟨row, rowMember, same⟩

theorem no_row_of_no_message (agrees : Agrees store tables) {test : NotificationRow → Prop}
    {messageTest : NotificationMessage → Prop}
    (alike : ∀ row msg, notificationFromRow row none = stored msg → test row → messageTest msg)
    (none_ : ∀ msg ∈ store.notifications, ¬messageTest msg) :
    ¬∃ row ∈ tables.messages, test row := by
  rintro ⟨row, mem, holds⟩
  obtain ⟨msg, messageMember, same⟩ := message_of_row agrees mem
  exact none_ msg messageMember (alike row msg same holds)

end Rows

theorem lexicographic_asymm {left right : Int} {leftId rightId : Nat}
    (forward : left < right ∨ left = right ∧ leftId < rightId) :
    ¬(right < left ∨ right = left ∧ rightId < leftId) := by
  omega

section Latest

variable {hist : List StoreOperation} {store : ObservabilityStore} {tables : NotifierTables}

theorem opened_later_trace {left right : NotificationIncident} :
    openedLater left right = true ↔ right.openedAt < left.openedAt ∨
      right.openedAt = left.openedAt ∧ right.id.int < left.id.int := by
  simp [openedLater]

theorem latest_row_eq (inv : AgreementInvariant hist store) (agrees : Agrees store tables)
    (nodeId : UUID) : latestRow tables nodeId = latestIncident store nodeId := by
  rw [latest_eq_get_last, latestRow, agrees.incidents]
  change Sql.firstBy openedLater (store.incidentsOf nodeId) = (store.incidentsOf nodeId).getLast?
  have ordered : (store.incidentsOf nodeId).Pairwise fun earlier later =>
      succeeds earlier.trace later.trace :=
    Pairwise.filter _ (pairwise_map.mp inv.succession)
  have ownNode : ∀ incident ∈ store.incidentsOf nodeId, incident.nodeId = nodeId := by
    intro incident mem
    simpa using (mem_filter.mp mem).2
  cases isLast : (store.incidentsOf nodeId).getLast? with
  | none =>
    rw [getLast?_eq_none_iff.mp isLast]
    rfl
  | some last =>
    have parts : store.incidentsOf nodeId = (store.incidentsOf nodeId).dropLast ++ [last] := by
      rw [dropLast_append_getLast? last isLast]
    generalize (store.incidentsOf nodeId).dropLast = earlier at parts
    rw [parts] at ordered ownNode ⊢
    apply Sql.first_by_eq
    · simp
    · intro incident mem
      rcases mem_append.mp mem with inEarlier | isLast
      · right
        have succession := (pairwise_append.mp ordered).2.2 incident inEarlier last (by simp)
        have sameNode : incident.nodeId = last.nodeId := by
          rw [ownNode incident mem, ownNode last (by simp)]
        have opened := (succession sameNode).1
        simp only [NotificationIncident.trace] at opened
        constructor
        · exact opened_later_trace.mpr opened
        · apply Bool.eq_false_iff.mpr
          intro later
          exact lexicographic_asymm opened (opened_later_trace.mp later)
      · left
        exact mem_singleton.mp isLast

theorem open_is_latest (inv : AgreementInvariant hist store) {incident : NotificationIncident}
    (mem : incident ∈ store.incidents) (opened : incident.state = .opened) :
    latestIncident store incident.nodeId = some incident := by
  rw [latest_eq_get_last]
  have ordered : (store.incidentsOf incident.nodeId).Pairwise fun earlier later =>
      succeeds earlier.trace later.trace :=
    Pairwise.filter _ (pairwise_map.mp inv.succession)
  have ownMember : incident ∈ store.incidentsOf incident.nodeId := by
    simp [ObservabilityStore.incidentsOf, mem]
  cases isLast : (store.incidentsOf incident.nodeId).getLast? with
  | none =>
    rw [getLast?_eq_none_iff.mp isLast] at ownMember
    cases ownMember
  | some last =>
    have parts : store.incidentsOf incident.nodeId =
        (store.incidentsOf incident.nodeId).dropLast ++ [last] := by
      rw [dropLast_append_getLast? last isLast]
    have lastNode : last.nodeId = incident.nodeId := by
      have lastMember := mem_of_getLast? isLast
      simpa using (mem_filter.mp lastMember).2
    rw [parts] at ordered ownMember
    rcases mem_append.mp ownMember with inEarlier | isIncident
    · have succession := (pairwise_append.mp ordered).2.2 incident inEarlier last (by simp)
      have recovered := (succession lastNode.symm).2
      exact absurd ((inv.paired.states incident mem).mp opened) recovered
    · rw [mem_singleton.mp isIncident]

end Latest

end RtspProxy.Observability
