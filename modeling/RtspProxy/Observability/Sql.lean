import RtspProxy.Lib.Sql
import RtspProxy.Observability.Store

/-!
# The notifier functions of the database

The tables `notification_incidents` and `notification_messages` of migration
0011 and its functions `rtsp_proxy_collector_observe`,
`rtsp_proxy_notifier_claim` and `rtsp_proxy_notifier_complete`, with the calls
`PostgresObservabilityStore` makes. A statement of a function sees what the
earlier statements did; the parts of one `WITH` query all see the tables as they
were before the query. A function that raises, or a row that violates a
constraint, rolls the transaction back. `created_at` is read by none of these.
-/

namespace RtspProxy.Observability

open Nodes Lib Lib.Raising Sql

structure NotificationRow where
  id : UUID
  incidentId : UUID
  nodeId : UUID
  kind : NotificationKind
  dedupeKey : String
  status : NotificationStatus
  attempts : Int
  availableAt : Datetime
  claimedAt : Option Datetime := none
  claimToken : Option UUID := none
  sentAt : Option Datetime := none
  lastErrorCode : Option String := none
  deriving DecidableEq

/-- A row of `notification_incidents` has the fields of the incident. -/
structure NotifierTables where
  /-- The ids in `media_nodes`, which these functions only read. -/
  mediaNodes : List UUID
  incidents : List NotificationIncident := []
  messages : List NotificationRow := []
  deriving DecidableEq

/-- An exception of the database with its message, or the name of the violated constraint. -/
inductive DatabaseError
  | raised (msg : String)
  | violated (constraint : String)
  deriving DecidableEq

/-- `_notification_from_row`; the last column is computed by the query. -/
def notificationFromRow (row : NotificationRow) (failureDeliveryOutcome : Option NotificationStatus) :
    NotificationMessage :=
  { id := row.id, incidentId := row.incidentId, nodeId := row.nodeId, kind := row.kind
    dedupeKey := row.dedupeKey, status := row.status, attempts := row.attempts
    availableAt := row.availableAt, lastErrorCode := row.lastErrorCode
    claimToken := row.claimToken, claimedAt := row.claimedAt, failureDeliveryOutcome }

/-- `INSERT INTO notification_incidents`: the primary key, and one open incident per node. -/
def insertIncident (tables : NotifierTables) (inc : NotificationIncident) :
    Except DatabaseError NotifierTables := do
  raiseIf (∃ other ∈ tables.incidents, other.id = inc.id)
    (.violated "notification_incidents_pkey")
  raiseIf (inc.state = .opened ∧ ∃ other ∈ tables.incidents,
      other.nodeId = inc.nodeId ∧ other.state = .opened)
    (.violated "uq_notification_incident_open_node")
  return { tables with incidents := tables.incidents ++ [inc] }

/-- `INSERT INTO notification_messages`: its incident exists, and three columns are unique. -/
def insertMessage (tables : NotifierTables) (row : NotificationRow) :
    Except DatabaseError NotifierTables := do
  raiseIf (∀ inc ∈ tables.incidents, inc.id ≠ row.incidentId)
    (.violated "notification_messages_incident_id_fkey")
  raiseIf (∃ other ∈ tables.messages, other.id = row.id)
    (.violated "notification_messages_pkey")
  raiseIf (∃ other ∈ tables.messages, other.dedupeKey = row.dedupeKey)
    (.violated "notification_messages_dedupe_key_key")
  raiseIf (∃ other ∈ tables.messages, other.incidentId = row.incidentId ∧ other.kind = row.kind)
    (.violated "uq_notification_message_incident_kind")
  return { tables with messages := tables.messages ++ [row] }

/-- `ORDER BY incident.opened_at DESC, incident.id DESC`. -/
def openedLater (left right : NotificationIncident) : Bool :=
  decide (right.openedAt < left.openedAt ∨
    (right.openedAt = left.openedAt ∧ right.id.int < left.id.int))

def latestRow (tables : NotifierTables) (nodeId : UUID) : Option NotificationIncident :=
  firstBy openedLater (tables.incidents.filter fun inc => decide (inc.nodeId = nodeId))

def pendingRow (inc : NotificationIncident) (kind : NotificationKind) (id : UUID)
    (availableAt : Datetime) : NotificationRow :=
  { id, incidentId := inc.id, nodeId := inc.nodeId, kind
    dedupeKey := "node-incident:" ++ inc.id.str ++ ":" ++ kind.value
    status := .pending, attempts := 0, availableAt }

def collectorObserve (tables : NotifierTables) (nodeId : UUID) (failed recovered : Bool)
    (observedAt : Datetime) (incidentId msgId : UUID) :
    Except DatabaseError (Option NotificationIncident × NotifierTables) := do
  raiseIf (failed = true ∧ recovered = true) (.raised "incident_observation_invalid")
  raiseIf (nodeId ∉ tables.mediaNodes) (.raised "incident_node_missing")
  let latest := latestRow tables nodeId
  let latestOpen := latest.filter fun inc => decide (inc.state = .opened)
  match failed, recovered, latestOpen with
  | true, _, none =>
    let inc : NotificationIncident :=
      { id := incidentId, nodeId, state := .opened, openedAt := observedAt }
    let tables ← insertIncident tables inc
    let tables ← insertMessage tables (pendingRow inc .failure msgId observedAt)
    return (some inc, tables)
  | false, true, some cur =>
    let inc := { cur with state := .recovered, recoveredAt := some observedAt }
    let tables := { tables with
      incidents := update (fun row => decide (row.id = cur.id))
        (fun row => { row with state := .recovered, recoveredAt := some observedAt })
        tables.incidents }
    let tables ← insertMessage tables (pendingRow inc .recovery msgId observedAt)
    return (some inc, tables)
  | _, _, _ => return (latest, tables)

/-- The `WHERE` clause of both updates that close incidents. -/
def incidentComplete (messages : List NotificationRow) (inc : NotificationIncident) : Bool :=
  let own := messages.filter fun msg => decide (msg.incidentId = inc.id)
  inc.state = .recovered ∧ own.length = 2 ∧ ¬∃ msg ∈ own, msg.status.isTerminal = false

def closedRow (closedAt : Datetime) (inc : NotificationIncident) : NotificationIncident :=
  { inc with state := .closed, closedAt := some closedAt }

def rowExpired (expiredAt : Datetime) (row : NotificationRow) : Bool :=
  row.status = .processing ∧ row.claimedAt.any fun claimedAt => claimedAt ≤ expiredAt

def expiredRow (row : NotificationRow) : NotificationRow :=
  { row with
    status := .failedFinal, claimedAt := none, claimToken := none
    lastErrorCode := some "notification_delivery_ambiguous" }

def sweepTables (tables : NotifierTables) (now expiredAt : Datetime) : NotifierTables :=
  let messages := update (rowExpired expiredAt) expiredRow tables.messages
  { tables with
    messages := messages
    incidents := update (incidentComplete messages) (closedRow now) tables.incidents }

def rowClaimable (messages : List NotificationRow) (now : Datetime) (row : NotificationRow) : Bool :=
  (row.status = .pending ∧ row.availableAt ≤ now) ∧
    (row.kind = .failure ∨ ∃ failure ∈ messages, failure.incidentId = row.incidentId ∧
      failure.kind = .failure ∧ failure.status.isTerminal = true)

/-- `ORDER BY message.available_at, message.id`. -/
def dueEarlier (left right : NotificationRow) : Bool :=
  decide (left.availableAt < right.availableAt ∨
    (left.availableAt = right.availableAt ∧ left.id.int < right.id.int))

def claimedRow (now : Datetime) (claim : UUID) (row : NotificationRow) : NotificationRow :=
  { row with
    status := .processing, claimedAt := some now, claimToken := some claim
    attempts := row.attempts + 1 }

def notifierClaim (tables : NotifierTables) (now expiredAt : Datetime) (claim : UUID) :
    Except DatabaseError (Option NotificationMessage × NotifierTables) := do
  let tables := sweepTables tables now expiredAt
  match firstBy dueEarlier (tables.messages.filter (rowClaimable tables.messages now)) with
  | none => return (none, tables)
  | some cand =>
    let claimed := claimedRow now claim cand
    raiseIf (¬(0 ≤ claimed.attempts ∧ claimed.attempts ≤ 10))
      (.violated "ck_notification_message_attempts")
    -- The subquery reads the table as it was before `claimed` updated it.
    let out := (tables.messages.find? fun failure =>
      decide (failure.incidentId = claimed.incidentId ∧ failure.kind = .failure)).map (·.status)
    return (some (notificationFromRow claimed out), { tables with
        messages := update (fun row => decide (row.id = cand.id))
          (claimedRow now claim) tables.messages })

def claimNotificationSql (tables : NotifierTables) (now lease : Int) (claim : UUID) :
    Except DatabaseError (Option NotificationMessage × NotifierTables) :=
  notifierClaim tables now (now - lease) claim

def completedRow (report : CompletionReport) (cur row : NotificationRow) : NotificationRow :=
  let nextStatus : NotificationStatus :=
    if report.succeeded then .sent
    else if report.deliveryAmbiguous ∨ cur.attempts ≥ report.maxAttempts then .failedFinal
    else .pending
  { row with
    status := nextStatus
    availableAt :=
      if nextStatus.isTerminal then report.completedAt else report.completedAt + report.retryDelay
    claimedAt := none
    claimToken := none
    sentAt := if report.succeeded then some report.completedAt else none
    lastErrorCode :=
      if report.succeeded then none
      else if report.deliveryAmbiguous then some "notification_delivery_ambiguous"
      else some "notification_transport_failed" }

def notifierComplete (tables : NotifierTables) (id claim : UUID) (report : CompletionReport) :
    Except DatabaseError (Option NotificationMessage × NotifierTables) := do
  raiseIf (¬(1 ≤ report.maxAttempts ∧ report.maxAttempts ≤ 10) ∨ report.retryDelay ≤ 0)
    (.raised "notification_completion_invalid")
  match RecordTable.lookup (·.id) id tables.messages with
  | none => return (none, tables)
  | some cur =>
    if cur.status ≠ .processing ∨ cur.claimToken ≠ some claim then
      return (none, tables)
    else
      let upd := update (fun row => decide (row.id = id)) (completedRow report cur) tables.messages
      -- `closed` counts the messages of the snapshot, not those `updated` wrote.
      let closed := update
        (fun inc => decide (inc.id = cur.incidentId) && incidentComplete tables.messages inc)
        (closedRow report.completedAt) tables.incidents
      return (some (notificationFromRow (completedRow report cur cur) none),
        { tables with messages := upd, incidents := closed })

/-- `PostgresObservabilityStore.complete_notification`; no row is a `ValueError`. -/
def completeNotificationSql (tables : NotifierTables) (id claim : UUID)
    (report : CompletionReport) :
    Except DatabaseError (Except ObservabilityError NotificationMessage × NotifierTables) := do
  let (row, post) ← notifierComplete tables id claim report
  match row with
  | none => return (.error (.valueError "notification_not_claimed"), tables)
  | some msg => return (.ok msg, post)

def observeIncidentSql (tables : NotifierTables) (node : MediaNode) (observedAt : Datetime)
    (incidentId msgId : UUID) :
    Except DatabaseError (Option NotificationIncident × NotifierTables) :=
  collectorObserve tables node.id (nodeFailedForIncident node) (nodeRecoveredForIncident node)
    observedAt incidentId msgId

end RtspProxy.Observability
