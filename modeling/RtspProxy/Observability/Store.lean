import RtspProxy.Lib.RecordTable
import RtspProxy.Nodes.Validation

/-!
# The in-memory observability store

`InMemoryObservabilityStore` of `observability.py`: incidents opened and
recovered by observations of the fleet, the notification messages they cause,
and the lease protocol by which dispatchers claim and complete a message. The
identifiers drawn by `uuid4()` are arguments. An operation returns the store it
leaves behind also when it raises.
-/

namespace RtspProxy.Observability

open Nodes Lib Lib.RecordTable

/-- `opened` is the source's `OPEN`. -/
inductive IncidentState
  | opened | recovered | closed
  deriving DecidableEq

inductive NotificationKind
  | failure | recovery
  deriving DecidableEq

def NotificationKind.value : NotificationKind → String
  | .failure => "failure"
  | .recovery => "recovery"

inductive NotificationStatus
  | pending | processing | sent | failedFinal
  deriving DecidableEq

/-- `status in {NotificationStatus.SENT, NotificationStatus.FAILED_FINAL}`. -/
def NotificationStatus.isTerminal : NotificationStatus → Bool
  | .sent | .failedFinal => true
  | .pending | .processing => false

structure NotificationIncident where
  id : UUID
  nodeId : UUID
  state : IncidentState
  openedAt : Datetime
  recoveredAt : Option Datetime := none
  closedAt : Option Datetime := none
  deriving DecidableEq

structure NotificationMessage where
  id : UUID
  incidentId : UUID
  nodeId : UUID
  kind : NotificationKind
  dedupeKey : String
  status : NotificationStatus
  attempts : Int
  availableAt : Datetime
  lastErrorCode : Option String := none
  claimToken : Option UUID := none
  claimedAt : Option Datetime := none
  failureDeliveryOutcome : Option NotificationStatus := none
  deriving DecidableEq

inductive ObservabilityError
  | valueError (code : String)
  | deliveryAmbiguous
  | transportFailed
  deriving DecidableEq

structure ObservabilityStore where
  incidents : List NotificationIncident := []
  notifications : List NotificationMessage := []
  deriving DecidableEq

def nodeFailedForIncident (node : MediaNode) : Bool :=
  node.runtimeState = .failed ∨ (node.state = .running ∧ node.runtimeState = .stopped)

def nodeRecoveredForIncident (node : MediaNode) : Bool :=
  node.runtimeState = .running ∧ node.health = .healthy

def dedupeKey (incidentId : UUID) (kind : NotificationKind) : String :=
  "node-incident:" ++ incidentId.str ++ ":" ++ kind.value

def notification (inc : NotificationIncident) (kind : NotificationKind) (id : UUID) :
    Except ObservabilityError NotificationMessage := do
  let availableAt ← Raising.orRaise
    (match kind with
      | .failure => some inc.openedAt
      | .recovery => inc.recoveredAt)
    (.valueError "notification_timestamp_missing")
  return {
    id
    incidentId := inc.id
    nodeId := inc.nodeId
    kind
    dedupeKey := dedupeKey inc.id kind
    status := .pending
    attempts := 0
    availableAt }

/-- The incident of the node that stands last in the list. -/
def latestIncident (store : ObservabilityStore) (nodeId : UUID) : Option NotificationIncident :=
  store.incidents.reverse.find? fun inc => decide (inc.nodeId = nodeId)

def observeIncident (store : ObservabilityStore) (node : MediaNode) (observedAt : Datetime)
    (incidentId msgId : UUID) :
    Except ObservabilityError (Option NotificationIncident) × ObservabilityStore :=
  let latest := latestIncident store node.id
  let latestOpen := latest.filter fun inc => decide (inc.state = .opened)
  if nodeFailedForIncident node then
    match latestOpen with
    | some inc => (.ok (some inc), store)
    | none =>
      let inc : NotificationIncident :=
        { id := incidentId, nodeId := node.id, state := .opened, openedAt := observedAt }
      let incidents := store.incidents ++ [inc]
      match notification inc .failure msgId with
      | .error error => (.error error, { store with incidents })
      | .ok msg =>
        (.ok (some inc), { incidents, notifications := store.notifications ++ [msg] })
  else
    match nodeRecoveredForIncident node, latestOpen with
    | true, some cur =>
      let inc : NotificationIncident :=
        { id := cur.id, nodeId := cur.nodeId, state := .recovered
          openedAt := cur.openedAt, recoveredAt := some observedAt }
      -- `self._incidents[-1] = incident`: the last incident of the list, whoever owns it.
      let incidents := store.incidents.set (store.incidents.length - 1) inc
      match notification inc .recovery msgId with
      | .error error => (.error error, { store with incidents })
      | .ok msg =>
        (.ok (some inc), { incidents, notifications := store.notifications ++ [msg] })
    | _, _ => (.ok latest, store)

def closeIncidentIfComplete (store : ObservabilityStore) (incidentId : UUID)
    (completedAt : Datetime) : ObservabilityStore :=
  match lookup (·.id) incidentId store.incidents with
  | none => store
  | some inc =>
    let messages := store.notifications.filter fun msg =>
      decide (msg.incidentId = incidentId)
    if inc.state ≠ .recovered then store
    else if messages.length ≠ 2 ∨ messages.any (fun msg => !msg.status.isTerminal) then store
    else
      { store with
        incidents := replace (·.id)
          { inc with state := .closed, closedAt := some completedAt } store.incidents }

def leaseExpired (now lease : Int) (msg : NotificationMessage) : Bool :=
  msg.status = .processing ∧ msg.claimedAt.any fun claimedAt => claimedAt ≤ now - lease

def expiredMessage (now : Datetime) (msg : NotificationMessage) : NotificationMessage :=
  { msg with
    status := .failedFinal
    availableAt := now
    lastErrorCode := some "notification_delivery_ambiguous"
    claimToken := none
    claimedAt := none
    failureDeliveryOutcome := none }

/-- A message after the first loop of `claim_notification`. -/
def sweptMessage (now lease : Int) (msg : NotificationMessage) : NotificationMessage :=
  if leaseExpired now lease msg then expiredMessage now msg else msg

/-- The first two loops of `claim_notification`. The expired incidents form a set; closing one
twice changes nothing, and closing two is the same in either order. -/
def expireLeases (store : ObservabilityStore) (now lease : Int) : ObservabilityStore :=
  let expired := (store.notifications.filter (leaseExpired now lease)).map (·.incidentId)
  let notifications := store.notifications.map (sweptMessage now lease)
  expired.dedup.foldl (fun cur incidentId => closeIncidentIfComplete cur incidentId now)
    { store with notifications }

def failureTerminal (notifications : List NotificationMessage) : List UUID :=
  (notifications.filter fun msg =>
    decide (msg.kind = .failure) && msg.status.isTerminal).map (·.incidentId)

/-- `due and ordered`. -/
def claimable (notifications : List NotificationMessage) (now : Datetime)
    (msg : NotificationMessage) : Bool :=
  (msg.status = .pending ∧ msg.availableAt ≤ now) ∧
    (msg.kind = .failure ∨ msg.incidentId ∈ failureTerminal notifications)

/-- The `next(...)` of a recovery message finds a failure message, since the recovery message is
claimed only when a terminal one exists. -/
def failureOutcome (notifications : List NotificationMessage) (msg : NotificationMessage) :
    Option NotificationStatus :=
  match msg.kind with
  | .failure => none
  | .recovery =>
    (notifications.find? fun cand =>
      decide (cand.incidentId = msg.incidentId) && decide (cand.kind = .failure)).map
        (·.status)

def claimedMessage (notifications : List NotificationMessage) (now : Datetime) (claim : UUID)
    (msg : NotificationMessage) : NotificationMessage :=
  { msg with
    status := .processing
    attempts := msg.attempts + 1
    claimToken := some claim
    claimedAt := some now
    failureDeliveryOutcome := failureOutcome notifications msg }

def claimNotification (store : ObservabilityStore) (now lease : Int) (claim : UUID) :
    Option NotificationMessage × ObservabilityStore :=
  let swept := expireLeases store now lease
  match swept.notifications.findIdx? (claimable swept.notifications now) with
  | none => (none, swept)
  | some index =>
    match swept.notifications[index]? with
    | none => (none, swept)
    | some msg =>
      let claimed := claimedMessage swept.notifications now claim msg
      (some claimed, { swept with notifications := swept.notifications.set index claimed })

structure CompletionReport where
  succeeded : Bool
  completedAt : Datetime
  maxAttempts : Int
  retryDelay : Int
  deliveryAmbiguous : Bool := false
  deriving DecidableEq

/-- The status after a completion; `attempts` is that of the completed message. -/
def CompletionReport.nextStatus (report : CompletionReport) (attempts : Int) : NotificationStatus :=
  if report.succeeded then .sent
  else if report.deliveryAmbiguous ∨ attempts ≥ report.maxAttempts then .failedFinal
  else .pending

def completedMessage (report : CompletionReport) (cur : NotificationMessage) :
    NotificationMessage :=
  let status := report.nextStatus cur.attempts
  { cur with
    status
    availableAt :=
      if report.succeeded ∨ status = .failedFinal then report.completedAt
      else report.completedAt + report.retryDelay
    lastErrorCode :=
      if report.succeeded then none
      else if report.deliveryAmbiguous then some "notification_delivery_ambiguous"
      else some "notification_transport_failed"
    claimToken := none
    claimedAt := none }

def completeNotification (store : ObservabilityStore) (noteId claim : UUID)
    (report : CompletionReport) :
    Except ObservabilityError NotificationMessage × ObservabilityStore :=
  match lookup (·.id) noteId store.notifications with
  | none => (.error (.valueError "notification_not_found"), store)
  | some cur =>
    if cur.status ≠ .processing ∨ cur.claimToken ≠ some claim then
      (.error (.valueError "notification_not_claimed"), store)
    else
      let upd := completedMessage report cur
      let store :=
        { store with notifications := replace (·.id) upd store.notifications }
      (.ok upd, closeIncidentIfComplete store upd.incidentId report.completedAt)

end RtspProxy.Observability
