import RtspProxy.Probes.Records
import RtspProxy.Lib.Actions
import RtspProxy.Lib.Dict

/-!
# The live update hub

`CameraLiveUpdates` keeps, per camera, a channel with a bounded history of events
and the subscriptions that follow it, and, per operator session, the subscription
that the session has open. Its critical sections never wait while they hold the
hub's lock, so each of them is one `Action`; what a coroutine awaited before it is
an argument. A monotonic reading is taken once for a section.

What a snapshot shows of a camera (`_project_camera`) is a parameter, and so is
the snapshot.
-/

namespace RtspProxy.Live

open Nodes Probes Lib

def maxEventId : Nat := 9999999999999999999

inductive LiveError
  | valueError (msg : String)
  | limitReached (msg : String)
  | unavailable (msg : String)
  | assertionError
  deriving DecidableEq

/-- The type of an event together with what its data says. -/
inductive LiveEventData (Data : Type)
  | state (data : Data)
  | probeCompleted (obs : ProbeObservation)
  | probeCleared (reason : String)
  | heartbeat (authzVersion : Int)
  | authzEpoch (action : String)
  | resyncRequired (reason : String)

structure CameraLiveEvent (Data : Type) where
  data : LiveEventData Data
  eventId : Option Nat := none

structure CameraLiveTarget where
  cameraId : UUID
  publicId : PublicId
  nodeId : UUID
  valid : cameraId.isVersion4 = true ∧ nodeId.isVersion4 = true

/-- `_CameraChannel`. Its subscribers are handles; of the last projection only the data is read. -/
structure CameraChannel (Data : Type) where
  target : CameraLiveTarget
  history : List (CameraLiveEvent Data) := []
  subscribers : Dict UUID Nat := .empty
  previousProjection : Option Data := none
  lastAccess : Int
  lastSnapshotGeneratedAt : Option Datetime := none
  targetAvailable : Bool := true
  latestState : Option (CameraLiveEvent Data) := none
  latestProbeEvent : Option (CameraLiveEvent Data) := none
  latestProbeObservationId : Option UUID := none
  latestAccessAt : Option Datetime := none

/-- Where `__anext__` waits. -/
inductive Waiting (Data : Type)
  | nothing
  | authorization
  | queue
  | heartbeat
  | event (event : CameraLiveEvent Data)

structure CameraLiveSubscription (Data : Type) where
  cameraId : UUID
  sessionId : UUID
  authzVersion : Int
  queue : List (CameraLiveEvent Data) := []
  closed : Bool := false
  terminalEvent : Option (CameraLiveEvent Data) := none
  terminalDelivered : Bool := false
  slowConsumer : Bool := false
  waiting : Waiting Data := .nothing

/-- What the constructor fixes, with the part of `_project_camera` the hub compares. -/
structure LiveSettings (Index Data : Type) where
  historySize : Nat
  subscriberQueueSize : Nat
  maxSubscriptions : Nat
  maxTrackedCameras : Nat
  maxSnapshotAge : Option Int
  channelTtl : Int
  authorizesSessions : Bool
  generatedAt : Index → Datetime
  projectCamera : CameraChannel Data → Option Index → Data
  sizesValid : (1 ≤ historySize ∧ historySize ≤ 1024) ∧
    (1 ≤ subscriberQueueSize ∧ subscriberQueueSize ≤ 1024) ∧
    (1 ≤ maxSubscriptions ∧ maxSubscriptions ≤ 4096) ∧
    1 ≤ maxTrackedCameras ∧ maxTrackedCameras ≤ 10000

/-- The state of `CameraLiveUpdates` and every subscription it ever made. -/
structure CameraLiveUpdates (Index Data : Type) where
  channels : Dict UUID (CameraChannel Data) := .empty
  sessionSubscriptions : Dict UUID Nat := .empty
  authorizationEpochs : Dict UUID (Int × Int) := .empty
  handles : List (CameraLiveSubscription Data) := []
  latestIndex : Option Index := none
  refreshCompletedAt : Option Int := none
  nextEventId : Nat := 1
  openedSubscriptionsTotal : Nat := 0
  resumeRequestsTotal : Nat := 0
  resyncRequiredTotal : Nat := 0
  rejectedSubscriptionsTotal : Nat := 0
  slowConsumerDisconnectsTotal : Nat := 0
  authzDisconnectsTotal : Nat := 0

def resyncEvent {Data : Type} (reason : String) : CameraLiveEvent Data where
  data := .resyncRequired reason

/-- `deque(maxlen=size).append(element)`. -/
def pushBounded {Element : Type} (size : Nat) (elements : List Element) (element : Element) :
    List Element :=
  (elements ++ [element]).drop (elements.length + 1 - size)

def parseLastEventId : Option String → Except LiveError (Option Nat)
  | none => .ok none
  | some value =>
    if value = "" then .ok none
    else if 19 < value.length ∨ value.toList.all Char.isDigit = false ∨
        value.toList.head? = some '0' then
      .error (.valueError "live_event_id_invalid")
    else .ok (some (value.toList.foldl (fun total digit => total * 10 + (digit.toNat - 48)) 0))

abbrev LiveAction (Index Data Value : Type) :=
  Action (CameraLiveUpdates Index Data) LiveError Value

namespace CameraLiveUpdates

variable {Index Data : Type}

def modifyHandle (hub : CameraLiveUpdates Index Data) (handle : Nat)
    (change : CameraLiveSubscription Data → CameraLiveSubscription Data) :
    CameraLiveUpdates Index Data :=
  { hub with handles := hub.handles.modify handle change }

def modifyChannel (hub : CameraLiveUpdates Index Data) (cameraId : UUID)
    (change : CameraChannel Data → CameraChannel Data) : CameraLiveUpdates Index Data :=
  match hub.channels.get cameraId with
  | none => hub
  | some chan => { hub with channels := hub.channels.set cameraId (change chan) }

/-- The three `pop` calls with which a section drops the subscription of a session. -/
def unregister (hub : CameraLiveUpdates Index Data) (cameraId sessionId : UUID) :
    CameraLiveUpdates Index Data :=
  { hub.modifyChannel cameraId fun chan =>
      { chan with subscribers := chan.subscribers.pop sessionId } with
    sessionSubscriptions := hub.sessionSubscriptions.pop sessionId
    authorizationEpochs := hub.authorizationEpochs.pop sessionId }

end CameraLiveUpdates

open Lib.Action CameraLiveUpdates

section Hub

variable {Index Data : Type} (cfg : LiveSettings Index Data)

def offer (handle : Nat) (event : CameraLiveEvent Data) : LiveAction Index Data Bool := do
  match ← read (·.handles[handle]?) with
  | none => pure false
  | some sub =>
    if sub.closed then pure false
    else if cfg.subscriberQueueSize ≤ sub.queue.length then
      update (·.modifyHandle handle fun cur =>
        { cur with slowConsumer := true, closed := true })
      pure false
    else
      update (·.modifyHandle handle fun cur =>
        { cur with queue := cur.queue ++ [event] })
      pure true

def hasCapacity (handle : Nat) : LiveAction Index Data Bool := do
  match ← read (·.handles[handle]?) with
  | none => pure false
  | some sub =>
    pure (!sub.closed && decide (sub.queue.length < cfg.subscriberQueueSize))

def startNewEpoch (handle : Nat) (event : CameraLiveEvent Data) : LiveAction Index Data Bool := do
  match ← read (·.handles[handle]?) with
  | none => pure false
  | some sub =>
    if sub.closed then pure false
    else
      update (·.modifyHandle handle fun cur => { cur with queue := [] })
      offer cfg handle event

def allocateEventId : LiveAction Index Data Nat := do
  let eventId ← read (·.nextEventId)
  if maxEventId < eventId then raise (.unavailable "live_event_id_exhausted")
  else
    update fun hub => { hub with nextEventId := hub.nextEventId + 1 }
    pure eventId

/-- A subscription that could not take the event is dropped. -/
def dropSlow (cameraId sessionId : UUID) : LiveAction Index Data Unit :=
  update fun hub =>
    { hub.unregister cameraId sessionId with
      slowConsumerDisconnectsTotal := hub.slowConsumerDisconnectsTotal + 1 }

def subscribersOf (cameraId : UUID) (hub : CameraLiveUpdates Index Data) : List (UUID × Nat) :=
  match hub.channels.get cameraId with
  | none => []
  | some chan => chan.subscribers.items

/-- The event goes into the history and to every subscriber. -/
def publish (cameraId : UUID) (event : CameraLiveEvent Data) : LiveAction Index Data Unit := do
  update (·.modifyChannel cameraId fun chan =>
    { chan with history := pushBounded cfg.historySize chan.history event })
  let subscribers ← read (subscribersOf cameraId)
  forEach subscribers fun subscriber => do
    let taken ← offer cfg subscriber.2 event
    if taken then pure () else dropSlow cameraId subscriber.1

def startChannelEpoch (cameraId : UUID) (reason : String) : LiveAction Index Data Unit := do
  update (·.modifyChannel cameraId fun chan =>
    { chan with
      history := []
      previousProjection := none
      lastSnapshotGeneratedAt := none
      latestState := none
      latestProbeEvent := none
      latestProbeObservationId := none
      latestAccessAt := none })
  let subscribers ← read (subscribersOf cameraId)
  forEach subscribers fun subscriber => do
    update fun hub => { hub with resyncRequiredTotal := hub.resyncRequiredTotal + 1 }
    let taken ← startNewEpoch cfg subscriber.2 (resyncEvent reason)
    if taken then pure () else dropSlow cameraId subscriber.1

def observeChannel [DecidableEq Data] (cameraId : UUID) (index : Option Index) :
    LiveAction Index Data Unit := do
  match ← read (·.channels.get cameraId) with
  | none => pure ()
  | some chan =>
    let generatedAt := index.map cfg.generatedAt
    if generatedAt.isSome ∧ chan.lastSnapshotGeneratedAt = generatedAt then pure ()
    else
      let projection := cfg.projectCamera chan index
      if chan.previousProjection = some projection then pure ()
      else
        let eventId ← allocateEventId
        let event : CameraLiveEvent Data := { data := .state projection, eventId := some eventId }
        update (·.modifyChannel cameraId fun cur =>
          { cur with
            previousProjection := some projection
            latestState := some event
            lastSnapshotGeneratedAt := generatedAt })
        publish cfg cameraId event

def expireInactiveChannels (now : Int) : LiveAction Index Data Unit := do
  let channels ← read (·.channels)
  let expired := channels.items.filter fun item =>
    item.2.subscribers.items.isEmpty && decide (cfg.channelTtl ≤ now - item.2.lastAccess)
  forEach expired fun item =>
    update fun hub => { hub with channels := hub.channels.pop item.1 }

def observe [DecidableEq Data] (snapshot : Option Index) (clock : Datetime) (now : Int) :
    LiveAction Index Data Unit := do
  let index := snapshot.filter fun snapshot =>
    cfg.maxSnapshotAge.all fun age => decide (¬cfg.generatedAt snapshot < clock - age)
  update fun hub => { hub with latestIndex := index }
  expireInactiveChannels cfg now
  let channels ← read (·.channels)
  forEach channels.items fun item => observeChannel cfg item.1 index

def discardProbeHistory (history : List (CameraLiveEvent Data)) : List (CameraLiveEvent Data) :=
  history.filter fun event =>
    match event.data with
    | .probeCompleted _ | .probeCleared _ => false
    | _ => true

def clearProbeResult (cameraId : UUID) : LiveAction Index Data Unit := do
  match ← read (·.channels.get cameraId) with
  | none => pure ()
  | some chan =>
    if chan.latestProbeEvent.isNone then pure ()
    else
      update (·.modifyChannel cameraId fun cur =>
        { cur with
          latestProbeEvent := none
          latestProbeObservationId := none
          history := discardProbeHistory cur.history })
      let eventId ← allocateEventId
      publish cfg cameraId { data := .probeCleared "generation_changed", eventId := some eventId }

def observeProbeResult (obss : Dict UUID ProbeObservation) (cameraId : UUID) :
    LiveAction Index Data Unit := do
  match ← read (·.channels.get cameraId) with
  | none => pure ()
  | some chan =>
    if chan.targetAvailable = false then pure ()
    else
      match obss.get cameraId with
      | none => clearProbeResult cfg cameraId
      | some obs =>
        if obs.target.cameraId ≠ cameraId ∨ obs.target.publicId ≠ chan.target.publicId ∨
            obs.target.nodeId ≠ chan.target.nodeId then
          clearProbeResult cfg cameraId
        else if chan.latestProbeObservationId = some obs.observationId then pure ()
        else
          let eventId ← allocateEventId
          let event : CameraLiveEvent Data :=
            { data := .probeCompleted obs, eventId := some eventId }
          update (·.modifyChannel cameraId fun cur =>
            { cur with
              history := discardProbeHistory cur.history
              latestProbeEvent := some event
              latestProbeObservationId := some obs.observationId })
          publish cfg cameraId event

def observeProbeResults (cameraIds : List UUID) (obss : Dict UUID ProbeObservation) :
    LiveAction Index Data Unit :=
  if obss.items.any fun item => decide (item.1 ∉ cameraIds) then pure ()
  else forEach cameraIds (observeProbeResult cfg obss)

def observeAccesses (cameraIds : List UUID) (accesses : Dict UUID Datetime) :
    LiveAction Index Data Unit :=
  if accesses.items.any fun item => decide (item.1 ∉ cameraIds) then pure ()
  else
    forEach cameraIds fun cameraId =>
      update (·.modifyChannel cameraId fun chan =>
        { chan with latestAccessAt := accesses.get cameraId })

/-- `channel.target_available = False` and a new epoch, unless it was unavailable already. -/
def withdrawTarget (cameraId : UUID) : LiveAction Index Data Unit := do
  match ← read (·.channels.get cameraId) with
  | none => pure ()
  | some chan =>
    if chan.targetAvailable then
      update (·.modifyChannel cameraId fun cur => { cur with targetAvailable := false })
      startChannelEpoch cfg cameraId "camera_target_unavailable"
    else pure ()

def retarget (target : CameraLiveTarget) : LiveAction Index Data Unit := do
  update (·.modifyChannel target.cameraId fun cur =>
    { cur with target, targetAvailable := true })
  startChannelEpoch cfg target.cameraId "camera_node_changed"

def observeAuthoritativeTarget (resolved : Dict UUID (PublicId × UUID)) (cameraId : UUID) :
    LiveAction Index Data Unit := do
  match ← read (·.channels.get cameraId) with
  | none => pure ()
  | some chan =>
    match resolved.get cameraId with
    | none => withdrawTarget cfg cameraId
    | some placement =>
      if placement.1 ≠ chan.target.publicId then withdrawTarget cfg cameraId
      else if valid : cameraId.isVersion4 = true ∧ placement.2.isVersion4 = true then
        if chan.targetAvailable = false ∨ placement.2 ≠ chan.target.nodeId then
          retarget cfg ⟨cameraId, placement.1, placement.2, valid⟩
        else pure ()
      else raise (.valueError "camera_live_target_invalid")

def observeAuthoritativeTargets (cameraIds : List UUID)
    (resolved : Option (Dict UUID (PublicId × UUID))) : LiveAction Index Data Unit :=
  match resolved with
  | none => forEach cameraIds (withdrawTarget cfg)
  | some resolved => forEach cameraIds (observeAuthoritativeTarget cfg resolved)

/-- `min(.., key=lambda channel: channel.last_access)`. -/
def oldestChannel : List (CameraChannel Data) → Option (CameraChannel Data)
  | [] => none
  | chan :: rest =>
    match oldestChannel rest with
    | none => some chan
    | some other => if other.lastAccess < chan.lastAccess then some other else some chan

def evictInactiveChannel : LiveAction Index Data Unit := do
  let channels ← read (·.channels)
  if channels.length < cfg.maxTrackedCameras then pure ()
  else
    match oldestChannel (channels.values.filter (·.subscribers.items.isEmpty)) with
    | none => pure ()
    | some oldest => update fun hub => { hub with channels := hub.channels.pop oldest.target.cameraId }

def getOrCreateChannel (target : CameraLiveTarget) (now : Int) : LiveAction Index Data Unit := do
  expireInactiveChannels cfg now
  match ← read (·.channels.get target.cameraId) with
  | none =>
    evictInactiveChannel cfg
    let tracked ← read (·.channels.length)
    if cfg.maxTrackedCameras ≤ tracked then raise (.unavailable "live_camera_capacity")
    else
      update fun hub =>
        { hub with channels := hub.channels.set target.cameraId { target, lastAccess := now } }
  | some chan =>
    if chan.target.publicId ≠ target.publicId then
      raise (.unavailable "live_camera_identity_changed")
    else if chan.target.nodeId ≠ target.nodeId ∨ chan.targetAvailable = false then
      retarget cfg target
    else pure ()

/-- `_offer` where its answer is not looked at. -/
def offerTo (handle : Nat) (event : CameraLiveEvent Data) : LiveAction Index Data Unit := do
  let _ ← offer cfg handle event
  pure ()

/-- `_replay` answers with a request to start over. -/
def replayResync (handle : Nat) : LiveAction Index Data Unit := do
  update fun hub => { hub with resyncRequiredTotal := hub.resyncRequiredTotal + 1 }
  offerTo cfg handle (resyncEvent "history_gap")

/-- `_replay` of the latest events. -/
def replayLatest (chan : CameraChannel Data) (handle : Nat) : LiveAction Index Data Unit := do
  (match chan.latestState with
    | none => pure ()
    | some event => offerTo cfg handle event)
  (match chan.latestProbeEvent with
    | none => pure ()
    | some event => do
        let free ← hasCapacity cfg handle
        if free then offerTo cfg handle event else pure ())

/-- `_replay` of what came after an event; it stops at the first that is not taken. -/
def replayMissed (handle : Nat) : List (CameraLiveEvent Data) → LiveAction Index Data Unit
  | [] => pure ()
  | event :: rest => do
      let taken ← offer cfg handle event
      if taken then replayMissed handle rest else pure ()

def replay (cameraId : UUID) (handle : Nat) (resumeFrom : Option Nat) :
    LiveAction Index Data Unit := do
  match ← read (·.channels.get cameraId) with
  | none => pure ()
  | some chan =>
    match resumeFrom with
    | none => replayLatest cfg chan handle
    | some resumeFrom =>
      match chan.history.head?, chan.history.getLast? with
      | some first, some last =>
        match first.eventId, last.eventId with
        | some firstId, some lastId =>
          let missed := chan.history.filter fun event =>
            event.eventId.any fun eventId => decide (resumeFrom < eventId)
          if resumeFrom < firstId ∨ lastId < resumeFrom then replayResync cfg handle
          else if cfg.subscriberQueueSize ≤ missed.length then
            replayResync cfg handle
          else replayMissed cfg handle missed
        | _, _ => raise .assertionError
      | _, _ => replayResync cfg handle

def removeSubscription (cameraId sessionId : UUID) (now : Int) : LiveAction Index Data Unit :=
  update fun hub => (hub.unregister cameraId sessionId).modifyChannel cameraId fun chan =>
    { chan with lastAccess := now }

def removeForAuthzChange (cameraId sessionId : UUID) (now : Int) : LiveAction Index Data Unit := do
  update fun hub => { hub with authzDisconnectsTotal := hub.authzDisconnectsTotal + 1 }
  removeSubscription cameraId sessionId now

def aclose (handle : Nat) (now : Int) : LiveAction Index Data Unit := do
  match ← read (·.handles[handle]?) with
  | none => pure ()
  | some sub =>
    if sub.closed ∧ sub.terminalEvent.isNone then pure ()
    else
      update (·.modifyHandle handle fun cur =>
        { cur with terminalEvent := none, closed := true })
      removeSubscription sub.cameraId sub.sessionId now

def closeForAuthzChange (handle : Nat) (now : Int) : LiveAction Index Data Unit := do
  match ← read (·.handles[handle]?) with
  | none => pure ()
  | some sub =>
    update (·.modifyHandle handle fun cur =>
      { cur with
        terminalEvent := some { data := .authzEpoch "reauthenticate" }
        closed := true })
    removeForAuthzChange sub.cameraId sub.sessionId now

/-- The new subscription of `open`, entered in the channel, under its session and with the epoch
it was authorized in. -/
def register (cameraId sessionId : UUID) (authzVersion now : Int)
    (hub : CameraLiveUpdates Index Data) : CameraLiveUpdates Index Data :=
  { hub.modifyChannel cameraId fun chan =>
      { chan with
        subscribers := chan.subscribers.set sessionId hub.handles.length
        lastAccess := now } with
    handles := hub.handles ++ [{ cameraId, sessionId, authzVersion }]
    sessionSubscriptions := hub.sessionSubscriptions.set sessionId hub.handles.length
    authorizationEpochs := hub.authorizationEpochs.set sessionId (authzVersion, now)
    openedSubscriptionsTotal := hub.openedSubscriptionsTotal + 1 }

def subscribe [DecidableEq Data] (target : CameraLiveTarget) (sessionId : UUID)
    (authzVersion : Int) (initialAccess : Option Datetime) (resumeFrom : Option Nat) (now : Int) :
    LiveAction Index Data Nat := do
  let sessions ← read (·.sessionSubscriptions)
  if sessions.contains sessionId then
    update fun hub =>
      { hub with rejectedSubscriptionsTotal := hub.rejectedSubscriptionsTotal + 1 }
    raise (.limitReached "live_stream_session_limit")
  else if cfg.maxSubscriptions ≤ sessions.length then
    update fun hub =>
      { hub with rejectedSubscriptionsTotal := hub.rejectedSubscriptionsTotal + 1 }
    raise (.limitReached "live_stream_capacity")
  else
    getOrCreateChannel cfg target now
    update (·.modifyChannel target.cameraId fun chan =>
      { chan with latestAccessAt := initialAccess.or chan.latestAccessAt })
    let index ← read (·.latestIndex)
    observeChannel cfg target.cameraId index
    let handle ← read (·.handles.length)
    update (register target.cameraId sessionId authzVersion now)
    update fun hub =>
      { hub with
        resumeRequestsTotal := hub.resumeRequestsTotal + if resumeFrom.isSome then 1 else 0 }
    (replay cfg target.cameraId handle resumeFrom).onError (aclose handle now)
    pure handle

/-- `open`, with what its awaits gave: the version `authorize` answered (`none` when it raised or
timed out) and the last access of the camera. -/
def openSubscription [DecidableEq Data] (target : CameraLiveTarget) (sessionId : UUID)
    (authzVersion : Int) (lastEventId : Option String) (authorized : Option Int)
    (initialAccess : Option Datetime) (now : Int) : LiveAction Index Data Nat :=
  if sessionId.isVersion4 = false ∨ authzVersion < 1 then
    raise (.valueError "live_subscription_identity_invalid")
  else if cfg.authorizesSessions = false then
    raise (.unavailable "live_authorization_unavailable")
  else
    match parseLastEventId lastEventId with
    | .error error => raise error
    | .ok resumeFrom =>
      match authorized with
      | none => raise (.unavailable "live_authorization_unavailable")
      | some cur =>
        if cur ≠ authzVersion then raise (.unavailable "live_authorization_changed")
        else subscribe cfg target sessionId authzVersion initialAccess resumeFrom now

def currentState [DecidableEq Data] (target : CameraLiveTarget) (initialAccess : Option Datetime)
    (now : Int) : LiveAction Index Data (CameraLiveEvent Data) := do
  getOrCreateChannel cfg target now
  update (·.modifyChannel target.cameraId fun chan =>
    { chan with
      latestAccessAt := initialAccess.or chan.latestAccessAt
      lastAccess := now })
  let index ← read (·.latestIndex)
  observeChannel cfg target.cameraId index
  -- Without a history or without a state there is nothing to answer.
  let shown ← read fun hub => (hub.channels.get target.cameraId).bind fun chan =>
    if chan.history.isEmpty then none else chan.latestState
  match shown with
  | none => raise (.unavailable "live_snapshot_unavailable")
  | some event => pure event

/-- What the readers of one refresh answered; `none` for one that raised. -/
structure RefreshResult (Index : Type) where
  snapshot : Option Index
  resolvesTargets : Bool
  targets : Option (Dict UUID (PublicId × UUID))
  probes : Option (Dict UUID ProbeObservation)
  accesses : Option (Dict UUID Datetime)

def refreshFromReader [DecidableEq Data] (activeCameraIds : List UUID)
    (res : RefreshResult Index) (clock : Datetime) (now : Int) : LiveAction Index Data Unit := do
  (if activeCameraIds ≠ [] ∧ res.resolvesTargets = true then
    observeAuthoritativeTargets cfg activeCameraIds res.targets
  else pure ())
  (match res.accesses with
    | none => pure ()
    | some accesses => observeAccesses activeCameraIds accesses)
  observe cfg res.snapshot clock now
  (match res.probes with
    | none => pure ()
    | some probes => observeProbeResults cfg activeCameraIds probes)
  update fun hub => { hub with refreshCompletedAt := some now }

/-- The second section of `_refresh_authorization_epochs`. -/
def refreshAuthorizationEpochs (sids : List UUID) (cur : Dict UUID Int) (checkedAt : Int) :
    LiveAction Index Data Unit :=
  forEach sids fun sessionId =>
    update fun hub =>
      if hub.sessionSubscriptions.contains sessionId then
        { hub with
          authorizationEpochs := hub.authorizationEpochs.set sessionId
            ((cur.get sessionId).getD 0, checkedAt) }
      else hub

def stop : LiveAction Index Data Unit := do
  let subs ← read (·.sessionSubscriptions.values)
  let channels ← read (·.channels)
  update fun hub => { hub with sessionSubscriptions := .empty, authorizationEpochs := .empty }
  forEach channels.items fun item =>
    update (·.modifyChannel item.1 fun chan => { chan with subscribers := .empty })
  forEach subs fun handle =>
    update (·.modifyHandle handle fun cur => { cur with closed := true })

end Hub

end RtspProxy.Live
