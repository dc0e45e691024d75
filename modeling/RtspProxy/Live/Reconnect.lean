import RtspProxy.Live.Consistency
import RtspProxy.Live.Resumption

/-!
# Reconnecting clients

A client of one camera, the hub it is connected to and what it read from the
processes before. It reads what its stream delivers, may lose what was under way
when the connection breaks, and resumes with the identifier of the last event it
read. `_replay` compares the identifier with its own history only.
-/

namespace RtspProxy.Live

open Nodes Probes Lib Lib.Action CameraLiveUpdates List Option

variable {Index Data : Type} {cfg : LiveSettings Index Data} {reader : Reader Data}

/-- `_replay` takes the identifier for a position in the history of the channel. -/
def TakesUp (cfg : LiveSettings Index Data) (chan : CameraChannel Data) (resumeFrom : Nat) :
    Prop :=
  ∃ first last firstId lastId, chan.history.head? = some first ∧
    chan.history.getLast? = some last ∧ first.eventId = some firstId ∧
    last.eventId = some lastId ∧ firstId ≤ resumeFrom ∧ resumeFrom ≤ lastId ∧
    (Feed.missed (liveFeed Data).number chan.history resumeFrom).length < cfg.subscriberQueueSize

/-- What `_replay` puts into the empty queue of a new subscription. -/
def Replayed (cfg : LiveSettings Index Data) (chan : CameraChannel Data) :
    Option Nat → List (CameraLiveEvent Data) → Prop
  | none, queue => ∃ probes, queue = chan.latestState.toList ++ probes ∧
      ∀ event ∈ probes, chan.latestProbeEvent = some event
  | some resumeFrom, queue =>
    queue = [resyncEvent "history_gap"] ∨
    TakesUp cfg chan resumeFrom ∧
      queue = Feed.missed (liveFeed Data).number chan.history resumeFrom

def Gives (cfg : LiveSettings Index Data) (hub : CameraLiveUpdates Index Data)
    (cameraId : UUID) (resumeFrom : Option Nat) (queue : List (CameraLiveEvent Data)) : Prop :=
  (hub.channels.get cameraId = none → queue = []) ∧ ∀ chan,
    hub.channels.get cameraId = some chan → Replayed cfg chan resumeFrom queue

/-- An open subscription that nobody has read from, and the rest of the hub. -/
structure Holding (given : CameraLiveUpdates Index Data) (handle : Nat) (cameraId : UUID)
    (queue : List (CameraLiveEvent Data)) (hub : CameraLiveUpdates Index Data) : Prop where
  channels : hub.channels = given.channels
  holds : ∃ sub, hub.handles[handle]? = some sub ∧ sub.cameraId = cameraId ∧ sub.closed = false ∧
    sub.waiting = .nothing ∧ sub.queue = queue

section Replaying

variable {given : CameraLiveUpdates Index Data} {handle : Nat} {cameraId : UUID}
  {queue : List (CameraLiveEvent Data)}

variable {event : CameraLiveEvent Data}

theorem meets_offer_holding (room : queue.length < cfg.subscriberQueueSize) :
    Meets (Holding given handle cameraId queue) (offer cfg handle event)
      (Outcomes (fun taken hub => taken = true ∧ Holding given handle cameraId (queue ++ [event]) hub)
        fun _ _ => False) := by
  refine meets_read fun found => ?_
  cases found with
  | none =>
    rintro hub ⟨⟨_, sub, isHandle, _⟩, missing⟩
    rw [isHandle] at missing
    cases missing
  | some sub =>
    rintro hub ⟨⟨channels, own, isOwn, isCamera, isOpen, isWaiting, rfl⟩, isHandle⟩
    obtain rfl : own = sub := some.inj (isOwn.symm.trans isHandle)
    dsimp only
    rw [if_neg (Bool.eq_false_iff.mp isOpen), if_neg (Nat.not_le.mpr room)]
    exact ⟨rfl, channels, _, modify_handle_self isOwn, isCamera, isOpen, isWaiting, rfl⟩

theorem meets_offer_to_holding (room : queue.length < cfg.subscriberQueueSize) :
    Meets (Holding given handle cameraId queue) (offerTo cfg handle event)
      (Outcomes (fun _ => Holding given handle cameraId (queue ++ [event])) fun _ _ => False) :=
  meets_bind (meets_offer_holding room) fun _ => meets_pure fun _ holds => holds.2

theorem meets_replay_missed (events : List (CameraLiveEvent Data))
    (room : queue.length + events.length ≤ cfg.subscriberQueueSize) :
    Meets (Holding given handle cameraId queue) (replayMissed cfg handle events)
      (Outcomes (fun _ => Holding given handle cameraId (queue ++ events)) fun _ _ => False) := by
  induction events generalizing queue with
  | nil =>
    rw [append_nil]
    exact meets_pure fun _ holds => holds
  | cons event rest ih =>
    rw [length_cons] at room
    refine meets_bind (meets_offer_holding (by omega)) fun taken => ?_
    split_ifs with isTaken
    · refine meets_weaken (ih (by rw [length_append, length_singleton]; omega))
        (fun _ holds => holds.2) ?_
      rw [append_assoc]
      exact fun _ _ holds => holds
    · exact fun hub holds => absurd holds.1 isTaken

theorem meets_replay_resync :
    Meets (Holding given handle cameraId []) (replayResync cfg handle)
      (Outcomes (fun _ => Holding given handle cameraId [resyncEvent "history_gap"])
        fun _ _ => False) := by
  refine @meets_bind _ _ _ _ _ _ (fun _ => Holding given handle cameraId []) _ _
    (meets_update fun hub holds => ⟨holds.channels, holds.holds⟩) fun _ => ?_
  exact meets_offer_to_holding cfg.sizesValid.2.1.1

theorem meets_replay_latest {chan : CameraChannel Data} :
    Meets (Holding given handle cameraId []) (replayLatest cfg chan handle)
      (Outcomes (fun _ hub => ∃ queue, Replayed cfg chan none queue ∧
        Holding given handle cameraId queue hub) fun _ _ => False) := by
  refine @meets_bind _ _ _ _ _ _
    (fun _ => Holding given handle cameraId chan.latestState.toList) _ _ ?_ fun _ => ?_
  · cases chan.latestState with
    | none => exact meets_pure fun _ holds => holds
    | some event => exact meets_offer_to_holding cfg.sizesValid.2.1.1
  have noProbe : ∀ hub, Holding given handle cameraId chan.latestState.toList hub →
      ∃ queue, Replayed cfg chan none queue ∧ Holding given handle cameraId queue hub :=
    fun hub holds => ⟨_, ⟨[], (append_nil _).symm, fun _ mem => absurd mem not_mem_nil⟩, holds⟩
  cases isProbe : chan.latestProbeEvent with
  | none => exact meets_pure noProbe
  | some event =>
    refine @meets_bind _ _ _ _ _ _ (fun free hub => Holding given handle cameraId
      chan.latestState.toList hub ∧ (free = true →
        chan.latestState.toList.length < cfg.subscriberQueueSize)) _ _ ?_ fun free => ?_
    · refine meets_read fun found => ?_
      cases found with
      | none =>
        exact meets_pure fun _ holds =>
          ⟨holds.1, fun isFree => absurd isFree Bool.false_ne_true⟩
      | some sub =>
        refine meets_pure ?_
        rintro hub ⟨holds, isHandle⟩
        refine ⟨holds, fun isFree => ?_⟩
        obtain ⟨own, isOwn, _, _, _, isQueue⟩ := holds.holds
        obtain rfl : own = sub := some.inj (isOwn.symm.trans isHandle)
        rw [← isQueue]
        exact of_decide_eq_true (Bool.and_eq_true_iff.mp isFree).2
    · split_ifs with isFree
      · by_cases room : chan.latestState.toList.length < cfg.subscriberQueueSize
        · refine meets_weaken (meets_offer_to_holding room) (fun _ holds => holds.1) ?_
          intro out hub holds
          cases out with
          | error err => exact holds
          | ok value =>
            refine ⟨_, ⟨[event], rfl, fun found mem => ?_⟩, holds⟩
            rw [mem_singleton.mp mem]
            exact isProbe
        · exact fun hub holds => absurd (holds.2 isFree) room
      · exact meets_pure fun hub holds => noProbe hub holds.1

theorem meets_replay {resumeFrom : Option Nat} :
    Meets (Holding given handle cameraId []) (replay cfg cameraId handle resumeFrom)
      (Outcomes (fun _ hub => ∃ queue, Holding given handle cameraId queue hub ∧
        Gives cfg given cameraId resumeFrom queue) fun _ _ => True) := by
  refine meets_read fun found => ?_
  cases found with
  | none =>
    refine meets_pure ?_
    rintro hub ⟨holds, missing⟩
    refine ⟨[], holds, fun _ => rfl, fun chan isChannel => ?_⟩
    rw [holds.channels, isChannel] at missing
    cases missing
  | some chan =>
    have concludes : ∀ {queue : List (CameraLiveEvent Data)} {hub : CameraLiveUpdates Index Data},
        given.channels.get cameraId = some chan → Replayed cfg chan resumeFrom queue →
        Holding given handle cameraId queue hub →
        ∃ queue, Holding given handle cameraId queue hub ∧
          Gives cfg given cameraId resumeFrom queue := by
      intro queue hub isChannel replayed holds
      refine ⟨queue, holds, fun missing => ?_, fun other isOther => ?_⟩
      · rw [isChannel] at missing
        cases missing
      rw [isChannel] at isOther
      cases isOther
      exact replayed
    by_cases isChannel : given.channels.get cameraId = some chan
    case neg =>
      rintro hub ⟨holds, isFound⟩
      exact absurd (holds.channels ▸ isFound) isChannel
    refine meets_weaken ?_ (fun _ holds => holds.1) fun _ _ holds => holds
    cases resumeFrom with
    | none =>
      refine outcomes_weaken meets_replay_latest ?_ fun _ _ _ => trivial
      rintro _ hub ⟨queue, replayed, holds⟩
      exact concludes isChannel replayed holds
    | some resumeFrom =>
      have resync : Meets (Holding given handle cameraId []) (replayResync cfg handle)
          (Outcomes (fun _ hub => ∃ queue, Holding given handle cameraId queue hub ∧
            Gives cfg given cameraId (some resumeFrom) queue) fun _ _ => True) :=
        outcomes_weaken meets_replay_resync
          (fun _ hub holds => concludes isChannel (.inl rfl) holds) fun _ _ _ => trivial
      dsimp only
      split
      · rename_i first last isFirst isLast
        split
        · rename_i firstId lastId isFirstId isLastId
          split_ifs with outside isMuch
          · exact resync
          · exact resync
          · rw [not_or, Nat.not_lt, Nat.not_lt] at outside
            have room := Nat.lt_of_not_le isMuch
            refine outcomes_weaken (meets_replay_missed _ (by
              rw [length_nil, Nat.zero_add]
              exact room.le)) (fun _ hub holds => concludes isChannel (.inr ⟨?_, rfl⟩) holds)
              fun _ _ _ => trivial
            exact ⟨first, last, firstId, lastId, isFirst, isLast, isFirstId, isLastId,
              outside.1, outside.2, room⟩
        · exact fun _ _ => trivial
      · exact resync

end Replaying

section Connecting

variable {hub : CameraLiveUpdates Index Data} {handle : Nat} {cameraId : UUID}
  {read queue : List (CameraLiveEvent Data)}

/-- What a channel shows a client: two channels that agree on it are the same to `_replay`. -/
structure SameShown (chan pre : CameraChannel Data) : Prop where
  history : chan.history = pre.history
  state : chan.latestState = pre.latestState
  probe : chan.latestProbeEvent = pre.latestProbeEvent

theorem stands_connected (stands : Stands cfg ⟨cameraId, read, none⟩ hub)
    (holding : Holding hub handle cameraId queue hub)
    (used : ∀ event ∈ queue, ∀ number, event.eventId = some number → number < hub.nextEventId)
    (covered : ∀ chan latest number, hub.channels.get cameraId = some chan →
      chan.latestState = some latest → latest.eventId = some number →
      (liveFeed Data).Resumes (read ++ queue) latest number ∧
        (liveFeed Data).Covered (read ++ queue) latest) :
    Stands cfg ⟨cameraId, read, some handle⟩ hub := by
  obtain ⟨sub, isHandle, isCamera, isOpen, isWaiting, isQueue⟩ := holding.holds
  have log : (⟨cameraId, read, some handle⟩ : Reader Data).log hub = read ++ queue := by
    have isPending := pending_open isOpen (by rw [isWaiting]; rfl)
    change read ++ _ = read ++ queue
    rw [@held_connected _ _ ⟨cameraId, read, some handle⟩ hub handle sub rfl isHandle,
      isPending, isQueue]
  refine ⟨?_, stands.listed, ?_, stands.channel, ?_, ?_⟩
  · rw [log]
    intro event mem number isNumber
    rcases mem_append.mp mem with inRead | inQueue
    · exact stands.used event (mem_append_left _ inRead) number isNumber
    · exact used event inQueue number isNumber
  · rintro connection ⟨⟩
    exact ⟨sub, isHandle, isCamera⟩
  · rw [log]
    exact fun chan latest number isChannel isLatest isNumber =>
      (covered chan latest number isChannel isLatest isNumber).1
  · intro connection cur chan latest _ _ _ isChannel _ isLatest
    rw [log, append_nil]
    obtain ⟨number, isNumber, _⟩ := (stands.channel chan isChannel).latest latest isLatest
    exact (covered chan latest number isChannel isLatest isNumber).2

variable {chan : CameraChannel Data}

theorem replayed_used {resumeFrom : Option Nat} {next : Nat}
    (shows : Shows cfg.historySize next chan)
    (replayed : Replayed cfg chan resumeFrom queue) :
    ∀ event ∈ queue, ∀ number, event.eventId = some number → number < next := by
  have inHistory : ∀ event ∈ chan.history, ∀ number, event.eventId = some number →
      number < next := by
    intro event mem number isNumber
    obtain ⟨found, isFound, used⟩ := shows.history.allocated event mem
    rw [isFound] at isNumber
    cases isNumber
    exact used
  cases resumeFrom with
  | none =>
    obtain ⟨probes, rfl, isProbe⟩ := replayed
    intro event mem number isNumber
    rcases mem_append.mp mem with inState | inProbes
    · obtain ⟨found, isFound, used, _⟩ := shows.latest event (mem_toList.mp inState)
      rw [isFound] at isNumber
      cases isNumber
      exact used
    · obtain ⟨_, found, isFound, used⟩ := shows.probe event (isProbe event inProbes)
      rw [isFound] at isNumber
      cases isNumber
      exact used
  | some resumeFrom =>
    rcases replayed with rfl | ⟨_, rfl⟩
    · intro event mem number isNumber
      rw [mem_singleton.mp mem] at isNumber
      cases isNumber
    · exact fun event mem => inHistory event (mem_of_mem_filter mem)

/-- What justifies that `_replay` takes the identifier for a position in the channel: the client
has it from this process and is not to start over, or the latest state came after it. -/
def Justified (read : List (CameraLiveEvent Data)) (chan : CameraChannel Data)
    (resumeFrom : Nat) : Prop :=
  ((liveFeed Data).lastNumber read = some resumeFrom ∧ ¬ (liveFeed Data).Behind read) ∨
    ∃ latest number, chan.latestState = some latest ∧ latest.eventId = some number ∧
      resumeFrom < number

/-- The client is told to start over or has the latest state. -/
def UpToDate (read queue : List (CameraLiveEvent Data)) (chan : CameraChannel Data) : Prop :=
  (∃ event ∈ queue, (liveFeed Data).startsOver event) ∨
    ∀ latest, chan.latestState = some latest → latest ∈ read ++ queue

theorem replay_covers {resumeFrom : Option Nat} {next : Nat}
    {latest : CameraLiveEvent Data} {number : Nat} (shows : Shows cfg.historySize next chan)
    (resumes : (liveFeed Data).Resumes read latest number)
    (isLatest : chan.latestState = some latest) (isNumber : latest.eventId = some number)
    (justified : ∀ resume, resumeFrom = some resume → TakesUp cfg chan resume →
      Justified read chan resume) (replayed : Replayed cfg chan resumeFrom queue) :
    (liveFeed Data).Resumes (read ++ queue) latest number ∧
      (liveFeed Data).Covered (read ++ queue) latest ∧ UpToDate read queue chan := by
  obtain ⟨found, isFound, _, isState, kept, noLater⟩ := shows.latest latest isLatest
  obtain rfl : found = number := some.inj (isFound.symm.trans isNumber)
  have upToDate : latest ∈ read ++ queue → UpToDate read queue chan := by
    intro mem
    refine .inr fun other isOther => ?_
    rw [isLatest] at isOther
    cases isOther
    exact mem
  cases resumeFrom with
  | none =>
    obtain ⟨probes, rfl, isProbe⟩ := replayed
    rw [isLatest, toList_some] at upToDate ⊢
    have shown : (liveFeed Data).Covered (read ++ [latest]) latest :=
      .inl (mem_append_right _ (mem_singleton_self _))
    have quiet : ∀ event ∈ probes, (liveFeed Data).isState event → event = latest :=
      fun event mem isEventState =>
        absurd isEventState (shows.probe event (isProbe event mem)).1
    refine ⟨?_, .inl (by simp), upToDate (by simp)⟩
    rw [← append_assoc]
    exact Feed.resumes_quiet probes (Feed.resumes_append resumes shown) shown quiet
  | some resume =>
    rcases replayed with rfl | ⟨takesUp, rfl⟩
    · have behind : (liveFeed Data).Covered
          (read ++ [(resyncEvent "history_gap" : CameraLiveEvent Data)]) latest :=
        .inr (Feed.behind_of_request ⟨_, rfl⟩)
      exact ⟨Feed.resumes_append resumes behind, behind, .inl ⟨_, mem_singleton_self _, _, rfl⟩⟩
    · have taken := takesUp
      obtain ⟨first, last, firstId, lastId, isFirst, _, isFirstId, _, low, _, _⟩ := taken
      rcases Nat.lt_or_ge resume found with pre | reaches
      · have mem : latest ∈ Feed.missed (liveFeed Data).number chan.history resume := by
          refine Feed.missed_latest isFound kept ⟨first, ?_, firstId, isFirstId, low⟩ pre
          exact mem_of_mem_head? isFirst
        refine ⟨Feed.resumes_missed isFound resumes ?_ ?_ mem,
          .inl (mem_append_right _ mem), upToDate (mem_append_right _ mem)⟩
        · intro event inMissed
          obtain ⟨eventId, isId, _⟩ :=
            shows.history.allocated event (mem_of_mem_filter inMissed)
          exact ⟨eventId, isId⟩
        · exact shows.history.increasing.sublist filter_sublist
      · have isOwn : (liveFeed Data).lastNumber read = some resume ∧
            ¬ (liveFeed Data).Behind read := by
          rcases justified resume rfl takesUp with isOwn | ⟨other, later, isOther, isLater, after⟩
          · exact isOwn
          · rw [isLatest] at isOther
            cases isOther
            rw [isFound] at isLater
            cases isLater
            omega
        have covered := resumes read (prefix_refl _) resume isOwn.1 reaches
        have quiet : ∀ event ∈ Feed.missed (liveFeed Data).number chan.history resume,
            (liveFeed Data).isState event → event = latest :=
          fun event inMissed isEventState => absurd isEventState
            (Feed.missed_no_state noLater reaches event inMissed)
        refine ⟨Feed.resumes_quiet _ resumes covered quiet, Feed.covered_append covered quiet, ?_⟩
        exact upToDate (mem_append_left _ (covered.resolve_right isOwn.2))

end Connecting

section Opening

variable {target : CameraLiveTarget} {sid : UUID} {authzVersion now : Int}

/-- What a successful `open` leaves, seen from the hub that `_replay` met. -/
def Opened (cfg : LiveSettings Index Data) (cameraId : UUID) (resumeFrom : Option Nat)
    (prepared : CameraLiveUpdates Index Data) (handle : Nat) (hub : CameraLiveUpdates Index Data) :
    Prop :=
  ∃ queue, Holding hub handle cameraId queue hub ∧ Gives cfg hub cameraId resumeFrom queue ∧
    ∀ chan, hub.channels.get cameraId = some chan →
      ∃ pre, prepared.channels.get cameraId = some pre ∧ SameShown chan pre

theorem meets_register_and_replay_opened {prepared : CameraLiveUpdates Index Data}
    {resumeFrom : Option Nat} :
    Meets (fun hub => hub = prepared)
      (registerAndReplay cfg target sid authzVersion resumeFrom now)
      (Outcomes (Opened cfg target.cameraId resumeFrom prepared) fun _ _ => True) := by
  refine meets_read fun handle => ?_
  have given := @register_channel _ _ target.cameraId prepared sid authzVersion now
  refine @meets_bind _ _ _ _ _ _ (fun _ hub => Holding
    (register target.cameraId sid authzVersion now prepared) handle target.cameraId [] hub)
    _ _ (meets_update ?_) fun _ => ?_
  · rintro hub ⟨rfl, rfl⟩
    exact ⟨rfl, { cameraId := target.cameraId, sessionId := sid, authzVersion }, by simp [register],
      rfl, rfl, rfl, rfl⟩
  refine @meets_bind _ _ _ _ _ _ (fun _ hub => Holding
    (register target.cameraId sid authzVersion now prepared) handle target.cameraId [] hub)
    _ _ (meets_update fun hub holding => ⟨holding.channels, holding.holds⟩) fun _ => ?_
  refine meets_bind (meets_on_error (outcomes_weaken meets_replay (fun _ _ holds => holds)
    fun _ _ _ => trivial) fun _ => fun _ _ => trivial) fun _ => meets_pure ?_
  rintro hub ⟨queue, holding, gives⟩
  refine ⟨queue, ⟨rfl, holding.holds⟩, ?_, fun chan isChannel => ?_⟩
  · unfold Gives
    rw [holding.channels]
    exact gives
  rw [holding.channels, given, if_pos rfl] at isChannel
  obtain ⟨pre, isBefore, rfl⟩ := map_eq_some_iff.mp isChannel
  exact ⟨pre, isBefore, rfl, rfl, rfl⟩

theorem meets_open_opened [DecidableEq Data] {start : CameraLiveUpdates Index Data}
    {lastEventId : Option String} {resumeFrom : Option Nat} {authorized : Option Int}
    {initialAccess : Option Datetime} (parsed : parseLastEventId lastEventId = .ok resumeFrom) :
    Meets (fun hub => hub = start)
      (openSubscription cfg target sid authzVersion lastEventId authorized initialAccess now)
      (Outcomes (Opened cfg target.cameraId resumeFrom
        (prepareChannel cfg target initialAccess now start).2) fun _ _ => True) := by
  unfold openSubscription
  rw [parsed]
  split
  · exact fun _ _ => trivial
  split
  · exact fun _ _ => trivial
  dsimp only
  split
  · exact fun _ _ => trivial
  split
  · exact fun _ _ => trivial
  refine subscribe_parts (fun _ _ _ => trivial) ?_
  refine @meets_bind _ _ _ _ _ _ (fun _ hub =>
    hub = (prepareChannel cfg target initialAccess now start).2) _ _ ?_
    fun _ => meets_register_and_replay_opened
  rintro hub rfl
  cases (prepareChannel cfg target initialAccess now hub).1 with
  | ok value => rfl
  | error err => trivial

theorem keeps_stands_open [DecidableEq Data] {lastEventId : Option String}
    {authorized : Option Int} {initialAccess : Option Datetime} :
    Keeps (Stands cfg reader) (openSubscription cfg target sid authzVersion
      lastEventId authorized initialAccess now) := by
  unfold openSubscription
  split
  · exact keeps_raise
  split
  · exact keeps_raise
  split
  · exact keeps_raise
  split
  · exact keeps_raise
  split
  · exact keeps_raise
  exact subscribe_parts (fun _ _ stands => follows_same stands rfl rfl (le_refl _))
    (keeps_bind keeps_stands_prepare_channel fun _ => keeps_stands_register_and_replay)

end Opening

/-- A client of a camera, the hub of the running process, and what the client read from this
process and from the processes before. -/
structure LiveWorld (Index Data : Type) where
  hub : CameraLiveUpdates Index Data := {}
  earlier : List (CameraLiveEvent Data) := []
  read : List (CameraLiveEvent Data) := []
  connection : Option Nat := none

/-- `Last-Event-ID`: the identifier of the last event the client read, from whatever process. -/
def LiveWorld.resumeFrom (w : LiveWorld Index Data) : Option Nat :=
  (liveFeed Data).lastNumber (w.earlier ++ w.read)

/-- What can happen next: a piece of any coroutine, a connection of the client, a connection that
breaks, and a restart. The last events the client was sent may be lost with the connection. -/
inductive ClientMove (Index : Type)
  | request (req : LiveRequest Index)
  | connect (target : CameraLiveTarget) (sid : UUID) (authzVersion : Int)
      (lastEventId : Option String) (authorized : Option Int) (initialAccess : Option Datetime)
      (now : Int)
  | disconnect (lost : Nat)
  | restart (lost : Nat)

def cancels (connection : Option Nat) : LiveRequest Index → Prop
  | .consume handle .cancelled _ => connection = some handle
  | _ => False

instance (connection : Option Nat) (req : LiveRequest Index) :
    Decidable (cancels connection req) := by
  unfold cancels
  split <;> infer_instance

def LiveWorld.next [DecidableEq Data] (cfg : LiveSettings Index Data)
    (w : LiveWorld Index Data) : ClientMove Index → LiveWorld Index Data
  | .request req =>
    { w with
      hub := after cfg w.hub req
      read := w.read ++ handed w.connection w.hub req
      connection := if cancels w.connection req then none else w.connection }
  | .connect target sid authzVersion lastEventId authorized initialAccess now =>
    match openSubscription cfg target sid authzVersion lastEventId authorized
      initialAccess now w.hub with
    | (.ok handle, hub) => { w with hub, connection := some handle }
    | (.error _, hub) => { w with hub }
  | .disconnect lost =>
    { w with read := w.read.take (w.read.length - lost), connection := none }
  | .restart lost =>
    { earlier := w.earlier ++ w.read.take (w.read.length - lost) }

/-- The client connects to its camera, without a connection, with what it last read. -/
def LiveWorld.Possible (cameraId : UUID) (w : LiveWorld Index Data) : ClientMove Index → Prop
  | .connect target _ _ lastEventId _ _ _ =>
    w.connection = none ∧ target.cameraId = cameraId ∧
      parseLastEventId lastEventId = .ok w.resumeFrom
  | _ => True

inductive LiveWorld.Reaches [DecidableEq Data] (cfg : LiveSettings Index Data)
    (cameraId : UUID) (cond : LiveWorld Index Data → ClientMove Index → Prop) :
    LiveWorld Index Data → Prop
  | start : Reaches cfg cameraId cond {}
  | step {w : LiveWorld Index Data} (reached : Reaches cfg cameraId cond w)
      (move : ClientMove Index) (possible : w.Possible cameraId move)
      (holds : cond w move) :
      Reaches cfg cameraId cond (w.next cfg move)

/-- An identifier that `_replay` takes for one of its own is one. -/
def LiveWorld.Recognised [DecidableEq Data] (cfg : LiveSettings Index Data)
    (w : LiveWorld Index Data) : ClientMove Index → Prop
  | .connect target _ _ _ _ initialAccess now =>
    ∀ resumeFrom, w.resumeFrom = some resumeFrom → ∀ chan,
      (prepareChannel cfg target initialAccess now w.hub).2.channels.get
        target.cameraId = some chan →
      TakesUp cfg chan resumeFrom → Justified w.read chan resumeFrom
  | _ => True

/-- The open connection of the client tells it to start over or brings it up to date. -/
def LiveWorld.Served (cameraId : UUID) (w : LiveWorld Index Data) : Prop :=
  ∀ handle sub chan, w.connection = some handle → w.hub.handles[handle]? = some sub →
    w.hub.channels.get cameraId = some chan →
    UpToDate w.read (pending sub) chan

namespace LiveWorld

variable {cameraId : UUID} {w : LiveWorld Index Data}

def asReader (w : LiveWorld Index Data) (cameraId : UUID) : Reader Data :=
  ⟨cameraId, w.read, w.connection⟩

theorem stands_gone {read : List (CameraLiveEvent Data)} {hub : CameraLiveUpdates Index Data}
    (stands : Stands cfg reader hub) (isPrefix : read <+: reader.read) :
    Stands cfg ⟨reader.cameraId, read, none⟩ hub := by
  have log : (⟨reader.cameraId, read, none⟩ : Reader Data).log hub = read := append_nil _
  have shorter : read <+: reader.log hub := isPrefix.trans (prefix_append _ _)
  refine ⟨?_, stands.listed, fun _ isConn => (nomatch isConn), stands.channel, ?_,
    fun _ _ _ _ isConn => (nomatch isConn)⟩
  · rw [log]
    exact fun event mem => stands.used event (shorter.subset mem)
  · rw [log]
    exact fun chan latest number isChannel isLatest isNumber =>
      Feed.resumes_prefix (stands.resumes chan latest number isChannel isLatest isNumber) shorter

theorem stands_fresh {cameraId : UUID} :
    Stands cfg ⟨cameraId, [], none⟩ ({} : CameraLiveUpdates Index Data) := by
  refine ⟨fun _ mem => (nomatch mem), ?_, fun _ isConn => (nomatch isConn), ?_, ?_,
    fun _ _ _ _ isConn => (nomatch isConn)⟩
  · exact fun _ _ _ lists => nomatch lists
  · exact fun _ isChannel => nomatch isChannel
  · exact fun _ _ _ isChannel => nomatch isChannel

theorem request_stands [DecidableEq Data] {req : LiveRequest Index}
    (stands : Stands cfg (w.asReader cameraId) w.hub) (kept : ¬ cancels w.connection req) :
    Stands cfg ((w.asReader cameraId).reads (handed w.connection w.hub req))
      (after cfg w.hub req) := by
  have nothing : (w.asReader cameraId).reads [] = w.asReader cameraId := by
    unfold Reader.reads
    rw [append_nil]
  unfold after
  cases req with
  | openSubscription =>
    change Stands cfg ((w.asReader cameraId).reads []) _
    rw [nothing]
    exact keeps_ignore keeps_stands_open _ stands
  | currentState =>
    change Stands cfg ((w.asReader cameraId).reads []) _
    rw [nothing]
    exact keeps_ignore
      (stands_parts.current_state keeps_stands_get_or_create_channel) _ stands
  | refreshFromReader =>
    change Stands cfg ((w.asReader cameraId).reads []) _
    rw [nothing]
    exact stands_parts.refresh_from_reader _ stands
  | refreshAuthorizationEpochs =>
    change Stands cfg ((w.asReader cameraId).reads []) _
    rw [nothing]
    exact keeps_stands_refresh_authorization_epochs _ stands
  | consume handle event now =>
    refine consume_stands stands ?_
    rintro isConn rfl
    exact kept isConn
  | aclose =>
    change Stands cfg ((w.asReader cameraId).reads []) _
    rw [nothing]
    exact keeps_stands_aclose _ stands
  | stop =>
    change Stands cfg ((w.asReader cameraId).reads []) _
    rw [nothing]
    exact keeps_stands_stop _ stands

theorem connect_served [DecidableEq Data] {target : CameraLiveTarget} {sid : UUID}
    {authzVersion now : Int} {lastEventId : Option String} {authorized : Option Int}
    {initialAccess : Option Datetime} (stands : Stands cfg (w.asReader cameraId) w.hub)
    (possible : w.Possible cameraId
      (.connect target sid authzVersion lastEventId authorized initialAccess now :
        ClientMove Index)) (recognised : w.Recognised cfg
      (.connect target sid authzVersion lastEventId authorized initialAccess now)) :
    let left := w.next cfg
      (.connect target sid authzVersion lastEventId authorized initialAccess now)
    Stands cfg (left.asReader cameraId) left.hub ∧ left.Served cameraId := by
  obtain ⟨unconnected, rfl, parsed⟩ := possible
  have gone : Stands cfg ⟨target.cameraId, w.read, none⟩ w.hub :=
    unconnected ▸ stands
  have kept := @keeps_stands_open _ _ cfg _ target sid authzVersion now _ lastEventId
    authorized initialAccess w.hub gone
  have opened := @meets_open_opened _ _ cfg target sid authzVersion now _ w.hub
    lastEventId _ authorized initialAccess parsed w.hub rfl
  unfold next
  dsimp only
  cases opens : openSubscription cfg target sid authzVersion lastEventId authorized
    initialAccess now w.hub with
  | mk out hub =>
    rw [opens] at kept opened
    cases out with
    | error err =>
      refine ⟨?_, ?_⟩
      · change Stands cfg ⟨target.cameraId, w.read, w.connection⟩ hub
        rw [unconnected]
        exact kept
      · intro handle sub chan isConn
        rw [show _ = none from unconnected] at isConn
        cases isConn
    | ok handle =>
      obtain ⟨queue, holding, ⟨absent, replayed⟩, prepared⟩ := opened
      have covers : ∀ chan latest number, hub.channels.get target.cameraId = some chan →
          chan.latestState = some latest → latest.eventId = some number →
          (liveFeed Data).Resumes (w.read ++ queue) latest number ∧
            (liveFeed Data).Covered (w.read ++ queue) latest ∧
            UpToDate w.read queue chan := by
        intro chan latest number isChannel isLatest isNumber
        obtain ⟨pre, isBefore, same⟩ := prepared chan isChannel
        refine replay_covers (kept.channel chan isChannel) ?_ isLatest isNumber ?_
          (replayed chan isChannel)
        · have resumes := kept.resumes chan latest number isChannel isLatest isNumber
          rw [show (⟨target.cameraId, w.read, none⟩ : Reader Data).log hub = w.read from
            append_nil _] at resumes
          exact resumes
        · intro resume isResume takesUp
          have justified := recognised resume isResume pre isBefore
          unfold TakesUp at takesUp justified
          unfold Justified at justified ⊢
          rw [same.history] at takesUp
          rw [same.state]
          exact justified takesUp
      refine ⟨stands_connected kept holding ?_ ?_, ?_⟩
      · intro event mem number isNumber
        cases isChannel : hub.channels.get target.cameraId with
        | none =>
          rw [absent isChannel] at mem
          cases mem
        | some chan =>
          exact replayed_used (kept.channel chan isChannel) (replayed chan isChannel)
            event mem number isNumber
      · intro chan latest number isChannel isLatest isNumber
        have covered := covers chan latest number isChannel isLatest isNumber
        exact ⟨covered.1, covered.2.1⟩
      · rintro connection sub chan ⟨⟩ isHandle isChannel
        obtain ⟨own, isOwn, _, isOpen, isWaiting, isQueue⟩ := holding.holds
        obtain rfl : own = sub := some.inj (isOwn.symm.trans isHandle)
        rw [pending_open isOpen (by rw [isWaiting]; rfl), isQueue]
        cases isLatest : chan.latestState with
        | none =>
          refine .inr fun latest isSome => ?_
          rw [isLatest] at isSome
          cases isSome
        | some latest =>
          obtain ⟨number, isNumber, _⟩ :=
            (kept.channel chan isChannel).latest latest isLatest
          exact (covers chan latest number isChannel isLatest isNumber).2.2

theorem reaches_stands [DecidableEq Data] (reached : Reaches cfg cameraId (Recognised cfg) w) :
    Stands cfg (w.asReader cameraId) w.hub := by
  induction reached with
  | start => exact stands_fresh
  | @step w reached move possible holds ih =>
    cases move with
    | request req =>
      unfold next
      dsimp only
      split_ifs with isCancelled
      · have gone : Stands cfg ({ w with connection := none }.asReader cameraId)
            w.hub := stands_gone ih (prefix_refl _)
        have kept := @request_stands _ _ cfg cameraId { w with connection := none } _
          req gone (by
            unfold cancels
            split
            · exact fun isConn => nomatch isConn
            · exact id)
        have nothing : handed w.connection w.hub req = [] ∧ handed none w.hub req = [] := by
          unfold cancels at isCancelled
          split at isCancelled
          · exact ⟨rfl, rfl⟩
          · exact isCancelled.elim
        unfold Reader.reads at kept
        rw [show handed _ _ req = [] from nothing.2] at kept
        rw [nothing.1]
        exact kept
      · exact request_stands ih isCancelled
    | connect => exact (connect_served ih possible holds).1
    | disconnect lost => exact stands_gone ih (List.take_prefix _ _)
    | restart lost => exact stands_fresh

/-- In a run in which every identifier that is taken up is one of the running process, a client that
connects is told to start over or has the latest state of its channel. -/
theorem reconnect_never_skips_state [DecidableEq Data]
    (reached : Reaches cfg cameraId (Recognised cfg) w)
    (target : CameraLiveTarget) (sid : UUID) (authzVersion : Int)
    (lastEventId : Option String) (authorized : Option Int) (initialAccess : Option Datetime)
    (now : Int) (possible : w.Possible cameraId
      (.connect target sid authzVersion lastEventId authorized initialAccess now :
        ClientMove Index)) (recognised : w.Recognised cfg
      (.connect target sid authzVersion lastEventId authorized initialAccess now)) :
    (w.next cfg
      (.connect target sid authzVersion lastEventId authorized initialAccess now)).Served
        cameraId :=
  (connect_served (reaches_stands reached) possible recognised).2

def sampleCamera : UUID := 0x40008000000000000003

def connectSample (lastEventId : Option String) : ClientMove Unit :=
  .connect (sampleTarget sampleCamera (by decide)) sampleSession 1 lastEventId (some 1) none 0

/-- The client connects and reads the state of its camera. -/
def visited : LiveWorld Unit Unit :=
  ((((({} : LiveWorld Unit Unit).next sampleSettings (connectSample none)).next sampleSettings
    (.request (.consume 0 (.asked false) 0))).next sampleSettings
    (.request (.consume 0 .delivered 0))).next sampleSettings
    (.request (.consume 0 (.checked true false) 0)))

theorem visited_reaches {cond : LiveWorld Unit Unit → ClientMove Unit → Prop}
    (connects : cond {} (connectSample none)) (reqs : ∀ w req, cond w (.request req)) :
    Reaches sampleSettings sampleCamera cond visited := by
  have possible : ({} : LiveWorld Unit Unit).Possible sampleCamera (connectSample none) :=
    ⟨rfl, rfl, by decide +kernel⟩
  exact .step (.step (.step (.step .start _ possible connects)
    (.request (.consume 0 (.asked false) 0)) trivial (reqs _ _))
    (.request (.consume 0 .delivered 0)) trivial (reqs _ _))
    (.request (.consume 0 (.checked true false) 0)) trivial (reqs _ _)

/-- After a restart the identifier 1 is the first of the new process: the client is given nothing. -/
theorem identifier_of_another_process_skips_state :
    ∃ (w : LiveWorld Unit Unit) (target : CameraLiveTarget) (lastEventId : Option String),
      Reaches sampleSettings sampleCamera (fun _ _ => True) w ∧
      w.Possible sampleCamera
        (.connect target sampleSession 1 lastEventId (some 1) none 0 : ClientMove Unit) ∧
      ¬ (w.next sampleSettings
        (.connect target sampleSession 1 lastEventId (some 1) none 0)).Served sampleCamera := by
  refine ⟨visited.next sampleSettings (.restart 0), sampleTarget sampleCamera (by decide),
    some "1", .step (visited_reaches trivial fun _ _ => trivial) (.restart 0) trivial trivial,
    ⟨rfl, rfl, by decide +kernel⟩, ?_⟩
  intro served
  have isConn : ((visited.next sampleSettings (.restart 0)).next sampleSettings
      (connectSample (some "1"))).connection = some 0 := by
    decide +kernel
  have isEmpty : ((visited.next sampleSettings (.restart 0)).next sampleSettings
      (connectSample (some "1"))).hub.handles[0]?.any
        (fun sub => (pending sub).isEmpty) = true := by
    decide +kernel
  have hasState : (((visited.next sampleSettings (.restart 0)).next sampleSettings
      (connectSample (some "1"))).hub.channels.get sampleCamera).any
        (fun chan => chan.latestState.isSome) = true := by
    decide +kernel
  have noneRead : ((visited.next sampleSettings (.restart 0)).next sampleSettings
      (connectSample (some "1"))).read.isEmpty = true := by
    decide +kernel
  obtain ⟨sub, isHandle, nothing⟩ := (any_eq_true _ _).mp isEmpty
  obtain ⟨chan, isChannel, isSome⟩ := (any_eq_true _ _).mp hasState
  obtain ⟨latest, isLatest⟩ := isSome_iff_exists.mp isSome
  rcases served 0 sub chan isConn isHandle isChannel with
    ⟨event, mem, _⟩ | upToDate
  · rw [isEmpty_iff.mp nothing] at mem
    cases mem
  · have mem := upToDate latest isLatest
    rw [isEmpty_iff.mp nothing, append_nil] at mem
    have none := isEmpty_iff.mp noneRead
    unfold connectSample at none
    rw [none] at mem
    cases mem

def returning : LiveWorld Unit Unit :=
  (visited.next sampleSettings (.disconnect 0)).next sampleSettings (.request (.aclose 0 0))

theorem reconnect_never_skips_state_visited :
    (returning.next sampleSettings (connectSample (some "1"))).connection = some 1 ∧
    (returning.next sampleSettings (connectSample (some "1"))).Served sampleCamera := by
  have fresh : ({} : LiveWorld Unit Unit).Recognised sampleSettings (connectSample none) := by
    intro resumeFrom isResume
    cases isResume
  have reached : Reaches sampleSettings sampleCamera (Recognised sampleSettings) returning :=
    .step (.step (visited_reaches fresh fun _ _ => trivial) (.disconnect 0) trivial trivial)
      (.request (.aclose 0 0)) trivial trivial
  have noRequest : returning.read.all (fun event => match event.data with
      | .resyncRequired _ => false
      | _ => true) = true := by
    decide +kernel
  refine ⟨by decide +kernel, reconnect_never_skips_state reached _ _ _ _ _ _ _
    ⟨rfl, rfl, by decide +kernel⟩ ?_⟩
  intro resumeFrom isResume chan _ _
  have isRead : (liveFeed Unit).lastNumber returning.read = some 1 := by decide +kernel
  refine .inl ⟨?_, ?_⟩
  · rw [← isResume]
    exact (by decide +kernel : (liveFeed Unit).lastNumber returning.read = returning.resumeFrom)
  · rintro ⟨pre, req, after, isList, ⟨reason, startsOver⟩, _⟩
    have inRead : req ∈ returning.read := by
      rw [isList]
      exact mem_append_right _ mem_cons_self
    have passes := all_eq_true.mp noRequest req inRead
    rw [startsOver] at passes
    cases passes

end LiveWorld

end RtspProxy.Live
