import RtspProxy.Live.Sections
import RtspProxy.Lib.Feed

/-!
# What the reader of a channel has

A client of one camera has read some events from this process and may have a
connection, whose subscription holds more for it. `Follows` says that what it has
together resumes well, and that a connection which is listed and open is given
every state. While an event is handed out, some subscriptions are still owed it.
-/

namespace RtspProxy.Live

open Nodes Probes Lib Lib.Action CameraLiveUpdates List Option

variable {Index Data : Type}

def liveFeed (Data : Type) : Feed (CameraLiveEvent Data) where
  number := (·.eventId)
  isState event := ∃ data, event.data = .state data
  startsOver event := ∃ reason, event.data = .resyncRequired reason

def Waiting.atHand : Waiting Data → Option (CameraLiveEvent Data)
  | .event next => some next
  | _ => none

/-- What a subscription will still deliver. Closed, it ends at the next turn of its loop. -/
def pending (sub : CameraLiveSubscription Data) : List (CameraLiveEvent Data) :=
  match sub.waiting with
  | .event event => event :: if sub.closed then [] else sub.queue
  | .queue | .authorization =>
    if sub.closed then sub.queue.take 1 else sub.queue
  | .nothing | .heartbeat => if sub.closed then [] else sub.queue

/-- A client of a camera: what it read from this process, and its connection. -/
structure Reader (Data : Type) where
  cameraId : UUID
  read : List (CameraLiveEvent Data)
  connection : Option Nat

namespace Reader

def held (reader : Reader Data) (hub : CameraLiveUpdates Index Data) :
    List (CameraLiveEvent Data) :=
  match reader.connection.bind (hub.handles[·]?) with
  | none => []
  | some sub => pending sub

def log (reader : Reader Data) (hub : CameraLiveUpdates Index Data) :
    List (CameraLiveEvent Data) :=
  reader.read ++ reader.held hub

end Reader

/-- The latest state of a channel is in its history, or has fallen out of it at the old end. -/
structure Shows (size nextEventId : Nat) (chan : CameraChannel Data) : Prop where
  history : HistoryHolds size nextEventId chan.history
  latest : ∀ latest, chan.latestState = some latest → ∃ number,
    latest.eventId = some number ∧ number < nextEventId ∧ (liveFeed Data).isState latest ∧
    (latest ∈ chan.history ∨ ∀ event ∈ chan.history, ∀ found,
      event.eventId = some found → number < found) ∧
    ∀ event ∈ chan.history, (liveFeed Data).isState event → ∀ found,
      event.eventId = some found → found ≤ number
  probe : ∀ event, chan.latestProbeEvent = some event →
    ¬ (liveFeed Data).isState event ∧ ∃ number, event.eventId = some number ∧ number < nextEventId

/-- A subscription that a channel lists is a subscription of its camera. -/
def ListsOwn (hub : CameraLiveUpdates Index Data) : Prop :=
  ∀ cameraId sid handle, subscriberAt hub cameraId sid = some handle →
    ∃ sub, hub.handles[handle]? = some sub ∧ sub.cameraId = cameraId

/-- What holds of a client and the hub while subscriptions are owed events. -/
structure Follows (cfg : LiveSettings Index Data) (reader : Reader Data)
    (owed : Nat → List (CameraLiveEvent Data)) (hub : CameraLiveUpdates Index Data) : Prop where
  used : ∀ event ∈ reader.log hub, ∀ number, event.eventId = some number → number < hub.nextEventId
  listed : ListsOwn hub
  connected : ∀ handle, reader.connection = some handle → ∃ sub,
    hub.handles[handle]? = some sub ∧ sub.cameraId = reader.cameraId
  channel : ∀ chan, hub.channels.get reader.cameraId = some chan →
    Shows cfg.historySize hub.nextEventId chan
  resumes : ∀ chan latest number, hub.channels.get reader.cameraId = some chan →
    chan.latestState = some latest → latest.eventId = some number →
    (liveFeed Data).Resumes (reader.log hub) latest number
  current : ∀ handle sub chan latest, reader.connection = some handle →
    hub.handles[handle]? = some sub → sub.closed = false →
    hub.channels.get reader.cameraId = some chan →
    (∃ sid, chan.subscribers.get sid = some handle) ∨ owed handle ≠ [] →
    chan.latestState = some latest →
    (liveFeed Data).Covered (reader.log hub ++ owed handle) latest

/-- Nobody is owed anything. -/
abbrev Stands (cfg : LiveSettings Index Data) (reader : Reader Data) :
    CameraLiveUpdates Index Data → Prop :=
  Follows cfg reader fun _ => []

variable {cfg : LiveSettings Index Data} {reader : Reader Data}
  {owed : Nat → List (CameraLiveEvent Data)} {hub : CameraLiveUpdates Index Data}

section Handles

variable {handle : Nat} {change : CameraLiveSubscription Data → CameraLiveSubscription Data}

variable {sub : CameraLiveSubscription Data}

theorem held_connected (isConn : reader.connection = some handle)
    (found : hub.handles[handle]? = some sub) :
    reader.held hub = pending sub := by
  simp [Reader.held, isConn, found]

theorem modify_handle_self (found : hub.handles[handle]? = some sub) :
    (hub.modifyHandle handle change).handles[handle]? = some (change sub) := by
  simp [CameraLiveUpdates.modifyHandle, found]

theorem modify_handle_other {other : Nat} (differ : other ≠ handle) :
    (hub.modifyHandle handle change).handles[other]? = hub.handles[other]? := by
  simp [CameraLiveUpdates.modifyHandle, differ.symm]

theorem held_other (differ : reader.connection ≠ some handle) :
    reader.held (hub.modifyHandle handle change) = reader.held hub := by
  unfold Reader.held
  cases isConn : reader.connection with
  | none => rfl
  | some connection =>
    have other : connection ≠ handle := by
      rintro rfl
      exact differ isConn
    rw [bind_some, bind_some, modify_handle_other other]

theorem lists_own_handle (listed : ListsOwn hub)
    (cam : ∀ sub, (change sub).cameraId = sub.cameraId) :
    ListsOwn (hub.modifyHandle handle change) := by
  intro cameraId sid other lists
  obtain ⟨sub, found, isCamera⟩ := listed cameraId sid other lists
  by_cases same : other = handle
  · subst same
    exact ⟨_, modify_handle_self found, (cam _).trans isCamera⟩
  · exact ⟨sub, (modify_handle_other same).trans found, isCamera⟩

theorem follows_other_handle (follows : Follows cfg reader owed hub)
    (differ : reader.connection ≠ some handle) (cam : ∀ sub, (change sub).cameraId = sub.cameraId) :
    Follows cfg reader owed (hub.modifyHandle handle change) := by
  have log : reader.log (hub.modifyHandle handle change) = reader.log hub :=
    congrArg (reader.read ++ ·) (held_other differ)
  have kept : ∀ connection, reader.connection = some connection →
      (hub.modifyHandle handle change).handles[connection]? = hub.handles[connection]? := by
    intro connection isConn
    refine modify_handle_other ?_
    rintro rfl
    exact differ isConn
  refine ⟨?_, lists_own_handle follows.listed cam, ?_, follows.channel, ?_, ?_⟩
  · rw [log]
    exact follows.used
  · intro connection isConn
    rw [kept connection isConn]
    exact follows.connected connection isConn
  · rw [log]
    exact follows.resumes
  · intro connection sub chan latest isConn found
    rw [log]
    rw [kept connection isConn] at found
    exact follows.current connection sub chan latest isConn found

/-- A change after which a subscription delivers the same, or less of it and then ends. -/
structure Shrinks (sub changed : CameraLiveSubscription Data) : Prop where
  camera : changed.cameraId = sub.cameraId
  less : pending changed <+: pending sub
  same : changed.closed = false → sub.closed = false ∧ pending changed = pending sub

theorem follows_handle (follows : Follows cfg reader owed hub)
    (shrinks : reader.connection = some handle → ∀ sub,
      hub.handles[handle]? = some sub → Shrinks sub (change sub))
    (cam : ∀ sub, (change sub).cameraId = sub.cameraId) :
    Follows cfg reader owed (hub.modifyHandle handle change) := by
  by_cases isConn : reader.connection = some handle
  · obtain ⟨sub, found, isCamera⟩ := follows.connected handle isConn
    have shrunk := shrinks isConn sub found
    have heldBefore := held_connected isConn found
    have heldAfter : reader.held (hub.modifyHandle handle change) = pending (change sub) :=
      held_connected isConn (modify_handle_self found)
    have isPrefix : reader.log (hub.modifyHandle handle change) <+: reader.log hub := by
      unfold Reader.log
      rw [heldBefore, heldAfter]
      exact (prefix_append_right_inj _).mpr shrunk.less
    refine ⟨?_, lists_own_handle follows.listed cam, ?_, follows.channel, ?_, ?_⟩
    · exact fun event mem => follows.used event (isPrefix.subset mem)
    · intro connection isOther
      obtain rfl : handle = connection := some.inj (isConn.symm.trans isOther)
      exact ⟨_, modify_handle_self found, (cam _).trans isCamera⟩
    · intro chan latest number isChannel isLatest isNumber
      exact Feed.resumes_prefix (follows.resumes chan latest number isChannel isLatest isNumber)
        isPrefix
    · intro connection changed chan latest isOther isChanged isOpen
      obtain rfl : handle = connection := some.inj (isConn.symm.trans isOther)
      rw [modify_handle_self found] at isChanged
      cases isChanged
      obtain ⟨wasOpen, same⟩ := shrunk.same isOpen
      have log : reader.log (hub.modifyHandle handle change) = reader.log hub := by
        unfold Reader.log
        rw [heldBefore, heldAfter, same]
      rw [log]
      exact follows.current handle sub chan latest isConn found wasOpen
  · exact follows_other_handle follows isConn cam

variable {changed : CameraLiveSubscription Data}

theorem shrinks_closing (cam : changed.cameraId = sub.cameraId) (queue : changed.queue = sub.queue)
    (waiting : changed.waiting = sub.waiting) (closed : changed.closed = true) :
    Shrinks sub changed where
  camera := cam
  less := by
    unfold pending
    rw [queue, waiting, closed]
    cases sub.waiting with
    | nothing | heartbeat => exact nil_prefix
    | authorization | queue =>
      change sub.queue.take 1 <+:
        if sub.closed = true then sub.queue.take 1 else sub.queue
      split_ifs
      · exact prefix_refl _
      · exact take_prefix _ _
    | event event => exact prefix_append [event] _
  same isOpen := by
    rw [closed] at isOpen
    cases isOpen

theorem pending_open (isOpen : sub.closed = false) (quiet : sub.waiting.atHand = none) :
    pending sub = sub.queue := by
  unfold pending
  rw [isOpen]
  cases isWaiting : sub.waiting with
  | event event =>
    rw [isWaiting] at quiet
    cases quiet
  | nothing => rfl
  | authorization => rfl
  | queue => rfl
  | heartbeat => rfl

theorem shrinks_waiting (cam : changed.cameraId = sub.cameraId)
    (queue : changed.queue = sub.queue) (closed : changed.closed = sub.closed)
    (still : sub.closed = false → sub.waiting.atHand = none) (quiet : changed.waiting.atHand = none)
    (ends : sub.closed = true → changed.waiting = .nothing ∨
      changed.waiting = .heartbeat ∨ sub.waiting = .authorization) :
    Shrinks sub changed := by
  cases isClosed : sub.closed with
  | false =>
    have same : pending changed = pending sub := by
      rw [pending_open (closed.trans isClosed) quiet, pending_open isClosed (still isClosed), queue]
    exact ⟨cam, same ▸ prefix_refl _, fun _ => ⟨isClosed, same⟩⟩
  | true =>
    refine ⟨cam, ?_, fun isOpen => ?_⟩
    · have isShorter : pending changed <+: pending { sub with waiting := .queue } ∧
          (changed.waiting = .nothing ∨ changed.waiting = .heartbeat → pending changed = []) := by
        unfold pending
        rw [closed, queue, isClosed]
        cases isWaiting : changed.waiting with
        | event event =>
          rw [isWaiting] at quiet
          cases quiet
        | nothing => exact ⟨List.nil_prefix, fun _ => rfl⟩
        | heartbeat => exact ⟨List.nil_prefix, fun _ => rfl⟩
        | queue => exact ⟨prefix_refl _, by simp⟩
        | authorization => exact ⟨prefix_refl _, by simp⟩
      rcases ends isClosed with nothing | heartbeat | authorization
      · rw [isShorter.2 (.inl nothing)]
        exact nil_prefix
      · rw [isShorter.2 (.inr heartbeat)]
        exact nil_prefix
      · have same : pending { sub with waiting := .queue } = pending sub := by
          unfold pending
          rw [authorization]
        exact same ▸ isShorter.1
    · rw [closed, isClosed] at isOpen
      cases isOpen

end Handles

section Channels

variable {cameraId : UUID} {change : CameraChannel Data → CameraChannel Data}

variable {after : CameraLiveUpdates Index Data}

theorem held_same (handles : after.handles = hub.handles) :
    reader.log after = reader.log hub := by
  unfold Reader.log Reader.held
  rw [handles]

theorem follows_same
    (follows : Follows cfg reader owed hub) (channels : after.channels = hub.channels)
    (handles : after.handles = hub.handles) (next : hub.nextEventId ≤ after.nextEventId) :
    Follows cfg reader owed after := by
  have log : reader.log after = reader.log hub := held_same handles
  refine ⟨?_, ?_, ?_, ?_, ?_, ?_⟩
  · rw [log]
    exact fun event mem number isNumber =>
      (follows.used event mem number isNumber).trans_le next
  · intro cam sid handle lists
    unfold subscriberAt at lists
    rw [channels] at lists
    rw [handles]
    exact follows.listed cam sid handle lists
  · rw [handles]
    exact follows.connected
  · rw [channels]
    intro chan isChannel
    obtain ⟨hist, latest, probe⟩ := follows.channel chan isChannel
    refine ⟨history_later hist next, ?_, ?_⟩
    · intro state isLatest
      obtain ⟨number, isNumber, pre, rest⟩ := latest state isLatest
      exact ⟨number, isNumber, pre.trans_le next, rest⟩
    · intro event isProbe
      obtain ⟨noState, number, isNumber, pre⟩ := probe event isProbe
      exact ⟨noState, number, isNumber, pre.trans_le next⟩
  · rw [channels, log]
    exact follows.resumes
  · rw [channels, handles, log]
    exact follows.current

theorem lists_own_channel (listed : ListsOwn hub)
    (fewer : ∀ chan sid handle, hub.channels.get cameraId = some chan →
      (change chan).subscribers.get sid = some handle →
      chan.subscribers.get sid = some handle) :
    ListsOwn (hub.modifyChannel cameraId change) := by
  intro other sid handle lists
  rw [modify_channel_handles]
  refine listed other sid handle ?_
  unfold subscriberAt at lists ⊢
  rw [modify_channel_get] at lists
  split_ifs at lists with same
  · obtain ⟨changed, isChanged, found⟩ := bind_eq_some_iff.mp lists
    obtain ⟨chan, isChannel, rfl⟩ := map_eq_some_iff.mp isChanged
    rw [same, isChannel]
    exact fewer chan sid handle isChannel found
  · exact lists

theorem follows_channel (follows : Follows cfg reader owed hub)
    (fewer : ∀ chan sid handle, hub.channels.get cameraId = some chan →
      (change chan).subscribers.get sid = some handle →
      chan.subscribers.get sid = some handle)
    (shows : ∀ chan, Shows cfg.historySize hub.nextEventId chan →
      Shows cfg.historySize hub.nextEventId (change chan))
    (state : ∀ chan latest, (change chan).latestState = some latest →
      chan.latestState = some latest) :
    Follows cfg reader owed (hub.modifyChannel cameraId change) := by
  have log : reader.log (hub.modifyChannel cameraId change) = reader.log hub :=
    held_same (modify_channel_handles _ _)
  have changed : ∀ chan,
      (hub.modifyChannel cameraId change).channels.get reader.cameraId = some chan →
      hub.channels.get reader.cameraId = some chan ∨ reader.cameraId = cameraId ∧
        ∃ pre, hub.channels.get reader.cameraId = some pre ∧ chan = change pre := by
    intro chan found
    rw [modify_channel_get] at found
    split_ifs at found with same
    · obtain ⟨pre, isBefore, rfl⟩ := map_eq_some_iff.mp found
      exact .inr ⟨same, pre, same ▸ isBefore, rfl⟩
    · exact .inl found
  refine ⟨?_, lists_own_channel follows.listed fewer, ?_, ?_, ?_, ?_⟩
  · rw [log, modify_channel_next]
    exact follows.used
  · rw [modify_channel_handles]
    exact follows.connected
  · intro chan found
    rw [modify_channel_next]
    rcases changed chan found with isSame | ⟨_, pre, isBefore, rfl⟩
    · exact follows.channel chan isSame
    · exact shows pre (follows.channel pre isBefore)
  · intro chan latest number found isLatest
    rw [log]
    rcases changed chan found with isSame | ⟨_, pre, isBefore, rfl⟩
    · exact follows.resumes chan latest number isSame isLatest
    · exact follows.resumes pre latest number isBefore (state pre latest isLatest)
  · intro handle sub chan latest isConn isHandle isOpen found lists isLatest
    rw [modify_channel_handles] at isHandle
    rw [log]
    rcases changed chan found with isSame | ⟨same, pre, isBefore, rfl⟩
    · exact follows.current handle sub chan latest isConn isHandle isOpen isSame lists isLatest
    · refine follows.current handle sub pre latest isConn isHandle isOpen isBefore
        ?_ (state pre latest isLatest)
      rcases lists with ⟨sid, found⟩ | isOwed
      · exact .inl ⟨sid, fewer pre sid handle (same ▸ isBefore) found⟩
      · exact .inr isOwed

theorem follows_pop_channel (follows : Follows cfg reader owed hub) (cameraId : UUID) :
    Follows cfg reader owed { hub with channels := hub.channels.pop cameraId } := by
  have kept : ∀ other chan, (hub.channels.pop cameraId).get other = some chan →
      hub.channels.get other = some chan := by
    intro other chan found
    rw [Dict.get_pop] at found
    split_ifs at found
    exact found
  refine ⟨follows.used, ?_, follows.connected, ?_, ?_, ?_⟩
  · intro other sid handle lists
    refine follows.listed other sid handle ?_
    obtain ⟨chan, isChannel, found⟩ := bind_eq_some_iff.mp lists
    exact bind_eq_some_iff.mpr ⟨chan, kept other chan isChannel, found⟩
  · exact fun chan found => follows.channel chan (kept _ _ found)
  · exact fun chan latest number found =>
      follows.resumes chan latest number (kept _ _ found)
  · exact fun handle sub chan latest isConn isHandle isOpen found =>
      follows.current handle sub chan latest isConn isHandle isOpen
        (kept _ _ found)

theorem follows_new_channel (follows : Stands cfg reader hub) {target : CameraLiveTarget}
    (now : Int) : Stands cfg reader { hub with
      channels := hub.channels.set target.cameraId { target, lastAccess := now } } := by
  have found : ∀ other chan,
      (hub.channels.set target.cameraId { target, lastAccess := now }).get other = some chan →
      chan = { target, lastAccess := now } ∨ hub.channels.get other = some chan := by
    intro other chan isChannel
    rw [Dict.get_set] at isChannel
    split_ifs at isChannel
    · exact .inl (some.inj isChannel).symm
    · exact .inr isChannel
  refine ⟨follows.used, ?_, follows.connected, ?_, ?_, ?_⟩
  · intro other sid handle lists
    obtain ⟨chan, isChannel, isListed⟩ := bind_eq_some_iff.mp lists
    rcases found other chan isChannel with rfl | pre
    · cases isListed
    · exact follows.listed other sid handle
        (bind_eq_some_iff.mpr ⟨chan, pre, isListed⟩)
  · intro chan isChannel
    rcases found _ chan isChannel with rfl | pre
    · exact ⟨history_nil, by rintro _ ⟨⟩, by rintro _ ⟨⟩⟩
    · exact follows.channel chan pre
  · intro chan latest number isChannel isLatest
    rcases found _ chan isChannel with rfl | pre
    · cases isLatest
    · exact follows.resumes chan latest number pre isLatest
  · intro handle sub chan latest isConn isHandle isOpen isChannel lists isLatest
    rcases found _ chan isChannel with rfl | pre
    · cases isLatest
    · exact follows.current handle sub chan latest isConn isHandle isOpen pre lists isLatest

end Channels

section Offers

variable {handle : Nat} {event : CameraLiveEvent Data}

def owedOf (event : CameraLiveEvent Data) (due : List (UUID × Nat)) (handle : Nat) :
    List (CameraLiveEvent Data) :=
  if handle ∈ due.map Prod.snd then [event] else []

/-- The event can be handed out: its number is used, and where the client is to get it, it is the
latest state or no state. -/
structure Fits (reader : Reader Data) (event : CameraLiveEvent Data) (due : List (UUID × Nat))
    (hub : CameraLiveUpdates Index Data) : Prop where
  used : ∀ number, event.eventId = some number → number < hub.nextEventId
  state : ∀ handle ∈ due.map Prod.snd, reader.connection = some handle → ∀ chan latest,
    hub.channels.get reader.cameraId = some chan → chan.latestState = some latest →
    (liveFeed Data).isState event → event = latest

variable {rest : List (UUID × Nat)} {item : UUID × Nat}

theorem fits_rest (fits : Fits reader event (item :: rest) hub) : Fits reader event rest hub where
  used := fits.used
  state handle mem := fits.state handle (mem_cons_of_mem _ mem)

variable {due : List (UUID × Nat)}

theorem fits_handle (fits : Fits reader event due hub)
    (change : CameraLiveSubscription Data → CameraLiveSubscription Data) :
    Fits reader event due (hub.modifyHandle handle change) :=
  ⟨fits.used, fits.state⟩

theorem owed_of_other (differ : handle ≠ item.2) :
    owedOf event (item :: rest) handle = owedOf event rest handle := by
  simp [owedOf, differ]

theorem owed_of_self :
    owedOf event (item :: rest) item.2 = [event] := by
  simp [owedOf]

theorem owed_of_event {found : CameraLiveEvent Data}
    (mem : found ∈ owedOf event due handle) : found = event := by
  unfold owedOf at mem
  split_ifs at mem
  · exact mem_singleton.mp mem
  · cases mem

variable {less : Nat → List (CameraLiveEvent Data)}

theorem follows_owed (follows : Follows cfg reader owed hub)
    (same : ∀ handle, reader.connection = some handle → less handle = owed handle) :
    Follows cfg reader less hub := by
  refine ⟨follows.used, follows.listed, follows.connected, follows.channel, follows.resumes, ?_⟩
  intro handle sub chan latest isConn
  rw [same handle isConn]
  exact follows.current handle sub chan latest isConn

theorem follows_closed (follows : Follows cfg reader owed hub)
    (same : ∀ other, other ≠ handle → less other = owed other)
    (closed : ∀ sub, hub.handles[handle]? = some sub →
      sub.closed = true) : Follows cfg reader less hub := by
  refine ⟨follows.used, follows.listed, follows.connected, follows.channel, follows.resumes, ?_⟩
  intro other sub chan latest isConn isHandle isOpen
  have differ : other ≠ handle := by
    rintro rfl
    rw [closed sub isHandle] at isOpen
    cases isOpen
  rw [same other differ]
  exact follows.current other sub chan latest isConn isHandle isOpen

variable {sub : CameraLiveSubscription Data}

theorem pending_offered (isOpen : sub.closed = false) (event : CameraLiveEvent Data) :
    pending { sub with queue := sub.queue ++ [event] } = pending sub ++ [event] := by
  unfold pending
  cases isWaiting : sub.waiting <;> simp [isOpen]

theorem follows_offered (follows : Follows cfg reader (owedOf event (item :: rest)) hub)
    (fits : Fits reader event (item :: rest) hub) (isConn : reader.connection = some item.2)
    (found : hub.handles[item.2]? = some sub) (isOpen : sub.closed = false) :
    Follows cfg reader (owedOf event rest) (hub.modifyHandle item.2 fun cur =>
      { cur with queue := cur.queue ++ [event] }) := by
  have log : reader.log (hub.modifyHandle item.2 fun cur =>
      { cur with queue := cur.queue ++ [event] }) = reader.log hub ++ [event] := by
    unfold Reader.log
    rw [held_connected isConn found,
      held_connected isConn (modify_handle_self found), pending_offered isOpen,
      append_assoc]
  have covered : ∀ chan latest, hub.channels.get reader.cameraId = some chan →
      chan.latestState = some latest →
      (liveFeed Data).Covered (reader.log hub ++ [event]) latest := by
    intro chan latest isChannel isLatest
    have cur := follows.current item.2 sub chan latest isConn found isOpen
      isChannel (.inr (by rw [owed_of_self]; exact cons_ne_nil _ _)) isLatest
    rw [owed_of_self] at cur
    exact cur
  refine ⟨?_, lists_own_handle follows.listed fun _ => rfl, ?_, follows.channel, ?_, ?_⟩
  · rw [log]
    intro entry mem number isNumber
    rcases mem_append.mp mem with pre | isNew
    · exact follows.used entry pre number isNumber
    · rw [mem_singleton.mp isNew] at isNumber
      exact fits.used number isNumber
  · intro handle isOther
    obtain rfl : item.2 = handle := some.inj (isConn.symm.trans isOther)
    obtain ⟨pre, isBefore, isCamera⟩ := follows.connected item.2 isConn
    exact ⟨_, modify_handle_self isBefore, isCamera⟩
  · intro chan latest number isChannel isLatest isNumber
    rw [log]
    exact Feed.resumes_append (follows.resumes chan latest number isChannel isLatest isNumber)
      (covered chan latest isChannel isLatest)
  · intro handle changed chan latest isOther _ _ isChannel _ isLatest
    rw [log]
    refine Feed.covered_append (covered chan latest isChannel isLatest) ?_
    intro entry mem isState
    rw [owed_of_event mem] at isState ⊢
    exact fits.state item.2 (by simp) isConn chan latest isChannel isLatest isState

theorem meets_offer_owed :
    Meets (fun hub : CameraLiveUpdates Index Data =>
        Follows cfg reader (owedOf event (item :: rest)) hub ∧ Fits reader event (item :: rest) hub)
      (offer cfg item.2 event)
      (Outcomes (fun _ hub => Follows cfg reader (owedOf event rest) hub ∧
        Fits reader event rest hub) fun _ _ => False) := by
  have closed : ∀ {hub : CameraLiveUpdates Index Data},
      Follows cfg reader (owedOf event (item :: rest)) hub →
      (∀ sub, hub.handles[item.2]? = some sub → sub.closed = true) →
      Follows cfg reader (owedOf event rest) hub :=
    fun follows refused => follows_closed follows
      (fun _ differ => (owed_of_other differ).symm) refused
  refine meets_read fun found => ?_
  cases found with
  | none =>
    refine meets_pure ?_
    rintro hub ⟨⟨follows, fits⟩, missing⟩
    refine ⟨closed follows ?_, fits_rest fits⟩
    intro sub found
    rw [missing] at found
    cases found
  | some sub =>
    dsimp only
    split_ifs with isClosed isFull
    · refine meets_pure ?_
      rintro hub ⟨⟨follows, fits⟩, found⟩
      refine ⟨closed follows ?_, fits_rest fits⟩
      intro other isOther
      rw [found] at isOther
      cases isOther
      exact isClosed
    · rintro hub ⟨⟨follows, fits⟩, found⟩
      exact ⟨closed (follows_handle follows (fun _ _ _ => shrinks_closing rfl rfl rfl rfl)
        fun _ => rfl) (refused_closing fun _ => rfl), fits_handle (fits_rest fits) _⟩
    · rintro hub ⟨⟨follows, fits⟩, found⟩
      refine ⟨?_, fits_handle (fits_rest fits) _⟩
      by_cases isConn : reader.connection = some item.2
      · exact follows_offered follows fits isConn found (Bool.eq_false_iff.mpr isClosed)
      · refine follows_owed (follows_other_handle follows isConn fun _ => rfl) ?_
        intro handle isOther
        refine (owed_of_other ?_).symm
        rintro rfl
        exact isConn isOther

variable {cameraId : UUID}

theorem follows_drop_slow {sid : UUID} (follows : Follows cfg reader owed hub) :
    Follows cfg reader owed
      { hub.unregister cameraId sid with
        slowConsumerDisconnectsTotal := hub.slowConsumerDisconnectsTotal + 1 } := by
  have dropped : Follows cfg reader owed (hub.modifyChannel cameraId fun chan =>
      { chan with subscribers := chan.subscribers.pop sid }) := by
    refine follows_channel follows ?_ (fun _ shows => ⟨shows.history, shows.latest, shows.probe⟩)
      fun _ _ isLatest => isLatest
    intro chan session handle _ found
    rw [Dict.get_pop] at found
    split_ifs at found
    exact found
  exact follows_same dropped rfl rfl (le_refl _)

theorem fits_channel {change : CameraChannel Data → CameraChannel Data}
    (fits : Fits reader event due hub)
    (state : ∀ chan, (change chan).latestState = chan.latestState) :
    Fits reader event due (hub.modifyChannel cameraId change) := by
  refine ⟨?_, ?_⟩
  · rw [modify_channel_next]
    exact fits.used
  · intro handle mem isConn chan latest found isLatest
    rw [modify_channel_get] at found
    split_ifs at found with same
    · obtain ⟨pre, isBefore, rfl⟩ := map_eq_some_iff.mp found
      rw [state] at isLatest
      exact fits.state handle mem isConn pre latest (same ▸ isBefore) isLatest
    · exact fits.state handle mem isConn chan latest found isLatest

theorem fits_drop_slow {sid : UUID} (fits : Fits reader event due hub) : Fits reader event due
      { hub.unregister cameraId sid with
        slowConsumerDisconnectsTotal := hub.slowConsumerDisconnectsTotal + 1 } := by
  have dropped : Fits reader event due (hub.modifyChannel cameraId fun chan =>
      { chan with subscribers := chan.subscribers.pop sid }) :=
    fits_channel fits fun _ => rfl
  exact ⟨dropped.used, dropped.state⟩

theorem meets_hand_out :
    Meets (fun hub : CameraLiveUpdates Index Data =>
        Follows cfg reader (owedOf event due) hub ∧ Fits reader event due hub)
      (forEach due fun subscriber => (do
        let taken ← offer cfg subscriber.2 event
        if taken then pure () else dropSlow cameraId subscriber.1 : LiveAction Index Data Unit))
      fun out hub => out = .ok () ∧ Follows cfg reader (owedOf event []) hub := by
  refine meets_weaken (@meets_for_each _ _ _ (fun rest hub =>
    Follows cfg reader (owedOf event rest) hub ∧ Fits reader event rest hub) _ _ ?_)
    (fun _ holds => holds) fun _ _ holds => ⟨holds.1, holds.2.1⟩
  intro item rest
  refine meets_bind (outcomes_weaken meets_offer_owed (fun _ _ holds => holds)
    fun _ _ impossible => impossible.elim) fun taken => ?_
  split_ifs
  · exact meets_pure fun _ holds => ⟨rfl, holds⟩
  · refine meets_update ?_
    rintro hub ⟨follows, fits⟩
    exact ⟨rfl, follows_drop_slow follows, fits_drop_slow fits⟩

end Offers

section Histories

variable {size number : Nat} {chan : CameraChannel Data} {event : CameraLiveEvent Data}

theorem mem_push_bounded (positive : 1 ≤ size) (hist : List (CameraLiveEvent Data)) :
    event ∈ pushBounded size hist event := by
  unfold pushBounded
  rw [drop_append_of_le_length (by omega)]
  exact mem_append_right _ (mem_singleton_self _)

/-- An event that was in a history when another one came is still there or older than all of it. -/
theorem push_keeps {hist : List (CameraLiveEvent Data)} {latest : CameraLiveEvent Data}
    {found : Nat} (holds : HistoryHolds size number hist) (isNumber : event.eventId = some number)
    (isFound : latest.eventId = some found) (used : found < number)
    (kept : latest ∈ hist ∨ ∀ entry ∈ hist, ∀ other, entry.eventId = some other →
      found < other) :
    latest ∈ pushBounded size hist event ∨ ∀ entry ∈ pushBounded size hist event,
      ∀ other, entry.eventId = some other → found < other := by
  have increasing : (hist ++ [event]).Pairwise fun earlier later => ∀ first second,
      earlier.eventId = some first → later.eventId = some second → first < second := by
    refine pairwise_append.mpr ⟨holds.increasing, pairwise_singleton _ _, ?_⟩
    intro earlier mem later isNew first second isFirst isSecond
    rw [mem_singleton.mp isNew, isNumber] at isSecond
    obtain ⟨eventId, isId, pre⟩ := holds.allocated earlier mem
    rw [isId] at isFirst
    cases isFirst
    cases isSecond
    exact pre
  rcases kept with mem | allLater
  · have inAll : latest ∈ hist ++ [event] := mem_append_left _ mem
    rw [← take_append_drop (hist.length + 1 - size) (hist ++ [event])] at inAll increasing
    rcases mem_append.mp inAll with dropped | isKept
    · refine .inr fun entry inRest other isOther => ?_
      exact (pairwise_append.mp increasing).2.2 latest dropped entry inRest found other isFound
        isOther
    · exact .inl isKept
  · refine .inr fun entry inPushed other isOther => ?_
    rcases mem_append.mp (mem_of_mem_drop inPushed) with pre | isNew
    · exact allLater entry pre other isOther
    · rw [mem_singleton.mp isNew, isNumber] at isOther
      cases isOther
      exact used

theorem shows_push_quiet (shows : Shows size number chan) (isNumber : event.eventId = some number)
    (quiet : ¬ (liveFeed Data).isState event) : Shows size (number + 1)
      { chan with history := pushBounded size chan.history event } where
  history := history_push shows.history isNumber
  latest latest isLatest := by
    obtain ⟨found, isFound, pre, isState, kept, noLater⟩ := shows.latest latest isLatest
    refine ⟨found, isFound, pre.trans (Nat.lt_succ_self _), isState,
      push_keeps shows.history isNumber isFound pre kept, ?_⟩
    intro entry mem isEntryState other isOther
    rcases mem_append.mp (mem_of_mem_drop mem) with inHistory | isNew
    · exact noLater entry inHistory isEntryState other isOther
    · rw [mem_singleton.mp isNew] at isEntryState
      exact absurd isEntryState quiet
  probe entry isProbe := by
    obtain ⟨noState, found, isFound, pre⟩ := shows.probe entry isProbe
    exact ⟨noState, found, isFound, pre.trans (Nat.lt_succ_self _)⟩

variable {changed : CameraChannel Data}

theorem shows_push_state (positive : 1 ≤ size) (shows : Shows size number chan)
    (isNumber : event.eventId = some number) (isState : (liveFeed Data).isState event)
    (hist : changed.history = chan.history)
    (state : changed.latestState = some event)
    (probe : changed.latestProbeEvent = chan.latestProbeEvent) : Shows size (number + 1)
      { changed with history := pushBounded size changed.history event } where
  history := by
    rw [hist]
    exact history_push shows.history isNumber
  latest latest isLatest := by
    rw [hist]
    obtain rfl : event = latest := some.inj (state.symm.trans isLatest)
    refine ⟨number, isNumber, Nat.lt_succ_self _, isState, .inl (mem_push_bounded positive _), ?_⟩
    intro entry mem _ other isOther
    obtain ⟨found, isFound, pre⟩ := (history_push shows.history isNumber).allocated entry mem
    rw [isFound] at isOther
    cases isOther
    exact Nat.le_of_lt_succ pre
  probe entry isProbe := by
    obtain ⟨noState, found, isFound, pre⟩ := shows.probe entry (probe ▸ isProbe)
    exact ⟨noState, found, isFound, pre.trans (Nat.lt_succ_self _)⟩

theorem shows_discard (shows : Shows size number chan)
    (hist : changed.history = discardProbeHistory chan.history)
    (state : changed.latestState = chan.latestState)
    (probe : ∀ event, changed.latestProbeEvent = some event →
      ¬ (liveFeed Data).isState event ∧ ∃ found, event.eventId = some found ∧ found < number) :
    Shows size number changed where
  history := by
    rw [hist]
    exact history_sublist shows.history filter_sublist
  latest latest isLatest := by
    rw [state] at isLatest
    obtain ⟨found, isFound, pre, isState, kept, noLater⟩ := shows.latest latest isLatest
    rw [hist]
    refine ⟨found, isFound, pre, isState, ?_, fun entry mem =>
      noLater entry (mem_of_mem_filter mem)⟩
    rcases kept with mem | allLater
    · obtain ⟨data, isData⟩ := isState
      exact .inl (mem_filter.mpr ⟨mem, by rw [isData]⟩)
    · exact .inr fun entry mem => allLater entry (mem_of_mem_filter mem)
  probe := probe

theorem shows_push_probe (shows : Shows size number chan)
    (isNumber : event.eventId = some number) (quiet : ¬ (liveFeed Data).isState event)
    (hist : changed.history = discardProbeHistory chan.history)
    (state : changed.latestState = chan.latestState)
    (probe : changed.latestProbeEvent = some event) : Shows size (number + 1)
      { changed with history := pushBounded size changed.history event } := by
  have discarded : Shows size number { changed with latestProbeEvent := none } :=
    shows_discard shows hist state fun _ isProbe => nomatch isProbe
  have pushed := shows_push_quiet discarded isNumber quiet
  refine ⟨pushed.history, pushed.latest, ?_⟩
  intro found isProbe
  obtain rfl : event = found := some.inj (probe.symm.trans isProbe)
  exact ⟨quiet, number, isNumber, Nat.lt_succ_self _⟩

end Histories

section Publishing

variable {cameraId : UUID} {event : CameraLiveEvent Data} {number : Nat}

/-- The number was the last one given out, and nothing has it yet. -/
def Unused (cfg : LiveSettings Index Data) (reader : Reader Data) (number : Nat)
    (hub : CameraLiveUpdates Index Data) : Prop :=
  hub.nextEventId = number + 1 ∧ Stands cfg reader { hub with nextEventId := number }

theorem follows_pushed {pre after : CameraLiveUpdates Index Data}
    {change : CameraChannel Data → CameraChannel Data}
    (unused : Unused cfg reader number pre) (isNumber : event.eventId = some number)
    (handles : after.handles = pre.handles) (next : after.nextEventId = pre.nextEventId)
    (channels : ∀ other, after.channels.get other =
      if other = cameraId then (pre.channels.get cameraId).map change
      else pre.channels.get other)
    (subscribers : ∀ chan, (change chan).subscribers = chan.subscribers)
    (shows : ∀ chan, Shows cfg.historySize number chan →
      Shows cfg.historySize (number + 1) (change chan))
    (state : ∀ chan, (change chan).latestState = some event ∨
      ¬ (liveFeed Data).isState event ∧ (change chan).latestState = chan.latestState) :
    Follows cfg reader (owedOf event (subscribersOf cameraId after)) after ∧
      Fits reader event (subscribersOf cameraId after) after := by
  obtain ⟨isNext, stands⟩ := unused
  have later : Stands cfg reader pre :=
    follows_same stands rfl rfl (by change number ≤ pre.nextEventId; omega)
  have isNextAfter : after.nextEventId = number + 1 := next.trans isNext
  have log : reader.log after = reader.log pre := held_same handles
  have changed : ∀ other chan, after.channels.get other = some chan →
      ∃ old, pre.channels.get other = some old ∧
        (chan = old ∧ other ≠ cameraId ∨ chan = change old ∧ other = cameraId) := by
    intro other chan found
    rw [channels] at found
    split_ifs at found with same
    · obtain ⟨old, isOld, rfl⟩ := map_eq_some_iff.mp found
      exact ⟨old, same ▸ isOld, .inr ⟨rfl, same⟩⟩
    · exact ⟨chan, found, .inl ⟨rfl, same⟩⟩
  have listed : ListsOwn after := by
    intro other sid handle lists
    rw [handles]
    obtain ⟨chan, isChannel, found⟩ := bind_eq_some_iff.mp lists
    obtain ⟨old, isOld, ⟨rfl, _⟩ | ⟨rfl, _⟩⟩ := changed other chan isChannel
    · exact stands.listed other sid handle (bind_eq_some_iff.mpr ⟨_, isOld, found⟩)
    · rw [subscribers] at found
      exact stands.listed other sid handle (bind_eq_some_iff.mpr ⟨_, isOld, found⟩)
  -- Who is owed the event follows this camera.
  have due : ∀ handle ∈ (subscribersOf cameraId after).map Prod.snd,
      reader.connection = some handle → reader.cameraId = cameraId ∧ ∃ old sid,
        pre.channels.get cameraId = some old ∧ old.subscribers.get sid = some handle := by
    intro handle mem isConn
    obtain ⟨item, isItem, rfl⟩ := mem_map.mp mem
    unfold subscribersOf at isItem
    cases found : after.channels.get cameraId with
    | none =>
      rw [found] at isItem
      cases isItem
    | some chan =>
      rw [found] at isItem
      have isListed : chan.subscribers.get item.1 = some item.2 := Dict.get_eq_some.mpr isItem
      obtain ⟨sub, isHandle, isCamera⟩ :=
        listed cameraId item.1 item.2 (bind_eq_some_iff.mpr ⟨chan, found, isListed⟩)
      obtain ⟨own, isOwn, isOwnCamera⟩ := stands.connected item.2 isConn
      rw [handles, isOwn] at isHandle
      cases isHandle
      obtain ⟨old, isOld, ⟨_, differ⟩ | ⟨rfl, _⟩⟩ := changed cameraId chan found
      · exact absurd rfl differ
      · rw [subscribers] at isListed
        exact ⟨isOwnCamera.symm.trans isCamera, old, item.1, isOld, isListed⟩
  have numbers : ∀ entry ∈ reader.log pre, ∀ found, entry.eventId = some found →
      found < number := stands.used
  refine ⟨⟨?_, listed, ?_, ?_, ?_, ?_⟩, ?_, ?_⟩
  · rw [log, isNextAfter]
    exact fun entry mem found isFound =>
      (numbers entry mem found isFound).trans (Nat.lt_succ_self _)
  · rw [handles]
    exact stands.connected
  · intro chan found
    rw [isNextAfter]
    obtain ⟨old, isOld, ⟨rfl, _⟩ | ⟨rfl, _⟩⟩ := changed _ chan found
    · exact isNext ▸ later.channel _ isOld
    · exact shows old (stands.channel old isOld)
  · intro chan latest found isFound isLatest isNumberLatest
    rw [log]
    obtain ⟨old, isOld, ⟨rfl, _⟩ | ⟨rfl, _⟩⟩ := changed _ chan isFound
    · exact stands.resumes _ latest found isOld isLatest isNumberLatest
    · rcases state old with isEvent | ⟨_, same⟩
      · obtain rfl : event = latest := some.inj (isEvent.symm.trans isLatest)
        obtain rfl : number = found := some.inj (isNumber.symm.trans isNumberLatest)
        exact Feed.resumes_earlier numbers
      · exact stands.resumes old latest found isOld (same ▸ isLatest) isNumberLatest
  · intro handle sub chan latest isConn isHandle isOpen isFound lists isLatest
    rw [handles] at isHandle
    rw [log]
    have quietly : ∀ old, pre.channels.get reader.cameraId = some old →
        old.latestState = some latest → (∃ sid, old.subscribers.get sid = some handle) →
        (∀ entry ∈ owedOf event (subscribersOf cameraId after) handle,
          (liveFeed Data).isState entry → entry = latest) →
        (liveFeed Data).Covered (reader.log pre ++
          owedOf event (subscribersOf cameraId after) handle) latest := by
      intro old isOld isOldLatest isListed onlyLatest
      have covered := stands.current handle sub old latest isConn isHandle isOpen isOld
        (.inl isListed) isOldLatest
      rw [append_nil] at covered
      exact Feed.covered_append covered onlyLatest
    obtain ⟨old, isOld, ⟨rfl, differ⟩ | ⟨rfl, same⟩⟩ := changed _ chan isFound
    · have notDue : owedOf event (subscribersOf cameraId after) handle = [] := by
        unfold owedOf
        rw [if_neg]
        exact fun mem => differ (due handle mem isConn).1
      refine quietly _ isOld isLatest (lists.resolve_right (not_not_intro notDue)) ?_
      rw [notDue]
      exact fun _ mem => absurd mem not_mem_nil
    · have isListed : ∃ sid, old.subscribers.get sid = some handle := by
        rcases lists with ⟨sid, isListed⟩ | isOwed
        · exact ⟨sid, subscribers old ▸ isListed⟩
        · have mem : handle ∈ (subscribersOf cameraId after).map Prod.snd := by
            by_contra absent
            exact isOwed (if_neg absent)
          obtain ⟨_, other, sid, isOther, found⟩ := due handle mem isConn
          rw [same, isOther] at isOld
          cases isOld
          exact ⟨sid, found⟩
      rcases state old with isEvent | ⟨quiet, sameState⟩
      · obtain rfl : event = latest := some.inj (isEvent.symm.trans isLatest)
        obtain ⟨sid, found⟩ := isListed
        have isDue : handle ∈ (subscribersOf cameraId after).map Prod.snd := by
          refine mem_map.mpr ⟨(sid, handle), ?_, rfl⟩
          unfold subscribersOf
          rw [← same, isFound]
          exact Dict.get_eq_some.mp (subscribers old ▸ found)
        refine .inl (mem_append_right _ ?_)
        unfold owedOf
        rw [if_pos isDue]
        exact mem_singleton_self _
      · refine quietly old isOld (sameState ▸ isLatest) isListed ?_
        intro entry mem isState
        rw [owed_of_event mem] at isState
        exact absurd isState quiet
  · intro found isFound
    rw [isNumber] at isFound
    cases isFound
    omega
  · intro handle mem isConn chan latest isFound isLatest isState
    obtain ⟨same, _⟩ := due handle mem isConn
    obtain ⟨old, _, ⟨_, differ⟩ | ⟨rfl, _⟩⟩ := changed _ chan isFound
    · exact absurd same differ
    · rcases state old with isEvent | ⟨quiet, _⟩
      · exact some.inj (isEvent.symm.trans isLatest)
      · exact absurd isState quiet

theorem meets_allocate (cfg : LiveSettings Index Data) (reader : Reader Data) :
    Meets (Stands cfg reader) allocateEventId
      (Outcomes (fun number => Unused cfg reader number) fun _ => Stands cfg reader) := by
  refine meets_read fun next => ?_
  split_ifs
  · exact meets_raise fun _ holds => holds.1
  · rintro hub ⟨stands, rfl⟩
    exact ⟨rfl, follows_same stands rfl rfl (le_refl _)⟩

theorem meets_publish {ready : CameraLiveUpdates Index Data → Prop} (pushed : ∀ hub, ready hub →
      let after := hub.modifyChannel cameraId fun chan =>
        { chan with history := pushBounded cfg.historySize chan.history event }
      Follows cfg reader (owedOf event (subscribersOf cameraId after)) after ∧
        Fits reader event (subscribersOf cameraId after) after) :
    Meets ready (publish cfg cameraId event) fun _ => Stands cfg reader := by
  refine @meets_bind _ _ _ _ _ _ (fun _ hub =>
    Follows cfg reader (owedOf event (subscribersOf cameraId hub)) hub ∧
      Fits reader event (subscribersOf cameraId hub) hub) _ _ (meets_update pushed) fun _ => ?_
  refine meets_read fun subscribers => ?_
  refine meets_weaken (@meets_hand_out _ _ cfg reader event subscribers cameraId) ?_
    fun _ _ holds => ?_
  · rintro hub ⟨holds, rfl⟩
    exact holds
  · exact follows_owed holds.2 fun _ _ => rfl

theorem meets_publish_quiet (isNumber : event.eventId = some number)
    (quiet : ¬ (liveFeed Data).isState event) :
    Meets (Unused cfg reader number) (publish cfg cameraId event)
      fun _ => Stands cfg reader := by
  refine meets_publish fun hub unused => ?_
  exact follows_pushed unused isNumber (modify_channel_handles _ _) (modify_channel_next _ _)
    (fun other => modify_channel_get cameraId other _) (fun _ => rfl)
    (fun _ shows => shows_push_quiet shows isNumber quiet) fun _ => .inr ⟨quiet, rfl⟩

theorem meets_publish_noted {change : CameraChannel Data → CameraChannel Data}
    (isNumber : event.eventId = some number)
    (subscribers : ∀ chan, (change chan).subscribers = chan.subscribers)
    (shows : ∀ chan, Shows cfg.historySize number chan →
      Shows cfg.historySize (number + 1) { change chan with
        history := pushBounded cfg.historySize (change chan).history event })
    (state : ∀ chan, (change chan).latestState = some event ∨
      ¬ (liveFeed Data).isState event ∧ (change chan).latestState = chan.latestState) :
    Meets (Unused cfg reader number) (do
        update (·.modifyChannel cameraId change)
        publish cfg cameraId event)
      fun _ => Stands cfg reader := by
  refine @meets_bind _ _ _ _ _ _ (fun _ hub => ∃ pre, Unused cfg reader number pre ∧
    hub = pre.modifyChannel cameraId change) _ _
    (meets_update fun hub unused => ⟨hub, unused, rfl⟩) fun _ => meets_publish ?_
  rintro _ ⟨pre, unused, rfl⟩
  refine @follows_pushed _ _ cfg reader cameraId event number pre _ (fun chan =>
    { change chan with
      history := pushBounded cfg.historySize (change chan).history event })
    unused isNumber ?_ ?_ ?_ subscribers shows state
  · rw [modify_channel_handles, modify_channel_handles]
  · rw [modify_channel_next, modify_channel_next]
  · intro other
    rw [modify_channel_get, modify_channel_get, if_pos rfl, modify_channel_get]
    split_ifs
    · rw [Option.map_map]
      rfl
    · rfl

end Publishing

section Epochs

variable {cameraId : UUID} {due : List (UUID × Nat)}

/-- The client stands, and where it is among these subscriptions its channel shows no state. -/
def Blank (cfg : LiveSettings Index Data) (reader : Reader Data) (due : List (UUID × Nat))
    (hub : CameraLiveUpdates Index Data) : Prop :=
  Stands cfg reader hub ∧ ∀ handle ∈ due.map Prod.snd, reader.connection = some handle →
    ∀ chan, hub.channels.get reader.cameraId = some chan → chan.latestState = none

variable {handle : Nat}

theorem blank_handle {change : CameraLiveSubscription Data → CameraLiveSubscription Data}
    (blank : Blank cfg reader due hub) (mem : handle ∈ due.map Prod.snd)
    (cam : ∀ sub, (change sub).cameraId = sub.cameraId)
    (unnumbered : ∀ sub, hub.handles[handle]? = some sub →
      ∀ event ∈ pending (change sub), event ∈ pending sub ∨ event.eventId = none) :
    Blank cfg reader due (hub.modifyHandle handle change) := by
  obtain ⟨stands, noState⟩ := blank
  refine ⟨?_, noState⟩
  by_cases isConn : reader.connection = some handle
  · obtain ⟨sub, found, isCamera⟩ := stands.connected handle isConn
    have none := noState handle mem isConn
    refine ⟨?_, lists_own_handle stands.listed cam, ?_, stands.channel, ?_, ?_⟩
    · intro event inLog number isNumber
      unfold Reader.log at inLog
      rw [held_connected isConn (modify_handle_self found)] at inLog
      rcases mem_append.mp inLog with inRead | inPending
      · exact stands.used event (mem_append_left _ inRead) number isNumber
      · rcases unnumbered sub found event inPending with pre | noNumber
        · refine stands.used event (mem_append_right _ ?_) number isNumber
          rw [held_connected isConn found]
          exact pre
        · rw [noNumber] at isNumber
          cases isNumber
    · intro connection isOther
      obtain rfl : handle = connection := some.inj (isConn.symm.trans isOther)
      exact ⟨_, modify_handle_self found, (cam _).trans isCamera⟩
    · intro chan latest number isChannel isLatest
      rw [none chan isChannel] at isLatest
      cases isLatest
    · intro connection changed chan latest _ _ _ isChannel _ isLatest
      rw [none chan isChannel] at isLatest
      cases isLatest
  · exact follows_other_handle stands isConn cam

theorem pending_cleared {sub : CameraLiveSubscription Data} :
    ∀ event ∈ pending { sub with queue := [] }, event ∈ pending sub := by
  intro event
  unfold pending
  cases sub.waiting <;> dsimp only <;> split_ifs <;> simp_all

variable {reason : String}

theorem keeps_blank_offer (mem : handle ∈ due.map Prod.snd) :
    Keeps (Blank cfg reader due) (offer cfg handle (resyncEvent reason)) := by
  refine meets_read fun found => ?_
  cases found with
  | none => exact meets_pure fun _ holds => holds.1
  | some sub =>
    dsimp only
    split_ifs with isClosed isFull
    · exact meets_pure fun _ holds => holds.1
    · rintro hub ⟨blank, found⟩
      refine blank_handle blank mem (fun _ => rfl) fun cur _ event inPending => .inl ?_
      have shrunk : Shrinks cur { cur with slowConsumer := true, closed := true } :=
        shrinks_closing rfl rfl rfl rfl
      exact shrunk.less.subset inPending
    · rintro hub ⟨blank, found⟩
      refine blank_handle blank mem (fun _ => rfl) fun cur isCurrent event inPending => ?_
      rw [found] at isCurrent
      cases isCurrent
      rw [pending_offered (Bool.eq_false_iff.mpr isClosed)] at inPending
      rcases mem_append.mp inPending with pre | isNew
      · exact .inl pre
      · rw [mem_singleton.mp isNew]
        exact .inr rfl

theorem keeps_blank_start_new_epoch (mem : handle ∈ due.map Prod.snd) :
    Keeps (Blank cfg reader due) (startNewEpoch cfg handle (resyncEvent reason)) := by
  refine meets_any_read fun found => ?_
  cases found with
  | none => exact keeps_pure
  | some sub =>
    dsimp only
    split_ifs
    · exact keeps_pure
    · refine keeps_bind (meets_update fun hub blank => ?_) fun _ => keeps_blank_offer mem
      exact blank_handle blank mem (fun _ => rfl) fun _ _ event inPending =>
        .inl (pending_cleared event inPending)

theorem blank_drop_slow {sid : UUID} (blank : Blank cfg reader due hub) :
    Blank cfg reader due { hub.unregister cameraId sid with
      slowConsumerDisconnectsTotal := hub.slowConsumerDisconnectsTotal + 1 } := by
  refine ⟨follows_drop_slow blank.1, ?_⟩
  intro handle mem isConn chan found
  have popped : (hub.modifyChannel cameraId fun chan =>
      { chan with subscribers := chan.subscribers.pop sid }).channels.get
        reader.cameraId = some chan := found
  rw [modify_channel_get] at popped
  split_ifs at popped with same
  · obtain ⟨pre, isBefore, rfl⟩ := map_eq_some_iff.mp popped
    exact blank.2 handle mem isConn pre (same ▸ isBefore)
  · exact blank.2 handle mem isConn chan popped

theorem blank_subscribers (stands : Stands cfg reader hub)
    (cleared : ∀ chan, hub.channels.get cameraId = some chan → chan.latestState = none) :
    Blank cfg reader (subscribersOf cameraId hub) hub := by
  refine ⟨stands, ?_⟩
  intro handle mem isConn
  obtain ⟨item, isItem, rfl⟩ := mem_map.mp mem
  unfold subscribersOf at isItem
  cases found : hub.channels.get cameraId with
  | none =>
    rw [found] at isItem
    cases isItem
  | some chan =>
    rw [found] at isItem
    obtain ⟨sub, isHandle, isCamera⟩ := stands.listed cameraId item.1 item.2
      (bind_eq_some_iff.mpr ⟨chan, found, Dict.get_eq_some.mpr isItem⟩)
    obtain ⟨own, isOwn, isOwnCamera⟩ := stands.connected item.2 isConn
    rw [isHandle] at isOwn
    cases isOwn
    rw [isOwnCamera.symm.trans isCamera]
    exact cleared

theorem keeps_stands_start_channel_epoch :
    Keeps (Stands cfg reader) (startChannelEpoch cfg cameraId reason) := by
  refine @meets_bind _ _ _ _ _ _ (fun _ hub => Stands cfg reader hub ∧ ∀ chan,
    hub.channels.get cameraId = some chan → chan.latestState = none) _ _
    (meets_update fun hub stands => ⟨?_, ?_⟩) fun _ => ?_
  · refine follows_channel stands (fun _ _ _ _ found => found) (fun chan _ => ?_)
      fun _ _ isLatest => nomatch isLatest
    exact ⟨history_nil, by rintro _ ⟨⟩, by rintro _ ⟨⟩⟩
  · intro chan found
    rw [modify_channel_get, if_pos rfl] at found
    obtain ⟨pre, _, rfl⟩ := map_eq_some_iff.mp found
    rfl
  · refine meets_read fun subscribers => ?_
    have loop : Keeps (Blank cfg reader subscribers) (forEach subscribers
        fun subscriber => (do
          update fun hub => { hub with resyncRequiredTotal := hub.resyncRequiredTotal + 1 }
          let taken ← startNewEpoch cfg subscriber.2 (resyncEvent reason)
          if taken then pure () else dropSlow cameraId subscriber.1 :
            LiveAction Index Data Unit)) := by
      refine keeps_for_each fun item mem => keeps_bind ?_ fun _ =>
        keeps_bind (keeps_blank_start_new_epoch (mem_map_of_mem mem)) fun taken => ?_
      · exact meets_update fun hub blank =>
          ⟨follows_same blank.1 rfl rfl (le_refl _), blank.2⟩
      · split_ifs
        · exact keeps_pure
        · exact meets_update fun hub blank => blank_drop_slow blank
    refine meets_weaken loop ?_ fun _ _ holds => holds.1
    rintro hub ⟨⟨stands, cleared⟩, rfl⟩
    exact blank_subscribers stands cleared

end Epochs

end RtspProxy.Live
