import RtspProxy.Live.Replay

/-!
# Resuming a stream

Every section of the hub keeps what holds of a client and its connection, and a new
connection starts with it. A client that resumes with an identifier of this process
is then told to start over or has the latest state; an identifier of an earlier
process that falls into the history of this one is taken for one of its own.
-/

namespace RtspProxy.Live

open Nodes Probes Lib Lib.Action CameraLiveUpdates Option

variable {Index Data : Type} {cfg : LiveSettings Index Data} {reader : Reader Data}

variable {target : CameraLiveTarget}

section Refreshing

variable {cameraId : UUID}

theorem keeps_stands_fields {change : CameraChannel Data → CameraChannel Data}
    (subscribers : ∀ chan, (change chan).subscribers = chan.subscribers)
    (history : ∀ chan, (change chan).history = chan.history)
    (state : ∀ chan, (change chan).latestState = chan.latestState)
    (probe : ∀ chan, (change chan).latestProbeEvent = chan.latestProbeEvent) :
    Keeps (Stands cfg reader)
      (update (·.modifyChannel cameraId change) : LiveAction Index Data Unit) := by
  refine meets_update fun hub stands => ?_
  refine follows_channel stands (fun chan _ _ _ found => subscribers chan ▸ found) ?_
    fun chan _ isLatest => state chan ▸ isLatest
  intro chan shows
  refine ⟨?_, ?_, ?_⟩
  · rw [history]
    exact shows.history
  · rw [state, history]
    exact shows.latest
  · rw [probe]
    exact shows.probe

theorem stands_parts : ChannelParts cfg (Stands cfg reader :
    CameraLiveUpdates Index Data → Prop) where
  index _ := meets_update fun _ stands => follows_same stands rfl rfl (le_refl _)
  completed _ := meets_update fun _ stands => follows_same stands rfl rfl (le_refl _)
  aside _ _ isAside := keeps_stands_fields isAside.subscribers isAside.history isAside.state
    isAside.probe
  state _ _ _ := by
    refine meets_bind (meets_allocate cfg reader) fun number => ?_
    refine meets_publish_noted rfl (fun _ => rfl) (fun cur shows => ?_) fun _ => .inl rfl
    exact shows_push_state cfg.sizesValid.1.1 shows rfl ⟨_, rfl⟩ rfl rfl rfl
  cleared _ := by
    refine keeps_bind (meets_update fun hub stands => ?_) fun _ => ?_
    · exact follows_channel stands (fun _ _ _ _ found => found)
        (fun _ shows => shows_discard shows rfl rfl fun _ isProbe => nomatch isProbe)
        fun _ _ isLatest => isLatest
    · refine meets_bind (meets_allocate cfg reader) fun number => ?_
      exact meets_publish_quiet rfl fun ⟨_, impossible⟩ => nomatch impossible
  probe _ obs := by
    refine meets_bind (meets_allocate cfg reader) fun number => ?_
    have quiet : ¬ (liveFeed Data).isState
        { data := .probeCompleted obs, eventId := some number } :=
      fun ⟨_, impossible⟩ => nomatch impossible
    refine meets_publish_noted rfl (fun _ => rfl) (fun cur shows => ?_)
      fun _ => .inr ⟨quiet, rfl⟩
    exact shows_push_probe shows rfl quiet rfl rfl rfl
  epoch _ _ := keeps_stands_start_channel_epoch
  retargeted _ := keeps_bind (keeps_stands_fields (fun _ => rfl) (fun _ => rfl) (fun _ => rfl)
    fun _ => rfl) fun _ => keeps_stands_start_channel_epoch
  expired _ := meets_any_read fun channels => keeps_for_each fun item _ => meets_update fun _ stands =>
    follows_pop_channel stands item.1

theorem keeps_stands_refresh_authorization_epochs {sids : List UUID}
    {cur : Dict UUID Int} {checkedAt : Int} :
    Keeps (Stands cfg reader)
      (refreshAuthorizationEpochs sids cur checkedAt : LiveAction Index Data Unit) := by
  refine keeps_for_each fun sessionId _ => meets_update fun hub stands => ?_
  split_ifs
  · exact follows_same stands rfl rfl (le_refl _)
  · exact stands

end Refreshing

variable {initialAccess : Option Datetime}

section Channels

theorem keeps_stands_evict_inactive_channel :
    Keeps (Stands cfg reader)
      (evictInactiveChannel cfg : LiveAction Index Data Unit) := by
  refine meets_any_read fun channels => ?_
  split_ifs
  · exact keeps_pure
  · cases oldestChannel (channels.values.filter (·.subscribers.items.isEmpty)) with
    | none => exact keeps_pure
    | some oldest => exact meets_update fun _ stands => follows_pop_channel stands _

theorem keeps_stands_get_or_create_channel {now : Int} :
    Keeps (Stands cfg reader)
      (getOrCreateChannel cfg target now : LiveAction Index Data Unit) :=
  stands_parts.get_or_create_channel keeps_stands_evict_inactive_channel
    (meets_update fun _ stands => follows_new_channel stands now)

end Channels

variable {cameraId : UUID}

section Closing

variable {handle : Nat} {now : Int}

theorem keeps_stands_remove_subscription {sessionId : UUID} :
    Keeps (Stands cfg reader)
      (removeSubscription cameraId sessionId now : LiveAction Index Data Unit) := by
  refine meets_update fun hub stands => ?_
  have dropped : Stands cfg reader (hub.unregister cameraId sessionId) :=
    follows_same (follows_drop_slow stands) rfl rfl (le_refl _)
  exact follows_channel dropped (fun _ _ _ _ found => found)
    (fun _ shows => ⟨shows.history, shows.latest, shows.probe⟩) fun _ _ isLatest => isLatest

theorem keeps_stands_closing {change : CameraLiveSubscription Data → CameraLiveSubscription Data}
    (cam : ∀ sub, (change sub).cameraId = sub.cameraId)
    (queue : ∀ sub, (change sub).queue = sub.queue)
    (waiting : ∀ sub, (change sub).waiting = sub.waiting)
    (closed : ∀ sub, (change sub).closed = true) :
    Keeps (Stands cfg reader)
      (update (·.modifyHandle handle change) : LiveAction Index Data Unit) :=
  meets_update fun _ stands => follows_handle stands
    (fun _ _ _ => shrinks_closing (cam _) (queue _) (waiting _) (closed _)) cam

theorem keeps_stands_aclose :
    Keeps (Stands cfg reader) (aclose handle now : LiveAction Index Data Unit) := by
  refine meets_any_read fun found => ?_
  cases found with
  | none => exact keeps_pure
  | some sub =>
    dsimp only
    split_ifs
    · exact keeps_pure
    · exact keeps_bind (keeps_stands_closing (fun _ => rfl) (fun _ => rfl) (fun _ => rfl)
        fun _ => rfl) fun _ => keeps_stands_remove_subscription

theorem keeps_stands_close_for_authz_change :
    Keeps (Stands cfg reader)
      (closeForAuthzChange handle now : LiveAction Index Data Unit) := by
  refine meets_any_read fun found => ?_
  cases found with
  | none => exact keeps_pure
  | some sub =>
    refine keeps_bind (keeps_stands_closing (fun _ => rfl) (fun _ => rfl) (fun _ => rfl)
      fun _ => rfl) fun _ => ?_
    refine keeps_bind ?_ fun _ => keeps_stands_remove_subscription
    exact meets_update fun _ stands => follows_same stands rfl rfl (le_refl _)

theorem keeps_stands_stop :
    Keeps (Stands cfg reader) (stop : LiveAction Index Data Unit) := by
  refine meets_read fun subs => meets_read fun channels => ?_
  refine meets_weaken ?_ (fun _ holds => holds.1.1) fun _ _ holds => holds
  refine keeps_bind (meets_update fun _ stands => follows_same stands rfl rfl (le_refl _))
    fun _ => keeps_bind (keeps_for_each fun item _ => meets_update fun hub stands => ?_)
    fun _ => keeps_for_each fun _ _ => keeps_stands_closing (fun _ => rfl) (fun _ => rfl)
      (fun _ => rfl) fun _ => rfl
  exact follows_channel stands (fun _ _ _ _ found => nomatch found)
    (fun _ shows => ⟨shows.history, shows.latest, shows.probe⟩) fun _ _ isLatest => isLatest

theorem meets_close_refused :
    Meets (Stands cfg reader) (closeForAuthzChange handle now : LiveAction Index Data Unit)
      (Outcomes (fun _ hub => Stands cfg reader hub ∧ Refused handle hub) fun _ _ => False) := by
  have closes : Meets (fun _ : CameraLiveUpdates Index Data => True)
      (closeForAuthzChange handle now : LiveAction Index Data Unit)
      (Outcomes (fun _ => Refused handle) fun _ _ => False) := by
    refine meets_read fun found => ?_
    cases found with
    | none =>
      refine meets_pure fun hub holds sub found => ?_
      rw [holds.2] at found
      cases found
    | some sub =>
      have kept : ∀ (cameraId sessionId : UUID), Keeps (Refused handle)
          (removeForAuthzChange cameraId sessionId now : LiveAction Index Data Unit) := by
        intro cameraId sessionId hub refused cur isCurrent
        refine refused cur ?_
        change (CameraLiveUpdates.modifyChannel _ _ _).handles[handle]? = some cur at isCurrent
        rw [modify_channel_handles] at isCurrent
        change (CameraLiveUpdates.modifyChannel _ _ _).handles[handle]? = some cur at isCurrent
        rw [modify_channel_handles] at isCurrent
        exact isCurrent
      have removes : ∀ (cameraId sessionId : UUID), Meets (Refused handle)
          (removeForAuthzChange cameraId sessionId now : LiveAction Index Data Unit)
          (Outcomes (fun _ => Refused handle) fun _ _ => False) :=
        fun cameraId sessionId hub refused => kept cameraId sessionId hub refused
      exact @meets_bind _ _ _ _ _ _ (fun _ => Refused handle) _ _
        (meets_update fun hub _ => refused_closing fun _ => rfl) fun _ => removes _ _
  intro hub stands
  have refused := closes hub trivial
  have kept := @keeps_stands_close_for_authz_change _ _ cfg reader handle now hub stands
  cases out : (closeForAuthzChange handle now hub).1 with
  | ok value =>
    rw [out] at refused
    exact ⟨kept, refused⟩
  | error err =>
    rw [out] at refused
    exact refused

end Closing

variable {hub : CameraLiveUpdates Index Data}

section Consuming

variable {handle : Nat} {now : Int}

/-- Unless the subscription is closed, the client waits for no authorization of an event. -/
def Still (reader : Reader Data) (handle : Nat) (hub : CameraLiveUpdates Index Data) : Prop :=
  reader.connection = some handle → ∀ sub, hub.handles[handle]? = some sub →
    sub.closed = false → sub.waiting.atHand = none

theorem meets_anext {authorizeDue : Bool} :
    Meets (fun hub : CameraLiveUpdates Index Data => Stands cfg reader hub ∧
        Still reader handle hub)
      (anext handle authorizeDue) fun _ => Stands cfg reader := by
  refine meets_read fun found => ?_
  cases found with
  | none => exact meets_pure fun _ holds => holds.1.1
  | some sub =>
    have waits : ∀ (waiting : Waiting Data) (delivered : Bool),
        waiting.atHand = none → (sub.closed = true → waiting = .nothing) →
        Meets (fun hub : CameraLiveUpdates Index Data => (Stands cfg reader hub ∧
          Still reader handle hub) ∧ hub.handles[handle]? = some sub)
          (update (·.modifyHandle handle fun cur => { cur with
            terminalDelivered := delivered || cur.terminalDelivered
            waiting }) : LiveAction Index Data Unit)
          fun _ => Stands cfg reader := by
      intro waiting delivered quiet ends
      refine meets_update ?_
      rintro hub ⟨⟨stands, still⟩, found⟩
      refine follows_handle stands (fun isConn cur isCurrent => ?_) fun _ => rfl
      rw [found] at isCurrent
      cases isCurrent
      exact shrinks_waiting rfl rfl rfl (still isConn sub found) quiet
        fun isClosed => .inl (ends isClosed)
    dsimp only
    split_ifs with isTerminal isClosed isDue
    · exact waits .nothing true rfl fun _ => rfl
    · exact waits .nothing false rfl fun _ => rfl
    · exact waits .authorization false rfl
        fun impossible => absurd impossible isClosed
    · exact waits .queue false rfl
        fun impossible => absurd impossible isClosed

theorem keeps_stands_authorization_lost :
    Keeps (Stands cfg reader) (authorizationLost handle now : LiveAction Index Data Unit) := by
  refine meets_bind (outcomes_weaken meets_close_refused (fun _ hub holds => ?_)
    fun _ _ impossible => impossible.elim) fun _ => meets_anext
  refine ⟨holds.1, fun _ sub found isOpen => ?_⟩
  rw [holds.2 sub found] at isOpen
  cases isOpen

/-- What a piece of `__anext__` returns to the client. Heartbeats and the end of the stream are
left out. -/
def handed (connection : Option Nat) (hub : CameraLiveUpdates Index Data) :
    LiveRequest Index → List (CameraLiveEvent Data)
  | .consume handle (.checked true _) _ =>
    if connection = some handle then
      (hub.handles[handle]?.bind (·.waiting.atHand)).toList
    else []
  | _ => []

def Reader.reads (reader : Reader Data) (events : List (CameraLiveEvent Data)) : Reader Data :=
  { reader with read := reader.read ++ events }

variable {sub : CameraLiveSubscription Data}

/-- The event that was waited for is read and the loop goes round. -/
theorem follows_taken {event : CameraLiveEvent Data}
    (stands : Stands cfg reader hub) (isConn : reader.connection = some handle)
    (found : hub.handles[handle]? = some sub) (waits : sub.waiting.atHand = some event) :
    Stands cfg (reader.reads [event])
      (hub.modifyHandle handle fun cur => { cur with waiting := .nothing }) := by
  have log : (reader.reads [event]).log
      (hub.modifyHandle handle fun cur => { cur with waiting := .nothing }) = reader.log hub := by
    have heldAfter : (reader.reads [event]).held
        (hub.modifyHandle handle fun cur => { cur with waiting := .nothing }) =
          pending { sub with waiting := .nothing } :=
      held_connected isConn (modify_handle_self found)
    unfold Reader.log
    rw [heldAfter, held_connected isConn found]
    unfold pending
    cases isWaiting : sub.waiting with
    | event other =>
      rw [isWaiting] at waits
      obtain rfl : other = event := some.inj waits
      exact List.append_assoc _ _ _
    | _ => simp [isWaiting, Waiting.atHand] at waits
  refine ⟨?_, lists_own_handle stands.listed fun _ => rfl, ?_, stands.channel, ?_, ?_⟩
  · rw [log]
    exact stands.used
  · intro connection isOther
    obtain rfl : handle = connection := some.inj (isConn.symm.trans isOther)
    obtain ⟨own, isOwn, isCamera⟩ := stands.connected handle isConn
    exact ⟨_, modify_handle_self isOwn, isCamera⟩
  · rw [log]
    exact stands.resumes
  · intro connection changed chan latest isOther isChanged isOpen
    obtain rfl : handle = connection := some.inj (isConn.symm.trans isOther)
    rw [modify_handle_self found] at isChanged
    cases isChanged
    rw [log]
    exact stands.current handle sub chan latest isConn found isOpen

theorem keeps_stands_consume {event : ConsumerEvent}
    (kept : reader.connection = some handle → event ≠ .cancelled ∧
      ∀ due, event = .checked true due → sub.waiting.atHand = none) :
    Meets (fun hub : CameraLiveUpdates Index Data => Stands cfg reader hub ∧
        hub.handles[handle]? = some sub)
      (consume handle event now) fun _ => Stands cfg reader := by
  refine meets_read fun found => ?_
  cases found with
  | none => exact meets_pure fun _ holds => holds.1.1
  | some cur =>
    by_cases same : sub = cur
    case neg =>
      rintro hub ⟨⟨_, isSubscription⟩, isCurrent⟩
      exact absurd (some.inj (isSubscription.symm.trans isCurrent)) same
    subst same
    have lost : Meets (fun hub : CameraLiveUpdates Index Data => (Stands cfg reader hub ∧
        hub.handles[handle]? = some sub) ∧ hub.handles[handle]? = some sub)
        (authorizationLost handle now) fun _ => Stands cfg reader :=
      meets_weaken keeps_stands_authorization_lost (fun _ holds => holds.1.1) fun _ _ holds => holds
    have goes : sub.waiting.atHand = none → ∀ authorizeDue,
        Meets (fun hub : CameraLiveUpdates Index Data => (Stands cfg reader hub ∧
        hub.handles[handle]? = some sub) ∧ hub.handles[handle]? = some sub)
        (anext handle authorizeDue) fun _ => Stands cfg reader := by
      intro quiet authorizeDue
      refine meets_weaken meets_anext ?_ fun _ _ holds => holds
      rintro hub ⟨⟨stands, _⟩, found⟩
      refine ⟨stands, fun _ other isOther _ => ?_⟩
      rw [found] at isOther
      cases isOther
      exact quiet
    have waits : ∀ waiting : Waiting Data, waiting.atHand = none →
        (reader.connection = some handle → sub.waiting.atHand = none) →
        (waiting = .nothing ∨ waiting = .heartbeat ∨ sub.waiting = .authorization) →
        Meets (fun hub : CameraLiveUpdates Index Data => (Stands cfg reader hub ∧
        hub.handles[handle]? = some sub) ∧ hub.handles[handle]? = some sub)
        (setWaiting handle waiting) fun _ => Stands cfg reader := by
      intro waiting quiet still ends
      refine meets_update ?_
      rintro hub ⟨⟨stands, _⟩, found⟩
      refine follows_handle stands (fun isConn other isOther => ?_) fun _ => rfl
      rw [found] at isOther
      cases isOther
      exact shrinks_waiting rfl rfl rfl (fun _ => still isConn) quiet fun _ => ends
    dsimp only
    split
    case h_1 isWaiting => exact goes (by rw [isWaiting]; rfl) _
    case h_2 isWaiting =>
      exact waits .queue rfl (fun _ => by rw [isWaiting]; rfl) (.inr (.inr isWaiting))
    case h_3 isWaiting =>
      exact waits .nothing rfl (fun _ => by rw [isWaiting]; rfl) (.inl rfl)
    case h_4 =>
      exact waits .nothing rfl (fun isConn => (kept isConn).2 _ rfl) (.inl rfl)
    case h_5 | h_6 | h_7 => exact lost
    case h_8 isWaiting =>
      cases isQueue : sub.queue with
      | nil => exact meets_pure fun _ holds => holds.1.1
      | cons next rest =>
        refine meets_update ?_
        rintro hub ⟨⟨stands, _⟩, found⟩
        refine follows_handle stands (fun isConn other isOther => ?_) fun _ => rfl
        rw [found] at isOther
        cases isOther
        have same : pending { sub with queue := rest, waiting := .event next } = pending sub := by
          unfold pending
          rw [isWaiting, isQueue]
          split_ifs <;> rfl
        exact ⟨rfl, same ▸ List.prefix_refl _, fun isOpen => ⟨isOpen, same⟩⟩
    case h_9 isWaiting =>
      exact waits .heartbeat rfl (fun _ => by rw [isWaiting]; rfl) (.inr (.inl rfl))
    case h_10 isWaiting => exact goes (by rw [isWaiting]; rfl) _
    case h_11 =>
      refine waits .nothing rfl (fun isConn => ?_) (.inl rfl)
      exact absurd rfl (kept isConn).1
    case h_12 => exact meets_pure fun _ holds => holds.1.1

theorem consume_stands {event : ConsumerEvent} (stands : Stands cfg reader hub)
    (kept : reader.connection = some handle → event ≠ .cancelled) :
    Stands cfg (reader.reads (handed reader.connection hub (.consume handle event now)))
      (consume handle event now hub).2 := by
  have nothing : reader.reads [] = reader := by
    unfold Reader.reads
    rw [List.append_nil]
  cases found : hub.handles[handle]? with
  | none =>
    have same : Meets (fun state => state = hub) (consume handle event now)
        fun _ state => state = hub := by
      refine meets_read fun cur => ?_
      cases cur with
      | none => exact meets_pure fun _ holds => holds.1
      | some cur =>
        rintro state ⟨rfl, isCurrent⟩
        rw [found] at isCurrent
        cases isCurrent
    have isNothing : handed reader.connection hub (.consume handle event now) = [] := by
      unfold handed
      split
      · rename_i isRequest
        cases isRequest
        simp [found]
      · rfl
    rw [show (consume handle event now hub).2 = hub from same hub rfl, isNothing, nothing]
    exact stands
  | some sub =>
    by_cases takes : reader.connection = some handle ∧ ∃ due next,
        event = .checked true due ∧ sub.waiting.atHand = some next
    · obtain ⟨isConn, due, next, rfl, isWaiting⟩ := takes
      have isHanded : handed reader.connection hub (.consume handle (.checked true due) now) =
          [next] := by
        simp [handed, isConn, found, isWaiting]
      have takes : Meets (fun state => state = hub) (consume handle (.checked true due) now)
          fun _ state => Stands cfg (reader.reads [next]) state := by
        refine meets_read fun cur => ?_
        cases cur with
        | none =>
          rintro state ⟨rfl, missing⟩
          rw [found] at missing
          cases missing
        | some cur =>
          by_cases same : sub = cur
          case neg =>
            rintro state ⟨rfl, isCurrent⟩
            exact absurd (some.inj (found.symm.trans isCurrent)) same
          subst same
          dsimp only
          split
          case h_4 =>
            refine meets_update ?_
            rintro state ⟨rfl, _⟩
            exact follows_taken stands isConn found isWaiting
          all_goals simp_all [Waiting.atHand]
      rw [isHanded]
      exact takes hub rfl
    · have isNothing : handed reader.connection hub (.consume handle event now) = [] := by
        unfold handed
        split
        · rename_i other due _ isRequest
          cases isRequest
          split_ifs with isConn
          · rw [found, bind_some]
            cases isWaiting : sub.waiting.atHand with
            | none => rfl
            | some next => exact absurd ⟨isConn, due, next, rfl, isWaiting⟩ takes
          · rfl
        · rfl
      rw [isNothing, nothing]
      refine keeps_stands_consume (fun isConn => ⟨kept isConn, ?_⟩) hub ⟨stands, found⟩
      rintro due rfl
      cases isWaiting : sub.waiting.atHand with
      | none => rfl
      | some next => exact absurd ⟨isConn, due, next, rfl, isWaiting⟩ takes

end Consuming

section Opening

variable {target : CameraLiveTarget} {sessionId : UUID} {authzVersion now : Int}

theorem register_handle {handle : Nat} (known : handle < hub.handles.length) :
    (register cameraId sessionId authzVersion now hub).handles[handle]? = hub.handles[handle]? :=
  List.getElem?_append_left known

theorem register_channel {other : UUID} :
    (register cameraId sessionId authzVersion now hub).channels.get other =
      if other = cameraId then (hub.channels.get cameraId).map fun chan => { chan with
        subscribers := chan.subscribers.set sessionId hub.handles.length
        lastAccess := now }
      else hub.channels.get other :=
  modify_channel_get cameraId other _

theorem stands_register (stands : Stands cfg reader hub) :
    Stands cfg reader (register cameraId sessionId authzVersion now hub) := by
  have known : ∀ handle, reader.connection = some handle → handle < hub.handles.length := by
    intro handle isConn
    obtain ⟨sub, found, _⟩ := stands.connected handle isConn
    exact (List.getElem?_eq_some_iff.mp found).1
  have next : (register cameraId sessionId authzVersion now hub).nextEventId = hub.nextEventId :=
    modify_channel_next _ _
  have log : reader.log (register cameraId sessionId authzVersion now hub) = reader.log hub := by
    unfold Reader.log Reader.held
    cases isConn : reader.connection with
    | none => rfl
    | some handle =>
      rw [bind_some, bind_some, register_handle (known handle isConn)]
  have found : ∀ other chan,
      (register cameraId sessionId authzVersion now hub).channels.get other = some chan →
      ∃ pre, hub.channels.get other = some pre ∧ chan.history = pre.history ∧
        chan.latestState = pre.latestState ∧
        chan.latestProbeEvent = pre.latestProbeEvent ∧
        ∀ session handle, chan.subscribers.get session = some handle →
          handle = hub.handles.length ∧ other = cameraId ∨
            pre.subscribers.get session = some handle := by
    intro other chan isChannel
    rw [register_channel] at isChannel
    split_ifs at isChannel with same
    · obtain ⟨pre, isBefore, rfl⟩ := map_eq_some_iff.mp isChannel
      refine ⟨pre, same ▸ isBefore, rfl, rfl, rfl, fun session handle isListed => ?_⟩
      rw [Dict.get_set] at isListed
      split_ifs at isListed
      · exact .inl ⟨(some.inj isListed).symm, same⟩
      · exact .inr isListed
    · exact ⟨chan, isChannel, rfl, rfl, rfl, fun _ _ isListed => .inr isListed⟩
  refine ⟨?_, ?_, ?_, ?_, ?_, ?_⟩
  · rw [log, next]
    exact stands.used
  · intro other session handle lists
    obtain ⟨chan, isChannel, isListed⟩ := bind_eq_some_iff.mp lists
    obtain ⟨pre, isBefore, _, _, _, listed⟩ := found other chan isChannel
    rcases listed session handle isListed with ⟨rfl, rfl⟩ | wasListed
    · exact ⟨{ cameraId := other, sessionId, authzVersion }, by simp [register], rfl⟩
    · obtain ⟨sub, isHandle, isCamera⟩ := stands.listed other session handle
        (bind_eq_some_iff.mpr ⟨pre, isBefore, wasListed⟩)
      refine ⟨sub, ?_, isCamera⟩
      rw [register_handle (List.getElem?_eq_some_iff.mp isHandle).1]
      exact isHandle
  · intro handle isConn
    rw [register_handle (known handle isConn)]
    exact stands.connected handle isConn
  · intro chan isChannel
    obtain ⟨pre, isBefore, history, state, probe, _⟩ := found _ chan isChannel
    obtain ⟨isHistory, latest, isProbe⟩ := stands.channel pre isBefore
    rw [next]
    refine ⟨?_, ?_, ?_⟩
    · rw [history]
      exact isHistory
    · rw [state, history]
      exact latest
    · rw [probe]
      exact isProbe
  · intro chan latest number isChannel isLatest
    obtain ⟨pre, isBefore, _, state, _⟩ := found _ chan isChannel
    rw [log]
    exact stands.resumes pre latest number isBefore (state ▸ isLatest)
  · intro handle sub chan latest isConn isHandle isOpen isChannel lists isLatest
    rw [register_handle (known handle isConn)] at isHandle
    rw [log]
    obtain ⟨pre, isBefore, _, state, _, listed⟩ := found _ chan isChannel
    obtain ⟨session, isListed⟩ := lists.resolve_right fun isOwed => isOwed rfl
    refine stands.current handle sub pre latest isConn isHandle isOpen isBefore ?_
      (state ▸ isLatest)
    rcases listed session handle isListed with ⟨rfl, _⟩ | wasListed
    · exact absurd (known _ isConn) (Nat.lt_irrefl _)
    · exact .inl ⟨session, wasListed⟩

theorem stands_stable_at {handle : Nat} (differ : reader.connection ≠ some handle) :
    StableAt (Stands cfg reader : CameraLiveUpdates Index Data → Prop) handle :=
  fun _ _ benign stands => follows_other_handle stands differ benign.cameraId

theorem stands_count_stable :
    CountStable (Stands cfg reader : CameraLiveUpdates Index Data → Prop) :=
  fun _ _ stands => follows_same stands rfl rfl (le_refl _)

/-- The part of `open` up to the registration: what `_replay` finds. -/
def prepareChannel [DecidableEq Data] (cfg : LiveSettings Index Data)
    (target : CameraLiveTarget) (initialAccess : Option Datetime) (now : Int) :
    LiveAction Index Data Unit := do
  getOrCreateChannel cfg target now
  update (·.modifyChannel target.cameraId fun chan =>
    { chan with latestAccessAt := initialAccess.or chan.latestAccessAt })
  let index ← Action.read (·.latestIndex)
  observeChannel cfg target.cameraId index

def registerAndReplay (cfg : LiveSettings Index Data) (target : CameraLiveTarget)
    (sessionId : UUID) (authzVersion : Int) (resumeFrom : Option Nat) (now : Int) :
    LiveAction Index Data Nat := do
  let handle ← Action.read (·.handles.length)
  update (register target.cameraId sessionId authzVersion now)
  update fun hub =>
    { hub with
      resumeRequestsTotal := hub.resumeRequestsTotal + if resumeFrom.isSome then 1 else 0 }
  (replay cfg target.cameraId handle resumeFrom).onError (aclose handle now)
  pure handle

theorem keeps_stands_prepare_channel [DecidableEq Data] :
    Keeps (Stands cfg reader) (prepareChannel cfg target initialAccess now) := by
  refine keeps_bind keeps_stands_get_or_create_channel fun _ => ?_
  refine keeps_bind (keeps_stands_fields (fun _ => rfl) (fun _ => rfl) (fun _ => rfl)
    fun _ => rfl) fun _ => ?_
  refine meets_read fun index => ?_
  exact meets_weaken stands_parts.observe_channel (fun _ holds => holds.1) fun _ _ holds => holds

theorem keeps_stands_register_and_replay {resumeFrom : Option Nat} :
    Keeps (Stands cfg reader)
      (registerAndReplay cfg target sessionId authzVersion resumeFrom now) := by
  refine meets_read fun handle => ?_
  refine @meets_bind _ _ _ _ _ _ (fun _ hub => Stands cfg reader hub ∧
    reader.connection ≠ some handle) _ _ (meets_update ?_) fun _ => ?_
  · rintro hub ⟨stands, rfl⟩
    refine ⟨stands_register stands, fun isConn => ?_⟩
    obtain ⟨sub, found, _⟩ := stands.connected _ isConn
    exact absurd (List.getElem?_eq_some_iff.mp found).1 (Nat.lt_irrefl _)
  by_cases isOwn : reader.connection = some handle
  · exact fun _ holds => absurd isOwn holds.2
  refine meets_weaken ?_ (fun _ holds => holds.1) fun _ _ holds => holds
  refine keeps_bind (meets_update fun _ stands => follows_same stands rfl rfl (le_refl _))
    fun _ => ?_
  refine keeps_bind ?_ fun _ => keeps_pure
  refine meets_weaken (meets_on_error (keeps_outcomes (keeps_replay (stands_stable_at isOwn)
    stands_count_stable) fun _ _ holds => holds) fun _ => keeps_stands_aclose)
    (fun _ holds => holds) ?_
  intro out hub holds
  cases out with
  | ok value => exact holds
  | error err => exact holds

theorem subscribe_parts [DecidableEq Data] {resumeFrom : Option Nat}
    {prop : CameraLiveUpdates Index Data → Prop}
    {after : Except LiveError Nat → CameraLiveUpdates Index Data → Prop}
    (rejects : ∀ err hub, prop hub → after (.error err)
      { hub with rejectedSubscriptionsTotal := hub.rejectedSubscriptionsTotal + 1 })
    (opens : Meets prop (prepareChannel cfg target initialAccess now >>= fun _ =>
      registerAndReplay cfg target sessionId authzVersion resumeFrom now) after) :
    Meets prop
      (subscribe cfg target sessionId authzVersion initialAccess resumeFrom now) after := by
  refine meets_any_read fun sessions => ?_
  by_cases isRegistered : sessions.contains sessionId = true
  · rw [if_pos isRegistered]
    exact fun hub holds => rejects _ hub holds
  rw [if_neg isRegistered]
  by_cases isFull : cfg.maxSubscriptions ≤ sessions.length
  · rw [if_pos isFull]
    exact fun hub holds => rejects _ hub holds
  rw [if_neg isFull]
  unfold prepareChannel at opens
  simp only [then_assoc] at opens
  exact opens

end Opening

end RtspProxy.Live
