import RtspProxy.Live.Registry
import RtspProxy.Live.Parts

/-!
# The sections of the hub keep its registry

From offering an event to one subscription up to a whole refresh. Offering fails
only for a subscription that is closed, or closes it; whoever drops a subscription
after that drops the one the session still has in this channel, because nothing is
registered while the subscribers of a channel are gone through.
-/

namespace RtspProxy.Live

open Nodes Probes Lib Lib.Action CameraLiveUpdates Dict

variable {Index Data : Type} {cfg : LiveSettings Index Data} {terms : Terms}

/-- The property does not look at what happens inside a subscription. -/
def HandleStable (prop : CameraLiveUpdates Index Data → Prop) : Prop :=
  ∀ (hub : CameraLiveUpdates Index Data) (handle : Nat)
    (change : CameraLiveSubscription Data → CameraLiveSubscription Data),
    Benign change → prop hub → prop (hub.modifyHandle handle change)

def StableAt (prop : CameraLiveUpdates Index Data → Prop) (handle : Nat) : Prop :=
  ∀ (hub : CameraLiveUpdates Index Data)
    (change : CameraLiveSubscription Data → CameraLiveSubscription Data),
    Benign change → prop hub → prop (hub.modifyHandle handle change)

theorem stable_at {prop : CameraLiveUpdates Index Data → Prop} (stable : HandleStable prop)
    (handle : Nat) : StableAt prop handle :=
  fun hub change => stable hub handle change

theorem registry_handle_stable :
    HandleStable (Registry cfg terms : CameraLiveUpdates Index Data → Prop) :=
  fun _ handle _ benign reg => registry_handle reg handle benign

/-- A subscription that did not take what it was offered is closed. -/
def Refused (handle : Nat) (hub : CameraLiveUpdates Index Data) : Prop :=
  ∀ sub, hub.handles[handle]? = some sub → sub.closed = true

/-- The postcondition of an offer. -/
abbrev Answered (prop : CameraLiveUpdates Index Data → Prop) (handle : Nat) :
    Except LiveError Bool → CameraLiveUpdates Index Data → Prop :=
  Outcomes (fun taken hub => prop hub ∧ (taken = false → Refused handle hub)) fun _ => prop

variable {hub : CameraLiveUpdates Index Data}

variable {handle : Nat}

theorem refused_closing {change : CameraLiveSubscription Data → CameraLiveSubscription Data}
    (closes : ∀ sub, (change sub).closed = true) :
    Refused handle (hub.modifyHandle handle change) := by
  intro sub found
  unfold CameraLiveUpdates.modifyHandle at found
  rw [List.getElem?_modify] at found
  obtain ⟨pre, _, rfl⟩ := Option.map_eq_some_iff.mp found
  simp [closes]

section Offers

variable {prop : CameraLiveUpdates Index Data → Prop} {handle : Nat}
  {event : CameraLiveEvent Data}

variable (stable : StableAt prop handle)

include stable

theorem meets_offer :
    Meets prop (offer cfg handle event) (Answered prop handle) := by
  refine meets_read fun found => ?_
  cases found with
  | none =>
    refine meets_pure ?_
    rintro hub ⟨holds, missing⟩
    refine ⟨holds, fun _ sub found => ?_⟩
    rw [missing] at found
    cases found
  | some sub =>
    dsimp only
    split_ifs with isClosed isFull
    · refine meets_pure ?_
      rintro hub ⟨holds, isHandle⟩
      refine ⟨holds, fun _ other found => ?_⟩
      rw [isHandle] at found
      cases found
      exact isClosed
    · rintro hub ⟨holds, _⟩
      refine ⟨stable hub _ ⟨fun _ => rfl, fun _ => rfl, fun _ _ => rfl⟩ holds, ?_⟩
      exact fun _ => refused_closing fun _ => rfl
    · rintro hub ⟨holds, _⟩
      refine ⟨stable hub _ ⟨fun _ => rfl, fun _ => rfl, fun _ closed => closed⟩ holds, ?_⟩
      intro impossible
      cases impossible

theorem meets_start_new_epoch :
    Meets prop (startNewEpoch cfg handle event) (Answered prop handle) := by
  refine meets_read fun found => ?_
  cases found with
  | none =>
    refine meets_pure ?_
    rintro hub ⟨holds, missing⟩
    refine ⟨holds, fun _ sub found => ?_⟩
    rw [missing] at found
    cases found
  | some sub =>
    dsimp only
    split_ifs with isClosed
    · refine meets_pure ?_
      rintro hub ⟨holds, isHandle⟩
      refine ⟨holds, fun _ other found => ?_⟩
      rw [isHandle] at found
      cases found
      exact isClosed
    · rintro hub ⟨holds, _⟩
      refine meets_offer stable _ ?_
      exact stable hub _ ⟨fun _ => rfl, fun _ => rfl, fun _ closed => closed⟩ holds

theorem keeps_offer :
    Keeps prop (offer cfg handle event) := by
  refine meets_weaken (meets_offer stable) (fun _ holds => holds) ?_
  intro out hub answered
  cases out with
  | ok taken => exact answered.1
  | error err => exact answered

theorem keeps_offer_to :
    Keeps prop (offerTo cfg handle event) :=
  keeps_bind (keeps_offer stable) fun _ => keeps_pure

omit stable

end Offers

/-- Whatever the sessions of these subscribers have registered is what is listed here. -/
def Following (cfg : LiveSettings Index Data) (terms : Terms) (cameraId : UUID)
    (subscribers : List (UUID × Nat)) (hub : CameraLiveUpdates Index Data) : Prop :=
  Registry cfg terms hub ∧ ∀ item ∈ subscribers, ∀ handle,
    hub.sessionSubscriptions.get item.1 = some handle → handle = item.2 ∧
      ∃ sub, hub.handles[handle]? = some sub ∧ sub.cameraId = cameraId

section Following

variable {cameraId : UUID} {subscribers : List (UUID × Nat)}

theorem following_handle_stable :
    HandleStable (Following cfg terms cameraId subscribers :
      CameraLiveUpdates Index Data → Prop) := by
  rintro hub handle change benign ⟨reg, follows⟩
  refine ⟨registry_handle reg handle benign, ?_⟩
  intro item mem other found
  obtain ⟨same, pre, isBefore, isCamera⟩ := follows item mem other found
  obtain ⟨sub, isModified, sameCamera, _⟩ := handle_modified benign isBefore
  exact ⟨same, sub, isModified, sameCamera.trans isCamera⟩

theorem following_subscribers (reg : Registry cfg terms hub) :
    Following cfg terms cameraId (subscribersOf cameraId hub) hub := by
  refine ⟨reg, ?_⟩
  intro item mem handle found
  have lists : subscriberAt hub cameraId item.1 = some item.2 := by
    unfold subscribersOf at mem
    unfold subscriberAt
    split at mem
    · cases mem
    · rename_i chan isChannel
      rw [isChannel]
      exact get_eq_some.mpr mem
  obtain ⟨registered, sub, isHandle, isCamera⟩ := reg.listed _ _ _ lists
  rw [registered] at found
  cases found
  exact ⟨rfl, sub, isHandle, isCamera⟩

theorem meets_drop_slow {item : UUID × Nat} (mem : item ∈ subscribers) :
    Meets (fun hub : CameraLiveUpdates Index Data =>
        Following cfg terms cameraId subscribers hub ∧ Refused item.2 hub)
      (dropSlow cameraId item.1) fun _ => Following cfg terms cameraId subscribers := by
  refine meets_update ?_
  rintro hub ⟨⟨reg, follows⟩, refused⟩
  have dropped : Registry cfg terms (hub.unregister cameraId item.1) := by
    refine registry_unregister reg ?_
    intro handle found
    obtain ⟨same, sub, isHandle, isCamera⟩ := follows item mem handle found
    exact ⟨sub, isHandle, isCamera, fun _ => refused sub (same ▸ isHandle)⟩
  refine ⟨registry_same dropped rfl rfl rfl rfl (le_refl _), ?_⟩
  intro other otherMember handle found
  have pre : hub.sessionSubscriptions.get other.1 = some handle := by
    have popped : (hub.sessionSubscriptions.pop item.1).get other.1 = some handle := found
    rw [get_pop] at popped
    split_ifs at popped
    exact popped
  obtain ⟨same, sub, isHandle, isCamera⟩ := follows other otherMember handle pre
  refine ⟨same, sub, ?_, isCamera⟩
  change (hub.unregister cameraId item.1).handles[handle]? = some sub
  rw [show (hub.unregister cameraId item.1).handles = hub.handles from modify_channel_handles _ _]
  exact isHandle

theorem keeps_offer_or_drop {item : UUID × Nat} (mem : item ∈ subscribers)
    {offers : LiveAction Index Data Bool}
    (answers : Meets (Following cfg terms cameraId subscribers) offers
      (Answered (Following cfg terms cameraId subscribers) item.2)) :
    Keeps (Following cfg terms cameraId subscribers)
      (do
        let taken ← offers
        if taken then pure () else dropSlow cameraId item.1) := by
  refine @meets_bind _ _ _ _ _ _ (fun taken hub => Following cfg terms cameraId subscribers hub ∧
    (taken = false → Refused item.2 hub)) _ _ answers ?_
  intro taken
  split_ifs with isTaken
  · exact meets_pure fun _ holds => holds.1
  · refine meets_weaken (meets_drop_slow mem) ?_ (fun _ _ holds => holds)
    rintro hub ⟨follows, refuses⟩
    exact ⟨follows, refuses (Bool.eq_false_iff.mpr isTaken)⟩

end Following

/-- The identifier was the last one given out, and no event of the channel has it. -/
def Fresh (cfg : LiveSettings Index Data) (cameraId : UUID) (eventId : Nat)
    (hub : CameraLiveUpdates Index Data) : Prop :=
  hub.nextEventId = eventId + 1 ∧ ∀ chan, hub.channels.get cameraId = some chan →
    HistoryHolds cfg.historySize eventId chan.history

theorem meets_allocate_event_id (cameraId : UUID) :
    Meets (Registry cfg terms : CameraLiveUpdates Index Data → Prop) allocateEventId
      (Outcomes (fun eventId hub => Registry cfg terms hub ∧
        Fresh cfg cameraId eventId hub) fun _ => Registry cfg terms) := by
  refine meets_read fun next => ?_
  split_ifs
  · exact meets_raise fun _ holds => holds.1
  · rintro hub ⟨reg, isNext⟩
    refine ⟨registry_same reg rfl rfl rfl rfl (Nat.le_succ _), congrArg (· + 1) isNext, ?_⟩
    intro chan found
    rw [← isNext]
    exact reg.histories cameraId chan found

variable {cameraId : UUID} {event : CameraLiveEvent Data}

theorem keeps_publish {eventId : Nat} (isId : event.eventId = some eventId) :
    Meets (fun hub : CameraLiveUpdates Index Data =>
        Registry cfg terms hub ∧ Fresh cfg cameraId eventId hub)
      (publish cfg cameraId event) fun _ => Registry cfg terms := by
  refine @meets_bind _ _ _ _ _ _ (fun _ => Registry cfg terms) _ _ ?_ ?_
  · refine meets_update ?_
    rintro hub ⟨reg, isNext, history⟩
    refine registry_channel reg (fun _ => rfl) (reg.targets cameraId) ?_
    intro chan found
    rw [isNext]
    exact history_push (history chan found) isId
  · intro _
    refine meets_read fun subscribers => ?_
    refine meets_weaken (keeps_for_each (@fun item mem => keeps_offer_or_drop mem
      (meets_offer (stable_at following_handle_stable _)))) ?_ (fun _ _ holds => holds.1)
    rintro hub ⟨reg, rfl⟩
    exact following_subscribers reg

theorem keeps_start_channel_epoch {reason : String} :
    Keeps (Registry cfg terms) (startChannelEpoch cfg cameraId reason) := by
  refine keeps_bind ?_ ?_
  · refine meets_update ?_
    intro hub reg
    exact registry_channel reg (fun _ => rfl) (reg.targets cameraId)
      fun _ _ => history_nil
  · intro _
    refine meets_read fun subscribers => ?_
    have loop : Keeps (Following cfg terms cameraId subscribers) (forEach subscribers
        fun subscriber => (do
          update fun hub => { hub with resyncRequiredTotal := hub.resyncRequiredTotal + 1 }
          let taken ← startNewEpoch cfg subscriber.2 (resyncEvent reason)
          if taken then pure ()
          else dropSlow cameraId subscriber.1 : LiveAction Index Data Unit)) := by
      refine keeps_for_each fun item mem => keeps_bind ?_ fun _ =>
        keeps_offer_or_drop mem (meets_start_new_epoch (stable_at following_handle_stable _))
      refine meets_update ?_
      rintro hub ⟨reg, follows⟩
      exact ⟨registry_same reg rfl rfl rfl rfl (le_refl _), follows⟩
    refine meets_weaken loop ?_ (fun _ _ holds => holds.1)
    rintro hub ⟨reg, rfl⟩
    exact following_subscribers reg

theorem keeps_channel_fields {change : CameraChannel Data → CameraChannel Data}
    (subscribers : ∀ chan, (change chan).subscribers = chan.subscribers)
    (target : ∀ chan, (change chan).target = chan.target)
    (history : ∀ chan, (change chan).history.Sublist chan.history) :
    Keeps (Registry cfg terms)
      (update (·.modifyChannel cameraId change) : LiveAction Index Data Unit) := by
  refine meets_update ?_
  intro hub reg
  refine registry_channel reg subscribers ?_ ?_
  · intro chan found
    rw [target]
    exact reg.targets cameraId chan found
  · intro chan found
    exact history_sublist (reg.histories cameraId chan found) (history chan)

theorem keeps_announce {event : Nat → CameraLiveEvent Data}
    {change : Nat → CameraChannel Data → CameraChannel Data}
    (isId : ∀ eventId, (event eventId).eventId = some eventId)
    (subscribers : ∀ eventId chan, (change eventId chan).subscribers = chan.subscribers)
    (target : ∀ eventId chan, (change eventId chan).target = chan.target)
    (history : ∀ eventId chan, (change eventId chan).history.Sublist chan.history) :
    Keeps (Registry cfg terms) (do
      let eventId ← allocateEventId
      update (·.modifyChannel cameraId (change eventId))
      publish cfg cameraId (event eventId) : LiveAction Index Data Unit) := by
  refine @meets_bind _ _ _ _ _ _
    (fun eventId hub => Registry cfg terms hub ∧ Fresh cfg cameraId eventId hub) _ _
    (meets_allocate_event_id cameraId) ?_
  · intro eventId
    refine @meets_bind _ _ _ _ _ _
      (fun _ hub => Registry cfg terms hub ∧ Fresh cfg cameraId eventId hub) _ _ ?_
      (fun _ => keeps_publish (isId eventId))
    refine meets_update ?_
    rintro hub ⟨reg, isNext, fresh⟩
    refine ⟨keeps_channel_fields (subscribers eventId) (target eventId) (history eventId) hub
      reg, ?_, ?_⟩
    · rw [modify_channel_next]
      exact isNext
    · intro chan found
      rw [modify_channel_get, if_pos rfl] at found
      obtain ⟨pre, isBefore, rfl⟩ := Option.map_eq_some_iff.mp found
      exact history_sublist (fresh pre isBefore) (history eventId pre)

variable {target : CameraLiveTarget}

theorem keeps_retarget :
    Keeps (Registry cfg terms) (retarget cfg target : LiveAction Index Data Unit) := by
  refine keeps_bind ?_ fun _ => keeps_start_channel_epoch
  refine meets_update ?_
  intro hub reg
  exact registry_channel reg (fun _ => rfl) (fun _ _ => rfl)
    (reg.histories target.cameraId)

variable {now : Int}

theorem keeps_expire_inactive_channels :
    Keeps (Registry cfg terms)
      (expireInactiveChannels cfg now : LiveAction Index Data Unit) := by
  refine meets_read fun channels => ?_
  -- Dropping one inactive channel leaves the others as they were read.
  have loop : Keeps (fun hub : CameraLiveUpdates Index Data => Registry cfg terms hub ∧
      ∀ cameraId chan, hub.channels.get cameraId = some chan →
        channels.get cameraId = some chan) (forEach (channels.items.filter fun item =>
        item.2.subscribers.items.isEmpty && decide (cfg.channelTtl ≤ now - item.2.lastAccess))
        fun item => (update fun hub => { hub with channels := hub.channels.pop item.1 } :
          LiveAction Index Data Unit)) := by
    refine keeps_for_each fun item mem => meets_update ?_
    rintro hub ⟨reg, asRead⟩
    obtain ⟨isItem, expired⟩ := List.mem_filter.mp mem
    refine ⟨registry_pop_channel reg ?_, ?_⟩
    · intro chan found
      have same := asRead item.1 chan found
      rw [get_eq_some.mpr (show (item.1, item.2) ∈ channels.items from isItem)] at same
      cases same
      exact List.isEmpty_iff.mp (Bool.and_eq_true_iff.mp expired).1
    · intro cameraId chan found
      rw [get_pop] at found
      split_ifs at found
      exact asRead cameraId chan found
  refine meets_weaken loop ?_ (fun _ _ holds => holds.1)
  rintro hub ⟨reg, rfl⟩
  exact ⟨reg, fun _ _ found => found⟩

theorem registry_parts :
    ChannelParts cfg (Registry cfg terms : CameraLiveUpdates Index Data → Prop) where
  index _ := meets_update fun _ reg => registry_same reg rfl rfl rfl rfl (le_refl _)
  completed _ := meets_update fun _ reg => registry_same reg rfl rfl rfl rfl (le_refl _)
  aside _ _ isAside := keeps_channel_fields isAside.subscribers isAside.target
    fun chan => (isAside.history chan) ▸ List.Sublist.refl _
  state _ _ _ := keeps_announce (fun _ => rfl) (fun _ _ => rfl) (fun _ _ => rfl)
    fun _ _ => List.Sublist.refl _
  cleared cameraId := by
    refine keeps_bind (keeps_channel_fields (fun _ => rfl) (fun _ => rfl)
      fun _ => List.filter_sublist) fun _ => ?_
    exact @meets_bind _ _ _ _ _ _ (fun eventId hub => Registry cfg terms hub ∧
      Fresh cfg cameraId eventId hub) _ _ (meets_allocate_event_id cameraId)
      fun eventId => keeps_publish rfl
  probe _ _ := keeps_announce (fun _ => rfl) (fun _ _ => rfl) (fun _ _ => rfl)
    fun _ _ => List.filter_sublist
  epoch _ _ := keeps_start_channel_epoch
  retargeted _ := keeps_retarget
  expired _ := keeps_expire_inactive_channels

theorem oldest_channel_mem {channels : List (CameraChannel Data)} {oldest : CameraChannel Data}
    (isOldest : oldestChannel channels = some oldest) : oldest ∈ channels := by
  induction channels with
  | nil => cases isOldest
  | cons chan rest ih =>
    unfold oldestChannel at isOldest
    split at isOldest
    · cases isOldest
      exact List.mem_cons_self
    · rename_i other isOther
      split_ifs at isOldest
      · cases isOldest
        exact List.mem_cons_of_mem _ (ih isOther)
      · cases isOldest
        exact List.mem_cons_self

theorem keeps_evict_inactive_channel :
    Keeps (fun hub : CameraLiveUpdates Index Data =>
        Registry cfg terms hub ∧ hub.channels.get cameraId = none)
      (evictInactiveChannel cfg) := by
  refine meets_read fun channels => ?_
  split_ifs
  · exact meets_pure fun _ holds => holds.1
  · cases isOldest : oldestChannel (channels.values.filter (·.subscribers.items.isEmpty)) with
    | none => exact meets_pure fun _ holds => holds.1
    | some oldest =>
      refine meets_update ?_
      rintro hub ⟨⟨reg, absent⟩, rfl⟩
      obtain ⟨isValue, unfollowed⟩ := List.mem_filter.mp (oldest_channel_mem isOldest)
      obtain ⟨key, found⟩ := mem_values.mp isValue
      have isKey := reg.targets key oldest found
      refine ⟨registry_pop_channel reg ?_, ?_⟩
      · intro chan isChannel
        rw [isKey, found] at isChannel
        cases isChannel
        exact List.isEmpty_iff.mp unfollowed
      · change (hub.channels.pop oldest.target.cameraId).get cameraId = none
        rw [get_pop]
        split_ifs
        · rfl
        · exact absent

def Tracked (cameraId : UUID) (hub : CameraLiveUpdates Index Data) : Prop :=
  hub.channels.get cameraId ≠ none

variable {sessionId : UUID}

section Tracking

variable {cameraId other : UUID}

theorem tracked_modify {change : CameraChannel Data → CameraChannel Data}
    (tracked : Tracked cameraId hub) : Tracked cameraId (hub.modifyChannel other change) := by
  unfold Tracked at tracked ⊢
  rw [modify_channel_get]
  split_ifs with same
  · rw [← same]
    simpa using tracked
  · exact tracked

theorem tracked_handle_stable :
    HandleStable (Tracked cameraId : CameraLiveUpdates Index Data → Prop) :=
  fun _ _ _ _ tracked => tracked

theorem keeps_tracked_offer_or_drop {offers : LiveAction Index Data Bool}
    (keeps : Keeps (Tracked cameraId) offers) :
    Keeps (Tracked cameraId) (do
      let taken ← offers
      if taken then pure () else dropSlow other sessionId) := by
  refine keeps_bind keeps fun taken => ?_
  split_ifs
  · exact keeps_pure
  · exact meets_update fun _ tracked => tracked_modify tracked

theorem keeps_tracked_start_new_epoch :
    Keeps (Tracked cameraId)
      (startNewEpoch cfg handle event : LiveAction Index Data Bool) := by
  refine meets_weaken (meets_start_new_epoch (stable_at tracked_handle_stable _))
    (fun _ holds => holds) ?_
  intro out hub answered
  cases out with
  | ok taken => exact answered.1
  | error err => exact answered

theorem keeps_tracked_start_channel_epoch {reason : String} :
    Keeps (Tracked cameraId)
      (startChannelEpoch cfg other reason : LiveAction Index Data Unit) := by
  refine keeps_bind (meets_update fun _ tracked => tracked_modify tracked) fun _ => ?_
  refine meets_any_read fun subscribers => ?_
  refine keeps_for_each fun item _ => keeps_bind (fun _ tracked => tracked) fun _ => ?_
  exact keeps_tracked_offer_or_drop keeps_tracked_start_new_epoch

theorem keeps_tracked_publish :
    Keeps (Tracked cameraId) (publish cfg other event : LiveAction Index Data Unit) := by
  refine keeps_bind (meets_update fun _ tracked => tracked_modify tracked) fun _ => ?_
  refine meets_any_read fun subscribers => ?_
  exact keeps_for_each fun item _ =>
    keeps_tracked_offer_or_drop (keeps_offer (stable_at tracked_handle_stable _))

theorem keeps_tracked_observe_channel [DecidableEq Data] {index : Option Index} :
    Keeps (Tracked cameraId) (observeChannel cfg other index) := by
  refine meets_any_read fun found => ?_
  cases found with
  | none => exact keeps_pure
  | some chan =>
    dsimp only
    split_ifs
    · exact keeps_pure
    · exact keeps_pure
    · refine keeps_bind ?_ fun _ =>
        keeps_bind (meets_update fun _ tracked => tracked_modify tracked) fun _ =>
          keeps_tracked_publish
      refine meets_read fun next => ?_
      split_ifs
      · exact meets_raise fun _ holds => holds.1
      · rintro hub ⟨tracked, _⟩
        exact tracked

end Tracking

theorem meets_get_or_create_channel :
    Meets (Registry cfg terms) (getOrCreateChannel cfg target now)
      (Outcomes (fun _ (hub : CameraLiveUpdates Index Data) => Registry cfg terms hub ∧
        Tracked target.cameraId hub) fun _ => Registry cfg terms) := by
  refine @meets_bind _ _ _ _ _ _ (fun _ => Registry cfg terms) _ _
    (keeps_outcomes keeps_expire_inactive_channels fun _ _ holds => holds) fun _ => ?_
  refine meets_read fun found => ?_
  cases found with
  | none =>
    refine @meets_bind _ _ _ _ _ _ (fun _ hub => Registry cfg terms hub ∧
      hub.channels.get target.cameraId = none) _ _
      (keeps_outcomes keeps_evict_inactive_channel fun _ _ holds => holds.1) fun _ => ?_
    refine meets_read fun tracked => ?_
    split_ifs with isFull
    · exact meets_raise fun _ holds => holds.1.1
    · refine meets_update ?_
      rintro hub ⟨⟨reg, absent⟩, rfl⟩
      refine ⟨registry_new_channel reg absent (Nat.lt_of_not_le isFull) now, ?_⟩
      unfold Tracked
      rw [get_set_self]
      exact Option.some_ne_none _
  | some chan =>
    dsimp only
    split_ifs
    · exact meets_raise fun _ holds => holds.1
    · have keepsTracked : Keeps (Tracked target.cameraId)
          (retarget cfg target : LiveAction Index Data Unit) :=
        keeps_bind (meets_update fun _ tracked => tracked_modify tracked) fun _ =>
          keeps_tracked_start_channel_epoch
      refine meets_weaken (keeps_outcomes (keeps_and keeps_retarget keepsTracked)
        fun _ _ holds => holds.1) ?_ fun _ _ holds => holds
      rintro hub ⟨reg, isChannel⟩
      refine ⟨reg, ?_⟩
      unfold Tracked
      rw [isChannel]
      exact Option.some_ne_none _
    · refine meets_pure ?_
      rintro hub ⟨reg, isChannel⟩
      refine ⟨reg, ?_⟩
      unfold Tracked
      rw [isChannel]
      exact Option.some_ne_none _

section Replay

variable {prop : CameraLiveUpdates Index Data → Prop} {handle : Nat}

def CountStable (prop : CameraLiveUpdates Index Data → Prop) : Prop :=
  ∀ (hub : CameraLiveUpdates Index Data) (count : Nat), prop hub →
    prop { hub with resyncRequiredTotal := count }

theorem keeps_replay_missed (stable : StableAt prop handle) {events : List (CameraLiveEvent Data)} :
    Keeps prop (replayMissed cfg handle events) := by
  induction events with
  | nil => exact keeps_pure
  | cons event rest ih =>
    refine keeps_bind (keeps_offer stable) fun taken => ?_
    split_ifs
    · exact ih
    · exact keeps_pure

theorem keeps_replay_resync (stable : StableAt prop handle) (counts : CountStable prop) :
    Keeps prop
      (replayResync cfg handle : LiveAction Index Data Unit) := by
  refine keeps_bind ?_ fun _ => keeps_offer_to stable
  exact meets_update fun hub holds => counts hub _ holds

theorem keeps_replay_latest (stable : StableAt prop handle) {chan : CameraChannel Data} :
    Keeps prop
      (replayLatest cfg chan handle : LiveAction Index Data Unit) := by
  refine keeps_bind ?_ fun _ => ?_
  · cases chan.latestState with
    | none => exact keeps_pure
    | some event => exact keeps_offer_to stable
  · cases chan.latestProbeEvent with
    | none => exact keeps_pure
    | some event =>
      refine keeps_bind ?_ fun free => ?_
      · refine meets_read fun found => ?_
        cases found with
        | none => exact meets_pure fun _ holds => holds.1
        | some sub => exact meets_pure fun _ holds => holds.1
      · split_ifs
        · exact keeps_offer_to stable
        · exact keeps_pure

theorem keeps_replay (stable : StableAt prop handle) (counts : CountStable prop)
    {resumeFrom : Option Nat} :
    Keeps prop
      (replay cfg cameraId handle resumeFrom : LiveAction Index Data Unit) := by
  refine meets_any_read fun found => ?_
  cases found with
  | none => exact keeps_pure
  | some chan =>
    dsimp only
    split
    · exact keeps_replay_latest stable
    · split
      · split
        · split_ifs
          · exact keeps_replay_resync stable counts
          · exact keeps_replay_resync stable counts
          · exact keeps_replay_missed stable
        · exact keeps_raise
      · exact keeps_replay_resync stable counts

end Replay

/-- Only the subscription itself, or one of its session in the same channel, is found under the
session; with `own` only the subscription itself. -/
def FindsOwn (terms : Terms) (handle : Nat) (hub : CameraLiveUpdates Index Data) : Prop :=
  ∀ sub, hub.handles[handle]? = some sub →
    ∀ found, hub.sessionSubscriptions.get sub.sessionId = some found →
      (terms.own → found = handle) ∧ ∀ other, hub.handles[found]? = some other →
        other.cameraId = sub.cameraId

section Closing

variable {handle : Nat} {now : Int}

theorem registry_remove (dropped : Registry cfg terms (hub.unregister cameraId sessionId)) :
    Registry cfg terms ((hub.unregister cameraId sessionId).modifyChannel cameraId
      fun chan => { chan with lastAccess := now }) :=
  registry_channel dropped (fun _ => rfl) (dropped.targets cameraId) (dropped.histories cameraId)

theorem registry_close {sub : CameraLiveSubscription Data}
    {change : CameraLiveSubscription Data → CameraLiveSubscription Data}
    (reg : Registry cfg terms hub) (finds : FindsOwn terms handle hub)
    (isHandle : hub.handles[handle]? = some sub) (benign : Benign change)
    (closes : ∀ cur, (change cur).closed = true) :
    Registry cfg terms ((hub.modifyHandle handle change).unregister sub.cameraId
      sub.sessionId) := by
  refine registry_unregister (registry_handle reg handle benign) ?_
  intro found isFound
  obtain ⟨isOwn, sameCamera⟩ := finds sub isHandle found isFound
  obtain ⟨pre, isBefore, _⟩ := reg.mapped _ found isFound
  obtain ⟨after, isAfter, afterCamera, _⟩ :=
    @handle_modified _ _ _ change handle found benign pre isBefore
  refine ⟨after, isAfter, afterCamera.trans (sameCamera pre isBefore), ?_⟩
  intro own
  exact refused_closing closes after (isOwn own ▸ isAfter)

theorem meets_aclose :
    Meets (fun hub : CameraLiveUpdates Index Data => Registry cfg terms hub ∧
        ∀ sub, hub.handles[handle]? = some sub →
          ¬(sub.closed ∧ sub.terminalEvent.isNone) → FindsOwn terms handle hub)
      (aclose handle now) fun _ => Registry cfg terms := by
  refine meets_read fun found => ?_
  cases found with
  | none => exact meets_pure fun _ holds => holds.1.1
  | some sub =>
    dsimp only
    split_ifs with isDone
    · exact meets_pure fun _ holds => holds.1.1
    · rintro hub ⟨⟨reg, finds⟩, isHandle⟩
      exact registry_remove (registry_close reg (finds sub isHandle isDone) isHandle
        ⟨fun _ => rfl, fun _ => rfl, fun _ _ => rfl⟩ fun _ => rfl)

theorem meets_close_for_authz_change :
    Meets (fun hub : CameraLiveUpdates Index Data =>
        Registry cfg terms hub ∧ FindsOwn terms handle hub)
      (closeForAuthzChange handle now) fun _ => Registry cfg terms := by
  refine meets_read fun found => ?_
  cases found with
  | none => exact meets_pure fun _ holds => holds.1.1
  | some sub =>
    rintro hub ⟨⟨reg, finds⟩, isHandle⟩
    -- Counting the disconnect first makes no difference.
    have counted : Registry cfg terms
        { hub with authzDisconnectsTotal := hub.authzDisconnectsTotal + 1 } :=
      registry_same reg rfl rfl rfl rfl (le_refl _)
    exact registry_remove (registry_close counted finds isHandle
      ⟨fun _ => rfl, fun _ => rfl, fun _ _ => rfl⟩ fun _ => rfl)

end Closing

variable {initialAccess : Option Datetime}

section Opening

variable {own : Prop}

/-- The terms every section starts and ends with. -/
abbrev standing (cfg : LiveSettings Index Data) (own : Prop) : Terms :=
  ⟨own, cfg.maxSubscriptions, fun _ => False⟩

/-- Until a new subscription is in: its session has none and there is room for one more. -/
abbrev expecting (cfg : LiveSettings Index Data) (own : Prop) (sessionId : UUID) : Terms :=
  ⟨own, cfg.maxSubscriptions - 1, fun session => session = sessionId⟩

theorem registry_expecting (reg : Registry cfg (standing cfg own) hub)
    (unregistered : hub.sessionSubscriptions.get sessionId = none)
    (room : hub.sessionSubscriptions.length < cfg.maxSubscriptions) :
    Registry cfg (expecting cfg own sessionId) hub := by
  refine ⟨reg.mapped, reg.listed, reg.epochs, Nat.le_sub_one_of_lt room, ?_,
    reg.channelLimit, reg.targets, reg.histories, reg.opened⟩
  rintro session rfl
  exact unregistered

theorem registry_standing (reg : Registry cfg (expecting cfg own sessionId) hub) :
    Registry cfg (standing cfg own) hub :=
  ⟨reg.mapped, reg.listed, reg.epochs,
    reg.sessionLimit.trans (Nat.sub_le _ _), fun _ impossible => impossible.elim,
    reg.channelLimit, reg.targets, reg.histories, reg.opened⟩

def RegisteredAs (handle : Nat) (sessionId : UUID) (hub : CameraLiveUpdates Index Data) : Prop :=
  hub.sessionSubscriptions.get sessionId = some handle ∧
    ∃ sub, hub.handles[handle]? = some sub ∧ sub.sessionId = sessionId

theorem registered_handle_stable :
    HandleStable (RegisteredAs handle sessionId : CameraLiveUpdates Index Data → Prop) := by
  rintro hub changed change benign ⟨registered, sub, isHandle, isSession⟩
  obtain ⟨after, isAfter, _, sameSession⟩ :=
    @handle_modified _ _ _ change changed handle benign sub isHandle
  exact ⟨registered, after, isAfter, sameSession.trans isSession⟩

theorem finds_own_of_registered (registered : RegisteredAs handle sessionId hub) :
    FindsOwn terms handle hub := by
  intro sub isHandle found isFound
  obtain ⟨isRegistered, own, isOwn, isSession⟩ := registered
  rw [isHandle] at isOwn
  cases isOwn
  rw [isSession, isRegistered] at isFound
  cases isFound
  refine ⟨fun _ => rfl, ?_⟩
  intro other isOther
  rw [isHandle] at isOther
  cases isOther
  rfl

variable {authzVersion : Int}

theorem meets_register_and_replay {resumeFrom : Option Nat} :
    Meets (fun hub => Registry cfg (expecting cfg own sessionId) hub ∧ Tracked target.cameraId hub)
      (do
        let handle ← read (·.handles.length)
        update (register target.cameraId sessionId authzVersion now)
        update fun hub =>
          { hub with
            resumeRequestsTotal := hub.resumeRequestsTotal + if resumeFrom.isSome then 1 else 0 }
        (replay cfg target.cameraId handle resumeFrom).onError (aclose handle now)
        pure handle : LiveAction Index Data Nat)
      fun _ => Registry cfg (standing cfg own) := by
  refine meets_read fun handle => ?_
  refine @meets_bind _ _ _ _ _ _ (fun _ hub => Registry cfg (standing cfg own) hub ∧
    RegisteredAs handle sessionId hub) _ _ ?_ fun _ => ?_
  · refine meets_update ?_
    rintro hub ⟨⟨reg, tracked⟩, rfl⟩
    have positive : cfg.maxSubscriptions - 1 + 1 = cfg.maxSubscriptions :=
      Nat.sub_add_cancel cfg.sizesValid.2.2.1.1
    have registered := registry_register reg tracked authzVersion now
    rw [positive] at registered
    refine ⟨registered, get_set_self _ _ _, ?_⟩
    exact ⟨{ cameraId := target.cameraId, sessionId, authzVersion }, by simp [register], rfl⟩
  refine meets_bind_keeps ?_ (fun _ _ holds => holds.1) fun _ => ?_
  · refine meets_update ?_
    rintro hub ⟨reg, registered⟩
    exact ⟨registry_same reg rfl rfl rfl rfl (le_refl _), registered⟩
  have stable : HandleStable fun hub : CameraLiveUpdates Index Data =>
      Registry cfg (standing cfg own) hub ∧ RegisteredAs handle sessionId hub :=
    fun hub changed change benign holds => ⟨registry_handle_stable hub changed change benign holds.1,
      registered_handle_stable hub changed change benign holds.2⟩
  have counts : CountStable fun hub : CameraLiveUpdates Index Data =>
      Registry cfg (standing cfg own) hub ∧ RegisteredAs handle sessionId hub :=
    fun _ _ holds => ⟨registry_same holds.1 rfl rfl rfl rfl (le_refl _), holds.2⟩
  have closes : Meets (fun hub : CameraLiveUpdates Index Data =>
      Registry cfg (standing cfg own) hub ∧ RegisteredAs handle sessionId hub)
      (aclose handle now) fun _ => Registry cfg (standing cfg own) := by
    refine meets_weaken meets_aclose ?_ fun _ _ holds => holds
    rintro hub ⟨reg, registered⟩
    exact ⟨reg, fun _ _ _ => finds_own_of_registered registered⟩
  have replays : Meets (fun hub : CameraLiveUpdates Index Data =>
      Registry cfg (standing cfg own) hub ∧ RegisteredAs handle sessionId hub)
      ((replay cfg target.cameraId handle resumeFrom).onError (aclose handle now))
      (Outcomes (fun _ => Registry cfg (standing cfg own))
        fun _ => Registry cfg (standing cfg own)) :=
    meets_on_error (outcomes_weaken (keeps_outcomes (keeps_replay (stable_at stable _) counts)
      fun _ _ holds => holds) (fun _ _ holds => holds.1) fun _ _ holds => holds) fun _ => closes
  exact meets_bind replays fun _ => keeps_pure

theorem keeps_subscribe [DecidableEq Data] {resumeFrom : Option Nat} :
    Keeps (Registry cfg (standing cfg own))
      (subscribe cfg target sessionId authzVersion initialAccess resumeFrom now) := by
  have rejects : ∀ (err : LiveError), Keeps (Registry cfg (standing cfg own)) (do
      update fun hub =>
        { hub with rejectedSubscriptionsTotal := hub.rejectedSubscriptionsTotal + 1 }
      raise err : LiveAction Index Data Nat) := fun err =>
    keeps_bind (meets_update fun _ reg => registry_same reg rfl rfl rfl rfl (le_refl _))
      fun _ => keeps_raise
  refine meets_read fun sessions => ?_
  by_cases isRegistered : sessions.contains sessionId = true
  · rw [if_pos isRegistered]
    exact meets_weaken (rejects _) (fun _ holds => holds.1) fun _ _ holds => holds
  rw [if_neg isRegistered]
  by_cases isFull : cfg.maxSubscriptions ≤ sessions.length
  · rw [if_pos isFull]
    exact meets_weaken (rejects _) (fun _ holds => holds.1) fun _ _ holds => holds
  rw [if_neg isFull]
  have expects : ∀ hub : CameraLiveUpdates Index Data,
      Registry cfg (standing cfg own) hub ∧ hub.sessionSubscriptions = sessions →
      Registry cfg (expecting cfg own sessionId) hub := by
    rintro hub ⟨reg, rfl⟩
    refine registry_expecting reg ?_ (Nat.lt_of_not_le isFull)
    simpa [contains] using isRegistered
  refine meets_weaken ?_ expects fun _ _ holds => holds
  refine meets_bind (outcomes_weaken meets_get_or_create_channel (fun _ _ holds => holds)
    fun _ _ holds => registry_standing holds) fun _ => ?_
  refine meets_bind_keeps (keeps_and (keeps_channel_fields (fun _ => rfl) (fun _ => rfl)
    fun _ => List.Sublist.refl _) (meets_update fun _ tracked => tracked_modify tracked))
    (fun _ _ holds => registry_standing holds.1) fun _ => ?_
  refine meets_any_read fun index => ?_
  refine meets_bind_keeps (keeps_and registry_parts.observe_channel keeps_tracked_observe_channel)
    (fun _ _ holds => registry_standing holds.1) fun _ => ?_
  exact meets_register_and_replay

theorem keeps_open_subscription [DecidableEq Data]
    {lastEventId : Option String} {authorized : Option Int} :
    Keeps (Registry cfg (standing cfg own)) (openSubscription cfg target sessionId
      authzVersion lastEventId authorized initialAccess now) := by
  unfold openSubscription
  split
  · exact keeps_raise
  · split
    · exact keeps_raise
    · split
      · exact keeps_raise
      · split
        · exact keeps_raise
        · split
          · exact keeps_raise
          · exact keeps_subscribe

end Opening

section Refreshing

theorem keeps_current_state [DecidableEq Data] :
    Keeps (Registry cfg terms) (currentState cfg target initialAccess now) := by
  refine registry_parts.current_state (meets_weaken meets_get_or_create_channel
    (fun _ holds => holds) ?_)
  intro out hub holds
  cases out with
  | ok value => exact holds.1
  | error err => exact holds

theorem keeps_refresh_authorization_epochs {sids : List UUID} {cur : Dict UUID Int}
    {checkedAt : Int} :
    Keeps (Registry cfg terms)
      (refreshAuthorizationEpochs sids cur checkedAt : LiveAction Index Data Unit) := by
  refine keeps_for_each fun sessionId _ => meets_update ?_
  intro hub reg
  split_ifs with isRegistered
  · refine registry_epoch reg ?_ _
    intro missing
    simp [contains, missing] at isRegistered
  · exact reg

theorem keeps_ignore {Value : Type} {prop : CameraLiveUpdates Index Data → Prop}
    {action : LiveAction Index Data Value} (keeps : Keeps prop action) :
    Keeps prop (ignore action) :=
  keeps_bind keeps fun _ => keeps_pure

end Refreshing

end RtspProxy.Live
