import RtspProxy.Live.Resumption

/-!
# Which sections touch a registration

The session map and the epochs change in few places: a registration enters both,
a refresh notes epochs, and whatever ends a subscription drops its session from
both. A property of the two that survives drops is kept by every other section.
-/

namespace RtspProxy.Live

open Nodes Probes Lib Lib.Action CameraLiveUpdates

variable {Index Data : Type} {cfg : LiveSettings Index Data}

/-- A property of the session map and the epochs that survives the drop of a session. -/
structure Droppable (prop : Dict UUID Nat → Dict UUID (Int × Int) → Prop) : Prop where
  drop : ∀ sessions epochs sid, prop sessions epochs → prop (sessions.pop sid) (epochs.pop sid)
  clear : prop .empty .empty

/-- The property, of a hub. -/
abbrev Registers (prop : Dict UUID Nat → Dict UUID (Int × Int) → Prop)
    (hub : CameraLiveUpdates Index Data) : Prop :=
  prop hub.sessionSubscriptions hub.authorizationEpochs

variable {prop : Dict UUID Nat → Dict UUID (Int × Int) → Prop} {cameraId : UUID} {handle : Nat}
  {now : Int}

variable {hub : CameraLiveUpdates Index Data} {sid : UUID} {target : CameraLiveTarget}

section Sections

variable {change : CameraChannel Data → CameraChannel Data}

theorem registers_channel
    (holds : Registers prop hub) : Registers prop (hub.modifyChannel cameraId change) := by
  unfold Registers
  rw [modify_channel_sessions, modify_channel_epochs]
  exact holds

theorem keeps_registers_channel :
    Keeps (Registers prop)
      (update (·.modifyChannel cameraId change) : LiveAction Index Data Unit) :=
  meets_update fun _ holds => registers_channel holds

theorem registers_handle_stable :
    HandleStable (Registers prop : CameraLiveUpdates Index Data → Prop) :=
  fun _ _ _ _ holds => holds

theorem registers_count_stable :
    CountStable (Registers prop : CameraLiveUpdates Index Data → Prop) :=
  fun _ _ holds => holds

theorem registers_unregister (droppable : Droppable prop) (holds : Registers prop hub) :
    Registers prop (hub.unregister cameraId sid) :=
  droppable.drop _ _ sid holds

theorem keeps_registers_offer_or_drop {offers : LiveAction Index Data Bool}
    (droppable : Droppable prop) (keeps : Keeps (Registers prop) offers) :
    Keeps (Registers prop) (do
      let taken ← offers
      if taken then pure () else dropSlow cameraId sid) := by
  refine keeps_bind keeps fun taken => ?_
  split_ifs
  · exact keeps_pure
  · exact meets_update fun _ holds => droppable.drop _ _ sid holds

theorem keeps_registers_publish {event : CameraLiveEvent Data} (droppable : Droppable prop) :
    Keeps (Registers prop) (publish cfg cameraId event) := by
  refine keeps_bind keeps_registers_channel fun _ => ?_
  refine meets_any_read fun subscribers => ?_
  exact keeps_for_each fun item _ => keeps_registers_offer_or_drop droppable
    (keeps_offer (stable_at registers_handle_stable _))

theorem keeps_registers_start_channel_epoch {reason : String} (droppable : Droppable prop) :
    Keeps (Registers prop)
      (startChannelEpoch cfg cameraId reason : LiveAction Index Data Unit) := by
  refine keeps_bind keeps_registers_channel fun _ => ?_
  refine meets_any_read fun subscribers => ?_
  refine keeps_for_each fun item _ => keeps_bind (fun _ holds => holds) fun _ => ?_
  refine keeps_registers_offer_or_drop droppable ?_
  refine meets_weaken (meets_start_new_epoch (stable_at registers_handle_stable _))
    (fun _ holds => holds) ?_
  intro out hub answered
  cases out with
  | ok taken => exact answered.1
  | error error => exact answered

theorem keeps_registers_allocate :
    Keeps (Registers prop) (allocateEventId : LiveAction Index Data Nat) := by
  refine meets_read fun next => ?_
  split_ifs
  · exact meets_raise fun _ holds => holds.1
  · exact fun hub holds => holds.1

variable (droppable : Droppable prop)

include droppable

theorem registers_parts :
    ChannelParts cfg (Registers prop : CameraLiveUpdates Index Data → Prop) where
  index _ := fun _ holds => holds
  completed _ := fun _ holds => holds
  aside _ _ _ := keeps_registers_channel
  state _ _ _ := keeps_bind keeps_registers_allocate fun _ => keeps_bind keeps_registers_channel
    fun _ => keeps_registers_publish droppable
  cleared _ := keeps_bind keeps_registers_channel fun _ => keeps_bind keeps_registers_allocate
    fun _ => keeps_registers_publish droppable
  probe _ _ := keeps_bind keeps_registers_allocate fun _ => keeps_bind keeps_registers_channel
    fun _ => keeps_registers_publish droppable
  epoch _ _ := keeps_registers_start_channel_epoch droppable
  retargeted _ := keeps_bind keeps_registers_channel
    fun _ => keeps_registers_start_channel_epoch droppable
  expired _ := meets_any_read fun _ => keeps_for_each fun _ _ => fun _ holds => holds

theorem keeps_registers_get_or_create_channel :
    Keeps (Registers prop)
      (getOrCreateChannel cfg target now : LiveAction Index Data Unit) := by
  refine (registers_parts droppable).get_or_create_channel ?_ fun _ holds => holds
  refine meets_any_read fun channels => ?_
  split_ifs
  · exact keeps_pure
  · cases oldestChannel (channels.values.filter (·.subscribers.items.isEmpty)) with
    | none => exact keeps_pure
    | some oldest => exact fun _ holds => holds

theorem keeps_registers_remove_subscription :
    Keeps (Registers prop)
      (removeSubscription cameraId sid now : LiveAction Index Data Unit) :=
  meets_update fun _ holds => registers_channel (registers_unregister droppable holds)

theorem keeps_registers_aclose :
    Keeps (Registers prop) (aclose handle now : LiveAction Index Data Unit) := by
  refine meets_any_read fun found => ?_
  cases found with
  | none => exact keeps_pure
  | some sub =>
    dsimp only
    split_ifs
    · exact keeps_pure
    · exact keeps_bind (fun _ holds => holds) fun _ =>
        keeps_registers_remove_subscription droppable

theorem keeps_registers_close_for_authz_change :
    Keeps (Registers prop)
      (closeForAuthzChange handle now : LiveAction Index Data Unit) := by
  refine meets_any_read fun found => ?_
  cases found with
  | none => exact keeps_pure
  | some sub =>
    exact keeps_bind (fun _ holds => holds) fun _ => keeps_bind (fun _ holds => holds) fun _ =>
      keeps_registers_remove_subscription droppable

theorem keeps_registers_stop :
    Keeps (Registers prop) (stop : LiveAction Index Data Unit) := by
  refine meets_read fun subs => meets_read fun channels => ?_
  refine meets_weaken ?_ (fun _ holds => holds.1.1) fun _ _ holds => holds
  exact keeps_bind (fun _ _ => droppable.clear) fun _ =>
    keeps_bind (keeps_for_each fun _ _ => keeps_registers_channel) fun _ =>
      keeps_for_each fun _ _ => fun _ holds => holds

omit droppable

theorem keeps_registers_anext {authorizeDue : Bool} :
    Keeps (Registers prop) (anext handle authorizeDue : LiveAction Index Data Unit) := by
  refine meets_any_read fun found => ?_
  cases found with
  | none => exact keeps_pure
  | some sub =>
    dsimp only
    split_ifs <;> exact fun _ holds => holds

theorem keeps_registers_consume {event : ConsumerEvent} (droppable : Droppable prop) :
    Keeps (Registers prop) (consume handle event now : LiveAction Index Data Unit) := by
  have lost : Keeps (Registers prop)
      (authorizationLost handle now : LiveAction Index Data Unit) :=
    keeps_bind (keeps_registers_close_for_authz_change droppable) fun _ => keeps_registers_anext
  have waits : ∀ waiting : Waiting Data, Keeps (Registers prop)
      (setWaiting handle waiting : LiveAction Index Data Unit) := fun _ _ holds => holds
  refine meets_any_read fun found => ?_
  cases found with
  | none => exact keeps_pure
  | some sub =>
    dsimp only
    split
    case h_1 | h_10 => exact keeps_registers_anext
    case h_2 | h_3 | h_4 | h_9 | h_11 => exact waits _
    case h_5 | h_6 | h_7 => exact lost
    case h_8 =>
      cases sub.queue with
      | nil => exact keeps_pure
      | cons next rest => exact fun _ holds => holds
    case h_12 => exact keeps_pure

end Sections

section Opening

theorem keeps_registers_open [DecidableEq Data] {authzVersion : Int} {lastEventId : Option String}
    {authorized : Option Int} {initialAccess : Option Datetime} (droppable : Droppable prop)
    (registers : authorized = some authzVersion → ∀ sessions epochs handle, prop sessions epochs →
      prop (sessions.set sid handle) (epochs.set sid (authzVersion, now))) :
    Keeps (Registers prop) (openSubscription cfg target sid authzVersion lastEventId
      authorized initialAccess now) := by
  unfold openSubscription
  split
  · exact keeps_raise
  split
  · exact keeps_raise
  split
  · exact keeps_raise
  split
  · exact keeps_raise
  split
  · exact keeps_raise
  rename_i cur isCurrent
  have authorized : some cur = some authzVersion := congrArg some (not_not.mp isCurrent)
  refine subscribe_parts (fun _ _ holds => holds) (keeps_bind ?_ fun _ => ?_)
  · refine keeps_bind (keeps_registers_get_or_create_channel droppable) fun _ =>
      keeps_bind keeps_registers_channel fun _ => ?_
    refine meets_read fun index => ?_
    exact meets_weaken (registers_parts droppable).observe_channel (fun _ holds => holds.1)
      fun _ _ holds => holds
  · refine meets_any_read fun handle => ?_
    refine keeps_bind (meets_update fun hub holds => registers authorized _ _ _ holds) fun _ => ?_
    refine keeps_bind (fun _ holds => holds) fun _ => ?_
    refine keeps_bind ?_ fun _ => keeps_pure
    refine meets_weaken (meets_on_error (keeps_outcomes (keeps_replay
      (stable_at registers_handle_stable _) registers_count_stable) fun _ _ holds => holds)
      fun _ => keeps_registers_aclose droppable) (fun _ holds => holds) ?_
    intro out hub holds
    cases out with
    | ok value => exact holds
    | error error => exact holds

end Opening

/-- The session whose registration a request may enter, with the version and the time. -/
def entering : LiveRequest Index → Option (UUID × Int × Int)
  | .openSubscription _ sid authzVersion _ authorized _ now =>
    if authorized = some authzVersion then some (sid, authzVersion, now) else none
  | _ => none

def RegistersOnly : LiveRequest Index → Prop
  | .refreshAuthorizationEpochs _ _ _ => False
  | _ => True

theorem request_registers [DecidableEq Data] {req : LiveRequest Index}
    (droppable : Droppable prop) (registersOnly : RegistersOnly req)
    (enters : ∀ sid version time, entering req = some (sid, version, time) →
      ∀ sessions epochs handle, prop sessions epochs →
        prop (sessions.set sid handle) (epochs.set sid (version, time)))
    (holds : Registers prop hub) : Registers prop (after cfg hub req) := by
  unfold after
  cases req with
  | openSubscription target sid version lastEventId authorized initialAccess now =>
    refine keeps_ignore (keeps_registers_open droppable fun isAuthorized => ?_) _ holds
    exact enters sid version now (if_pos isAuthorized)
  | currentState =>
    exact keeps_ignore ((registers_parts droppable).current_state
      (keeps_registers_get_or_create_channel droppable)) _ holds
  | refreshFromReader => exact (registers_parts droppable).refresh_from_reader _ holds
  | refreshAuthorizationEpochs => exact registersOnly.elim
  | consume => exact keeps_registers_consume droppable _ holds
  | aclose => exact keeps_registers_aclose droppable _ holds
  | stop => exact keeps_registers_stop droppable _ holds

end RtspProxy.Live
