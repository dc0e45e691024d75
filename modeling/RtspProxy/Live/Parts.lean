import RtspProxy.Live.Hub

/-!
# What the sections of the hub are made of

A property is kept by the sections that go through the channels when it is kept by
the parts they are made of: fields that nobody follows, a new event, a new epoch of
a channel, a channel that expires.
-/

namespace RtspProxy.Live

open Nodes Probes Lib Lib.Action CameraLiveUpdates

variable {Index Data : Type} {cfg : LiveSettings Index Data} {cameraId : UUID} {now : Int}

/-- The change touches neither subscribers nor target nor any event. -/
structure Aside (change : CameraChannel Data → CameraChannel Data) : Prop where
  subscribers : ∀ chan, (change chan).subscribers = chan.subscribers
  target : ∀ chan, (change chan).target = chan.target
  history : ∀ chan, (change chan).history = chan.history
  state : ∀ chan, (change chan).latestState = chan.latestState
  probe : ∀ chan, (change chan).latestProbeEvent = chan.latestProbeEvent

/-- The property is kept by each part. -/
structure ChannelParts (cfg : LiveSettings Index Data)
    (prop : CameraLiveUpdates Index Data → Prop) : Prop where
  index : ∀ index, Keeps prop
    (update fun hub => { hub with latestIndex := index } : LiveAction Index Data Unit)
  completed : ∀ now, Keeps prop
    (update fun hub => { hub with refreshCompletedAt := some now } : LiveAction Index Data Unit)
  aside : ∀ cameraId change, Aside change → Keeps prop
    (update (·.modifyChannel cameraId change) : LiveAction Index Data Unit)
  state : ∀ cameraId projection generatedAt, Keeps prop (do
    let eventId ← allocateEventId
    let event : CameraLiveEvent Data := { data := .state projection, eventId := some eventId }
    update (·.modifyChannel cameraId fun cur =>
      { cur with
        previousProjection := some projection
        latestState := some event
        lastSnapshotGeneratedAt := generatedAt })
    publish cfg cameraId event)
  cleared : ∀ cameraId, Keeps prop (do
    update (·.modifyChannel cameraId fun cur =>
      { cur with
        latestProbeEvent := none
        latestProbeObservationId := none
        history := discardProbeHistory cur.history })
    let eventId ← allocateEventId
    publish cfg cameraId { data := .probeCleared "generation_changed", eventId := some eventId } :
    LiveAction Index Data Unit)
  probe : ∀ cameraId obs, Keeps prop (do
    let eventId ← allocateEventId
    let event : CameraLiveEvent Data :=
      { data := .probeCompleted obs, eventId := some eventId }
    update (·.modifyChannel cameraId fun cur =>
      { cur with
        history := discardProbeHistory cur.history
        latestProbeEvent := some event
        latestProbeObservationId := some obs.observationId })
    publish cfg cameraId event)
  epoch : ∀ cameraId reason, Keeps prop (startChannelEpoch cfg cameraId reason)
  retargeted : ∀ target, Keeps prop (retarget cfg target)
  expired : ∀ now, Keeps prop (expireInactiveChannels cfg now)

namespace ChannelParts

variable {prop : CameraLiveUpdates Index Data → Prop}

theorem observe_channel [DecidableEq Data] {index : Option Index} (parts : ChannelParts cfg prop) :
    Keeps prop (observeChannel cfg cameraId index) := by
  refine meets_any_read fun found => ?_
  cases found with
  | none => exact keeps_pure
  | some chan =>
    dsimp only
    split_ifs
    · exact keeps_pure
    · exact keeps_pure
    · exact parts.state _ _ _

theorem clear_probe_result (parts : ChannelParts cfg prop) :
    Keeps prop (clearProbeResult cfg cameraId) := by
  refine meets_any_read fun found => ?_
  cases found with
  | none => exact keeps_pure
  | some chan =>
    dsimp only
    split_ifs
    · exact keeps_pure
    · exact parts.cleared _

variable {cameraIds : List UUID}

variable (parts : ChannelParts cfg prop)

include parts

theorem observe_probe_results {obss : Dict UUID ProbeObservation} :
    Keeps prop (observeProbeResults cfg cameraIds obss) := by
  unfold observeProbeResults
  split_ifs
  · exact keeps_pure
  refine keeps_for_each fun cameraId _ => meets_any_read fun found => ?_
  cases found with
  | none => exact keeps_pure
  | some chan =>
    dsimp only
    split_ifs
    · exact keeps_pure
    cases obss.get cameraId with
    | none => exact parts.clear_probe_result
    | some obs =>
      dsimp only
      split_ifs
      · exact parts.clear_probe_result
      · exact keeps_pure
      · exact parts.probe _ _

theorem observe_accesses {accesses : Dict UUID Datetime} :
    Keeps prop (observeAccesses cameraIds accesses) := by
  unfold observeAccesses
  split_ifs
  · exact keeps_pure
  · exact keeps_for_each fun cameraId _ => parts.aside cameraId _
      ⟨fun _ => rfl, fun _ => rfl, fun _ => rfl, fun _ => rfl, fun _ => rfl⟩

theorem withdraw_target :
    Keeps prop (withdrawTarget cfg cameraId) := by
  refine meets_any_read fun found => ?_
  cases found with
  | none => exact keeps_pure
  | some chan =>
    dsimp only
    split_ifs
    · exact keeps_bind (parts.aside cameraId _
        ⟨fun _ => rfl, fun _ => rfl, fun _ => rfl, fun _ => rfl, fun _ => rfl⟩)
        fun _ => parts.epoch _ _
    · exact keeps_pure

theorem observe_authoritative_targets {resolved : Option (Dict UUID (PublicId × UUID))} :
    Keeps prop (observeAuthoritativeTargets cfg cameraIds resolved) := by
  unfold observeAuthoritativeTargets
  cases resolved with
  | none => exact keeps_for_each fun _ _ => parts.withdraw_target
  | some resolved =>
    refine keeps_for_each fun cameraId _ => meets_any_read fun found => ?_
    cases found with
    | none => exact keeps_pure
    | some chan =>
      cases resolved.get cameraId with
      | none => exact parts.withdraw_target
      | some placement =>
        dsimp only
        split_ifs
        · exact parts.withdraw_target
        · exact parts.retargeted _
        · exact keeps_pure
        · exact keeps_raise

theorem observes [DecidableEq Data] {snap : Option Index} {clock : Datetime} :
    Keeps prop (observe cfg snap clock now) := by
  refine keeps_bind (parts.index _) fun _ => keeps_bind (parts.expired now) fun _ => ?_
  exact meets_any_read fun channels => keeps_for_each fun _ _ => parts.observe_channel

theorem refresh_from_reader [DecidableEq Data] {activeCameraIds : List UUID}
    {res : RefreshResult Index} {clock : Datetime} :
    Keeps prop (refreshFromReader cfg activeCameraIds res clock now) := by
  refine keeps_bind ?_ fun _ => keeps_bind ?_ fun _ => keeps_bind parts.observes fun _ =>
    keeps_bind ?_ fun _ => parts.completed now
  · split_ifs
    · exact parts.observe_authoritative_targets
    · exact keeps_pure
  · cases res.accesses with
    | none => exact keeps_pure
    | some accesses => exact parts.observe_accesses
  · cases res.probes with
    | none => exact keeps_pure
    | some probes => exact parts.observe_probe_results

omit parts

variable {target : CameraLiveTarget} {initialAccess : Option Datetime}

theorem get_or_create_channel (parts : ChannelParts cfg prop)
    (evicts : Keeps prop (evictInactiveChannel cfg))
    (enters : Keeps prop (update fun hub => { hub with
      channels := hub.channels.set target.cameraId { target, lastAccess := now } } :
        LiveAction Index Data Unit)) :
    Keeps prop (getOrCreateChannel cfg target now) := by
  refine keeps_bind (parts.expired now) fun _ => meets_any_read fun found => ?_
  cases found with
  | none =>
    refine keeps_bind evicts fun _ => meets_any_read fun tracked => ?_
    split_ifs
    · exact keeps_raise
    · exact enters
  | some chan =>
    dsimp only
    split_ifs
    · exact keeps_raise
    · exact parts.retargeted target
    · exact keeps_pure

theorem current_state [DecidableEq Data] (parts : ChannelParts cfg prop)
    (gets : Keeps prop (getOrCreateChannel cfg target now)) :
    Keeps prop (currentState cfg target initialAccess now) := by
  refine keeps_bind gets fun _ => keeps_bind (parts.aside _ _
    ⟨fun _ => rfl, fun _ => rfl, fun _ => rfl, fun _ => rfl, fun _ => rfl⟩) fun _ => ?_
  refine meets_any_read fun index => keeps_bind parts.observe_channel fun _ => ?_
  refine meets_any_read fun shown => ?_
  cases shown with
  | none => exact keeps_raise
  | some event => exact keeps_pure

end ChannelParts

end RtspProxy.Live
