import RtspProxy.Live.Runs

/-!
# What the hub registers

The session map, the subscribers of the channels, the epochs, the limits and the
histories of a hub that is consistent. Every function of the hub is made of a few
changes: a flag of a subscription, a field of a channel, one registration more or
one less, a channel more or less. Each of them keeps the registry, and the
functions follow by the rules for actions.
-/

namespace RtspProxy.Live

open Nodes Probes Lib Lib.Action CameraLiveUpdates Dict List Option CameraLiveUpdates

variable {Index Data : Type} {cfg : LiveSettings Index Data}

def subscriberAt (hub : CameraLiveUpdates Index Data) (cameraId sessionId : UUID) : Option Nat :=
  (hub.channels.get cameraId).bind (·.subscribers.get sessionId)

/-- A history of bounded size whose events have increasing identifiers, all of them used up. -/
structure HistoryHolds (size nextEventId : Nat) (hist : List (CameraLiveEvent Data)) : Prop where
  bounded : hist.length ≤ size
  allocated : ∀ event ∈ hist, ∃ eventId, event.eventId = some eventId ∧ eventId < nextEventId
  increasing : hist.Pairwise fun earlier later => ∀ first second,
    earlier.eventId = some first → later.eventId = some second → first < second

/-- How much a registry promises: with `own`, that every open subscription is in it; at most how
many sessions it has; and which sessions it does not have. -/
structure Terms where
  own : Prop
  limit : Nat
  vacant : UUID → Prop

/-- The registry of a hub. -/
structure Registry (cfg : LiveSettings Index Data) (terms : Terms)
    (hub : CameraLiveUpdates Index Data) : Prop where
  mapped : ∀ sessionId handle, hub.sessionSubscriptions.get sessionId = some handle →
    ∃ sub, hub.handles[handle]? = some sub ∧ sub.sessionId = sessionId ∧
      subscriberAt hub sub.cameraId sessionId = some handle
  listed : ∀ cameraId sessionId handle, subscriberAt hub cameraId sessionId = some handle →
    hub.sessionSubscriptions.get sessionId = some handle ∧
      ∃ sub, hub.handles[handle]? = some sub ∧ sub.cameraId = cameraId
  epochs : ∀ sessionId, hub.authorizationEpochs.get sessionId ≠ none →
    hub.sessionSubscriptions.get sessionId ≠ none
  sessionLimit : hub.sessionSubscriptions.length ≤ terms.limit
  vacancy : ∀ sessionId, terms.vacant sessionId → hub.sessionSubscriptions.get sessionId = none
  channelLimit : hub.channels.length ≤ cfg.maxTrackedCameras
  targets : ∀ cameraId chan, hub.channels.get cameraId = some chan → chan.target.cameraId = cameraId
  histories : ∀ cameraId chan, hub.channels.get cameraId = some chan →
    HistoryHolds cfg.historySize hub.nextEventId chan.history
  opened : terms.own → ∀ (handle : Nat) (sub : CameraLiveSubscription Data),
    hub.handles[handle]? = some sub → sub.closed = false →
      hub.sessionSubscriptions.get sub.sessionId = some handle

section Histories

variable {size next : Nat} {hist : List (CameraLiveEvent Data)} {event : CameraLiveEvent Data}

theorem history_nil : HistoryHolds size next ([] : List (CameraLiveEvent Data)) :=
  ⟨Nat.zero_le _, by simp, Pairwise.nil⟩

variable (holds : HistoryHolds size next hist)

include holds

theorem history_sublist {rest : List (CameraLiveEvent Data)}
    (sublist : rest.Sublist hist) : HistoryHolds size next rest where
  bounded := sublist.length_le.trans holds.bounded
  allocated event mem := holds.allocated event (sublist.subset mem)
  increasing := holds.increasing.sublist sublist

theorem history_later {later : Nat} (grows : next ≤ later) :
    HistoryHolds size later hist where
  bounded := holds.bounded
  allocated event mem := by
    obtain ⟨eventId, isId, used⟩ := holds.allocated event mem
    exact ⟨eventId, isId, used.trans_le grows⟩
  increasing := holds.increasing

theorem history_push (isNext : event.eventId = some next) :
    HistoryHolds size (next + 1) (pushBounded size hist event) where
  bounded := by
    unfold pushBounded
    rw [length_drop, length_append, length_singleton]
    omega
  allocated listed mem := by
    rcases mem_append.mp (mem_of_mem_drop mem) with pre | isNew
    · obtain ⟨eventId, isId, used⟩ := holds.allocated listed pre
      exact ⟨eventId, isId, used.trans (Nat.lt_succ_self _)⟩
    · rw [mem_singleton.mp isNew]
      exact ⟨next, isNext, Nat.lt_succ_self _⟩
  increasing := by
    refine Pairwise.sublist (drop_sublist _ _) ?_
    refine pairwise_append.mpr ⟨holds.increasing, pairwise_singleton _ _, ?_⟩
    intro earlier mem later isNew first second isFirst isSecond
    rw [mem_singleton.mp isNew, isNext] at isSecond
    obtain ⟨eventId, isId, used⟩ := holds.allocated earlier mem
    rw [isId] at isFirst
    cases isFirst
    cases isSecond
    exact used

omit holds

end Histories

section Changes

variable {terms : Terms} {hub : CameraLiveUpdates Index Data}

/-- A change of a subscription that neither renames nor reopens it. -/
structure Benign (change : CameraLiveSubscription Data → CameraLiveSubscription Data) : Prop where
  cameraId : ∀ sub, (change sub).cameraId = sub.cameraId
  sessionId : ∀ sub, (change sub).sessionId = sub.sessionId
  closed : ∀ sub, sub.closed = true → (change sub).closed = true

variable {change : CameraLiveSubscription Data → CameraLiveSubscription Data}

theorem modified_handle {handle other : Nat} (benign : Benign change)
    {sub : CameraLiveSubscription Data}
    (found : (hub.modifyHandle handle change).handles[other]? = some sub) :
    ∃ pre, hub.handles[other]? = some pre ∧ sub.cameraId = pre.cameraId ∧
      sub.sessionId = pre.sessionId ∧
      (pre.closed = true → sub.closed = true) := by
  unfold modifyHandle at found
  rw [getElem?_modify] at found
  obtain ⟨pre, isBefore, rfl⟩ := map_eq_some_iff.mp found
  split_ifs
  · exact ⟨pre, isBefore, benign.cameraId _, benign.sessionId _, benign.closed _⟩
  · exact ⟨pre, isBefore, rfl, rfl, id⟩

theorem handle_modified {handle other : Nat} (benign : Benign change)
    {pre : CameraLiveSubscription Data} (found : hub.handles[other]? = some pre) :
    ∃ sub, (hub.modifyHandle handle change).handles[other]? = some sub ∧
      sub.cameraId = pre.cameraId ∧ sub.sessionId = pre.sessionId := by
  unfold modifyHandle
  rw [getElem?_modify, found]
  by_cases same : handle = other
  · exact ⟨change pre, by simp [same], benign.cameraId _, benign.sessionId _⟩
  · exact ⟨pre, by simp [same], rfl, rfl⟩

theorem registry_handle (reg : Registry cfg terms hub) (handle : Nat) (benign : Benign change) :
    Registry cfg terms (hub.modifyHandle handle change) where
  mapped sessionId other found := by
    obtain ⟨pre, isBefore, isSession, lists⟩ := reg.mapped sessionId other found
    obtain ⟨sub, isModified, sameCamera, sameSession⟩ :=
      handle_modified benign isBefore
    refine ⟨sub, isModified, sameSession.trans isSession, ?_⟩
    rw [sameCamera]
    exact lists
  listed cameraId sessionId other lists := by
    obtain ⟨found, pre, isBefore, isCamera⟩ := reg.listed cameraId sessionId other lists
    obtain ⟨sub, isModified, sameCamera, _⟩ := handle_modified benign isBefore
    exact ⟨found, sub, isModified, sameCamera.trans isCamera⟩
  epochs := reg.epochs
  sessionLimit := reg.sessionLimit
  vacancy := reg.vacancy
  channelLimit := reg.channelLimit
  targets := reg.targets
  histories := reg.histories
  opened isOwn other sub found isOpen := by
    obtain ⟨pre, isBefore, _, sameSession, closes⟩ := modified_handle benign found
    rw [sameSession]
    refine reg.opened isOwn other pre isBefore ?_
    by_contra isClosed
    rw [closes (Bool.not_eq_false _ ▸ isClosed)] at isOpen
    cases isOpen

@[simp] theorem modify_channel_sessions (cameraId : UUID)
    (change : CameraChannel Data → CameraChannel Data) :
    (hub.modifyChannel cameraId change).sessionSubscriptions = hub.sessionSubscriptions := by
  unfold modifyChannel
  split <;> rfl

@[simp] theorem modify_channel_epochs (cameraId : UUID)
    (change : CameraChannel Data → CameraChannel Data) :
    (hub.modifyChannel cameraId change).authorizationEpochs = hub.authorizationEpochs := by
  unfold modifyChannel
  split <;> rfl

@[simp] theorem modify_channel_handles (cameraId : UUID)
    (change : CameraChannel Data → CameraChannel Data) :
    (hub.modifyChannel cameraId change).handles = hub.handles := by
  unfold modifyChannel
  split <;> rfl

@[simp] theorem modify_channel_next (cameraId : UUID)
    (change : CameraChannel Data → CameraChannel Data) :
    (hub.modifyChannel cameraId change).nextEventId = hub.nextEventId := by
  unfold modifyChannel
  split <;> rfl

theorem modify_channel_get (cameraId other : UUID)
    (change : CameraChannel Data → CameraChannel Data) :
    (hub.modifyChannel cameraId change).channels.get other =
      if other = cameraId then (hub.channels.get cameraId).map change
      else hub.channels.get other := by
  unfold modifyChannel
  split
  · rename_i missing
    split_ifs with same
    · rw [same, missing]
      rfl
    · rfl
  · rename_i chan found
    rw [get_set, found]
    rfl

theorem modify_channel_length (cameraId : UUID) (change : CameraChannel Data → CameraChannel Data) :
    (hub.modifyChannel cameraId change).channels.length = hub.channels.length := by
  unfold modifyChannel
  split
  · rfl
  · rename_i chan found
    exact length_set_of_present (by rw [found]; exact some_ne_none _)

variable {cameraId : UUID}

theorem registry_channel (reg : Registry cfg terms hub)
    {change : CameraChannel Data → CameraChannel Data}
    (subscribers : ∀ chan, (change chan).subscribers = chan.subscribers)
    (target : ∀ chan, hub.channels.get cameraId = some chan →
      (change chan).target.cameraId = cameraId)
    (hist : ∀ chan, hub.channels.get cameraId = some chan →
      HistoryHolds cfg.historySize hub.nextEventId (change chan).history) :
    Registry cfg terms (hub.modifyChannel cameraId change) := by
  have sameListed : ∀ other sessionId, subscriberAt (hub.modifyChannel cameraId change) other
      sessionId = subscriberAt hub other sessionId := by
    intro other sessionId
    unfold subscriberAt
    rw [modify_channel_get]
    split_ifs with same
    · rw [same]
      cases hub.channels.get cameraId with
      | none => rfl
      | some chan => simp [subscribers]
    · rfl
  have changed : ∀ other chan, (hub.modifyChannel cameraId change).channels.get other = some chan →
      hub.channels.get other = some chan ∨ ∃ pre, other = cameraId ∧
        hub.channels.get cameraId = some pre ∧ chan = change pre := by
    intro other chan found
    rw [modify_channel_get] at found
    split_ifs at found with same
    · obtain ⟨pre, isBefore, rfl⟩ := map_eq_some_iff.mp found
      exact .inr ⟨pre, same, isBefore, rfl⟩
    · exact .inl found
  refine ⟨?_, ?_, ?_, ?_, ?_, ?_, ?_, ?_, ?_⟩
  · intro sessionId handle found
    rw [modify_channel_sessions] at found
    obtain ⟨sub, isHandle, isSession, lists⟩ := reg.mapped sessionId handle found
    refine ⟨sub, ?_, isSession, ?_⟩
    · rw [modify_channel_handles]
      exact isHandle
    · rw [sameListed]
      exact lists
  · intro other sessionId handle lists
    rw [sameListed] at lists
    rw [modify_channel_sessions, modify_channel_handles]
    exact reg.listed other sessionId handle lists
  · rw [modify_channel_sessions, modify_channel_epochs]
    exact reg.epochs
  · rw [modify_channel_sessions]
    exact reg.sessionLimit
  · rw [modify_channel_sessions]
    exact reg.vacancy
  · rw [modify_channel_length]
    exact reg.channelLimit
  · intro other chan found
    rcases changed other chan found with pre | ⟨pre, rfl, isBefore, rfl⟩
    · exact reg.targets other chan pre
    · exact target pre isBefore
  · intro other chan found
    rw [modify_channel_next]
    rcases changed other chan found with pre | ⟨pre, rfl, isBefore, rfl⟩
    · exact reg.histories other chan pre
    · exact hist pre isBefore
  · rw [modify_channel_sessions, modify_channel_handles]
    exact reg.opened

/-- The registration of a session is dropped, in its own channel and, with `own`, once its
subscription is closed. -/
theorem registry_unregister (reg : Registry cfg terms hub) {sessionId : UUID}
    (registered : ∀ handle, hub.sessionSubscriptions.get sessionId = some handle →
      ∃ sub, hub.handles[handle]? = some sub ∧
        sub.cameraId = cameraId ∧ (terms.own → sub.closed = true)) :
    Registry cfg terms (hub.unregister cameraId sessionId) := by
  have channelGet : ∀ other, (hub.unregister cameraId sessionId).channels.get other =
      if other = cameraId then (hub.channels.get cameraId).map fun chan =>
        { chan with subscribers := chan.subscribers.pop sessionId }
      else hub.channels.get other := fun other => modify_channel_get cameraId other _
  have handles : (hub.unregister cameraId sessionId).handles = hub.handles :=
    modify_channel_handles _ _
  have next : (hub.unregister cameraId sessionId).nextEventId = hub.nextEventId :=
    modify_channel_next _ _
  have sessions : ∀ other, (hub.unregister cameraId sessionId).sessionSubscriptions.get other =
      if other = sessionId then none else hub.sessionSubscriptions.get other :=
    get_pop _ _
  have onlyThere : ∀ other, other ≠ cameraId → subscriberAt hub other sessionId = none := by
    intro other differ
    cases lists : subscriberAt hub other sessionId with
    | none => rfl
    | some handle =>
      obtain ⟨found, listed, isListed, isOther⟩ := reg.listed other sessionId handle lists
      obtain ⟨sub, isHandle, isCamera, _⟩ := registered handle found
      rw [isListed] at isHandle
      cases isHandle
      exact absurd (isOther.symm.trans isCamera) differ
  have listedAfter : ∀ other sess, subscriberAt (hub.unregister cameraId sessionId) other
      sess = if sess = sessionId then none else subscriberAt hub other sess := by
    intro other sess
    unfold subscriberAt
    rw [channelGet]
    by_cases sameCamera : other = cameraId
    · rw [if_pos sameCamera, sameCamera]
      cases hub.channels.get cameraId with
      | none => simp
      | some chan => simp [get_pop]
    · rw [if_neg sameCamera]
      split_ifs with sameSession
      · rw [sameSession]
        exact onlyThere other sameCamera
      · rfl
  refine ⟨?_, ?_, ?_, ?_, ?_, ?_, ?_, ?_, ?_⟩
  · intro sess handle found
    rw [sessions] at found
    split_ifs at found with same
    obtain ⟨sub, isHandle, isSession, lists⟩ := reg.mapped sess handle found
    refine ⟨sub, ?_, isSession, ?_⟩
    · rw [handles]
      exact isHandle
    · rw [listedAfter, if_neg same]
      exact lists
  · intro other sess handle lists
    rw [listedAfter] at lists
    split_ifs at lists with same
    rw [sessions, if_neg same, handles]
    exact reg.listed other sess handle lists
  · intro sess kept
    have pre : hub.authorizationEpochs.get sess ≠ none ∧ sess ≠ sessionId := by
      have popped : (hub.authorizationEpochs.pop sessionId).get sess ≠ none := kept
      rw [get_pop] at popped
      split_ifs at popped with same
      · exact absurd rfl popped
      · exact ⟨popped, same⟩
    rw [sessions, if_neg pre.2]
    exact reg.epochs sess pre.1
  · exact (length_pop_le _ _).trans reg.sessionLimit
  · intro sess isVacant
    rw [sessions]
    split_ifs
    · rfl
    · exact reg.vacancy sess isVacant
  · exact (modify_channel_length _ _).trans_le reg.channelLimit
  · intro other chan found
    rw [channelGet] at found
    split_ifs at found with same
    · obtain ⟨pre, isBefore, rfl⟩ := map_eq_some_iff.mp found
      rw [same]
      exact reg.targets cameraId pre isBefore
    · exact reg.targets other chan found
  · intro other chan found
    rw [next]
    rw [channelGet] at found
    split_ifs at found with same
    · obtain ⟨pre, isBefore, rfl⟩ := map_eq_some_iff.mp found
      exact reg.histories cameraId pre isBefore
    · exact reg.histories other chan found
  · intro isOwn handle sub isHandle isOpen
    rw [handles] at isHandle
    have found := reg.opened isOwn handle sub isHandle isOpen
    have differ : sub.sessionId ≠ sessionId := by
      intro same
      rw [same] at found
      obtain ⟨other, isOther, _, closed⟩ := registered handle found
      rw [isHandle] at isOther
      cases isOther
      rw [closed isOwn] at isOpen
      cases isOpen
    rw [sessions, if_neg differ]
    exact found

theorem registry_pop_channel (reg : Registry cfg terms hub)
    (unfollowed : ∀ chan, hub.channels.get cameraId = some chan → chan.subscribers.items = []) :
    Registry cfg terms { hub with channels := hub.channels.pop cameraId } := by
  have sameListed : ∀ other sessionId,
      subscriberAt { hub with channels := hub.channels.pop cameraId } other sessionId =
        subscriberAt hub other sessionId := by
    intro other sessionId
    unfold subscriberAt
    rw [get_pop]
    split_ifs with same
    · rw [same]
      cases found : hub.channels.get cameraId with
      | none => rfl
      | some chan =>
        have empty : chan.subscribers.get sessionId = none := by
          rw [get_eq_none, unfollowed chan found]
          intro item mem
          cases mem
        exact empty.symm
    · rfl
  have kept : ∀ other chan, (hub.channels.pop cameraId).get other = some chan →
      hub.channels.get other = some chan := by
    intro other chan found
    rw [get_pop] at found
    split_ifs at found
    exact found
  refine ⟨?_, ?_, reg.epochs, reg.sessionLimit, reg.vacancy,
    (length_pop_le _ _).trans reg.channelLimit, ?_, ?_, reg.opened⟩
  · intro sessionId handle found
    obtain ⟨sub, isHandle, isSession, lists⟩ := reg.mapped sessionId handle found
    exact ⟨sub, isHandle, isSession, (sameListed _ _).trans lists⟩
  · intro other sessionId handle lists
    exact reg.listed other sessionId handle ((sameListed _ _).symm.trans lists)
  · exact fun other chan found => reg.targets other chan (kept other chan found)
  · exact fun other chan found => reg.histories other chan (kept other chan found)

theorem registry_new_channel (reg : Registry cfg terms hub) {target : CameraLiveTarget}
    (absent : hub.channels.get target.cameraId = none)
    (room : hub.channels.length < cfg.maxTrackedCameras) (now : Int) :
    Registry cfg terms { hub with
      channels := hub.channels.set target.cameraId { target, lastAccess := now } } := by
  have sameListed : ∀ other sessionId, subscriberAt { hub with
      channels := hub.channels.set target.cameraId { target, lastAccess := now } } other sessionId =
        subscriberAt hub other sessionId := by
    intro other sessionId
    unfold subscriberAt
    rw [get_set]
    split_ifs with same
    · rw [same, absent]
      rfl
    · rfl
  refine ⟨?_, ?_, reg.epochs, reg.sessionLimit, reg.vacancy, ?_, ?_, ?_, reg.opened⟩
  · intro sessionId handle found
    obtain ⟨sub, isHandle, isSession, lists⟩ := reg.mapped sessionId handle found
    exact ⟨sub, isHandle, isSession, (sameListed _ _).trans lists⟩
  · intro other sessionId handle lists
    exact reg.listed other sessionId handle ((sameListed _ _).symm.trans lists)
  · exact (length_set_of_absent absent).trans_le room
  · intro other chan found
    rw [get_set] at found
    split_ifs at found with same
    · cases found
      exact same.symm
    · exact reg.targets other chan found
  · intro other chan found
    rw [get_set] at found
    split_ifs at found with same
    · cases found
      exact history_nil
    · exact reg.histories other chan found

theorem registry_register {own : Prop} {limit : Nat} {sessionId : UUID}
    (reg : Registry cfg ⟨own, limit, fun sess => sess = sessionId⟩ hub)
    (tracked : hub.channels.get cameraId ≠ none) (authzVersion now : Int) :
    Registry cfg ⟨own, limit + 1, fun _ => False⟩
      (register cameraId sessionId authzVersion now hub) := by
  obtain ⟨chan, isChannel⟩ := ne_none_iff_exists'.mp tracked
  have unregistered := reg.vacancy sessionId rfl
  have channelGet : ∀ other, (register cameraId sessionId authzVersion now hub).channels.get other =
      if other = cameraId then (hub.channels.get cameraId).map fun chan =>
        { chan with
          subscribers := chan.subscribers.set sessionId hub.handles.length
          lastAccess := now }
      else hub.channels.get other := fun other => modify_channel_get cameraId other _
  have next : (register cameraId sessionId authzVersion now hub).nextEventId = hub.nextEventId :=
    modify_channel_next _ _
  have sessions : ∀ other,
      (register cameraId sessionId authzVersion now hub).sessionSubscriptions.get other =
        if other = sessionId then some hub.handles.length
        else hub.sessionSubscriptions.get other := fun other => get_set _ _ _ _
  have newHandle : (register cameraId sessionId authzVersion now hub).handles[hub.handles.length]? =
      some { cameraId, sessionId, authzVersion } := by
    simp [register]
  have oldHandle : ∀ (handle : Nat) (sub : CameraLiveSubscription Data),
      hub.handles[handle]? = some sub →
      (register cameraId sessionId authzVersion now hub).handles[handle]? = some sub := by
    intro handle sub isHandle
    unfold register
    exact List.getElem?_append_left (List.getElem?_eq_some_iff.mp isHandle).1 ▸ isHandle
  have listedAfter : ∀ other sess,
      subscriberAt (register cameraId sessionId authzVersion now hub) other sess =
        if other = cameraId ∧ sess = sessionId then some hub.handles.length
        else subscriberAt hub other sess := by
    intro other sess
    unfold subscriberAt
    rw [channelGet]
    by_cases sameCamera : other = cameraId
    · rw [if_pos sameCamera, sameCamera, isChannel]
      simp [get_set]
    · simp [sameCamera]
  have nowhere : ∀ other, subscriberAt hub other sessionId = none := by
    intro other
    cases lists : subscriberAt hub other sessionId with
    | none => rfl
    | some handle =>
      have found := (reg.listed other sessionId handle lists).1
      rw [unregistered] at found
      cases found
  refine ⟨?_, ?_, ?_, ?_, ?_, ?_, ?_, ?_, ?_⟩
  · intro sess handle found
    rw [sessions] at found
    split_ifs at found with same
    · cases found
      exact ⟨_, newHandle, same.symm, by rw [listedAfter, if_pos ⟨rfl, same⟩]⟩
    · obtain ⟨sub, isHandle, isSession, lists⟩ := reg.mapped sess handle found
      refine ⟨sub, oldHandle _ _ isHandle, isSession, ?_⟩
      rw [listedAfter, if_neg (fun both => same both.2)]
      exact lists
  · intro other sess handle lists
    rw [listedAfter] at lists
    split_ifs at lists with both
    · cases lists
      rw [sessions, if_pos both.2]
      exact ⟨rfl, _, newHandle, both.1.symm⟩
    · have differ : sess ≠ sessionId := by
        rintro rfl
        rw [nowhere] at lists
        cases lists
      obtain ⟨found, sub, isHandle, isCamera⟩ := reg.listed other sess handle lists
      rw [sessions, if_neg differ]
      exact ⟨found, sub, oldHandle _ _ isHandle, isCamera⟩
  · intro sess kept
    rw [sessions]
    split_ifs with same
    · exact some_ne_none _
    · refine reg.epochs sess ?_
      have set : (hub.authorizationEpochs.set sessionId (authzVersion, now)).get sess ≠ none :=
        kept
      rw [get_set_ne same] at set
      exact set
  · exact (length_set_of_absent unregistered).trans_le (Nat.succ_le_succ reg.sessionLimit)
  · exact fun _ impossible => impossible.elim
  · exact (modify_channel_length _ _).trans_le reg.channelLimit
  · intro other found isFound
    rw [channelGet] at isFound
    split_ifs at isFound with same
    · obtain ⟨pre, isBefore, rfl⟩ := map_eq_some_iff.mp isFound
      rw [same]
      exact reg.targets cameraId pre isBefore
    · exact reg.targets other found isFound
  · intro other found isFound
    rw [next]
    rw [channelGet] at isFound
    split_ifs at isFound with same
    · obtain ⟨pre, isBefore, rfl⟩ := map_eq_some_iff.mp isFound
      exact reg.histories cameraId pre isBefore
    · exact reg.histories other found isFound
  · intro isOwn handle sub isHandle isOpen
    rw [sessions]
    by_cases isNew : handle = hub.handles.length
    · rw [isNew, newHandle] at isHandle
      cases isHandle
      rw [if_pos rfl, isNew]
    · have pre : hub.handles[handle]? = some sub := by
        have bound := (List.getElem?_eq_some_iff.mp isHandle).1
        have shorter : handle < hub.handles.length := by
          simp only [register, length_append, length_singleton] at bound
          omega
        have same : (register cameraId sessionId authzVersion now hub).handles[handle]? =
            hub.handles[handle]? := by
          unfold register
          exact getElem?_append_left shorter
        rw [← same]
        exact isHandle
      have found := reg.opened isOwn handle sub pre isOpen
      rw [if_neg]
      · exact found
      · intro same
        rw [same, unregistered] at found
        cases found

theorem registry_epoch (reg : Registry cfg terms hub) {sessionId : UUID}
    (registered : hub.sessionSubscriptions.get sessionId ≠ none) (epoch : Int × Int) :
    Registry cfg terms
      { hub with authorizationEpochs := hub.authorizationEpochs.set sessionId epoch } := by
  refine ⟨reg.mapped, reg.listed, ?_, reg.sessionLimit, reg.vacancy,
    reg.channelLimit, reg.targets, reg.histories, reg.opened⟩
  intro sess kept
  by_cases same : sess = sessionId
  · rw [same]
    exact registered
  · refine reg.epochs sess ?_
    have set : (hub.authorizationEpochs.set sessionId epoch).get sess ≠ none := kept
    rw [get_set_ne same] at set
    exact set

theorem registry_same {after : CameraLiveUpdates Index Data}
    (reg : Registry cfg terms hub) (channels : after.channels = hub.channels)
    (sessions : after.sessionSubscriptions = hub.sessionSubscriptions)
    (epochs : after.authorizationEpochs = hub.authorizationEpochs)
    (handles : after.handles = hub.handles) (next : hub.nextEventId ≤ after.nextEventId) :
    Registry cfg terms after := by
  have sameListed : ∀ cameraId sessionId,
      subscriberAt after cameraId sessionId = subscriberAt hub cameraId sessionId := by
    intro cameraId sessionId
    unfold subscriberAt
    rw [channels]
  refine ⟨?_, ?_, ?_, ?_, ?_, ?_, ?_, ?_, ?_⟩
  · intro sessionId handle found
    rw [sessions] at found
    obtain ⟨sub, isHandle, isSession, lists⟩ := reg.mapped sessionId handle found
    exact ⟨sub, handles ▸ isHandle, isSession, (sameListed _ _).trans lists⟩
  · intro cameraId sessionId handle lists
    rw [sessions, handles]
    exact reg.listed cameraId sessionId handle ((sameListed _ _).symm.trans lists)
  · rw [sessions, epochs]
    exact reg.epochs
  · rw [sessions]
    exact reg.sessionLimit
  · rw [sessions]
    exact reg.vacancy
  · rw [channels]
    exact reg.channelLimit
  · rw [channels]
    exact reg.targets
  · rw [channels]
    exact fun cameraId chan found =>
      history_later (reg.histories cameraId chan found) next
  · rw [sessions, handles]
    exact reg.opened

end Changes

end RtspProxy.Live
