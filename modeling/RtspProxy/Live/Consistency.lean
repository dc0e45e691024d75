import RtspProxy.Live.Sections

/-!
# The registry in every run

A request whose removal, if it runs one, finds the registration of its own camera
keeps the registry; one whose removal finds its own registration also keeps every
open subscription registered. `_remove_subscription` looks under the session, not
for the subscription, so a late close can find another one.
-/

namespace RtspProxy.Live

open Nodes Probes Lib Lib.Action CameraLiveUpdates

variable {Index Data : Type} {cfg : LiveSettings Index Data} {terms : Terms}

/-- In the middle of `stop`: these channels are still to be cleared, these subscriptions still to be
closed. -/
structure Stopping (cfg : LiveSettings Index Data) (terms : Terms)
    (subs : List Nat) (cameraIds : List (UUID × CameraChannel Data))
    (hub : CameraLiveUpdates Index Data) : Prop where
  sessions : hub.sessionSubscriptions = .empty
  epochs : hub.authorizationEpochs = .empty
  channelLimit : hub.channels.length ≤ cfg.maxTrackedCameras
  targets : ∀ cameraId chan, hub.channels.get cameraId = some chan → chan.target.cameraId = cameraId
  histories : ∀ cameraId chan, hub.channels.get cameraId = some chan →
    HistoryHolds cfg.historySize hub.nextEventId chan.history
  cleared : ∀ cameraId chan, hub.channels.get cameraId = some chan →
    chan.subscribers = .empty ∨ cameraId ∈ cameraIds.map Prod.fst
  closing : terms.own → ∀ (handle : Nat) (sub : CameraLiveSubscription Data),
    hub.handles[handle]? = some sub → sub.closed = false → handle ∈ subs

variable {hub : CameraLiveUpdates Index Data}

theorem stopping_begins (reg : Registry cfg terms hub) :
    Stopping cfg terms hub.sessionSubscriptions.values hub.channels.items
      { hub with sessionSubscriptions := .empty, authorizationEpochs := .empty } where
  sessions := rfl
  epochs := rfl
  channelLimit := reg.channelLimit
  targets := reg.targets
  histories := reg.histories
  cleared _ _ found :=
    .inr (List.mem_map_of_mem (Dict.get_eq_some.mp found))
  closing isOwn handle sub isHandle isOpen :=
    Dict.mem_values.mpr ⟨_, reg.opened isOwn handle sub isHandle isOpen⟩

theorem stopping_clears {subs : List Nat} {item : UUID × CameraChannel Data}
    {rest : List (UUID × CameraChannel Data)}
    (stopping : Stopping cfg terms subs (item :: rest) hub) :
    Stopping cfg terms subs rest
      (hub.modifyChannel item.1 fun chan => { chan with subscribers := .empty }) := by
  have changed : ∀ cameraId chan, (hub.modifyChannel item.1 fun chan =>
        { chan with subscribers := .empty }).channels.get cameraId = some chan →
      ∃ pre, hub.channels.get cameraId = some pre ∧ chan.target = pre.target ∧
        chan.history = pre.history ∧
        (chan.subscribers = .empty ∨ cameraId ≠ item.1 ∧ chan.subscribers = pre.subscribers) := by
    intro cameraId chan found
    rw [modify_channel_get] at found
    split_ifs at found with same
    · obtain ⟨pre, isBefore, rfl⟩ := Option.map_eq_some_iff.mp found
      rw [same]
      exact ⟨pre, isBefore, rfl, rfl, .inl rfl⟩
    · exact ⟨chan, found, rfl, rfl, .inr ⟨same, rfl⟩⟩
  refine ⟨?_, ?_, ?_, ?_, ?_, ?_, ?_⟩
  · rw [modify_channel_sessions]
    exact stopping.sessions
  · rw [modify_channel_epochs]
    exact stopping.epochs
  · rw [modify_channel_length]
    exact stopping.channelLimit
  · intro cameraId chan found
    obtain ⟨pre, isBefore, target, _⟩ := changed cameraId chan found
    rw [target]
    exact stopping.targets cameraId pre isBefore
  · intro cameraId chan found
    obtain ⟨pre, isBefore, _, history, _⟩ := changed cameraId chan found
    rw [history, modify_channel_next]
    exact stopping.histories cameraId pre isBefore
  · intro cameraId chan found
    obtain ⟨pre, isBefore, _, _, isEmpty | ⟨differ, same⟩⟩ := changed cameraId chan found
    · exact .inl isEmpty
    · rw [same]
      rcases stopping.cleared cameraId pre isBefore with isEmpty | mem
      · exact .inl isEmpty
      · rcases List.mem_cons.mp mem with isItem | later
        · exact absurd isItem differ
        · exact .inr later
  · rw [modify_channel_handles]
    exact stopping.closing

variable {handle : Nat}

theorem stopping_closes {rest : List Nat} (stopping : Stopping cfg terms (handle :: rest) [] hub) :
    Stopping cfg terms rest []
      (hub.modifyHandle handle fun cur => { cur with closed := true }) where
  sessions := stopping.sessions
  epochs := stopping.epochs
  channelLimit := stopping.channelLimit
  targets := stopping.targets
  histories := stopping.histories
  cleared := stopping.cleared
  closing isOwn other sub isHandle isOpen := by
    have differ : other ≠ handle := by
      rintro rfl
      rw [refused_closing (fun _ => rfl) sub isHandle] at isOpen
      cases isOpen
    have pre : hub.handles[other]? = some sub := by
      unfold CameraLiveUpdates.modifyHandle at isHandle
      rw [List.getElem?_modify] at isHandle
      simpa [differ.symm] using isHandle
    rcases List.mem_cons.mp (stopping.closing isOwn other sub pre isOpen) with
      isHandle | later
    · exact absurd isHandle differ
    · exact later

theorem stopping_ends (stopping : Stopping cfg terms [] [] hub) : Registry cfg terms hub := by
  have unlisted : ∀ cameraId sessionId, subscriberAt hub cameraId sessionId = none := by
    intro cameraId sessionId
    unfold subscriberAt
    cases found : hub.channels.get cameraId with
    | none => rfl
    | some chan =>
      rcases stopping.cleared cameraId chan found with isEmpty | impossible
      · simp [isEmpty]
      · cases impossible
  refine ⟨?_, ?_, ?_, ?_, ?_, stopping.channelLimit, stopping.targets, stopping.histories, ?_⟩
  · intro sessionId handle found
    rw [stopping.sessions] at found
    cases found
  · intro cameraId sessionId handle lists
    rw [unlisted] at lists
    cases lists
  · intro sessionId kept
    rw [stopping.epochs] at kept
    exact absurd rfl kept
  · rw [stopping.sessions]
    exact Nat.zero_le _
  · intro sessionId _
    rw [stopping.sessions]
    rfl
  · intro isOwn handle sub isHandle isOpen
    cases stopping.closing isOwn handle sub isHandle isOpen

theorem keeps_stop : Keeps (Registry cfg terms) (stop : LiveAction Index Data Unit) := by
  refine meets_read fun subs => meets_read fun channels => ?_
  refine @meets_bind _ _ _ _ _ _
    (fun _ => Stopping cfg terms subs channels.items) _ _ ?_ fun _ => ?_
  · refine meets_update ?_
    rintro hub ⟨⟨reg, rfl⟩, rfl⟩
    exact stopping_begins reg
  refine @meets_bind _ _ _ _ _ _ (fun _ => Stopping cfg terms subs []) _ _ ?_
    fun _ => ?_
  · refine meets_weaken (@meets_for_each _ _ _ (Stopping cfg terms subs) _ _
      fun item rest => meets_update fun hub stopping => ⟨rfl, stopping_clears stopping⟩)
      (fun _ holds => holds) ?_
    rintro out hub ⟨rfl, stopping⟩
    exact stopping
  · refine meets_weaken (@meets_for_each _ _ _ (fun rest => Stopping cfg terms rest []) _ _
      fun handle rest => meets_update fun hub stopping => ⟨rfl, stopping_closes stopping⟩)
      (fun _ holds => holds) ?_
    rintro out hub ⟨_, stopping⟩
    exact stopping_ends stopping

theorem keeps_set_waiting {waiting : Waiting Data} :
    Keeps (Registry cfg terms) (setWaiting handle waiting : LiveAction Index Data Unit) :=
  meets_update fun _ reg =>
    registry_handle reg handle ⟨fun _ => rfl, fun _ => rfl, fun _ closed => closed⟩

theorem keeps_anext {authorizeDue : Bool} :
    Keeps (Registry cfg terms)
      (anext handle authorizeDue : LiveAction Index Data Unit) := by
  refine meets_any_read fun found => ?_
  cases found with
  | none => exact keeps_pure
  | some sub =>
    dsimp only
    split
    · exact meets_update fun _ reg =>
        registry_handle reg handle ⟨fun _ => rfl, fun _ => rfl, fun _ closed => closed⟩
    · split
      · exact keeps_set_waiting
      · exact keeps_set_waiting

theorem meets_authorization_lost {now : Int} :
    Meets (fun hub : CameraLiveUpdates Index Data =>
        Registry cfg terms hub ∧ FindsOwn terms handle hub)
      (authorizationLost handle now) fun _ => Registry cfg terms := by
  refine meets_bind ?_ fun _ => keeps_anext
  refine meets_weaken meets_close_for_authz_change (fun _ holds => holds) ?_
  intro out hub reg
  cases out with
  | ok value => exact reg
  | error error => exact reg

/-- If the request runs a removal, that finds only what `FindsOwn` allows. -/
def RemovesOwn (terms : Terms) (hub : CameraLiveUpdates Index Data)
    (req : LiveRequest Index) : Prop :=
  ∀ handle sub, removing hub req = some (handle, sub) → FindsOwn terms handle hub

theorem meets_consume {event : ConsumerEvent} {now : Int} :
    Meets (fun hub : CameraLiveUpdates Index Data => Registry cfg terms hub ∧
        RemovesOwn terms hub (.consume handle event now))
      (consume handle event now) fun _ => Registry cfg terms := by
  refine meets_read fun found => ?_
  cases found with
  | none => exact meets_pure fun _ holds => holds.1.1
  | some sub =>
    have keeps : ∀ {action : LiveAction Index Data Unit}, Keeps (Registry cfg terms) action →
        Meets (fun hub : CameraLiveUpdates Index Data => (Registry cfg terms hub ∧
          RemovesOwn terms hub (.consume handle event now)) ∧
            hub.handles[handle]? = some sub) action fun _ => Registry cfg terms :=
      fun action => meets_weaken action (fun _ holds => holds.1.1) fun _ _ holds => holds
    have lost : (∀ hub : CameraLiveUpdates Index Data, hub.handles[handle]? = some sub →
        removing hub (.consume handle event now) = some (handle, sub)) →
        Meets (fun hub : CameraLiveUpdates Index Data => (Registry cfg terms hub ∧
          RemovesOwn terms hub (.consume handle event now)) ∧
            hub.handles[handle]? = some sub) (authorizationLost handle now)
          fun _ => Registry cfg terms := by
      intro isRemoving
      refine meets_weaken meets_authorization_lost ?_ fun _ _ holds => holds
      rintro hub ⟨⟨reg, removes⟩, isHandle⟩
      exact ⟨reg, removes handle sub (isRemoving hub isHandle)⟩
    dsimp only
    split
    case h_1 => exact keeps keeps_anext
    case h_2 => exact keeps keeps_set_waiting
    case h_3 | h_4 => exact keeps keeps_set_waiting
    case h_5 waits | h_6 waits | h_7 waits =>
      refine lost fun hub isHandle => ?_
      simp [removing, isHandle, waits]
    case h_8 =>
      cases sub.queue with
      | nil => exact keeps keeps_pure
      | cons next rest =>
        exact keeps (meets_update fun _ reg => registry_handle reg handle
          ⟨fun _ => rfl, fun _ => rfl, fun _ closed => closed⟩)
    case h_9 => exact keeps keeps_set_waiting
    case h_10 => exact keeps keeps_anext
    case h_11 => exact keeps keeps_set_waiting
    case h_12 => exact keeps keeps_pure

variable {req : LiveRequest Index} {own : Prop}

theorem request_registry [DecidableEq Data] (reg : Registry cfg (standing cfg own) hub)
    (removes : RemovesOwn (standing cfg own) hub req) :
    Registry cfg (standing cfg own) (after cfg hub req) := by
  unfold after
  cases req with
  | openSubscription => exact keeps_ignore keeps_open_subscription hub reg
  | currentState => exact keeps_ignore keeps_current_state hub reg
  | refreshFromReader => exact registry_parts.refresh_from_reader hub reg
  | refreshAuthorizationEpochs => exact keeps_refresh_authorization_epochs hub reg
  | consume handle event now => exact meets_consume hub ⟨reg, removes⟩
  | aclose handle now =>
    refine meets_aclose hub ⟨reg, ?_⟩
    intro sub isHandle isOpen
    refine removes handle sub ?_
    simp only [removing]
    rw [isHandle, Option.bind_some, if_neg isOpen]
  | stop => exact keeps_stop hub reg

theorem reachable_registry [DecidableEq Data]
    {cond : CameraLiveUpdates Index Data → LiveRequest Index → Prop}
    (removes : ∀ hub req, Registry cfg (standing cfg own) hub →
      cond hub req → RemovesOwn (standing cfg own) hub req) (reached : LiveReachable cfg cond hub) :
    Registry cfg (standing cfg own) hub := by
  induction reached with
  | init =>
    refine ⟨?_, ?_, ?_, Nat.zero_le _, fun _ impossible => impossible.elim, Nat.zero_le _, ?_, ?_,
      ?_⟩
    · intro sessionId handle found
      cases found
    · intro cameraId sessionId handle lists
      cases lists
    · exact fun _ kept => absurd rfl kept
    · intro cameraId chan found
      cases found
    · intro cameraId chan found
      cases found
    · intro _ handle sub isHandle
      cases isHandle
  | step _ req holds ih => exact request_registry ih (removes _ req ih holds)

/-- What the collections of the hub say of each other, and their bounds. -/
structure Consistent (cfg : LiveSettings Index Data) (hub : CameraLiveUpdates Index Data) :
    Prop where
  sameSubscriptions : ∀ sessionId handle, hub.sessionSubscriptions.get sessionId = some handle ↔
    ∃ cameraId, subscriberAt hub cameraId sessionId = some handle
  oneEach : ∀ sessionId cameraId other handle second,
    subscriberAt hub cameraId sessionId = some handle →
    subscriberAt hub other sessionId = some second → cameraId = other ∧ handle = second
  epochs : ∀ sessionId, hub.authorizationEpochs.get sessionId ≠ none →
    hub.sessionSubscriptions.get sessionId ≠ none
  subscriptionLimit : hub.sessionSubscriptions.length ≤ cfg.maxSubscriptions
  channelLimit : hub.channels.length ≤ cfg.maxTrackedCameras
  histories : ∀ cameraId chan, hub.channels.get cameraId = some chan →
    HistoryHolds cfg.historySize hub.nextEventId chan.history

theorem registry_consistent (reg : Registry cfg (standing cfg own) hub) : Consistent cfg hub where
  sameSubscriptions sessionId handle := by
    constructor
    · intro found
      obtain ⟨sub, _, _, lists⟩ := reg.mapped sessionId handle found
      exact ⟨sub.cameraId, lists⟩
    · rintro ⟨cameraId, lists⟩
      exact (reg.listed cameraId sessionId handle lists).1
  oneEach sessionId cameraId other handle second lists otherLists := by
    obtain ⟨found, sub, isHandle, isCamera⟩ := reg.listed _ _ _ lists
    obtain ⟨otherFound, otherSubscription, isOther, isOtherCamera⟩ := reg.listed _ _ _ otherLists
    obtain rfl : handle = second := Option.some.inj (found.symm.trans otherFound)
    rw [isHandle] at isOther
    cases isOther
    exact ⟨isCamera.symm.trans isOtherCamera, rfl⟩
  epochs := reg.epochs
  subscriptionLimit := reg.sessionLimit
  channelLimit := reg.channelLimit
  histories := reg.histories

/-- A subscription that removes its registration does so in the channel where its session is
registered, if it is registered at all. -/
def RemovesInChannel (hub : CameraLiveUpdates Index Data) (req : LiveRequest Index) : Prop :=
  ∀ handle sub, removing hub req = some (handle, sub) →
    ∀ found, hub.sessionSubscriptions.get sub.sessionId = some found →
      ∀ other, hub.handles[found]? = some other → other.cameraId = sub.cameraId

/-- A subscription that removes its registration finds none under its session but its own. -/
def RemovesItself (hub : CameraLiveUpdates Index Data) (req : LiveRequest Index) : Prop :=
  ∀ handle sub, removing hub req = some (handle, sub) →
    ∀ found, hub.sessionSubscriptions.get sub.sessionId = some found → found = handle

theorem removing_handle {sub : CameraLiveSubscription Data}
    (isRemoving : removing hub req = some (handle, sub)) :
    hub.handles[handle]? = some sub := by
  unfold removing at isRemoving
  split at isRemoving
  · obtain ⟨found, isFound, rest⟩ := Option.bind_eq_some_iff.mp isRemoving
    split_ifs at rest
    cases rest
    exact isFound
  · obtain ⟨found, isFound, rest⟩ := Option.bind_eq_some_iff.mp isRemoving
    split at rest
    all_goals cases rest
    all_goals exact isFound
  · cases isRemoving

theorem hub_consistent_when_removals_stay_in_channel [DecidableEq Data]
    {hub : CameraLiveUpdates Index Data}
    (reached : LiveReachable cfg RemovesInChannel hub) : Consistent cfg hub := by
  refine registry_consistent (@reachable_registry _ _ _ _ False _ _ ?_ reached)
  intro hub req _ stays handle sub isRemoving own isHandle found isFound
  rw [removing_handle isRemoving] at isHandle
  cases isHandle
  exact ⟨False.elim, stays handle sub isRemoving found isFound⟩

def Registered (hub : CameraLiveUpdates Index Data) (handle : Nat)
    (sub : CameraLiveSubscription Data) : Prop :=
  hub.sessionSubscriptions.get sub.sessionId = some handle ∧
    subscriberAt hub sub.cameraId sub.sessionId = some handle

theorem reachable_own [DecidableEq Data] (reached : LiveReachable cfg RemovesItself hub) :
    Registry cfg (standing cfg True) hub := by
  refine reachable_registry ?_ reached
  intro hub req _ itself handle sub isRemoving own isHandle found isFound
  rw [removing_handle isRemoving] at isHandle
  cases isHandle
  have same := itself handle sub isRemoving found isFound
  refine ⟨fun _ => same, ?_⟩
  intro other isOther
  rw [same, removing_handle isRemoving] at isOther
  cases isOther
  rfl

theorem aclose_sessions [DecidableEq Data] (hub : CameraLiveUpdates Index Data) (handle : Nat)
    (now : Int) :
    (after cfg hub (.aclose handle now)).sessionSubscriptions =
      match removing hub (.aclose handle now) with
      | none => hub.sessionSubscriptions
      | some (_, sub) => hub.sessionSubscriptions.pop sub.sessionId := by
  have closes : Meets (fun st => st = hub) (aclose handle now) fun _ st =>
      st.sessionSubscriptions = match removing hub (.aclose handle now) with
        | none => hub.sessionSubscriptions
        | some (_, sub) => hub.sessionSubscriptions.pop sub.sessionId := by
    refine meets_read fun found => ?_
    cases found with
    | none =>
      refine meets_pure ?_
      rintro st ⟨rfl, isHandle⟩
      simp [removing, isHandle]
    | some sub =>
      dsimp only
      split_ifs with isDone
      · refine meets_pure ?_
        rintro st ⟨rfl, isHandle⟩
        simp only [removing, isHandle, Option.bind_some, if_pos isDone]
      · rintro st ⟨rfl, isHandle⟩
        simp only [removing, isHandle, Option.bind_some, if_neg isDone]
        exact modify_channel_sessions _ _
  exact closes hub rfl

theorem open_subscriptions_registered_when_removals_find_their_own [DecidableEq Data]
    {hub : CameraLiveUpdates Index Data} (reached : LiveReachable cfg RemovesItself hub) :
    (∀ (handle : Nat) (sub : CameraLiveSubscription Data),
      hub.handles[handle]? = some sub → sub.closed = false → Registered hub handle sub) ∧
    ∀ handle now, RemovesItself hub (.aclose handle now) → ∀ sessionId other, other ≠ handle →
      hub.sessionSubscriptions.get sessionId = some other →
      (after cfg hub (.aclose handle now)).sessionSubscriptions.get sessionId = some other := by
  have reg := reachable_own reached
  refine ⟨?_, ?_⟩
  · intro handle sub isHandle isOpen
    have found := reg.opened trivial handle sub isHandle isOpen
    obtain ⟨same, isSame, _, lists⟩ := reg.mapped _ handle found
    rw [isHandle] at isSame
    cases isSame
    exact ⟨found, lists⟩
  · intro handle now itself sessionId other differ found
    rw [aclose_sessions]
    split
    · exact found
    · rename_i removed sub isRemoving
      rw [Dict.get_pop, if_neg]
      · exact found
      · rintro rfl
        have isHandle : removed = handle := by
          simp only [removing, Option.bind_eq_some_iff] at isRemoving
          obtain ⟨_, _, rest⟩ := isRemoving
          split_ifs at rest
          cases rest
          rfl
        exact differ ((itself removed sub isRemoving other found).trans isHandle)

/-- A hub of one subscription and one camera more than that, whose cameras always look the same. -/
def sampleSettings : LiveSettings Unit Unit where
  historySize := 1
  subscriberQueueSize := 1
  maxSubscriptions := 1
  maxTrackedCameras := 2
  maxSnapshotAge := none
  channelTtl := 300
  authorizesSessions := true
  generatedAt _ := 0
  projectCamera _ _ := ()
  sizesValid := by decide

def sampleSession : UUID := 0x40008000000000000001

def sampleTarget (cameraId : UUID) (valid : cameraId.isVersion4 = true) : CameraLiveTarget where
  cameraId := cameraId
  publicId := ⟨"abcdefghijklmnopqrstuvwxya", by decide⟩
  nodeId := 0x40008000000000000002
  valid := ⟨valid, by decide⟩

def openSample (cameraId : UUID) (valid : cameraId.isVersion4 = true) : LiveRequest Unit :=
  .openSubscription (sampleTarget cameraId valid) sampleSession 1 none (some 1) none 0

/-- The first subscription loses its authorization, the session opens another one at a second
camera. -/
def reopenedRun : List (LiveRequest Unit) :=
  [openSample 0x40008000000000000003 (by decide), .consume 0 (.asked true) 0,
    .consume 0 (.checked false false) 0, openSample 0x40008000000000000004 (by decide)]

def sampleHub (reqs : List (LiveRequest Unit)) : CameraLiveUpdates Unit Unit :=
  reqs.foldl (after sampleSettings) {}

/-- `RemovesItself`, computed. -/
def removesItself (hub : CameraLiveUpdates Index Data) (req : LiveRequest Index) : Bool :=
  (removing hub req).all fun removed =>
    (hub.sessionSubscriptions.get removed.2.sessionId).all fun found => decide (found = removed.1)

theorem removes_itself_iff :
    removesItself hub req = true ↔ RemovesItself hub req := by
  simp [removesItself, RemovesItself, Option.all_eq_true, Prod.forall]

theorem removes_in_channel_of_itself (itself : RemovesItself hub req) :
    RemovesInChannel hub req := by
  intro handle sub isRemoving found isFound other isOther
  rw [itself handle sub isRemoving found isFound, removing_handle isRemoving] at isOther
  cases isOther
  rfl

theorem sample_reachable {cond : CameraLiveUpdates Unit Unit → LiveRequest Unit → Prop}
    {hub : CameraLiveUpdates Unit Unit} (reached : LiveReachable sampleSettings cond hub)
    (reqs : List (LiveRequest Unit)) (holds : ∀ earlier req later, reqs = earlier ++ req :: later →
      cond (earlier.foldl (after sampleSettings) hub) req) :
    LiveReachable sampleSettings cond (reqs.foldl (after sampleSettings) hub) := by
  induction reqs generalizing hub with
  | nil => exact reached
  | cons req rest ih =>
    refine ih (.step reached req (holds [] req rest rfl)) ?_
    intro earlier later after isRest
    exact holds (req :: earlier) later after (by rw [isRest]; rfl)

/-- The close of the first subscription, when the second is open: the session map forgets the
second, whose channel still lists it. -/
theorem late_close_breaks_the_registry :
    ∃ hub, LiveReachable sampleSettings (fun _ _ => True) hub ∧ ¬ Consistent sampleSettings hub := by
  refine ⟨sampleHub (reopenedRun ++ [.aclose 0 0]),
    sample_reachable .init _ fun _ _ _ _ => trivial, ?_⟩
  intro consistent
  have lists : subscriberAt (sampleHub (reopenedRun ++ [.aclose 0 0])) 0x40008000000000000004
      sampleSession = some 1 := by
    decide +kernel
  have forgotten : (sampleHub (reopenedRun ++ [.aclose 0 0])).sessionSubscriptions.get
      sampleSession = none := by
    decide +kernel
  have found := (consistent.sameSubscriptions sampleSession 1).mpr ⟨_, lists⟩
  rw [forgotten] at found
  cases found

theorem late_close_unregisters_an_open_subscription :
    ∃ hub handle sub, LiveReachable sampleSettings (fun _ _ => True) hub ∧
      hub.handles[handle]? = some sub ∧ sub.closed = false ∧
      ¬ Registered hub handle sub := by
  have isOpen : (sampleHub (reopenedRun ++ [.aclose 0 0])).handles[1]?.any (fun sub =>
      !sub.closed && decide (sub.sessionId = sampleSession)) = true := by
    decide +kernel
  obtain ⟨sub, isHandle, fits⟩ := (Option.any_eq_true _ _).mp isOpen
  obtain ⟨opened, isSession⟩ := Bool.and_eq_true_iff.mp fits
  refine ⟨sampleHub (reopenedRun ++ [.aclose 0 0]), 1, sub,
    sample_reachable .init _ fun _ _ _ _ => trivial, isHandle, by simpa using opened, ?_⟩
  rintro ⟨registered, _⟩
  rw [of_decide_eq_true isSession] at registered
  have forgotten : (sampleHub (reopenedRun ++ [.aclose 0 0])).sessionSubscriptions.get
      sampleSession = none := by
    decide +kernel
  rw [forgotten] at registered
  cases registered

theorem reopened_itself : ∀ earlier req later, reopenedRun = earlier ++ req :: later →
    RemovesItself (earlier.foldl (after sampleSettings) {}) req := by
  have checked : (List.range 4).all (fun count => (reopenedRun[count]?).all fun req =>
      removesItself ((reopenedRun.take count).foldl (after sampleSettings) {}) req) = true := by
    decide +kernel
  intro earlier req later isRun
  have short : earlier.length < 4 := by
    have lengths := congrArg List.length isRun
    rw [List.length_append, List.length_cons] at lengths
    change 4 = _ at lengths
    omega
  have here := List.all_eq_true.mp checked earlier.length (List.mem_range.mpr short)
  rw [isRun] at here
  simp only [List.take_left, List.getElem?_append_right (Nat.le_refl _), Nat.sub_self,
    List.getElem?_cons_zero, Option.all_some] at here
  exact removes_itself_iff.mp here

theorem hub_consistent_after_reopening : Consistent sampleSettings (sampleHub reopenedRun) :=
  hub_consistent_when_removals_stay_in_channel (sample_reachable .init _
    fun earlier req later isRun =>
      removes_in_channel_of_itself (reopened_itself earlier req later isRun))

theorem open_subscription_registered_after_reopening :
    ∃ sub, (sampleHub reopenedRun).handles[1]? = some sub ∧
      Registered (sampleHub reopenedRun) 1 sub := by
  have isOpen : (sampleHub reopenedRun).handles[1]?.any (fun sub =>
      !sub.closed) = true := by
    decide +kernel
  obtain ⟨sub, isHandle, opened⟩ := (Option.any_eq_true _ _).mp isOpen
  exact ⟨sub, isHandle, (open_subscriptions_registered_when_removals_find_their_own
    (sample_reachable .init _ reopened_itself)).1 1 sub isHandle (by simpa using opened)⟩

end RtspProxy.Live
