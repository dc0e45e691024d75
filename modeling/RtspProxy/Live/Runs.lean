import RtspProxy.Live.Hub

/-!
# Runs of the live update hub

Between two awaits a coroutine runs undisturbed, so a run is a sequence of such
pieces: the sections of the hub and the pieces of `__anext__`. What a coroutine
remembered from an earlier piece (the cameras or sessions of a refresh) is an
argument of the later one and may be anything, and so is every comparison of
times; a check of the authorization may fail at any time, for it may time out.
-/

namespace RtspProxy.Live

open Nodes Probes Lib Lib.Action CameraLiveUpdates

variable {Index Data : Type} (cfg : LiveSettings Index Data)

/-- What a piece of `__anext__` waited for. -/
inductive ConsumerEvent
  | asked (authorizeDue : Bool)
  | checked (cur authorizeDue : Bool)
  | delivered
  | timedOut (heartbeatDue authorizeDue : Bool)
  | cancelled
  deriving DecidableEq

def setWaiting (handle : Nat) (waiting : Waiting Data) : LiveAction Index Data Unit :=
  update (·.modifyHandle handle fun cur => { cur with waiting })

def anext (handle : Nat) (authorizeDue : Bool) : LiveAction Index Data Unit := do
  match ← read (·.handles[handle]?) with
  | none => pure ()
  | some sub =>
    if sub.terminalEvent.isSome ∧ sub.terminalDelivered = false then
      update (·.modifyHandle handle fun cur =>
        { cur with terminalDelivered := true, waiting := .nothing })
    else if sub.closed then setWaiting handle .nothing
    else setWaiting handle (if authorizeDue then .authorization else .queue)

/-- The check of the authorization failed: the subscription ends and the loop goes round. -/
def authorizationLost (handle : Nat) (now : Int) : LiveAction Index Data Unit := do
  closeForAuthzChange handle now
  anext handle false

/-- A piece of `__anext__`; an event the coroutine does not wait for does nothing. -/
def consume (handle : Nat) (event : ConsumerEvent) (now : Int) : LiveAction Index Data Unit := do
  match ← read (·.handles[handle]?) with
  | none => pure ()
  | some sub =>
    match sub.waiting, event with
    | .nothing, .asked authorizeDue => anext handle authorizeDue
    | .authorization, .checked true _ => setWaiting handle .queue
    | .heartbeat, .checked true _ | .event _, .checked true _ => setWaiting handle .nothing
    | .authorization, .checked false _ | .heartbeat, .checked false _
    | .event _, .checked false _ => authorizationLost handle now
    | .queue, .delivered =>
      match sub.queue with
      | [] => pure ()
      | next :: rest =>
        update (·.modifyHandle handle fun cur =>
          { cur with queue := rest, waiting := .event next })
    | .queue, .timedOut true _ => setWaiting handle .heartbeat
    | .queue, .timedOut false authorizeDue => anext handle authorizeDue
    | _, .cancelled => setWaiting handle .nothing
    | _, _ => pure ()

/-- A piece of one of the coroutines. -/
inductive LiveRequest (Index : Type)
  | openSubscription (target : CameraLiveTarget) (sid : UUID) (authzVersion : Int)
      (lastEventId : Option String) (authorized : Option Int) (initialAccess : Option Datetime)
      (now : Int)
  | currentState (target : CameraLiveTarget) (initialAccess : Option Datetime) (now : Int)
  | refreshFromReader (activeCameraIds : List UUID) (res : RefreshResult Index)
      (clock : Datetime) (now : Int)
  | refreshAuthorizationEpochs (sids : List UUID) (cur : Dict UUID Int) (checkedAt : Int)
  | consume (handle : Nat) (event : ConsumerEvent) (now : Int)
  | aclose (handle : Nat) (now : Int)
  | stop

/-- The action of a request, without the value it returns. -/
def ignore {Value : Type} (action : LiveAction Index Data Value) : LiveAction Index Data Unit := do
  let _ ← action
  pure ()

def perform [DecidableEq Data] : LiveRequest Index → LiveAction Index Data Unit
  | .openSubscription target sid authzVersion lastEventId authorized initialAccess now =>
    ignore (openSubscription cfg target sid authzVersion lastEventId authorized initialAccess now)
  | .currentState target initialAccess now => ignore (currentState cfg target initialAccess now)
  | .refreshFromReader activeCameraIds res clock now =>
    refreshFromReader cfg activeCameraIds res clock now
  | .refreshAuthorizationEpochs sids cur checkedAt =>
    refreshAuthorizationEpochs sids cur checkedAt
  | .consume handle event now => consume handle event now
  | .aclose handle now => aclose handle now
  | .stop => stop

/-- The hub after a request, whether it returned or raised. -/
def after [DecidableEq Data] (hub : CameraLiveUpdates Index Data) (req : LiveRequest Index) :
    CameraLiveUpdates Index Data :=
  (perform cfg req hub).2

def removing (hub : CameraLiveUpdates Index Data) :
    LiveRequest Index → Option (Nat × CameraLiveSubscription Data)
  | .aclose handle _ =>
    hub.handles[handle]?.bind fun sub =>
      if sub.closed ∧ sub.terminalEvent.isNone then none
      else some (handle, sub)
  | .consume handle (.checked false _) _ =>
    hub.handles[handle]?.bind fun sub =>
      match sub.waiting with
      | .authorization | .heartbeat | .event _ => some (handle, sub)
      | _ => none
  | _ => none

/-- Runs of which every request meets a condition in the hub it meets. -/
inductive LiveReachable [DecidableEq Data]
    (cond : CameraLiveUpdates Index Data → LiveRequest Index → Prop) :
    CameraLiveUpdates Index Data → Prop
  | init : LiveReachable cond {}
  | step {hub : CameraLiveUpdates Index Data} (reached : LiveReachable cond hub)
      (req : LiveRequest Index) (holds : cond hub req) :
      LiveReachable cond (after cfg hub req)

end RtspProxy.Live
