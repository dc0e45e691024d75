import RtspProxy.Lib.Program
import RtspProxy.Observability.Steps

/-!
# Delivery of notifications

`NotificationDispatcher.run_once` and `IncidentControl.observe` as programs over
the shared store, run by any number of threads. A thread may end at any point:
a dispatcher that ends between its claim and its completion has crashed. Clocks
are arbitrary, so leases may expire at any claim. The log records every claim,
every report of the transport and every completion that was accepted; no
modelled code reads it.

A claim of a message is over when the dispatcher that holds it has reported a
definite rejection.
-/

namespace RtspProxy.Observability

open Nodes Lib
open Lib.Program
open Lib.Program.Prog (ask raise)

/-- The arguments of the constructor, which checks them. -/
structure NotificationDispatcher where
  maxAttempts : Int
  retryDelay : Int
  leaseTimeout : Int
  maxAttemptsValid : 1 ≤ maxAttempts ∧ maxAttempts ≤ 10
  timingValid : 0 < retryDelay ∧ 0 < leaseTimeout

inductive DeliveryCall
  | clock
  | claimNotification (now leaseTimeout : Int)
  | send (msg : NotificationMessage)
  | completeNotification (noteId claimToken : UUID) (report : CompletionReport)
  | observeIncident (node : MediaNode) (observedAt : Datetime)

@[reducible] def DeliveryAnswer : DeliveryCall → Type
  | .clock => Datetime
  | .claimNotification .. => Option NotificationMessage
  | .send .. => Unit
  | .completeNotification .. => NotificationMessage
  | .observeIncident .. => Option NotificationIncident

abbrev DeliveryProgram := Prog DeliveryCall DeliveryAnswer ObservabilityError

def perform (req : DeliveryCall) : DeliveryProgram (DeliveryAnswer req) := ask req

def currentTime (now : Option Datetime) : DeliveryProgram Datetime :=
  match now with
  | none => perform .clock
  | some time => pure time

/-- `(succeeded, delivery_ambiguous)` after the `try` around `send`. -/
def deliveryOutcome : Except ObservabilityError Unit → Bool × Bool
  | .ok () => (true, false)
  | .error .deliveryAmbiguous => (false, true)
  | .error _ => (false, false)

def NotificationDispatcher.deliver (dispatcher : NotificationDispatcher) (now : Option Datetime)
    (notification : NotificationMessage) (claimToken : UUID) :
    DeliveryProgram (Option NotificationMessage) :=
  (perform (.send notification)).andThen fun sent => do
    let (succeeded, deliveryAmbiguous) := deliveryOutcome sent
    let completedAt ← currentTime now
    let completed ← perform (.completeNotification notification.id claimToken
      { succeeded, completedAt, maxAttempts := dispatcher.maxAttempts
        retryDelay := dispatcher.retryDelay, deliveryAmbiguous })
    return some completed

def NotificationDispatcher.runOnce (dispatcher : NotificationDispatcher) (now : Option Datetime) :
    DeliveryProgram (Option NotificationMessage) := do
  let claimTime ← currentTime now
  match ← perform (.claimNotification claimTime dispatcher.leaseTimeout) with
  | none => return none
  | some notification =>
    match notification.claimToken with
    | none => raise (.valueError "notification_claim_invalid")
    | some claimToken => dispatcher.deliver now notification claimToken

def observe (node : MediaNode) (observedAt : Option Datetime) :
    DeliveryProgram (Option NotificationIncident) := do
  let timestamp ← currentTime observedAt
  perform (.observeIncident node timestamp)

/-- What the transport reported: the relay accepted the message, may have, or has not. -/
inductive SendReport
  | accepted | ambiguous | rejected
  deriving DecidableEq

def SendReport.answer : SendReport → Except ObservabilityError Unit
  | .accepted => .ok ()
  | .ambiguous => .error .deliveryAmbiguous
  | .rejected => .error .transportFailed

inductive DeliveryEvent
  | claimed (tid : Nat) (msgId claimToken : UUID)
  | reported (claimToken : UUID) (report : SendReport)
  | completed (claimToken : UUID)
  deriving DecidableEq

structure DeliveryWorld where
  store : ObservabilityStore
  log : List DeliveryEvent

namespace DeliveryWorld

/-- `uuid4()` never returns a token twice. -/
def FreshToken (w : DeliveryWorld) (claimToken : UUID) : Prop :=
  ∀ tid msgId, .claimed tid msgId claimToken ∉ w.log

def FreshMessage (w : DeliveryWorld) (msgId : UUID) : Prop :=
  (∀ msg ∈ w.store.notifications, msg.id ≠ msgId) ∧
    ∀ tid claimToken, .claimed tid msgId claimToken ∉ w.log

def FreshIncident (w : DeliveryWorld) (incidentId : UUID) : Prop :=
  (∀ incident ∈ w.store.incidents, incident.id ≠ incidentId) ∧
    ∀ msg ∈ w.store.notifications, msg.incidentId ≠ incidentId

def record (w : DeliveryWorld) (store : ObservabilityStore) (events : List DeliveryEvent) :
    DeliveryWorld :=
  { store := store, log := w.log ++ events }

def claim (w : DeliveryWorld) (tid : Nat) (now leaseTimeout : Int) (claimToken : UUID) :
    Option NotificationMessage × DeliveryWorld :=
  let (claimed, store) := claimNotification w.store now leaseTimeout claimToken
  (claimed, w.record store
    (claimed.toList.map fun msg => .claimed tid msg.id claimToken))

def complete (w : DeliveryWorld) (noteId claimToken : UUID) (report : CompletionReport) :
    Except ObservabilityError NotificationMessage × DeliveryWorld :=
  let (res, store) := completeNotification w.store noteId claimToken report
  (res, w.record store (res.toOption.toList.map fun _ => .completed claimToken))

end DeliveryWorld

def deliveryExec (tid : Nat) (w : DeliveryWorld) :
    (req : DeliveryCall) → Except ObservabilityError (DeliveryAnswer req) → DeliveryWorld → Prop
  | .clock, ans, post => (∃ time, ans = .ok time) ∧ post = w
  | .claimNotification now leaseTimeout, ans, post =>
    ∃ claimToken, w.FreshToken claimToken ∧
      (ans, post) = ((w.claim tid now leaseTimeout claimToken).map .ok id)
  | .send msg, ans, post =>
    ∃ report : SendReport, ans = report.answer ∧ post = w.record w.store
        (msg.claimToken.toList.map fun claimToken => .reported claimToken report)
  | .completeNotification noteId claimToken report, ans, post =>
    (ans, post) = w.complete noteId claimToken report
  | .observeIncident node observedAt, ans, post =>
    ∃ incidentId msgId, w.FreshIncident incidentId ∧ w.FreshMessage msgId ∧
      (ans, post.store) = observeIncident w.store node observedAt incidentId msgId ∧
        post.log = w.log

def deliveryMachine : Machine DeliveryCall DeliveryAnswer ObservabilityError DeliveryWorld where
  exec := deliveryExec
  leave _ w := w

/-- Dispatchers whose configured maximum is at most that of `largest`, and the collector. -/
def deliveryStarts (largest : NotificationDispatcher) (prog : DeliveryProgram Unit) : Prop :=
  (∃ (dispatcher : NotificationDispatcher) (now : Option Datetime),
    dispatcher.maxAttempts ≤ largest.maxAttempts ∧ prog = do let _ ← dispatcher.runOnce now) ∨
  ∃ (node : MediaNode) (observedAt : Option Datetime), prog = do let _ ← observe node observedAt

abbrev DeliverySystem (largest : NotificationDispatcher) :
    SystemState DeliveryCall DeliveryAnswer ObservabilityError Unit DeliveryWorld → Prop :=
  SystemReachable deliveryMachine (deliveryStarts largest) fun w =>
    w = { store := {}, log := [] }

end RtspProxy.Observability
