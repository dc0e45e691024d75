import RtspProxy.Broker.World
import RtspProxy.Lib.Attempts

/-!
# Receiving broker messages

`receive_probe_broker_request` and `receive_probe_broker_response` of
`probe_broker.py`, with `_recv_exact` and `_register_received_rights`. The
connection delivers what is left of a byte stream, cut as it likes, and installs
the descriptors that arrive with a piece under unused numbers. Every call may
fail, before or after it took effect. The list `descriptors` is filled in by
functions that may raise, so it is part of the state. `ProbeBrokerRequest.decode`
and `ProbeBrokerResponse.decode` are parameters.
-/

namespace RtspProxy.Broker.Receive

open Nodes Probes Lib.Program Lib.Program.Prog

abbrev Bytes := List UInt8

/-- What is raised; `other` is any class that no handler here names. -/
inductive Raised
  | broker (code : String)
  | osError
  | valueError
  | arithmeticError
  | typeError
  | structError
  | other (name : String)
  | group (msg : String) (exceptions : List Raised)

structure Ancillary where
  level : Int
  messageType : Int
  data : Bytes

structure Message where
  chunk : Bytes
  ancillary : List Ancillary
  flags : Nat

/-- `SOL_SOCKET` and `SCM_RIGHTS`. -/
def Ancillary.carriesRights (item : Ancillary) : Bool := item.level = 1 && item.messageType = 1

/-- `struct.Struct("=i").unpack_from` on a little-endian machine. -/
def unpackInt (first second third fourth : UInt8) : Int :=
  let value := first.toNat + 256 * (second.toNat + 256 * (third.toNat + 256 * fourth.toNat))
  if value < 2 ^ 31 then value else value - 2 ^ 32

/-- The descriptors in the complete groups of four bytes. -/
def unpackDescriptors : Bytes → List Int
  | first :: second :: third :: fourth :: rest =>
    unpackInt first second third fourth :: unpackDescriptors rest
  | _ => []

def Ancillary.rights (item : Ancillary) : List Int :=
  if item.carriesRights then unpackDescriptors item.data else []

def Message.rights (msg : Message) : List Int := msg.ancillary.flatMap Ancillary.rights

/-- `flags & (socket.MSG_CTRUNC | socket.MSG_TRUNC)`. -/
def Message.truncated (msg : Message) : Bool := msg.flags &&& (0x8 ||| 0x20) ≠ 0

/-- `struct.Struct("!I").unpack`. -/
def unpackSize (header : Bytes) : Nat := header.foldl (fun value byte => value * 256 + byte.toNat) 0

structure ProbeBrokerResponse where
  requestId : UUID
  endpointGeneration : UUID
  result : ProbeExecutionResult
  valid : requestId.isVersion4 = true ∧ endpointGeneration.isVersion4 = true ∧ 1 ≤ result.completedAt

structure PeerCredentials where
  pid : Int
  uid : Int
  gid : Int

/-- What the stream still holds, the descriptors that arrived, the list `descriptors`, and the
numbers that were closed, in order. -/
structure Intake where
  stream : Bytes
  arrived : List Int
  registered : List Int
  closed : List Int

inductive IntakeCall
  | wallClockMs
  | monotonic
  | settimeout (remaining : Rat)
  | waitUntilReadable (ioDeadline : Rat)
  | cancelled
  | getPeerCredentials
  | recvmsg (size : Nat)
  /-- `if descriptor not in descriptors: descriptors.append(descriptor)`. -/
  | register (descriptor : Int)
  | descriptors
  | setInheritable (descriptor : Int)
  | inspectSealedProbeInput (descriptor : Int)
  | makeReceivedProbeInput (req : ProbeBrokerRequest) (descriptor : Int)
  | close (descriptor : Int)

/-- A clock that answers `none` did not return a number. -/
abbrev IntakeAnswer : IntakeCall → Type
  | .wallClockMs => Option Int
  | .monotonic => Option Rat
  | .waitUntilReadable _ => Rat
  | .cancelled => Bool
  | .getPeerCredentials => PeerCredentials
  | .recvmsg _ => Message
  | .descriptors => List Int
  | .inspectSealedProbeInput _ => ProbeConnectGuardTarget
  | .makeReceivedProbeInput .. => ReceivedProbeInput
  | _ => Unit

abbrev IntakeProg := Prog IntakeCall IntakeAnswer Raised

abbrev IntakeTrial := Trial Intake IntakeCall

def Intake.receive (st : Intake) (msg : Message) : Intake :=
  { st with
    stream := st.stream.drop msg.chunk.length
    arrived := st.arrived ++ msg.rights }

def Intake.register (st : Intake) (descriptor : Int) : Intake :=
  { st with
    registered := if descriptor ∈ st.registered then st.registered
      else st.registered ++ [descriptor] }

def Intake.close (st : Intake) (descriptor : Int) : Intake :=
  { st with closed := st.closed ++ [descriptor] }

inductive IntakeEffect (st : Intake) :
    (req : IntakeCall) → Except Raised (IntakeAnswer req) → Intake → Prop
  | wallClockMs (observed : Option Int) : IntakeEffect st .wallClockMs (.ok observed) st
  | monotonic (observed : Option Rat) : IntakeEffect st .monotonic (.ok observed) st
  | settimeout {remaining : Rat} : IntakeEffect st (.settimeout remaining) (.ok ()) st
  | waitUntilReadable {ioDeadline : Rat} (remaining : Rat) :
      IntakeEffect st (.waitUntilReadable ioDeadline) (.ok remaining) st
  | cancelled (ans : Bool) : IntakeEffect st .cancelled (.ok ans) st
  | getPeerCredentials (peer : PeerCredentials) :
      IntakeEffect st .getPeerCredentials (.ok peer) st
  | recvmsg {size : Nat} {msg : Message} (atMost : msg.chunk.length ≤ size)
      (next : msg.chunk <+: st.stream)
      (distinct : msg.rights.Nodup) (unused : st.arrived.Disjoint msg.rights)
      (numbers : ∀ descriptor ∈ msg.rights, 0 ≤ descriptor) :
      IntakeEffect st (.recvmsg size) (.ok msg) (st.receive msg)
  | register {descriptor : Int} :
      IntakeEffect st (.register descriptor) (.ok ()) (st.register descriptor)
  | descriptors : IntakeEffect st .descriptors (.ok st.registered) st
  | setInheritable {descriptor : Int} :
      IntakeEffect st (.setInheritable descriptor) (.ok ()) st
  | inspectSealedProbeInput {descriptor : Int} (target : ProbeConnectGuardTarget) :
      IntakeEffect st (.inspectSealedProbeInput descriptor) (.ok target) st
  | makeReceivedProbeInput {req : ProbeBrokerRequest} {descriptor : Int} :
      IntakeEffect st (.makeReceivedProbeInput req descriptor)
        (.ok ⟨req, descriptor.toNat⟩) st
  | close {descriptor : Int} :
      IntakeEffect st (.close descriptor) (.ok ()) (st.close descriptor)

/-- A call may raise whatever it likes; where the code touches nothing but its own list, that can
only be an interruption. -/
def IntakeLost : IntakeCall → Raised → Prop
  | .register _, err => ∃ name, err = .other name
  | .descriptors, _ => False
  | _, _ => True

def intakeTools : Tools IntakeCall IntakeAnswer Raised Intake where
  effect := IntakeEffect
  lost := IntakeLost

section Programs

abbrev attempt (req : IntakeCall) : IntakeProg (IntakeAnswer req) := ask req

def brokerError {Result : Type} (code : String) : IntakeProg Result := raise (.broker code)

/-- `if condition: raise ProbeBrokerError(code)`. -/
def refuseIf (cond : Prop) [Decidable cond] (code : String) : IntakeProg Unit :=
  if cond then brokerError code else pure ()

/-- `try: body except caught: raise ProbeBrokerError(code) from None`. -/
def translating {Result : Type} (caught : Raised → Bool) (code : String)
    (body : IntakeProg Result) : IntakeProg Result :=
  body.handle fun err => if caught err then brokerError code else raise err

def isOsError : Raised → Bool
  | .osError => true
  | _ => false

def isValueError : Raised → Bool
  | .valueError => true
  | _ => false

/-- `(ArithmeticError, OSError, TypeError, ValueError)`. -/
def isClockError : Raised → Bool
  | .arithmeticError | .osError | .typeError | .valueError => true
  | _ => false

def requireUnixStream (unixStream : Bool) : IntakeProg Unit :=
  refuseIf (unixStream = false) "probe_broker_socket_invalid"

def requireTimeout (timeout : Rat) : IntakeProg Unit :=
  refuseIf (¬ (1 / 100 ≤ timeout ∧ timeout ≤ 5)) "probe_broker_policy_invalid"

def requireResponseWaitTimeout (timeout : Rat) : IntakeProg Unit :=
  refuseIf (¬ (1 / 100 ≤ timeout ∧ timeout ≤ 60)) "probe_broker_policy_invalid"

def readWallClockMs : IntakeProg Int :=
  translating
      (fun err => match err with
        | .arithmeticError | .osError | .valueError => true
        | _ => false)
      "probe_broker_policy_invalid" (attempt .wallClockMs) >>= fun observed =>
    match observed with
    | none => brokerError "probe_broker_policy_invalid"
    | some observed =>
      if observed < 1 then brokerError "probe_broker_policy_invalid" else pure observed

def startIoDeadline (timeout : Rat) : IntakeProg Rat :=
  translating isClockError "probe_broker_policy_invalid" (attempt .monotonic) >>= fun started =>
    match started with
    | none => brokerError "probe_broker_policy_invalid"
    | some started => pure (started + timeout)

def setRemainingTimeout (ioDeadline : Rat) : IntakeProg Unit :=
  translating isClockError "probe_broker_unavailable" (attempt .monotonic) >>= fun observed =>
    match observed with
    | none => brokerError "probe_broker_unavailable"
    | some observed =>
      if ioDeadline - observed ≤ 0 then brokerError "probe_broker_unavailable"
      else translating (fun err => isOsError err || isValueError err)
        "probe_broker_unavailable" (attempt (.settimeout (ioDeadline - observed)))

def policyInvalid (linux : Bool) (expectedUid expectedGid : Int) : Prop :=
  linux = false ∨ expectedUid < 0 ∨ expectedGid < 0

instance (linux : Bool) (expectedUid expectedGid : Int) :
    Decidable (policyInvalid linux expectedUid expectedGid) :=
  inferInstanceAs (Decidable (_ ∨ _ ∨ _))

def requireProbeBrokerPeer (unixStream linux : Bool) (expectedUid expectedGid : Int) :
    IntakeProg Unit :=
  requireUnixStream unixStream >>= fun _ =>
  refuseIf (policyInvalid linux expectedUid expectedGid) "probe_broker_policy_invalid" >>= fun _ =>
  translating
      (fun err => match err with
        | .osError | .structError => true
        | _ => false)
      "probe_broker_peer_invalid" (attempt .getPeerCredentials) >>= fun peer =>
    refuseIf (peer.pid < 1 ∨ peer.uid ≠ expectedUid ∨ peer.gid ≠ expectedGid)
      "probe_broker_peer_denied"

/-- The inner loop of `_register_received_rights`. -/
def registerAll : List Int → IntakeProg Unit
  | [] => pure ()
  | descriptor :: rest => attempt (.register descriptor) >>= fun _ => registerAll rest

/-- `_register_received_rights`, with `ancillary_invalid` so far. -/
def registerReceivedRights : List Ancillary → Bool → IntakeProg Bool
  | [], ancillaryInvalid => pure ancillaryInvalid
  | item :: rest, ancillaryInvalid =>
    if item.carriesRights = false then registerReceivedRights rest true
    else
      registerAll (unpackDescriptors item.data) >>= fun _ =>
        registerReceivedRights rest (ancillaryInvalid || decide (item.data.length % 4 ≠ 0))

/-- The `try` statement of `_recv_exact`; an interrupted registration is made again before the
interruption goes on. -/
def receiveMessage (size : Nat) : IntakeProg (Message × Bool) :=
  translating isOsError "probe_broker_unavailable" (attempt (.recvmsg size)) >>= fun msg =>
    (registerReceivedRights msg.ancillary false).andThen fun out =>
      match out with
      | .ok ancillaryInvalid => pure (msg, ancillaryInvalid)
      | .error err =>
        if isOsError err then brokerError "probe_broker_unavailable"
        else registerReceivedRights msg.ancillary false >>= fun _ => raise err

/-- The loop of `_recv_exact`. A turn adds at least one byte, so `size` turns are enough. -/
def recvTurns (cancellable : Bool) (ioDeadline : Rat) (size : Nat) :
    (turns : Nat) → (payload : Bytes) → IntakeProg Bytes
  | 0, payload => pure payload
  | turns + 1, payload =>
    if size ≤ payload.length then pure payload
    else
      (if cancellable then attempt (.waitUntilReadable ioDeadline) >>= fun _ => pure ()
        else pure ()) >>= fun _ =>
      setRemainingTimeout ioDeadline >>= fun _ =>
      receiveMessage (size - payload.length) >>= fun received =>
      refuseIf (received.1.truncated = true ∨ received.2 = true)
        "probe_broker_ancillary_invalid" >>= fun _ =>
      refuseIf (received.1.chunk = []) "probe_broker_request_truncated" >>= fun _ =>
        recvTurns cancellable ioDeadline size turns (payload ++ received.1.chunk)

def recvExact (cancellable : Bool) (ioDeadline : Rat) (size : Nat) : IntakeProg Bytes :=
  recvTurns cancellable ioDeadline size size []

/-- `for descriptor in descriptors`, with `cleanup_errors`. -/
def closeDescriptors : List Int → List Raised → IntakeProg (List Raised)
  | [], cleanupErrors => pure cleanupErrors
  | descriptor :: rest, cleanupErrors =>
    (attempt (.close descriptor)).andThen fun out =>
      match out with
      | .ok _ => closeDescriptors rest cleanupErrors
      | .error err => closeDescriptors rest (cleanupErrors ++ [err])

/-- `try: body except BaseException as primary_error`. -/
def closingOnFailure {Result : Type} (msg : String) (body : IntakeProg Result) :
    IntakeProg Result :=
  body.handle fun primaryError =>
    attempt .descriptors >>= fun descriptors =>
    closeDescriptors descriptors [] >>= fun cleanupErrors =>
      if cleanupErrors ≠ [] then raise (.group msg (primaryError :: cleanupErrors))
      else raise primaryError

def compute {Result : Type} (out : Except Raised Result) : IntakeProg Result := .done out

variable (decodeRequest : Bytes → Except Raised ProbeBrokerRequest)
  (decodeResponse : Bytes → Except Raised ProbeBrokerResponse)

def acceptRequest (startedAtUnixMs : Int) (payload : Bytes) : IntakeProg ReceivedProbeInput :=
  attempt .descriptors >>= fun descriptors =>
    match descriptors with
    | [descriptor] =>
      translating isOsError "probe_broker_descriptor_invalid"
        (attempt (.setInheritable descriptor)) >>= fun _ =>
      compute (decodeRequest payload) >>= fun req =>
      readWallClockMs >>= fun observedAtUnixMs =>
      refuseIf (req.deadlineUnixMs ≤ observedAtUnixMs) "probe_broker_request_expired" >>= fun _ =>
      refuseIf (60000 < req.deadlineUnixMs - startedAtUnixMs)
        "probe_broker_request_invalid" >>= fun _ =>
      translating isValueError "probe_broker_descriptor_invalid"
        (attempt (.inspectSealedProbeInput descriptor)) >>= fun target =>
      refuseIf (target ≠ req.target) "probe_broker_target_mismatch" >>= fun _ =>
      readWallClockMs >>= fun lastObservedAtUnixMs =>
      refuseIf (req.deadlineUnixMs ≤ lastObservedAtUnixMs)
        "probe_broker_request_expired" >>= fun _ =>
        attempt (.makeReceivedProbeInput req descriptor)
    | _ => brokerError "probe_broker_descriptor_count_invalid"

def receiveFrame (cancellable : Bool) (ioDeadline : Rat) (maximum : Nat) (invalid : String)
    (relabel : IntakeProg Bytes → IntakeProg Bytes) : IntakeProg Bytes :=
  relabel (recvExact cancellable ioDeadline 4) >>= fun header =>
  refuseIf (¬ (1 ≤ unpackSize header ∧ unpackSize header ≤ maximum)) invalid >>= fun _ =>
    relabel (recvExact cancellable ioDeadline (unpackSize header))

def receiveProbeBrokerRequest (unixStream linux : Bool) (expectedUid expectedGid : Int)
    (requestTimeoutSeconds : Rat) : IntakeProg ReceivedProbeInput :=
  requireUnixStream unixStream >>= fun _ =>
  refuseIf (policyInvalid linux expectedUid expectedGid) "probe_broker_policy_invalid" >>= fun _ =>
  requireTimeout requestTimeoutSeconds >>= fun _ =>
  readWallClockMs >>= fun startedAtUnixMs =>
  startIoDeadline requestTimeoutSeconds >>= fun ioDeadline =>
  requireProbeBrokerPeer unixStream linux expectedUid expectedGid >>= fun _ =>
  closingOnFailure "probe broker receive and descriptor cleanup failed"
    (receiveFrame false ioDeadline 1024 "probe_broker_request_invalid" id >>= fun payload =>
      acceptRequest decodeRequest startedAtUnixMs payload)

def isTruncated : Raised → Bool
  | .broker code => code = "probe_broker_request_truncated"
  | _ => false

def acceptResponse (cancellable : Bool) (expectedRequest : ProbeBrokerRequest) (payload : Bytes) :
    IntakeProg ProbeExecutionResult :=
  attempt .descriptors >>= fun descriptors =>
  refuseIf (descriptors ≠ []) "probe_broker_response_invalid" >>= fun _ =>
  compute (decodeResponse payload) >>= fun resp =>
  refuseIf (resp.requestId ≠ expectedRequest.requestId ∨
      resp.endpointGeneration ≠ expectedRequest.endpointGeneration)
    "probe_broker_response_mismatch" >>= fun _ =>
  refuseIf (expectedRequest.deadlineUnixMs * 1000 < resp.result.completedAt)
    "probe_broker_response_mismatch" >>= fun _ =>
  (if cancellable then attempt .cancelled else pure false) >>= fun isCancelled =>
  refuseIf (isCancelled = true) "probe_broker_cancelled" >>= fun _ =>
    pure resp.result

def receiveProbeBrokerResponse (unixStream cancellable : Bool) (expectedRequest : ProbeBrokerRequest)
    (timeout : Rat) : IntakeProg ProbeExecutionResult :=
  requireUnixStream unixStream >>= fun _ =>
  requireResponseWaitTimeout timeout >>= fun _ =>
  startIoDeadline timeout >>= fun responseDeadline =>
  attempt (.waitUntilReadable responseDeadline) >>= fun remaining =>
  startIoDeadline (min 5 remaining) >>= fun ioDeadline =>
  closingOnFailure "probe broker response and descriptor cleanup failed"
    (receiveFrame cancellable ioDeadline 512 "probe_broker_response_invalid"
        (translating isTruncated "probe_broker_response_truncated") >>= fun payload =>
      acceptResponse decodeResponse cancellable expectedRequest payload)

end Programs

end RtspProxy.Broker.Receive
