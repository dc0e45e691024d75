import RtspProxy.Broker.Programs
import RtspProxy.Broker.Invariant

/-!
# The programs of the broker keep the protocol

Each program is walked through once. What a thread knows between its calls is
what the others leave to it: the record it locked and its place in the table
(`Holding`), the recovery lock with what has been reported under it, and the
admission lock. Clocks and other reads keep every such fact, so a program only
has to account for the calls that change a record.
-/

namespace RtspProxy.Broker

open Nodes Probes Lib Lib.Program Lib.Program.Prog Call

variable {calm : Prop} {tid : Nat} {rec : Nat}

/-! ## Facts the others leave alone -/

variable {fact : World → Prop}

theorem stable_of_effect
    (kept : ∀ pre after actor, actor ≠ tid → Invariant calm pre → Effect actor pre after →
      fact pre → fact after) : Stable (protocol calm) tid fact := by
  rintro pre after inv _ ⟨actor, differ, step⟩ holds
  exact kept pre after actor differ inv (step_effect step) holds

/-- The thread holds the lock of the record, and this is known of the record and its place. -/
def Holding (tid rec : Nat) (known : ExecutionOwnership → Prop → Prop) (w : World) : Prop :=
  Locks tid w rec ∧ known (w.records rec) (w.Active rec)

variable {known : ExecutionOwnership → Prop → Prop}

theorem stable_holding : Stable (protocol calm) tid (Holding tid rec known) := by
  refine stable_of_effect ?_
  rintro pre after actor differ _ effect ⟨⟨present, own⟩, holds⟩
  obtain ⟨sameRecord, samePlace⟩ := effect.locked rec present tid (Ne.symm differ) own
  refine ⟨⟨Nat.lt_of_lt_of_le present effect.allocated, ?_⟩, ?_⟩
  · rw [sameRecord]
    exact own
  · rw [sameRecord, propext samePlace]
    exact holds

variable {w : World}

theorem holding_weaken {weaker : ExecutionOwnership → Prop → Prop}
    (holding : Holding tid rec known w)
    (weaken : ∀ ownership active, known ownership active → weaker ownership active) :
    Holding tid rec weaker w :=
  ⟨holding.1, weaken _ _ holding.2⟩

variable {ownership : ExecutionOwnership}

theorem holding_put (locks : Locks tid w rec)
    (sameInput : ownership.received = (w.records rec).received)
    (own : ownership.operationLock = some tid) (holds : known ownership (w.Active rec)) :
    Holding tid rec known (w.put rec ownership) := by
  refine ⟨⟨locks.1, ?_⟩, ?_⟩
  · rw [put_records_self]
    exact own
  · rw [put_records_self, propext (active_put sameInput)]
    exact holds

abbrev Always {Result : Type} (fact : World → Prop) : Except Failure Result → World → Prop :=
  fun _ w => fact w

abbrev Keeps {Result : Type} (calm : Prop) (tid : Nat) (fact : World → Prop)
    (prog : Program Result) : Prop :=
  Maintains (protocol calm) tid fact prog

theorem keeps_collect {body : Program Unit} (keeps : Keeps calm tid fact body) :
    Keeps calm tid fact (collect body) := by
  refine maintains_and_then keeps ?_
  intro out
  cases out <;> exact maintains_pure

/-- Calls that leave the world alone, whoever makes them. -/
def Call.Reads : Call → Prop
  | .query _ | .ownsRecord _ | .ownership _ | .pendingRecords | .unresolvedCleanupCount
  | .cleanupFailedIsSet | .stoppingIsSet | .admissionIsOpen => True
  | _ => False

variable {req : Call}

theorem reads_permitted (reads : req.Reads) (w : World) :
    Permitted calm tid w req := by
  cases req <;> trivial

theorem reads_idle (reads : req.Reads) {pre after : World}
    {ans : Except Failure (Answer req)}
    (ran : (machine calm).exec tid pre req ans after) : after = pre := by
  obtain ⟨_, chance, wish, acted⟩ := ran
  cases req with
  | query | ownsRecord | ownership | pendingRecords | unresolvedCleanupCount | cleanupFailedIsSet
  | stoppingIsSet =>
    cases acted
    rfl
  | admissionIsOpen =>
    simp only [perform] at acted
    split_ifs at acted
    cases acted
    rfl
  | _ => cases reads

variable {Result : Type}

theorem keeps_reads {prog : Program Result}
    (stable : Stable (protocol calm) tid fact) (only : Only Reads prog) :
    Keeps calm tid fact prog :=
  maintains_only (fun _ cur reads => reads_permitted reads cur)
    (fun _ _ _ _ reads => reads_idle reads) stable only

theorem only_query (question : Query) : Only Reads (query question) := only_ask trivial

theorem only_remaining_or_none (deadline : Rat) : Only Reads (remainingOrNone deadline) := by
  refine only_bind (only_query _) ?_
  intro ans
  cases ans <;> trivial

theorem only_remaining (deadline : Rat) : Only Reads (remaining deadline) := by
  refine only_bind (only_remaining_or_none deadline) ?_
  intro ans
  cases ans <;> trivial

theorem only_monotonic_deadline (timeout : Rat) : Only Reads (monotonicDeadline timeout) := by
  refine only_bind (only_query _) ?_
  intro ans
  cases ans <;> trivial

theorem only_cleanup_deadline : Only Reads cleanupDeadline := by
  refine only_handle (only_monotonic_deadline 5) ?_
  intro err
  split_ifs <;> trivial

theorem only_request_remaining (req : ProbeBrokerRequest) :
    Only Reads (requestRemainingSeconds req) := by
  refine only_bind (only_query _) ?_
  intro ans
  cases ans with
  | none => trivial
  | some observedAt =>
    dsimp only
    split_ifs <;> trivial

theorem only_execution_deadline (req : ProbeBrokerRequest) (timeout : Rat) :
    Only Reads (executionDeadline req timeout) :=
  only_bind (only_request_remaining req) fun _ => only_monotonic_deadline _

/-- What may be passed to `execute` to ask whether the request was cancelled. -/
def ReadsOnly (cancelled : Option (Program Bool)) : Prop :=
  ∀ check, cancelled = some check → Only Reads check

variable {cancelled : Option (Program Bool)}

theorem only_require_active (reads : ReadsOnly cancelled) :
    Only Reads (ProbeExecutionBroker.requireActive cancelled) := by
  cases cancelled with
  | none => trivial
  | some check =>
    refine only_bind (reads check rfl) ?_
    intro stop
    split_ifs <;> trivial

theorem only_decode_result (payload : List UInt8) :
    Only Reads (ProbeExecutionBroker.decodeResult payload) := by
  unfold ProbeExecutionBroker.decodeResult
  split_ifs
  · trivial
  · refine only_bind (only_handle (only_query _) fun _ => trivial) ?_
    intro res
    cases res <;> trivial

theorem safe_ownership {Final : Type} {next : ExecutionOwnership → Program Final}
    {post : Except Failure Final → World → Prop} (stable : Stable (protocol calm) tid fact)
    (continues : ∀ w, Invariant calm w → fact w →
      SafeAmong (protocol calm) tid post (next (w.records rec)) w) (holds : fact w) :
    SafeAmong (protocol calm) tid post (send (.ownership rec) >>= next) w := by
  have read : SafeAmong (protocol calm) tid
      (fun ans after => Invariant calm after ∧ fact after ∧ ans = .ok (after.records rec))
      (send (.ownership rec)) w := by
    refine safe_ask stable holds (fun _ _ _ => trivial) ?_
    rintro cur ans after inv isFact ⟨_, chance, wish, acted⟩
    cases acted
    exact ⟨inv, isFact, rfl⟩
  refine safe_and_then read ?_
  rintro out after ⟨inv, isFact, rfl⟩
  exact continues after inv isFact

/-- A call that leaves the world alone or changes the locked record within what is known of it. -/
theorem keeps_change (permitted : ∀ w, Invariant calm w → Holding tid rec known w →
      Permitted calm tid w req)
    (changes : ∀ w chance wish ans after, Holding tid rec known w →
      perform tid w chance req wish = some (ans, after) →
      after = w ∨ ∃ ownership, after = w.put rec ownership ∧
        ownership.received = (w.records rec).received ∧
        ownership.operationLock = some tid ∧ known ownership (w.Active rec)) :
    Keeps calm tid (Holding tid rec known) (send req) := by
  intro w holds
  refine safe_ask stable_holding holds permitted ?_
  rintro cur ans after inv holding ⟨_, chance, wish, acted⟩
  obtain rfl | ⟨ownership, rfl, sameInput, own, holds⟩ :=
    changes cur chance wish ans after holding acted
  · exact holding
  · exact holding_put holding.1 sameInput own holds

theorem collaborate_changes {Value : Type} {took sure : Bool} {wish ans : Except Failure Value}
    {change : ExecutionOwnership → ExecutionOwnership} {after : World}
    (holding : Holding tid rec known w)
    (acted : collaborate took sure wish (w.update rec change) w = some (ans, after))
    (sameInput : ∀ ownership, (change ownership).received = ownership.received)
    (sameLock : ∀ ownership, (change ownership).operationLock = ownership.operationLock)
    (holds : took = true → known (change (w.records rec)) (w.Active rec)) :
    after = w ∨ ∃ ownership, after = w.put rec ownership ∧
      ownership.received = (w.records rec).received ∧
      ownership.operationLock = some tid ∧ known ownership (w.Active rec) := by
  obtain ⟨_, ⟨isTook, rfl⟩ | ⟨_, rfl, _⟩⟩ := collaborate_cases acted
  · exact .inr ⟨_, rfl, sameInput _, (sameLock _).trans holding.1.2, holds isTook⟩
  · exact .inl rfl

/-- The record is not executing while it is in the table. -/
def Resting (ownership : ExecutionOwnership) (active : Prop) : Prop :=
  active → ownership.state ≠ .executing

def NoUnit (ownership : ExecutionOwnership) (active : Prop) : Prop :=
  Resting ownership active ∧ ownership.systemd = none

def NoGuard (ownership : ExecutionOwnership) (active : Prop) : Prop :=
  Resting ownership active ∧ ownership.systemd = none ∧ ownership.guard = none

def Emptied (ownership : ExecutionOwnership) (active : Prop) : Prop :=
  Resting ownership active ∧ ownership.slotsEmpty = true

theorem slots_empty_iff : ownership.slotsEmpty = true ↔
    ownership.channels = none ∧ ownership.systemd = none ∧ ownership.guard = none := by
  simp [ExecutionOwnership.slotsEmpty, and_assoc]

namespace ProbeExecutionBroker

theorem cleanup_unit_keeps (deadline : Rat) :
    Keeps calm tid (Holding tid rec Resting) (cleanupUnit rec deadline) := by
  intro w holds
  refine safe_ownership stable_holding ?_ holds
  intro cur _ holding
  cases (cur.records rec).systemd with
  | none => exact maintains_pure cur holding
  | some lease =>
    refine maintains_bind (keeps_reads stable_holding (only_remaining_or_none deadline)) ?_ cur
      holding
    intro left
    cases left with
    | none => exact maintains_pure
    | some seconds =>
      refine keeps_collect (keeps_change (fun _ _ holding => holding.1) ?_)
      intro w chance wish ans after holding acted
      exact collaborate_changes holding acted (fun _ => rfl) (fun _ => rfl)
        fun _ => holding.2

theorem cleanup_guard_keeps (deadline : Rat) :
    Keeps calm tid (Holding tid rec NoUnit) (cleanupGuard rec deadline) := by
  intro w holds
  refine safe_ownership stable_holding ?_ holds
  intro cur _ holding
  cases (cur.records rec).guard with
  | none => exact maintains_pure cur holding
  | some lease =>
    refine maintains_bind (keeps_reads stable_holding (only_remaining_or_none deadline)) ?_ cur
      holding
    intro left
    cases left with
    | none => exact maintains_pure
    | some seconds =>
      refine keeps_collect (keeps_change (fun _ _ holding => ⟨holding.1, holding.2.2⟩) ?_)
      intro w chance wish ans after holding acted
      exact collaborate_changes holding acted (fun _ => rfl) (fun _ => rfl)
        fun _ => holding.2

theorem cleanup_channels_keeps :
    Keeps calm tid (Holding tid rec NoGuard) (cleanupChannels rec) := by
  intro w holds
  refine safe_ownership stable_holding ?_ holds
  intro cur _ holding
  cases (cur.records rec).channels with
  | none => exact maintains_pure cur holding
  | some channels =>
    refine keeps_collect (maintains_bind (keeps_change ?_ ?_) fun _ => keeps_change ?_ ?_) cur
      holding
    · exact fun _ _ holding => ⟨holding.1, holding.2.2⟩
    · intro w chance wish ans after _ acted
      cases acted
      exact .inl rfl
    · exact fun _ _ holding => ⟨holding.1, holding.2.2⟩
    · intro w chance wish ans after holding acted
      simp only [perform] at acted
      split_ifs at acted
      · cases acted
        exact .inr ⟨_, rfl, rfl, holding.1.2, holding.2⟩
      · cases acted
        exact .inl rfl

theorem cleanup_received_keeps :
    Keeps calm tid (Holding tid rec Emptied) (cleanupReceived rec) := by
  intro w holds
  refine safe_ownership stable_holding ?_ holds
  intro cur _ holding
  split_ifs
  · exact maintains_pure cur holding
  · refine safe_and_then ?_ (fun out after (kept : Holding tid rec Emptied after) => ?_)
    · -- the flag is set only once the input is closed
      have isClosed : Stable (protocol calm) tid fun w =>
          w.closed (w.records rec).received.handle = true ∧ Locks tid w rec := by
        refine stable_of_effect ?_
        rintro pre after actor differ _ effect ⟨closed, present, own⟩
        have same := (effect.locked rec present tid (Ne.symm differ) own).1
        refine ⟨?_, Nat.lt_of_lt_of_le present effect.allocated, ?_⟩
        · rw [same]
          exact effect.closed _ closed
        · rw [same]
          exact own
      have closing : SafeAmong (protocol calm) tid
          (Returns (fun _ after => Holding tid rec Emptied after ∧
              after.closed (after.records rec).received.handle = true ∧ Locks tid after rec)
            fun _ => Holding tid rec Emptied) (send (.closeReceived rec)) cur := by
        refine safe_ask stable_holding holding ?_ ?_
        · exact fun _ _ holding => ⟨holding.1, holding.2.2⟩
        · rintro pre ans after _ holding ⟨_, chance, wish, acted⟩
          obtain ⟨_, _, acted⟩ := close_collaborates acted
          obtain ⟨_, ⟨_, rfl⟩ | ⟨_, rfl, raises⟩⟩ := collaborate_cases acted
          · cases ans with
            | ok _ => exact ⟨holding, if_pos rfl, holding.1⟩
            | error err => exact holding
          · obtain ⟨err, rfl⟩ := raises rfl
            exact holding
      refine safe_then closing (fun _ _ => id) ?_
      intro _ closed ⟨holding, isClosedNow⟩
      refine safe_ask (stable_and stable_holding isClosed) ⟨holding, isClosedNow⟩ ?_ ?_
      · rintro pre _ ⟨holding, closedBefore, _⟩
        exact ⟨holding.1, holding.2.1, holding.2.2, closedBefore⟩
      · rintro pre ans after _ ⟨holding, _⟩ ⟨_, chance, wish, acted⟩
        cases acted
        exact holding_put holding.1 rfl holding.1.2 holding.2
    · cases out with
      | ok _ => exact maintains_pure after kept
      | error _ => exact maintains_pure after kept

theorem cleanup_ownership_keeps (deadline : Rat) :
    Keeps calm tid (Holding tid rec Resting) (cleanupOwnership rec deadline) := by
  have rest {known : ExecutionOwnership → Prop → Prop} {Result : Type}
      {prog : Program Result} (weaken : ∀ ownership active, known ownership active →
        Resting ownership active) (keeps : Keeps calm tid (Holding tid rec known) prog)
      {w : World} (holding : Holding tid rec known w) :
      SafeAmong (protocol calm) tid (Always (Holding tid rec Resting)) prog w :=
    safe_weaken (keeps w holding) fun _ _ kept => holding_weaken kept weaken
  intro w holds
  refine maintains_then (cleanup_unit_keeps deadline) (fun _ _ => id) ?_ holds
  intro unitErrors afterUnit holding
  refine safe_ownership stable_holding ?_ holding
  intro cur _ holding
  split_ifs with held
  · exact maintains_pure cur holding
  · have noUnit : Holding tid rec NoUnit cur :=
      ⟨holding.1, holding.2, not_ne_iff.mp held⟩
    refine maintains_then (cleanup_guard_keeps deadline)
      (fun _ _ kept => holding_weaken kept fun _ _ => And.left) ?_ noUnit
    intro guardErrors afterGuard holding
    refine safe_ownership stable_holding ?_ holding
    intro cur _ holding
    split_ifs with held
    · exact rest (fun _ _ => And.left) maintains_pure holding
    · have noGuard : Holding tid rec NoGuard cur :=
        ⟨holding.1, holding.2.1, holding.2.2, not_ne_iff.mp held⟩
      refine maintains_then cleanup_channels_keeps
        (fun _ _ kept => holding_weaken kept fun _ _ => And.left) ?_ noGuard
      intro channelErrors afterChannels holding
      refine safe_ownership stable_holding ?_ holding
      intro cur _ holding
      split_ifs with held
      · exact rest (fun _ _ => And.left) maintains_pure holding
      · have emptied : Holding tid rec Emptied cur :=
          ⟨holding.1, holding.2.1, slots_empty_iff.mpr ⟨not_ne_iff.mp held, holding.2.2⟩⟩
        exact rest (fun _ _ => And.left)
          (maintains_bind cleanup_received_keeps fun _ => maintains_pure) emptied

def Locked (_ : ExecutionOwnership) (_ : Prop) : Prop := True

/-- The record was made by the thread for this request and has not been put into the table. -/
def New (tid : Nat) (req : ProbeBrokerRequest) (ownership : ExecutionOwnership)
    (active : Prop) : Prop :=
  ¬active ∧ ownership.owner = tid ∧ ownership.receivedClosed = false ∧
    ownership.state = .executing ∧ ownership.gateReleased = false ∧
    ownership.received.request = req

def Running (req : ProbeBrokerRequest) (ownership : ExecutionOwnership) (active : Prop) : Prop :=
  active ∧ ownership.state = .executing ∧ ownership.gateReleased = false ∧
    ownership.received.request = req

def Started (req : ProbeBrokerRequest) (ownership : ExecutionOwnership) (active : Prop) : Prop :=
  Running req ownership active ∧ ownership.systemd ≠ none

def Guarded (ownership : ExecutionOwnership) (_ : Prop) : Prop :=
  ownership.systemd ≠ none ∧ ownership.guard = some ownership.guardLease ∧
    ownership.guardLive = true

/-- The program ends as stated when it returns, and with the lock held when it raises. -/
abbrev Reaches {Result : Type} (calm : Prop) (tid rec : Nat)
    (known : ExecutionOwnership → Prop → Prop) (prog : Program Result) (w : World) : Prop :=
  SafeAmong (protocol calm) tid
    (Returns (fun _ => Holding tid rec known) fun _ => Holding tid rec Locked) prog
    w

theorem holding_locked (holding : Holding tid rec known w) :
    Holding tid rec Locked w :=
  ⟨holding.1, trivial⟩

theorem reaches_at_stage {stage : String} {body : Program Result}
    (reaches : Reaches calm tid rec known body w) :
    Reaches calm tid rec known (atStage stage body) w :=
  safe_handle (fun _ => Holding tid rec Locked) reaches fun _ _ holding => safe_raise holding

variable {prog : Program Result}

variable {later : ExecutionOwnership → Prop → Prop}

theorem reaches_reads {Final : Type} {next : Result → Program Final} (only : Only Reads prog)
    (continues : ∀ res w, Holding tid rec known w →
      Reaches calm tid rec later (next res) w) (holding : Holding tid rec known w) :
    Reaches calm tid rec later (prog >>= next) w :=
  maintains_then (keeps_reads stable_holding only) (fun _ _ => holding_locked) continues holding

theorem reaches_only (only : Only Reads prog) (holding : Holding tid rec known w) :
    Reaches calm tid rec known prog w := by
  refine safe_weaken (keeps_reads stable_holding only w holding) ?_
  intro out after kept
  cases out with
  | ok res => exact kept
  | error err => exact holding_locked kept

theorem stable_booked : Stable (protocol calm) tid fun w =>
    rec < w.allocated ∧ (calm → Booked tid w rec) := by
  refine stable_of_effect ?_
  rintro pre after actor differ _ effect ⟨present, booked⟩
  refine ⟨Nat.lt_of_lt_of_le present effect.allocated, ?_⟩
  intro isCalm
  have sameTarget : (after.records rec).target = (pre.records rec).target := by
    unfold ExecutionOwnership.target
    rw [(effect.origin rec present).1]
  unfold Booked
  rw [sameTarget]
  exact effect.targets _ _ (Ne.symm differ) (booked isCalm)

theorem register_reaches {req : ProbeBrokerRequest}
    (holding : Holding tid rec (New tid req) w)
    (booked : calm → Booked tid w rec) :
    Reaches calm tid rec (Running req) (send (.register rec)) w := by
  refine safe_ask (stable_and stable_holding stable_booked) ⟨holding, holding.1.1, booked⟩ ?_ ?_
  · rintro cur _ ⟨⟨locks, _, own, unclosed, executing, _⟩, _, booked⟩
    exact ⟨locks, own, executing, unclosed, booked⟩
  · rintro cur ans after _ ⟨⟨locks, _, _, _, executing, shut, isRequest⟩, _⟩
      ⟨_, chance, wish, acted⟩
    have acted := Option.some.inj acted
    unfold enter at acted
    dsimp only at acted
    split_ifs at acted with notReady present full
    · cases acted
      exact ⟨locks, trivial⟩
    · cases acted
      exact ⟨locks, trivial⟩
    · cases acted
      exact ⟨locks, trivial⟩
    · cases acted
      have free : cur.active.get (cur.records rec).requestId = none := by
        simpa [Dict.contains] using present
      exact ⟨locks, (active_set free).mpr (.inl rfl), executing, shut, isRequest⟩

theorem publish_reaches
    {change : Chance → ExecutionOwnership → ExecutionOwnership} {took : Chance → World → Bool}
    (performs : ∀ cur chance wish, perform tid cur chance req wish =
      collaborate (took chance cur) true wish (cur.update rec (change chance)) cur)
    (sameInput : ∀ chance ownership, (change chance ownership).received = ownership.received)
    (sameLock : ∀ chance ownership,
      (change chance ownership).operationLock = ownership.operationLock)
    (permitted : ∀ cur, Holding tid rec known cur → Permitted calm tid cur req)
    (published : ∀ chance ownership active, known ownership active →
      later (change chance ownership) active) (holding : Holding tid rec known w) :
    Reaches calm tid rec later (send req) w := by
  refine safe_ask stable_holding holding (fun cur _ => permitted cur) ?_
  rintro cur ans after _ ⟨locks, isKnown⟩ ⟨_, chance, wish, acted⟩
  rw [performs] at acted
  obtain ⟨_, ⟨_, rfl⟩ | ⟨_, rfl, raises⟩⟩ := collaborate_cases acted
  · have filled : Holding tid rec later (cur.update rec (change chance)) :=
      holding_put locks (sameInput chance _) ((sameLock chance _).trans locks.2)
        (published chance _ _ isKnown)
    cases ans with
    | ok value => exact filled
    | error err => exact holding_locked filled
  · obtain ⟨err, rfl⟩ := raises rfl
    exact ⟨locks, trivial⟩

variable {req : ProbeBrokerRequest}

theorem create_owned_keeps :
    Keeps calm tid (Holding tid rec (Running req)) (send (.createOwned rec)) := by
  refine keeps_change ?_ ?_
  · rintro w _ ⟨locks, isActive, executing, _⟩
    exact ⟨locks, isActive, executing⟩
  · intro w chance wish ans after holding acted
    exact collaborate_changes holding acted (fun _ => rfl) (fun _ => rfl) fun _ => holding.2

theorem start_owned_reaches {channels : Nat}
    (holding : Holding tid rec (Running req) w) :
    Reaches calm tid rec (Started req) (send (.startOwned rec channels)) w := by
  refine publish_reaches (fun _ _ _ => rfl) (fun _ _ => rfl) (fun _ _ => rfl) ?_ ?_ holding
  · rintro cur ⟨locks, isActive, executing, shut, _⟩
    exact ⟨⟨locks, isActive, executing⟩, shut⟩
  · intro chance ownership active isRunning
    exact ⟨isRunning, Option.some_ne_none _⟩

theorem install_owned_reaches {cgroupPath : String}
    (holding : Holding tid rec (Started req) w) :
    Reaches calm tid rec Guarded
      (send (.installOwned rec req.requestId (unitNameOf req.requestId) cgroupPath
        req.target)) w := by
  refine publish_reaches (fun _ _ _ => rfl) (fun _ _ => rfl) (fun _ _ => rfl) ?_ ?_ holding
  · rintro cur ⟨locks, ⟨isActive, executing, _, isRequest⟩, _⟩
    refine ⟨⟨locks, isActive, executing⟩, ?_⟩
    unfold ExecutionOwnership.guardLease ExecutionOwnership.requestId ExecutionOwnership.target
    rw [isRequest]
  · rintro chance ownership active ⟨⟨_, _, _, isRequest⟩, started⟩
    refine ⟨started, ?_, rfl⟩
    unfold ExecutionOwnership.guardLease ExecutionOwnership.requestId ExecutionOwnership.target
    rw [isRequest]

theorem release_gate_reaches (holding : Holding tid rec Guarded w) :
    Reaches calm tid rec Locked (send (.releaseGate rec)) w := by
  refine publish_reaches (fun _ _ _ => rfl) (fun _ _ => rfl) (fun _ _ => rfl) ?_ ?_ holding
  · rintro cur ⟨locks, guarded⟩
    exact ⟨locks, guarded⟩
  · exact fun _ _ _ _ => trivial

theorem read_output_keeps {lease : ProbeTransientLease} :
    Keeps calm tid (Holding tid rec Locked) (send (.readOutput rec lease)) := by
  refine keeps_change (fun _ _ holding => holding.1) ?_
  intro w chance wish ans after holding acted
  exact collaborate_changes holding acted (fun _ => rfl) (fun _ => rfl) fun _ => trivial

variable {timeout : Rat} {cancelled : Option (Program Bool)}

theorem channels_stage_reaches (reads : ReadsOnly cancelled)
    (holding : Holding tid rec (New tid req) w)
    (booked : calm → Booked tid w rec) :
    Reaches calm tid rec (Running req)
      (do
        send (.register rec)
        let deadline ← executionDeadline req timeout
        requireActive cancelled
        send (.createOwned rec)
        let channels ← requireChannels rec
        return (deadline, channels)) w := by
  refine safe_then (register_reaches holding booked) (fun _ _ => id) ?_
  intro _ entered isRunning
  refine reaches_reads (only_execution_deadline req timeout) ?_ isRunning
  intro deadline afterDeadline isRunning
  refine reaches_reads (only_require_active reads) ?_ isRunning
  intro _ beforeCreate isRunning
  refine maintains_then create_owned_keeps (fun _ _ => holding_locked) ?_ isRunning
  intro _ created isRunning
  refine reaches_reads ?_ (fun _ _ reserved => safe_pure reserved) isRunning
  refine only_bind (only_ask trivial) ?_
  intro ownership
  cases ownership.channels <;> trivial

theorem release_stage_reaches (reads : ReadsOnly cancelled)
    (holding : Holding tid rec Guarded w) :
    Reaches calm tid rec Locked
      (do
        requireActive cancelled
        send (.releaseGate rec)
        requireSystemdLease rec) w := by
  refine reaches_reads (only_require_active reads) ?_ holding
  intro _ active guarded
  refine safe_then (release_gate_reaches guarded) (fun _ _ => id) ?_
  intro _ released locked
  refine reaches_only ?_ locked
  refine only_bind (only_ask trivial) ?_
  intro ownership
  cases ownership.systemd <;> trivial

theorem attempt_reaches (reads : ReadsOnly cancelled)
    (holding : Holding tid rec (New tid req) w)
    (booked : calm → Booked tid w rec) :
    Reaches calm tid rec Locked (attempt req rec timeout cancelled) w := by
  refine safe_then (reaches_at_stage (channels_stage_reaches reads holding booked)) (fun _ _ => id) ?_
  rintro ⟨deadline, channels⟩ running isRunning
  have startStage : Reaches calm tid rec (Started req)
      (do
        requireActive cancelled
        let _ ← remaining deadline
        send (.startOwned rec channels)
        query (.closeChildEnds channels)) running := by
    refine reaches_reads (only_require_active reads) ?_ isRunning
    intro _ active isRunning
    refine reaches_reads (only_remaining deadline) ?_ isRunning
    intro _ beforeStart isRunning
    refine safe_then (start_owned_reaches isRunning) (fun _ _ => id) ?_
    intro _ started isStarted
    exact reaches_only (only_query _) isStarted
  refine safe_then (reaches_at_stage startStage) (fun _ _ => id) ?_
  intro _ started isStarted
  have cgroupStage : Reaches calm tid rec (Started req)
      (do
        requireActive cancelled
        let _ ← remaining deadline
        query (.resolveCgroup (unitNameOf req.requestId))) started := by
    refine reaches_reads (only_require_active reads) ?_ isStarted
    intro _ active isStarted
    exact reaches_only (only_bind (only_remaining deadline) fun _ => only_query _) isStarted
  refine safe_then (reaches_at_stage cgroupStage) (fun _ _ => id) ?_
  intro cgroupPath resolved isStarted
  have guardStage : Reaches calm tid rec Guarded
      (do
        requireActive cancelled
        let _ ← remaining deadline
        send (.installOwned rec req.requestId (unitNameOf req.requestId) cgroupPath
          req.target)
        let _ ← requestRemainingSeconds req
        let _ ← remaining deadline) resolved := by
    refine reaches_reads (only_require_active reads) ?_ isStarted
    intro _ active isStarted
    refine reaches_reads (only_remaining deadline) ?_ isStarted
    intro _ beforeInstall isStarted
    refine safe_then (install_owned_reaches isStarted) (fun _ _ => id) ?_
    intro _ installed guarded
    refine reaches_only ?_ guarded
    exact only_bind (only_request_remaining req) fun _ =>
      only_bind (only_remaining deadline) fun _ => trivial
  refine safe_then (reaches_at_stage guardStage) (fun _ _ => id) ?_
  intro _ installed guarded
  refine safe_then (reaches_at_stage (release_stage_reaches reads guarded)) (fun _ _ => id) ?_
  intro lease released locked
  have outputStage : Reaches calm tid rec Locked
      (do
        let _ ← remaining deadline
        send (.readOutput rec lease)) released := by
    refine reaches_reads (only_remaining deadline) ?_ locked
    intro _ beforeRead locked
    exact safe_returns (read_output_keeps beforeRead locked)
  refine safe_then (reaches_at_stage outputStage) (fun _ _ => id) ?_
  intro rawResult read locked
  refine reaches_at_stage (reaches_only ?_ locked)
  exact only_bind (only_require_active reads) fun _ => only_decode_result rawResult

def Named (requestId : UUID) (rec : Nat) (w : World) : Prop :=
  rec < w.allocated ∧ (w.records rec).requestId = requestId

variable {requestId : UUID}

theorem named_kept (actor : Nat) (pre after : World) (step : BrokerStep calm actor pre after)
    (named : Named requestId rec pre) : Named requestId rec after := by
  have effect := step_effect step
  refine ⟨Nat.lt_of_lt_of_le named.1 effect.allocated, ?_⟩
  unfold ExecutionOwnership.requestId
  rw [(effect.origin rec named.1).1]
  exact named.2

theorem stable_named : Stable (protocol calm) tid (Named requestId rec) := by
  rintro pre after _ _ ⟨actor, _, step⟩ named
  exact named_kept actor pre after step named

variable {post : Except Failure Result → World → Prop}

theorem safe_named (named : Named requestId rec w)
    (safe : SafeAmong (protocol calm) tid post prog w) :
    SafeAmong (protocol calm) tid
      (fun out after => post out after ∧ Named requestId rec after) prog w :=
  safe_frame (fun actor pre after _ _ step => named_kept actor pre after step) named safe

theorem safe_ensuring {first last : World → Prop} {body : Program Result}
    {final : Program Unit} (safe : SafeAmong (protocol calm) tid (Always first) body w)
    (ends : ∀ after, first after → SafeAmong (protocol calm) tid (Always last) final after) :
    SafeAmong (protocol calm) tid (Always last) (ensuring body final) w := by
  refine safe_and_then safe ?_
  intro out after holds
  refine safe_and_then (ends after holds) ?_
  intro ended later done
  cases ended with
  | ok _ => exact done
  | error _ => exact done

def Rests (rec : Nat) (w : World) : Prop :=
  rec < w.allocated ∧ Resting (w.records rec) (w.Active rec)

variable (holding : Holding tid rec Resting w)

include holding

theorem finalize_keeps (named : Named requestId rec w) :
    SafeAmong (protocol calm) tid (Always (Holding tid rec Resting))
      (send (.finalizeOwnership requestId rec)) w := by
  refine safe_ask (stable_and stable_holding stable_named) ⟨holding, named⟩ ?_ ?_
  · exact fun _ _ both => ⟨both.1.1, both.2.2⟩
  · rintro cur ans after _ ⟨⟨locks, resting⟩, _, rfl⟩ ⟨_, chance, wish, acted⟩
    cases acted
    unfold finalize
    split_ifs with isActive collected
    · refine ⟨locks, ?_⟩
      intro stillActive
      exact absurd rfl ((active_pop isActive).mp stillActive).1
    · exact holding_put locks rfl locks.2 fun _ => by simp
    · exact ⟨locks, resting⟩

theorem release_operation_rests :
    SafeAmong (protocol calm) tid (Always (Rests rec)) (send (.releaseOperation rec))
      w := by
  refine safe_ask stable_holding holding (fun _ _ holding => holding.1) ?_
  rintro cur ans after _ ⟨locks, resting⟩ ⟨_, chance, wish, acted⟩
  cases acted
  refine ⟨locks.1, ?_⟩
  intro isActive
  have stays := resting (Iff.mp (active_put (by rfl)) isActive)
  unfold World.update
  rw [put_records_self]
  exact stays

theorem end_operation_rests (named : Named requestId rec w) :
    SafeAmong (protocol calm) tid (Always (Rests rec)) (endOperation requestId rec)
      w :=
  safe_ensuring (finalize_keeps holding named) fun _ => release_operation_rests

omit holding

theorem owns_record_tells (holding : Holding tid rec Locked w) :
    SafeAmong (protocol calm) tid
      (Returns (fun owns after => Invariant calm after ∧
        Holding tid rec (fun _ active => active ↔ owns = true) after) fun _ _ => False)
      (send (.ownsRecord rec)) w := by
  refine safe_ask stable_holding holding (fun _ _ _ => trivial) ?_
  rintro cur ans after inv ⟨locks, _⟩ ⟨_, chance, wish, acted⟩
  cases acted
  exact ⟨inv, locks, decide_eq_true_iff.symm⟩

theorem begin_cleaning_rests (holding : Holding tid rec Locked w) :
    SafeAmong (protocol calm) tid (Always (Holding tid rec Resting))
      (send (.beginCleaning rec)) w := by
  refine safe_ask stable_holding holding (fun _ _ holding => holding.1) ?_
  rintro cur ans after _ ⟨locks, _⟩ ⟨_, chance, wish, acted⟩
  cases acted
  split_ifs with isActive
  · exact holding_put locks rfl locks.2 fun _ => by simp
  · exact ⟨locks, fun stillActive => absurd stillActive isActive⟩

variable {primary : Option Failure}

theorem keeps_raise_failures {cleanup : List Failure} :
    Keeps calm tid fact (raiseFailures primary cleanup) := by
  unfold raiseFailures
  cases failureOf primary cleanup with
  | none => exact maintains_pure
  | some err => exact maintains_raise

theorem conclude_execution_rests {out : Except Failure ProbeExecutionResult}
    (holding : Holding tid rec Locked w) :
    SafeAmong (protocol calm) tid (Always (Holding tid rec Resting))
      (concludeExecution rec out primary) w := by
  refine safe_then (safe_returns (begin_cleaning_rests holding)) (fun _ _ => id) ?_
  intro _ cleaning resting
  refine maintains_bind (keeps_reads stable_holding only_cleanup_deadline) ?_ cleaning resting
  intro deadline
  refine maintains_bind (cleanup_ownership_keeps deadline) ?_
  intro errors
  refine maintains_bind keeps_raise_failures ?_
  intro _
  refine maintains_bind (keeps_reads stable_holding (only_ask trivial)) ?_
  intro ownership
  split_ifs
  · exact maintains_raise
  · cases out with
    | ok res => exact maintains_pure
    | error err => exact maintains_raise

theorem reject_execution_rests (holding : Holding tid rec Emptied w) :
    SafeAmong (protocol calm) tid (Always (Holding tid rec Resting))
      (rejectExecution rec primary) w := by
  have keeps : Keeps calm tid (Holding tid rec Emptied) (rejectExecution rec primary) :=
    maintains_bind cleanup_received_keeps fun _ =>
      maintains_bind keeps_raise_failures fun _ => maintains_raise
  refine safe_weaken (keeps w holding) ?_
  intro _ after kept
  exact holding_weaken kept fun _ _ => And.left

variable {timeout : Rat}

theorem execute_claimed_rests {req : ProbeBrokerRequest}
    (reads : ReadsOnly cancelled) (holding : Holding tid rec (New tid req) w)
    (booked : calm → Booked tid w rec) :
    SafeAmong (protocol calm) tid (Always (Holding tid rec Resting))
      (executeClaimed req rec timeout cancelled) w := by
  have attempted : SafeAmong (protocol calm) tid (Always (Holding tid rec Locked))
      (attempt req rec timeout cancelled) w := by
    refine safe_weaken (attempt_reaches reads holding booked) ?_
    intro out after locked
    cases out <;> exact locked
  refine safe_and_then attempted ?_
  intro out after locked
  refine safe_then (owns_record_tells locked) (fun _ _ => False.elim) ?_
  rintro owns cur ⟨inv, locks, isOwner⟩
  split_ifs with isActive
  · exact conclude_execution_rests ⟨locks, trivial⟩
  · have outside : ¬cur.Active rec := fun active => isActive (isOwner.mp active)
    refine reject_execution_rests ⟨locks, fun active => absurd active outside, ?_⟩
    exact (inv.records rec locks.1).outside outside

variable {received : ReceivedProbeInput}

theorem new_ownership_holds
    (held : calm → w.activeTargets received.request.target = some { thread := tid }) :
    SafeAmong (protocol calm) tid
      (Returns (fun rec after => Holding tid rec (New tid received.request) after ∧
          (calm → Booked tid after rec) ∧ (after.records rec).received = received)
        fun _ _ => False) (send (.newOwnership received)) w := by
  have stable : Stable (protocol calm) tid fun w =>
      calm → w.activeTargets received.request.target = some { thread := tid } := by
    refine stable_of_effect ?_
    intro pre after actor differ _ effect held isCalm
    exact effect.targets _ _ (Ne.symm differ) (held isCalm)
  refine safe_ask stable held (fun _ _ held => held) ?_
  rintro cur ans after inv held ⟨_, chance, wish, acted⟩
  cases acted
  refine ⟨⟨⟨Nat.lt_succ_self _, ?_⟩, ?_⟩, ?_, ?_⟩
  · rw [allocate_new]
  · refine ⟨allocate_not_active inv, ?_⟩
    rw [allocate_new]
    exact ⟨rfl, rfl, rfl, rfl, rfl⟩
  · intro isCalm
    unfold Booked
    rw [allocate_new]
    exact if_pos ⟨rfl, held isCalm⟩
  · rw [allocate_new]

theorem execute_record_rests {req : ProbeBrokerRequest}
    (reads : ReadsOnly cancelled) (holding : Holding tid rec (New tid req) w)
    (booked : calm → Booked tid w rec) :
    SafeAmong (protocol calm) tid (Always (Rests rec))
      (ensuring (executeClaimed req rec timeout cancelled)
        (endOperation req.requestId rec)) w := by
  have named : Named req.requestId rec w := by
    refine ⟨holding.1.1, ?_⟩
    unfold ExecutionOwnership.requestId
    rw [holding.2.2.2.2.2.2]
  have body : SafeAmong (protocol calm) tid
      (Always fun after => Holding tid rec Resting after ∧ Named req.requestId rec after)
      (executeClaimed req rec timeout cancelled) w :=
    safe_named named (execute_claimed_rests reads holding booked)
  refine safe_ensuring body ?_
  rintro after ⟨resting, stillNamed⟩
  exact end_operation_rests resting stillNamed

theorem safe_validate_timeout {next : Rat → Program Result}
    (raised : ∀ err, post (.error err) w)
    (continues : SafeAmong (protocol calm) tid post (next timeout) w) :
    SafeAmong (protocol calm) tid post (validateTimeout timeout >>= next) w := by
  unfold validateTimeout
  split_ifs
  · exact continues
  · exact raised _

theorem execute_safe (reads : ReadsOnly cancelled)
    (held : calm → w.activeTargets received.request.target = some { thread := tid }) :
    SafeAmong (protocol calm) tid (fun _ _ => True) (execute received timeout cancelled)
      w := by
  refine safe_validate_timeout (fun _ => trivial) ?_
  refine safe_then (new_ownership_holds held) (fun _ _ _ => trivial) ?_
  rintro rec made ⟨holding, booked, _⟩
  exact safe_weaken (execute_record_rests reads holding booked) fun _ _ _ => trivial

def AllNamed (records : List (UUID × Nat)) (w : World) : Prop :=
  ∀ item ∈ records, Named item.1 item.2 w

theorem stable_all_named {records : List (UUID × Nat)} :
    Stable (protocol calm) tid (AllNamed records) := by
  intro pre after beforeHolds afterHolds step named item mem
  exact stable_named pre after beforeHolds afterHolds step (named item mem)

theorem pending_records_named :
    SafeAmong (protocol calm) tid
      (Returns (fun pending after => AllNamed pending after) fun _ _ => False)
      (send .pendingRecords) w := by
  have anything : Stable (protocol calm) tid fun _ => True := fun _ _ _ _ _ _ => trivial
  refine safe_ask anything trivial (fun _ _ _ => trivial) ?_
  rintro cur ans after inv _ ⟨_, chance, wish, acted⟩
  cases acted
  intro item mem
  exact inv.keyed item.1 item.2 (Dict.get_eq_some.mpr (List.mem_filter.mp mem).1)

theorem acquire_operation_locks (named : Named requestId rec w) :
    SafeAmong (protocol calm) tid
      (Returns (fun taken after => taken = true → Holding tid rec Locked after) fun _ _ => False)
      (send (.acquireOperation rec)) w := by
  refine safe_ask stable_named named (fun _ _ named => named.1) ?_
  rintro cur ans after _ ⟨present, _⟩ ⟨_, chance, wish, acted⟩
  simp only [perform] at acted
  split_ifs at acted with free
  · cases acted
    intro _
    refine ⟨⟨present, ?_⟩, trivial⟩
    unfold World.update
    rw [put_records_self]
  · cases acted
    intro impossible
    cases impossible

theorem claim_pending_rests (holding : Holding tid rec Locked w)
    (named : Named requestId rec w) :
    SafeAmong (protocol calm) tid
      (Returns (fun claimed after => Holding tid rec Locked after ∧
        Named requestId rec after ∧ (claimed = true → Holding tid rec Resting after))
        fun _ _ => False)
      (send (.claimPending requestId rec)) w := by
  refine safe_ask (stable_and stable_holding stable_named) ⟨holding, named⟩ ?_ ?_
  · exact fun _ _ both => ⟨both.1.1, both.2.2⟩
  · rintro cur ans after _ ⟨⟨locks, _⟩, named⟩ ⟨_, chance, wish, acted⟩
    have stillNamed := named_kept tid cur (claim cur requestId rec).2
      (@claim_steps calm tid cur rec requestId locks named.2) named
    cases acted
    unfold claim at stillNamed ⊢
    split_ifs at stillNamed ⊢ with owns
    · have rests : Holding tid rec Resting (cur.update rec fun ownership =>
          { ownership with state := .cleaning }) :=
        holding_put locks rfl locks.2 fun _ => by simp
      exact ⟨holding_locked rests, stillNamed, fun _ => rests⟩
    · refine ⟨⟨locks, trivial⟩, stillNamed, ?_⟩
      intro impossible
      cases impossible

variable {deadline : Rat}

theorem retry_record_safe (holding : Holding tid rec Locked w)
    (named : Named requestId rec w) :
    SafeAmong (protocol calm) tid (fun _ _ => True) (retryRecord requestId rec deadline)
      w := by
  refine safe_then (claim_pending_rests holding named) (fun _ _ => False.elim) ?_
  rintro claimed after ⟨locked, stillNamed, rests⟩
  cases claimed with
  | true =>
    have cleaned {collected : Except Failure (List Failure) → Program (List Failure)}
        (returns : ∀ out, ∃ errors, collected out = pure errors) :
        SafeAmong (protocol calm) tid (Always fun after =>
          Holding tid rec Resting after ∧ Named requestId rec after)
          ((cleanupOwnership rec deadline).andThen collected) after := by
      refine safe_named stillNamed ?_
      refine maintains_and_then (cleanup_ownership_keeps deadline) ?_ after (rests rfl)
      intro out
      obtain ⟨errors, isPure⟩ := returns out
      rw [isPure]
      exact maintains_pure
    have ended : ∀ cleaned, Holding tid rec Resting cleaned ∧ Named requestId rec cleaned →
        SafeAmong (protocol calm) tid (Always (Rests rec)) (endOperation requestId rec)
          cleaned := fun _ both => end_operation_rests both.1 both.2
    refine safe_any (safe_ensuring (cleaned ?_) ended)
    rintro (_ | _) <;> exact ⟨_, rfl⟩
  | false =>
    have released : SafeAmong (protocol calm) tid (fun _ _ => True)
        (send (.releaseOperation rec)) after :=
      safe_ask stable_holding locked (fun _ _ holding => holding.1) fun _ _ _ _ _ _ => trivial
    refine safe_and_then released ?_
    intro out _ _
    cases out <;> exact trivial

theorem safe_all_named {records : List (UUID × Nat)}
    (named : AllNamed records w) (safe : SafeAmong (protocol calm) tid post prog w) :
    SafeAmong (protocol calm) tid
      (fun out after => post out after ∧ AllNamed records after) prog w := by
  refine safe_frame ?_ named safe
  intro actor pre after _ _ step allNamed item mem
  exact named_kept actor pre after step (allNamed item mem)

theorem retry_records_safe (pending : List (UUID × Nat)) (named : AllNamed pending w) :
    SafeAmong (protocol calm) tid (fun _ _ => True) (retryRecords deadline pending) w := by
  induction pending generalizing w with
  | nil => exact trivial
  | cons item rest ih =>
    obtain ⟨requestId, rec⟩ := item
    refine maintains_then (keeps_reads stable_all_named (only_remaining_or_none deadline))
      (fun _ _ _ => trivial) ?_ named
    intro left cur named
    cases left with
    | none => exact trivial
    | some seconds =>
      refine safe_and_then (safe_all_named named
        (acquire_operation_locks (named _ List.mem_cons_self))) ?_
      rintro (err | taken) after ⟨locks, stillNamed⟩
      · cases locks
      · have namedRest : AllNamed rest after := fun item mem =>
          stillNamed item (List.mem_cons_of_mem _ mem)
        cases taken with
        | false => exact ih namedRest
        | true =>
          refine safe_and_then (safe_all_named namedRest
            (retry_record_safe (locks rfl) (stillNamed _ List.mem_cons_self))) ?_
          rintro (err | interruptions) later ⟨_, namedLater⟩
          · exact trivial
          · refine safe_and_then (ih namedLater) ?_
            intro out _ _
            cases out <;> exact trivial

/-- Calls that make no record, put none into the table and touch no target. -/
def Cleans : Call → Prop
  | .query _ | .ownership _ | .pendingRecords | .unresolvedCleanupCount | .acquireOperation _
  | .claimPending .. | .ensureCollected .. | .ensureReleased .. | .closeChannels ..
  | .releaseChannels .. | .closeReceived _ | .markReceivedClosed _ | .finalizeOwnership ..
  | .releaseOperation _ | .acquireRetry | .releaseRetry | .closeInput _
  | .publishCleanupFailure => True
  | _ => False

structure Outlasts (calm : Prop) (tid : Nat) (fact : World → Prop) : Prop where
  stable : Stable (protocol calm) tid fact
  kept : ∀ req pre ans after, Cleans req → Invariant calm pre →
    Permitted calm tid pre req →
    (machine calm).exec tid pre req ans after → fact pre → fact after

section Cleans

theorem only_monotonic {next : Option Rat → Program Result}
    (rest : ∀ now, Only Cleans (next now)) : Only Cleans (query .monotonic >>= next) :=
  only_bind (only_ask trivial) rest

theorem cleans_remaining_or_none (deadline : Rat) : Only Cleans (remainingOrNone deadline) := by
  refine only_monotonic ?_
  intro now
  cases now <;> trivial

theorem cleans_collect {body : Program Unit} (cleans : Only Cleans body) :
    Only Cleans (collect body) := by
  refine only_and_then cleans ?_
  intro out
  cases out <;> trivial

theorem cleans_ensuring {body : Program Result} {last : Program Unit}
    (first : Only Cleans body) (then_ : Only Cleans last) : Only Cleans (ensuring body last) :=
  only_and_then first fun _ => only_bind then_ fun _ => trivial

theorem cleans_unit (deadline : Rat) : Only Cleans (cleanupUnit rec deadline) := by
  refine only_bind (only_ask trivial) ?_
  intro ownership
  cases ownership.systemd with
  | none => trivial
  | some lease =>
    refine only_bind (cleans_remaining_or_none deadline) ?_
    intro left
    cases left with
    | none => trivial
    | some seconds => exact cleans_collect (only_ask trivial)

theorem cleans_guard (deadline : Rat) : Only Cleans (cleanupGuard rec deadline) := by
  refine only_bind (only_ask trivial) ?_
  intro ownership
  cases ownership.guard with
  | none => trivial
  | some lease =>
    refine only_bind (cleans_remaining_or_none deadline) ?_
    intro left
    cases left with
    | none => trivial
    | some seconds => exact cleans_collect (only_ask trivial)

theorem cleans_channels : Only Cleans (cleanupChannels rec) := by
  refine only_bind (only_ask trivial) ?_
  intro ownership
  cases ownership.channels with
  | none => trivial
  | some channels =>
    exact cleans_collect (only_bind (only_ask trivial) fun _ => only_ask trivial)

theorem cleans_received : Only Cleans (cleanupReceived rec) := by
  refine only_bind (only_ask trivial) ?_
  intro ownership
  split_ifs
  · trivial
  · exact cleans_collect (only_bind (only_ask trivial) fun _ => only_ask trivial)

theorem cleans_ownership (deadline : Rat) : Only Cleans (cleanupOwnership rec deadline) := by
  refine only_bind (cleans_unit deadline) fun unitErrors => only_bind (only_ask trivial) ?_
  intro afterUnit
  split_ifs
  · trivial
  · refine only_bind (cleans_guard deadline) fun guardErrors => only_bind (only_ask trivial) ?_
    intro afterGuard
    split_ifs
    · trivial
    · refine only_bind cleans_channels fun channelErrors => only_bind (only_ask trivial) ?_
      intro afterChannels
      split_ifs
      · trivial
      · exact only_bind cleans_received fun _ => trivial

theorem cleans_retry_record (requestId : UUID) (deadline : Rat) :
    Only Cleans (retryRecord requestId rec deadline) := by
  refine only_bind (only_ask trivial) ?_
  intro claimed
  split_ifs
  · refine cleans_ensuring (only_and_then (cleans_ownership deadline) ?_)
      (cleans_ensuring (only_ask trivial) (only_ask trivial))
    intro out
    cases out <;> trivial
  · exact only_bind (only_ask trivial) fun _ => trivial

theorem cleans_retry_records (deadline : Rat) (pending : List (UUID × Nat)) :
    Only Cleans (retryRecords deadline pending) := by
  induction pending with
  | nil => trivial
  | cons item rest ih =>
    refine only_bind (cleans_remaining_or_none deadline) ?_
    intro left
    cases left with
    | none => trivial
    | some seconds =>
      refine only_bind (only_ask trivial) ?_
      intro taken
      split_ifs
      · exact only_bind (cleans_retry_record item.1 deadline) fun _ =>
          only_bind ih fun _ => trivial
      · exact ih

end Cleans

section Retry

variable {fact : World → Prop} {counted : Nat → World → Prop}

theorem count_safe (outlasts : Outlasts calm tid fact)
    (counts : ∀ w, Invariant calm w → fact w → (calm → CalmCount tid w) →
      counted w.countPending w) (holds : fact w) :
    SafeAmong (protocol calm) tid
      (Returns (fun count after => fact after ∧ counted count after) fun _ => fact)
      (send .unresolvedCleanupCount) w := by
  refine safe_ask outlasts.stable holds (fun _ _ _ => trivial) ?_
  rintro cur ans after inv isFact ⟨calmly, chance, wish, acted⟩
  cases acted
  exact ⟨isFact, counts cur inv isFact fun isCalm => calmly isCalm rfl⟩

theorem retry_pending_safe {timeout : Rat} (outlasts : Outlasts calm tid fact)
    (counts : ∀ w, Invariant calm w → fact w → (calm → CalmCount tid w) →
      counted w.countPending w) (holds : fact w) :
    SafeAmong (protocol calm) tid
      (Returns (fun count after => fact after ∧ counted count after) fun _ => fact)
      (retryPending timeout) w := by
  refine maintains_then (keeps_reads outlasts.stable (only_monotonic_deadline timeout)) (fun _ _ => id)
    ?_ holds
  intro deadline cur isFact
  refine safe_and_then (safe_frame_only outlasts.stable outlasts.kept (only_ask trivial) isFact
    pending_records_named) ?_
  rintro (err | pending) after ⟨named, isFact⟩
  · cases named
  · refine safe_and_then (safe_frame_only outlasts.stable outlasts.kept
      (cleans_retry_records deadline pending) isFact (retry_records_safe pending named)) ?_
    rintro (err | interruptions) later ⟨_, isFact⟩
    · exact isFact
    · change SafeAmong _ _ _ (if _ then _ else _) _
      split_ifs
      · exact count_safe outlasts counts isFact
      · exact isFact

theorem release_retry_keeps {kept : World → Prop} (stable : Stable (protocol calm) tid kept)
    (unlocked : ∀ w, kept w → kept { w with retryLock := none }) (holds : kept w) :
    SafeAmong (protocol calm) tid (Returns (fun _ => kept) fun _ _ => False)
      (send .releaseRetry) w := by
  refine safe_ask stable holds (fun _ _ _ => trivial) ?_
  rintro cur ans after _ isKept ⟨_, chance, wish, acted⟩
  cases acted
  exact unlocked cur isKept

theorem acquire_retry_keeps (outlasts : Outlasts calm tid fact) :
    Keeps calm tid fact (send .acquireRetry) := by
  intro w holds
  refine safe_ask outlasts.stable holds (fun _ _ _ => trivial) ?_
  intro cur ans after inv isFact ran
  exact outlasts.kept .acquireRetry cur ans after trivial inv trivial ran isFact

theorem retry_pending_cleanup_safe {timeout : Rat} (outlasts : Outlasts calm tid fact)
    (counts : ∀ w, Invariant calm w → fact w → (calm → CalmCount tid w) →
      counted w.countPending w)
    (stable : ∀ count, Stable (protocol calm) tid fun w => fact w ∧ counted count w)
    (unlocked : ∀ w, fact w → fact { w with retryLock := none })
    (unlockedCount : ∀ count w, counted count w →
      counted count { w with retryLock := none }) (holds : fact w) :
    SafeAmong (protocol calm) tid
      (Returns (fun count after => fact after ∧ counted count after) fun _ => fact)
      (retryPendingCleanup timeout) w := by
  refine safe_validate_timeout (fun _ => holds) ?_
  refine maintains_then (acquire_retry_keeps outlasts) (fun _ _ => id) ?_ holds
  intro taken cur isFact
  cases taken with
  | false => exact count_safe outlasts counts isFact
  | true =>
    refine safe_and_then (retry_pending_safe outlasts counts isFact) ?_
    rintro (err | count) after ended
    · exact safe_then (release_retry_keeps outlasts.stable unlocked ended)
        (fun _ _ => False.elim) fun _ _ kept => kept
    · refine safe_then (release_retry_keeps (stable count) ?_ ended) (fun _ _ => False.elim)
        fun _ _ kept => kept
      exact fun w both => ⟨unlocked w both.1, unlockedCount count w both.2⟩

end Retry

theorem outlasts_true : Outlasts calm tid fun _ => True where
  stable _ _ _ _ _ _ := trivial
  kept _ _ _ _ _ _ _ _ _ := trivial

theorem retry_safe :
    SafeAmong (protocol calm) tid (fun _ _ => True) (retryPendingCleanup timeout) w :=
  safe_any (retry_pending_cleanup_safe outlasts_true (fun _ _ _ _ => trivial)
    (fun _ => stable_and outlasts_true.stable outlasts_true.stable) (fun _ _ => trivial)
    (fun _ _ _ => trivial) trivial)

/-- The thread recovers: it holds the lock, and nothing is or gets into the table. -/
def Recovering (tid : Nat) (w : World) : Prop :=
  w.recoveryLock = some tid ∧ w.recoveryReady = false ∧ w.active.length = 0

theorem stable_recovering : Stable (protocol calm) tid (Recovering tid) := by
  refine stable_of_effect ?_
  rintro pre after actor differ _ effect ⟨own, notReady, empty⟩
  obtain ⟨sameLock, sameReady, _, _, stillEmpty⟩ := effect.recovery tid (Ne.symm differ) own
  exact ⟨sameLock, sameReady.trans notReady, stillEmpty notReady empty⟩

theorem stable_recovery_lock :
    Stable (protocol calm) tid fun w => w.recoveryLock = some tid := by
  refine stable_of_effect ?_
  intro pre after actor differ _ effect own
  exact (effect.recovery tid (Ne.symm differ) own).1

def Reported (tid : Nat) (units guards : Option Int) (w : World) : Prop :=
  Recovering tid w ∧ (∀ count, units = some count → w.unitsReport = some count) ∧
    ∀ count, guards = some count → w.guardsReport = some count

theorem stable_reported {units guards : Option Int} :
    Stable (protocol calm) tid (Reported tid units guards) := by
  rintro pre after beforeHolds afterHolds ⟨actor, differ, step⟩ ⟨recovering, isUnits, isGuards⟩
  obtain ⟨_, _, sameUnits, sameGuards, _⟩ :=
    (step_effect step).recovery tid (Ne.symm differ) recovering.1
  refine ⟨stable_recovering pre after beforeHolds afterHolds ⟨actor, differ, step⟩ recovering,
    ?_, ?_⟩
  · rw [sameUnits]
    exact isUnits
  · rw [sameGuards]
    exact isGuards

/-- The recovery lock is held, whatever was reported. -/
abbrev HoldsRecovery (tid : Nat) (w : World) : Prop := w.recoveryLock = some tid

theorem begin_recovery_recovers (own : HoldsRecovery tid w) :
    SafeAmong (protocol calm) tid
      (Returns (fun _ => Recovering tid) fun _ => HoldsRecovery tid) (send .beginRecovery)
      w := by
  refine safe_ask stable_recovery_lock own (fun _ _ own => own) ?_
  rintro cur ans after _ own ⟨_, chance, wish, acted⟩
  simp only [perform] at acted
  split_ifs at acted with empty
  · cases acted
    exact ⟨own, rfl, empty⟩
  · cases acted
    exact own

theorem or_recovery_failed_safe {body : Program Int} {ret : Int → World → Prop}
    (safe : SafeAmong (protocol calm) tid (Returns ret fun _ => HoldsRecovery tid) body w) :
    SafeAmong (protocol calm) tid (Returns ret fun _ => HoldsRecovery tid)
      (orRecoveryFailed body) w :=
  safe_handle (fun _ => HoldsRecovery tid) safe fun _ _ own => safe_raise own

theorem reconcile_units_reports (recovering : Recovering tid w) :
    SafeAmong (protocol calm) tid
      (Returns (fun count => Reported tid (some count) none) fun _ => HoldsRecovery tid)
      (orRecoveryFailed do
        let _ ← remaining deadline
        send .reconcileUnits) w := by
  refine or_recovery_failed_safe (maintains_then
    (keeps_reads stable_recovering (only_remaining deadline))
    (fun _ _ recovering => recovering.1) ?_ recovering)
  intro _ cur recovering
  refine safe_ask stable_recovering recovering (fun _ _ recovering => recovering) ?_
  rintro pre ans after _ recovering ⟨_, chance, wish, acted⟩
  cases acted
  cases ans with
  | ok count =>
    refine ⟨recovering, ?_, ?_⟩
    · rintro _ ⟨⟩
      rfl
    · rintro _ ⟨⟩
  | error err => exact recovering.1

theorem reconcile_guards_reports {units : Int} (reported : Reported tid (some units) none w) :
    SafeAmong (protocol calm) tid
      (Returns (fun count => Reported tid (some units) (some count))
        fun _ => HoldsRecovery tid)
      (orRecoveryFailed do
        let _ ← remaining deadline
        send .reconcileGuards) w := by
  refine or_recovery_failed_safe (maintains_then
    (keeps_reads stable_reported (only_remaining deadline))
    (fun _ _ reported => reported.1.1) ?_ reported)
  intro _ cur reported
  refine safe_ask stable_reported reported (fun _ _ reported => reported.1) ?_
  rintro pre ans after _ ⟨recovering, isUnits, _⟩ ⟨_, chance, wish, acted⟩
  cases acted
  cases ans with
  | ok count =>
    refine ⟨recovering, isUnits, ?_⟩
    rintro _ ⟨⟩
    rfl
  | error err => exact recovering.1

theorem keeps_validate_recovery_count {unresolved : Int} :
    Keeps calm tid fact (validateRecoveryCount unresolved) := by
  unfold validateRecoveryCount
  split_ifs
  · exact maintains_raise
  · exact maintains_pure

theorem recover_keeps_lock (own : HoldsRecovery tid w) :
    SafeAmong (protocol calm) tid (Always (HoldsRecovery tid)) (recover timeout) w := by
  refine safe_then (begin_recovery_recovers own) (fun _ _ => id) ?_
  intro _ begun recovering
  refine maintains_then (keeps_reads stable_recovering (only_monotonic_deadline timeout))
    (fun _ _ recovering => recovering.1) ?_ recovering
  intro deadline cur recovering
  refine safe_then (reconcile_units_reports recovering) (fun _ _ => id) ?_
  intro units reconciled reported
  refine maintains_then keeps_validate_recovery_count (fun _ _ reported => reported.1.1) ?_ reported
  intro _ validated reported
  split_ifs with unresolved
  · exact reported.1.1
  · refine safe_then (reconcile_guards_reports reported) (fun _ _ => id) ?_
    intro guards reconciledGuards reported
    refine maintains_then keeps_validate_recovery_count (fun _ _ reported => reported.1.1) ?_ reported
    intro _ validatedGuards reported
    have ready : SafeAmong (protocol calm) tid (Always (HoldsRecovery tid))
        (send (.setRecoveryReady (decide (guards = 0)))) validatedGuards := by
      refine safe_ask stable_reported reported ?_ ?_
      · rintro pre _ ⟨recovering, isUnits, isGuards⟩
        refine ⟨recovering.1, ?_⟩
        intro noGuards
        rw [isUnits units rfl, isGuards guards rfl, of_decide_eq_true noGuards,
          not_ne_iff.mp unresolved]
        exact ⟨rfl, rfl⟩
      · rintro pre ans after _ reported ⟨_, chance, wish, acted⟩
        cases acted
        exact reported.1.1
    exact safe_then (safe_returns ready) (fun _ _ => id) fun _ _ own => own

theorem reconcile_startup_safe :
    SafeAmong (protocol calm) tid (fun _ _ => True) (reconcileStartup timeout) w := by
  refine safe_validate_timeout (fun _ => trivial) ?_
  have taken : SafeAmong (protocol calm) tid (Always (HoldsRecovery tid))
      (send .acquireRecovery) w := by
    refine safe_ask outlasts_true.stable trivial (fun _ _ _ => trivial) ?_
    rintro pre ans after _ _ ⟨_, chance, wish, acted⟩
    simp only [perform] at acted
    split_ifs at acted
    cases acted
    rfl
  refine safe_then (safe_returns taken) (fun _ _ _ => trivial) ?_
  intro _ cur own
  refine safe_ensuring (recover_keeps_lock own) ?_
  intro after stillOwn
  exact safe_ask stable_recovery_lock stillOwn (fun _ _ own => own) fun _ _ _ _ _ _ => trivial

end ProbeExecutionBroker

end RtspProxy.Broker
