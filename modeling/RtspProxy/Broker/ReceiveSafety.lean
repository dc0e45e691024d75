import RtspProxy.Broker.Receive
import Mathlib.Data.List.Nodup
import Mathlib.Data.List.Perm.Basic

/-!
# Who owns the descriptors that arrived

While a message is read, every descriptor that arrived is in the list
`descriptors`, and each only once. That holds of every exception as well, unless
`recvmsg` fails when it had taken something from the connection, or a second
interruption hits the registration that is repeated for the first. The cleanup
closes what is in the list, each descriptor once.
-/

namespace RtspProxy.Broker.Receive

open Nodes Probes Lib.Program Lib.Program.Prog List Trial Intake

variable {Result Final : Type} {trial : IntakeTrial} {stream consumed : Bytes}

/-! ## Programs that touch nothing -/

/-- The calls that neither read the connection nor change what is owned. -/
def Quiet : IntakeCall → Prop
  | .recvmsg _ | .register _ | .close _ => False
  | _ => True

variable {st : Intake}

theorem quiet_effect {left : Intake} {req : IntakeCall}
    {ans : Except Raised (IntakeAnswer req)} (quiet : Quiet req)
    (effect : IntakeEffect st req ans left) : left = st := by
  cases effect with
  | recvmsg => exact quiet.elim
  | register => exact quiet.elim
  | close => exact quiet.elim
  | _ => rfl

/-- The state stays as it is, and a program that returns had no failure. -/
def Steady (prog : IntakeProg Result) : Prop :=
  ∀ trial : IntakeTrial, trial.failures = [] → Tries intakeTools
      (Returns (fun _ post => post.state = trial.state ∧ post.failures = [])
        (fun _ post => post.state = trial.state)) prog trial

variable {prog body : IntakeProg Result} {ioDeadline : Rat} {cancellable : Bool}

section Steady

theorem steady_attempt {req : IntakeCall} (quiet : Quiet req) :
    Steady (attempt req) := by
  intro trial calm
  refine tries_ask ?_ ?_ ?_
  · intro ans left effect
    obtain rfl := quiet_effect quiet effect
    cases ans with
    | ok value => exact ⟨rfl, calm⟩
    | error err => exact rfl
  · intro err _
    exact rfl
  · intro ans left err effect _
    obtain rfl := quiet_effect quiet effect
    exact rfl

theorem steady_pure {result : Result} : Steady (pure result) := fun _ calm => ⟨rfl, calm⟩

theorem steady_raise {err : Raised} : Steady (raise err : IntakeProg Result) := fun _ _ => rfl

theorem steady_bind {next : Result → IntakeProg Final} (first : Steady prog)
    (rest : ∀ result, Steady (next result)) : Steady (prog >>= next) := by
  intro trial calm
  refine safe_then (first trial calm) (fun _ _ same => same) ?_
  rintro result post ⟨same, stillCalm⟩
  have continues := rest result post stillCalm
  rw [same] at continues
  exact continues

theorem steady_translating {caught : Raised → Bool} {code : String} (steady : Steady body) :
    Steady (translating caught code body) := by
  intro trial calm
  refine safe_cases (steady trial calm) (fun _ _ holds => holds) ?_
  intro err post same
  dsimp only
  split
  · exact same
  · exact same

theorem steady_refuse {cond : Prop} [Decidable cond] {code : String} :
    Steady (refuseIf cond code) := by
  unfold refuseIf
  split
  · exact steady_raise
  · exact steady_pure

theorem steady_wall_clock : Steady readWallClockMs := by
  refine steady_bind (steady_translating (steady_attempt trivial)) ?_
  intro observed
  cases observed with
  | none => exact steady_raise
  | some observed =>
    dsimp only
    split
    · exact steady_raise
    · exact steady_pure

theorem steady_start_io_deadline {timeout : Rat} :
    Steady (startIoDeadline timeout) := by
  refine steady_bind (steady_translating (steady_attempt trivial)) ?_
  intro started
  cases started with
  | none => exact steady_raise
  | some started => exact steady_pure

theorem steady_remaining_timeout : Steady (setRemainingTimeout ioDeadline) := by
  refine steady_bind (steady_translating (steady_attempt trivial)) ?_
  intro observed
  cases observed with
  | none => exact steady_raise
  | some observed =>
    dsimp only
    split
    · exact steady_raise
    · exact steady_translating (steady_attempt trivial)

theorem steady_require_peer {unixStream linux : Bool} {expectedUid expectedGid : Int} :
    Steady (requireProbeBrokerPeer unixStream linux expectedUid expectedGid) :=
  steady_bind steady_refuse fun _ =>
    steady_bind steady_refuse fun _ =>
      steady_bind (steady_translating (steady_attempt trivial)) fun _ => steady_refuse

theorem steady_wait :
    Steady (if cancellable = true then attempt (.waitUntilReadable ioDeadline) >>= fun _ => pure ()
      else pure ()) := by
  split
  · exact steady_bind (steady_attempt trivial) fun _ => steady_pure
  · exact steady_pure

end Steady

/-! ## What is known while a message is read -/

/-- No number twice, and nothing in the list that did not arrive. -/
structure Held (st : Intake) : Prop where
  arrived : st.arrived.Nodup
  registered : st.registered.Nodup
  received : st.registered ⊆ st.arrived
  numbers : ∀ descriptor ∈ st.arrived, 0 ≤ descriptor
  closed : st.closed = []

def isRegistration (failure : Lib.Program.Failure Intake IntakeCall) : Bool :=
  match failure.request with
  | .register _ => true
  | _ => false

/-- The failures that the cleanup can make up for: no `recvmsg` failed that had received something,
no `close` failed that had not closed, and at most one registration was interrupted. -/
structure Recoverable (failures : List (Lib.Program.Failure Intake IntakeCall)) : Prop where
  received : ∀ failure ∈ failures, ∀ size,
    failure.request = .recvmsg size → failure.tookEffect = false
  closed : ∀ failure ∈ failures, ∀ descriptor,
    failure.request = .close descriptor → failure.tookEffect = true
  registered : failures.countP isRegistration ≤ 1

theorem recoverable_initial {failures : List (Lib.Program.Failure Intake IntakeCall)}
    {failure : Lib.Program.Failure Intake IntakeCall}
    (recoverable : Recoverable (failures ++ [failure])) : Recoverable failures := by
  refine ⟨?_, ?_, ?_⟩
  · exact fun other mem => recoverable.received other (mem_append_left _ mem)
  · exact fun other mem => recoverable.closed other (mem_append_left _ mem)
  · have counted := recoverable.registered
    rw [countP_append] at counted
    omega

/-- So far nothing failed, and what was consumed is the beginning of the stream. -/
structure Going (stream consumed : Bytes) (trial : IntakeTrial) : Prop where
  held : Held trial.state
  all : trial.state.arrived ⊆ trial.state.registered
  calm : trial.failures = []
  framed : stream = consumed ++ trial.state.stream

/-- Something was raised: what arrived is in the list, unless it cannot be known. -/
structure Spoiled (trial : IntakeTrial) : Prop where
  held : Held trial.state
  all : Recoverable trial.failures → trial.state.arrived ⊆ trial.state.registered

variable {ret : Result → IntakeTrial → Prop}

section Reading

variable (going : Going stream consumed trial)

include going

theorem going_spoiled : Spoiled trial :=
  ⟨going.held, fun _ => going.all⟩

theorem going_same {post : IntakeTrial}
    (same : post.state = trial.state) (calm : post.failures = []) :
    Going stream consumed post := by
  refine ⟨?_, ?_, calm, ?_⟩
  · rw [same]
    exact going.held
  · rw [same]
    exact going.all
  · rw [same]
    exact going.framed

theorem spoiled_same {post : IntakeTrial} (same : post.state = trial.state) : Spoiled post := by
  refine ⟨?_, ?_⟩
  · rw [same]
    exact going.held
  · intro _
    rw [same]
    exact going.all

theorem going_steady (steady : Steady prog) :
    Tries intakeTools (Returns (fun _ => Going stream consumed) (fun _ => Spoiled)) prog
      trial := by
  refine safe_weaken (steady trial going.calm) ?_
  intro out post holds
  cases out with
  | ok result => exact going_same going holds.1 holds.2
  | error err => exact spoiled_same going holds

theorem going_refuse {cond : Prop} [Decidable cond] {code : String}
    {next : Unit → IntakeProg Result}
    (passes : ¬ cond → Tries intakeTools (Returns ret (fun _ => Spoiled)) (next ()) trial) :
    Tries intakeTools (Returns ret (fun _ => Spoiled)) (refuseIf cond code >>= next)
      trial := by
  unfold refuseIf
  split
  · exact going_spoiled going
  · rename_i holds
    exact passes holds

omit going

theorem tries_translating {caught : Raised → Bool} {code : String} {raised : IntakeTrial → Prop}
    (tries : Tries intakeTools (Returns ret (fun _ => raised)) body trial) :
    Tries intakeTools (Returns ret (fun _ => raised)) (translating caught code body)
      trial := by
  refine safe_cases tries (fun _ _ holds => holds) ?_
  intro err post holds
  dsimp only
  split
  · exact holds
  · exact holds

end Reading

structure Registered (pre post : Intake) : Prop where
  held : Held post
  arrived : post.arrived = pre.arrived
  stream : post.stream = pre.stream
  kept : pre.registered ⊆ post.registered

def Interrupted (pre post : IntakeTrial) : Prop :=
  ∃ failure, isRegistration failure = true ∧ post.failures = pre.failures ++ [failure]

variable {descriptor : Int}

section Registration

theorem registered_self (held : Held st) : Registered st st :=
  ⟨held, rfl, rfl, Subset.refl _⟩

theorem registered_trans {first second third : Intake} (pre : Registered first second)
    (post : Registered second third) : Registered first third :=
  ⟨post.held, post.arrived.trans pre.arrived, post.stream.trans pre.stream,
    Subset.trans pre.kept post.kept⟩

theorem registered_one (held : Held st) (arrived : descriptor ∈ st.arrived) :
    Registered st (st.register descriptor) ∧
      descriptor ∈ (st.register descriptor).registered := by
  unfold register
  split
  · rename_i known
    exact ⟨registered_self held, known⟩
  · rename_i unknown
    refine ⟨⟨⟨held.arrived, ?_, ?_, held.numbers, held.closed⟩, rfl, rfl, ?_⟩, ?_⟩
    · exact Nodup.append held.registered (nodup_singleton _)
        (disjoint_singleton.mpr unknown)
    · exact append_subset.mpr ⟨held.received, cons_subset.mpr ⟨arrived, nil_subset _⟩⟩
    · exact subset_append_left _ _
    · exact mem_append_right _ (mem_singleton_self _)

theorem tries_register (held : Held trial.state) (arrived : descriptor ∈ trial.state.arrived) :
    Tries intakeTools (Returns
      (fun _ post => Registered trial.state post.state ∧ post.failures = trial.failures ∧
        descriptor ∈ post.state.registered)
      (fun err post => Registered trial.state post.state ∧ Interrupted trial post ∧
        isOsError err = false)) (attempt (.register descriptor)) trial := by
  obtain ⟨registered, isIn⟩ := registered_one held arrived
  refine tries_ask ?_ ?_ ?_
  · intro ans left effect
    cases effect
    exact ⟨registered, rfl, isIn⟩
  · rintro err ⟨name, rfl⟩
    exact ⟨registered_self held, ⟨_, rfl, rfl⟩, rfl⟩
  · rintro ans left err effect ⟨name, rfl⟩
    cases effect
    exact ⟨registered, ⟨_, rfl, rfl⟩, rfl⟩

/-- By induction on what is left to register. -/
theorem tries_register_all {rights : List Int} (held : Held trial.state)
    (arrived : rights ⊆ trial.state.arrived) :
    Tries intakeTools (Returns
      (fun _ post => Registered trial.state post.state ∧ post.failures = trial.failures ∧
        rights ⊆ post.state.registered)
      (fun err post => Registered trial.state post.state ∧ Interrupted trial post ∧
        isOsError err = false)) (registerAll rights) trial := by
  induction rights generalizing trial with
  | nil => exact ⟨registered_self held, rfl, nil_subset _⟩
  | cons descriptor rest ih =>
    obtain ⟨isArrived, areArrived⟩ := cons_subset.mp arrived
    refine safe_then (tries_register held isArrived) (fun _ _ raised => raised) ?_
    rintro _ post ⟨registered, calm, isIn⟩
    have restArrived : rest ⊆ post.state.arrived := by
      rw [registered.arrived]
      exact areArrived
    refine safe_weaken (ih registered.held restArrived) ?_
    rintro (err | _) last
    · rintro ⟨further, ⟨failure, isIt, failed⟩, notOs⟩
      rw [calm] at failed
      exact ⟨registered_trans registered further, ⟨failure, isIt, failed⟩, notOs⟩
    · rintro ⟨further, calmLast, areIn⟩
      exact ⟨registered_trans registered further, calmLast.trans calm,
        cons_subset.mpr ⟨further.kept isIn, areIn⟩⟩

/-- By induction on the ancillary items. -/
theorem tries_register_received_rights {ancillary : List Ancillary} {ancillaryInvalid : Bool}
    (held : Held trial.state) (arrived : ancillary.flatMap Ancillary.rights ⊆ trial.state.arrived) :
    Tries intakeTools (Returns
      (fun _ post => Registered trial.state post.state ∧ post.failures = trial.failures ∧
        ancillary.flatMap Ancillary.rights ⊆ post.state.registered)
      (fun err post => Registered trial.state post.state ∧ Interrupted trial post ∧
        isOsError err = false)) (registerReceivedRights ancillary ancillaryInvalid) trial := by
  induction ancillary generalizing trial ancillaryInvalid with
  | nil => exact ⟨registered_self held, rfl, nil_subset _⟩
  | cons item rest ih =>
    rw [flatMap_cons, append_subset] at arrived
    rw [flatMap_cons]
    unfold registerReceivedRights
    split
    · rename_i noRights
      have isEmpty : item.rights = [] := by
        unfold Ancillary.rights
        rw [noRights]
        rfl
      rw [isEmpty]
      exact ih held arrived.2
    · rename_i carries
      have isRights : item.rights = unpackDescriptors item.data := if_pos (by simpa using carries)
      rw [isRights] at arrived ⊢
      refine safe_then (tries_register_all held arrived.1) (fun _ _ raised => raised) ?_
      rintro _ post ⟨registered, calm, areIn⟩
      have restArrived : rest.flatMap Ancillary.rights ⊆ post.state.arrived := by
        rw [registered.arrived]
        exact arrived.2
      refine safe_weaken (ih registered.held restArrived) ?_
      rintro (err | _) last
      · rintro ⟨further, ⟨failure, isIt, failed⟩, notOs⟩
        rw [calm] at failed
        exact ⟨registered_trans registered further, ⟨failure, isIt, failed⟩, notOs⟩
      · rintro ⟨further, calmLast, restIn⟩
        exact ⟨registered_trans registered further, calmLast.trans calm,
          append_subset.mpr ⟨Subset.trans areIn further.kept, restIn⟩⟩

theorem interrupted_twice {pre middle post : IntakeTrial} (first : Interrupted pre middle)
    (second : Interrupted middle post) : ¬ Recoverable post.failures := by
  obtain ⟨one, isOne, failed⟩ := first
  obtain ⟨other, isOther, failedAgain⟩ := second
  intro recoverable
  have counted := recoverable.registered
  rw [failedAgain, failed, countP_append, countP_append, countP_singleton,
    countP_singleton, isOne, isOther] at counted
  simp at counted

end Registration

section Receiving

theorem held_receive {msg : Message} (held : Held st) (distinct : msg.rights.Nodup)
    (unused : st.arrived.Disjoint msg.rights)
    (numbers : ∀ descriptor ∈ msg.rights, 0 ≤ descriptor) : Held (st.receive msg) := by
  refine ⟨Nodup.append held.arrived distinct unused, held.registered, ?_, ?_, held.closed⟩
  · exact Subset.trans held.received (subset_append_left _ _)
  · intro descriptor mem
    rcases mem_append.mp mem with pre | new
    · exact held.numbers descriptor pre
    · exact numbers descriptor new

/-- What `recvmsg` leaves: the state with the message, of which nothing is registered yet. -/
theorem tries_recvmsg {size : Nat} (going : Going stream consumed trial) :
    Tries intakeTools (Returns
      (fun msg post => post.failures = [] ∧ post.state = trial.state.receive msg ∧
        msg.chunk.length ≤ size ∧ msg.chunk <+: trial.state.stream ∧ Held post.state)
      (fun _ => Spoiled)) (attempt (.recvmsg size)) trial := by
  refine tries_ask ?_ ?_ ?_
  · intro ans left effect
    cases effect with
    | recvmsg atMost next distinct unused numbers =>
      exact ⟨going.calm, rfl, atMost, next, held_receive going.held distinct unused numbers⟩
  · intro err _
    exact spoiled_same going rfl
  · intro ans left err effect _
    cases effect with
    | recvmsg atMost next distinct unused numbers =>
      refine ⟨held_receive going.held distinct unused numbers, ?_⟩
      intro recoverable
      have lost := recoverable.received _ (mem_append_right _ (mem_singleton_self _)) _ rfl
      cases lost

theorem going_receive {msg : Message} {pre post : Intake} {last : IntakeTrial}
    (all : pre.arrived ⊆ pre.registered) (framed : stream = consumed ++ pre.stream)
    (next : msg.chunk <+: pre.stream) (received : post = pre.receive msg)
    (registered : Registered post last.state)
    (areIn : msg.rights ⊆ last.state.registered) (calm : last.failures = []) :
    Going stream (consumed ++ msg.chunk) last := by
  have arrived : last.state.arrived = pre.arrived ++ msg.rights := by
    rw [registered.arrived, received]
    rfl
  refine ⟨registered.held, ?_, calm, ?_⟩
  · rw [arrived]
    refine append_subset.mpr ⟨Subset.trans all ?_, areIn⟩
    have kept := registered.kept
    rw [received] at kept
    exact kept
  · obtain ⟨rest, isRest⟩ := next
    rw [registered.stream, received, framed, append_assoc]
    refine congrArg (consumed ++ ·) ?_
    rw [← isRest]
    change msg.chunk ++ rest = msg.chunk ++ pre.stream.drop msg.chunk.length
    rw [← isRest, drop_left]

theorem tries_receive_message {size : Nat} (going : Going stream consumed trial) :
    Tries intakeTools (Returns
      (fun received post => Going stream (consumed ++ received.1.chunk) post ∧
        received.1.chunk.length ≤ size)
      (fun _ => Spoiled)) (receiveMessage size) trial := by
  refine safe_then (tries_translating (tries_recvmsg going)) (fun _ _ spoiled => spoiled) ?_
  rintro msg post ⟨calm, received, atMost, next, held⟩
  have arrived : msg.ancillary.flatMap Ancillary.rights ⊆ post.state.arrived := by
    rw [received]
    exact subset_append_right _ _
  refine safe_cases (tries_register_received_rights held arrived) ?_ ?_
  · rintro ancillaryInvalid last ⟨registered, calmLast, areIn⟩
    exact ⟨going_receive going.all going.framed next received registered areIn
      (calmLast.trans calm), atMost⟩
  · rintro err middle ⟨registered, interrupted, notOs⟩
    dsimp only
    rw [notOs]
    -- The registration is made again, with the interruption in hand.
    have arrivedStill : msg.ancillary.flatMap Ancillary.rights ⊆ middle.state.arrived := by
      rw [registered.arrived]
      exact arrived
    refine safe_then (tries_register_received_rights registered.held arrivedStill) ?_ ?_
    · rintro second last ⟨further, interruptedAgain, _⟩
      exact ⟨further.held, fun recoverable =>
        absurd recoverable (interrupted_twice interrupted interruptedAgain)⟩
    · rintro _ last ⟨further, _, areIn⟩
      refine ⟨further.held, fun _ => ?_⟩
      rw [further.arrived, registered.arrived, received]
      refine append_subset.mpr ⟨?_, areIn⟩
      have kept := Subset.trans registered.kept further.kept
      rw [received] at kept
      exact Subset.trans going.all kept

/-- The loop, by induction on the turns; each adds to the payload, and none beyond its size. -/
theorem tries_recv_turns {size turns : Nat} {payload : Bytes}
    (going : Going stream (consumed ++ payload) trial) (enough : size ≤ payload.length + turns)
    (within : payload.length ≤ size) :
    Tries intakeTools (Returns
      (fun result post => Going stream (consumed ++ result) post ∧ result.length = size)
      (fun _ => Spoiled)) (recvTurns cancellable ioDeadline size turns payload) trial := by
  induction turns generalizing trial payload with
  | zero => exact ⟨going, by omega⟩
  | succ turns ih =>
    unfold recvTurns
    split
    · rename_i complete
      exact ⟨going, by omega⟩
    refine safe_then (going_steady going steady_wait) (fun _ _ spoiled => spoiled) ?_
    intro _ waited goingWaited
    refine safe_then (going_steady goingWaited steady_remaining_timeout)
      (fun _ _ spoiled => spoiled) ?_
    intro _ timed goingTimed
    refine safe_then (tries_receive_message goingTimed) (fun _ _ spoiled => spoiled) ?_
    rintro received post ⟨goingAfter, atMost⟩
    refine going_refuse goingAfter fun _ => going_refuse goingAfter fun notEmpty => ?_
    have grown : 0 < received.1.chunk.length := length_pos_iff.mpr notEmpty
    rw [append_assoc] at goingAfter
    refine ih goingAfter ?_ ?_
    · rw [length_append]
      omega
    · rw [length_append]
      omega

theorem tries_recv_exact {size : Nat} (going : Going stream consumed trial) :
    Tries intakeTools (Returns
      (fun result post => Going stream (consumed ++ result) post ∧ result.length = size)
      (fun _ => Spoiled)) (recvExact cancellable ioDeadline size) trial := by
  refine tries_recv_turns ?_ (by simp) (Nat.zero_le _)
  rw [append_nil]
  exact going

end Receiving

/-- No descriptor was closed twice, and every one that arrived was closed, if the failures can be
made up for. -/
structure LeftClosed (trial : IntakeTrial) : Prop where
  once : trial.state.closed.Nodup
  received : trial.state.closed ⊆ trial.state.arrived
  all : Recoverable trial.failures → trial.state.closed.Perm trial.state.arrived

/-- The cleanup is done with `finished`, which it has closed but where a `close` failed. -/
structure Cleaning (finished remaining : List Int) (trial : IntakeTrial) : Prop where
  arrived : trial.state.arrived.Nodup
  registered : (finished ++ remaining).Nodup
  received : finished ++ remaining ⊆ trial.state.arrived
  some : trial.state.closed.Sublist finished
  done : Recoverable trial.failures → trial.state.closed = finished
  all : Recoverable trial.failures → trial.state.arrived ⊆ finished ++ remaining

section Cleanup

theorem perm_of_subsets {first second : List Int} (firstOnce : first.Nodup)
    (secondOnce : second.Nodup) (within : first ⊆ second) (covers : second ⊆ first) :
    first.Perm second :=
  (subperm_of_subset firstOnce within).antisymm (subperm_of_subset secondOnce covers)

theorem cleaning_done {finished : List Int} (cleaning : Cleaning finished [] trial) :
    LeftClosed trial := by
  have once := cleaning.registered
  have received := cleaning.received
  have all := cleaning.all
  rw [append_nil] at once received all
  refine ⟨cleaning.some.nodup once, Subset.trans cleaning.some.subset received, ?_⟩
  intro recoverable
  rw [cleaning.done recoverable]
  exact perm_of_subsets once cleaning.arrived received (all recoverable)

theorem tries_close {finished rest : List Int}
    (cleaning : Cleaning finished (descriptor :: rest) trial) :
    Tries intakeTools (fun _ => Cleaning (finished ++ [descriptor]) rest)
      (attempt (.close descriptor)) trial := by
  have same : finished ++ [descriptor] ++ rest = finished ++ descriptor :: rest :=
    append_cons .. |>.symm
  refine tries_ask ?_ ?_ ?_
  · intro ans left effect
    cases effect
    refine ⟨cleaning.arrived, same ▸ cleaning.registered, same ▸ cleaning.received, ?_, ?_, ?_⟩
    · exact Sublist.append cleaning.some (Sublist.refl _)
    · intro recoverable
      exact congrArg (· ++ [descriptor]) (cleaning.done recoverable)
    · exact fun recoverable => same ▸ cleaning.all recoverable
  · intro err _
    refine ⟨cleaning.arrived, same ▸ cleaning.registered, same ▸ cleaning.received, ?_, ?_, ?_⟩
    · exact cleaning.some.trans (sublist_append_left _ _)
    · intro recoverable
      have closed := recoverable.closed _
        (mem_append_right _ (mem_singleton_self _)) descriptor rfl
      cases closed
    · exact fun recoverable => same ▸ cleaning.all (recoverable_initial recoverable)
  · intro ans left err effect _
    cases effect
    refine ⟨cleaning.arrived, same ▸ cleaning.registered, same ▸ cleaning.received, ?_, ?_, ?_⟩
    · exact Sublist.append cleaning.some (Sublist.refl _)
    · intro recoverable
      exact congrArg (· ++ [descriptor]) (cleaning.done (recoverable_initial recoverable))
    · exact fun recoverable => same ▸ cleaning.all (recoverable_initial recoverable)

/-- By induction on the descriptors that are left. -/
theorem tries_close_descriptors {finished remaining : List Int} {cleanupErrors : List Raised}
    (cleaning : Cleaning finished remaining trial) :
    Tries intakeTools (Returns (fun _ => LeftClosed) (fun _ _ => False))
      (closeDescriptors remaining cleanupErrors) trial := by
  induction remaining generalizing trial finished cleanupErrors with
  | nil => exact cleaning_done cleaning
  | cons descriptor rest ih =>
    refine safe_and_then (tries_close cleaning) ?_
    rintro out post cleaningAfter
    cases out with
    | ok _ => exact ih cleaningAfter
    | error err => exact ih cleaningAfter

theorem tries_descriptors {prop : IntakeTrial → Prop} (holds : prop (trial.moved trial.state)) :
    Tries intakeTools (Returns
      (fun ans post => prop post ∧ post.failures = trial.failures ∧
        post.state = trial.state ∧ ans = trial.state.registered)
      (fun _ _ => False)) (attempt .descriptors) trial := by
  refine tries_ask ?_ (fun _ lost => lost.elim) (fun _ _ _ _ lost => lost.elim)
  intro ans left effect
  cases effect
  exact ⟨holds, rfl, rfl, rfl⟩

theorem closing_on_failure {msg : String}
    (tries : Tries intakeTools (Returns ret (fun _ => Spoiled)) body trial) :
    Tries intakeTools (Returns ret (fun _ => LeftClosed)) (closingOnFailure msg body)
      trial := by
  refine safe_cases tries (fun _ _ holds => holds) ?_
  intro primaryError post spoiled
  have readsList := @tries_descriptors post Spoiled ⟨spoiled.held, spoiled.all⟩
  refine safe_then readsList (fun _ _ never => never.elim) ?_
  rintro descriptors reading ⟨spoiledReading, _, same, rfl⟩
  rw [← same]
  have held := spoiledReading.held
  have cleaning : Cleaning [] reading.state.registered reading := by
    refine ⟨held.arrived, held.registered, held.received, ?_, fun _ => held.closed,
      spoiledReading.all⟩
    rw [held.closed]
  refine safe_then (tries_close_descriptors cleaning) (fun _ _ never => never.elim) ?_
  intro cleanupErrors last left
  split
  · exact left
  · exact left

end Cleanup

/-- The frame at the head of the stream holds the payload. -/
def Framed (maximum : Nat) (stream payload : Bytes) : Prop :=
  ∃ header rest, stream = header ++ payload ++ rest ∧ header.length = 4 ∧
    unpackSize header = payload.length ∧ 1 ≤ payload.length ∧ payload.length ≤ maximum

section Frames

theorem framed_unique {maximum : Nat} {first second : Bytes} (one : Framed maximum stream first)
    (other : Framed maximum stream second) : first = second := by
  obtain ⟨header, rest, rfl, length, size, _⟩ := one
  obtain ⟨header', rest', same, length', size', _⟩ := other
  rw [append_assoc, append_assoc] at same
  obtain ⟨rfl, payloads⟩ := append_inj same (length.trans length'.symm)
  exact (append_inj payloads (size.symm.trans size')).1

theorem tries_receive_frame {maximum : Nat} {invalid : String}
    {relabel : IntakeProg Bytes → IntakeProg Bytes}
    (relabels : ∀ {ret : Bytes → IntakeTrial → Prop} {body : IntakeProg Bytes}
      {pre : IntakeTrial}, Tries intakeTools (Returns ret (fun _ => Spoiled)) body pre →
        Tries intakeTools (Returns ret (fun _ => Spoiled)) (relabel body) pre)
    (going : Going stream [] trial) :
    Tries intakeTools (Returns
      (fun payload post => Framed maximum stream payload ∧ ∃ consumed, Going stream consumed post)
      (fun _ => Spoiled)) (receiveFrame cancellable ioDeadline maximum invalid relabel) trial := by
  refine safe_then (relabels (tries_recv_exact going)) (fun _ _ spoiled => spoiled) ?_
  rintro header read ⟨goingRead, length⟩
  refine going_refuse goingRead fun isSize => ?_
  have size := not_not.mp isSize
  refine safe_weaken (relabels (tries_recv_exact goingRead)) ?_
  rintro (err | payload) post
  · exact fun spoiled => spoiled
  · rintro ⟨goingAfter, payloadLength⟩
    refine ⟨⟨header, post.state.stream, goingAfter.framed, length, payloadLength.symm, ?_, ?_⟩, _,
      goingAfter⟩
    · rw [payloadLength]
      exact size.1
    · rw [payloadLength]
      exact size.2

end Frames

section Accepting

variable {decodeRequest : Bytes → Except Raised ProbeBrokerRequest}
  {decodeResponse : Bytes → Except Raised ProbeBrokerResponse} {payload : Bytes}

theorem going_compute {out : Except Raised Final} {next : Final → IntakeProg Result}
    (going : Going stream consumed trial) (computed : ∀ result, out = .ok result →
      Tries intakeTools (Returns ret (fun _ => Spoiled)) (next result) trial) :
    Tries intakeTools (Returns ret (fun _ => Spoiled)) (compute out >>= next) trial := by
  cases out with
  | error err => exact going_spoiled going
  | ok result => exact computed result rfl

theorem going_descriptors (going : Going stream consumed trial) :
    Tries intakeTools (Returns
      (fun ans post => Going stream consumed post ∧ post.state.registered = ans)
      (fun _ => Spoiled)) (attempt .descriptors) trial := by
  have readsList := @tries_descriptors trial (Going stream consumed) (going_same going rfl going.calm)
  refine safe_weaken readsList ?_
  rintro (err | ans) post
  · exact fun never => never.elim
  · rintro ⟨goingAfter, _, same, isAnswer⟩
    exact ⟨goingAfter, (congrArg registered same).trans isAnswer.symm⟩

/-- What the result owns: the one descriptor that arrived, still open. -/
def Owns (received : ReceivedProbeInput) (st : Intake) : Prop :=
  st.arrived = [(received.handle : Int)] ∧ st.closed = []

theorem tries_make_received {req : ProbeBrokerRequest} (going : Going stream consumed trial)
    (only : trial.state.registered = [descriptor]) :
    Tries intakeTools (Returns
      (fun received post => received.request = req ∧ Owns received post.state)
      (fun _ => Spoiled)) (attempt (.makeReceivedProbeInput req descriptor)) trial := by
  refine tries_ask ?_ ?_ ?_
  · intro ans left effect
    cases effect
    have held := going.held
    have arrived : trial.state.arrived = [descriptor] := by
      have same := perm_of_subsets held.arrived held.registered going.all held.received
      rw [only] at same
      exact perm_singleton.mp same
    have number : 0 ≤ descriptor := by
      refine held.numbers descriptor ?_
      rw [arrived]
      exact mem_singleton_self _
    refine ⟨rfl, ?_, held.closed⟩
    exact arrived.trans (congrArg (fun value => [value]) (Int.toNat_of_nonneg number).symm)
  · intro err _
    exact spoiled_same going rfl
  · intro ans left err effect _
    cases effect
    exact spoiled_same going rfl

theorem going_only {descriptors : List Int} (going : Going stream consumed trial)
    (only : trial.state.registered = descriptors) (steady : Steady prog) :
    Tries intakeTools (Returns
      (fun _ post => Going stream consumed post ∧ post.state.registered = descriptors)
      (fun _ => Spoiled)) prog trial := by
  refine safe_weaken (steady trial going.calm) ?_
  intro out post holds
  cases out with
  | ok result =>
    exact ⟨going_same going holds.1 holds.2, (congrArg registered holds.1).trans only⟩
  | error err => exact spoiled_same going holds

theorem tries_accept_request {startedAtUnixMs : Int} (going : Going stream consumed trial) :
    Tries intakeTools (Returns
      (fun received post => decodeRequest payload = .ok received.request ∧ Owns received post.state)
      (fun _ => Spoiled)) (acceptRequest decodeRequest startedAtUnixMs payload) trial := by
  refine safe_then (going_descriptors going) (fun _ _ spoiled => spoiled) ?_
  rintro descriptors listed ⟨goingListed, only⟩
  match descriptors with
  | [] => exact going_spoiled goingListed
  | _ :: _ :: _ => exact going_spoiled goingListed
  | [descriptor] =>
    refine safe_then (going_only goingListed only (steady_translating (steady_attempt trivial)))
      (fun _ _ spoiled => spoiled) ?_
    rintro _ inherited ⟨goingInherited, onlyInherited⟩
    refine going_compute goingInherited fun req decoded => ?_
    refine safe_then (going_only goingInherited onlyInherited steady_wall_clock)
      (fun _ _ spoiled => spoiled) ?_
    rintro observedAtUnixMs clocked ⟨goingClocked, onlyClocked⟩
    refine going_refuse goingClocked fun _ => going_refuse goingClocked fun _ => ?_
    refine safe_then (going_only goingClocked onlyClocked
      (steady_translating (steady_attempt trivial))) (fun _ _ spoiled => spoiled) ?_
    rintro target inspected ⟨goingInspected, onlyInspected⟩
    refine going_refuse goingInspected fun _ => ?_
    refine safe_then (going_only goingInspected onlyInspected steady_wall_clock)
      (fun _ _ spoiled => spoiled) ?_
    rintro lastObservedAtUnixMs again ⟨goingAgain, onlyAgain⟩
    refine going_refuse goingAgain fun _ => ?_
    refine safe_weaken (tries_make_received goingAgain onlyAgain) ?_
    rintro (err | received) last
    · exact fun spoiled => spoiled
    · rintro ⟨rfl, owns⟩
      exact ⟨decoded, owns⟩

theorem steady_cancelled :
    Steady (if cancellable = true then attempt .cancelled else pure false) := by
  split
  · exact steady_attempt trivial
  · exact steady_pure

def Answers (expectedRequest : ProbeBrokerRequest) (resp : ProbeBrokerResponse) : Prop :=
  resp.requestId = expectedRequest.requestId ∧
    resp.endpointGeneration = expectedRequest.endpointGeneration

theorem tries_accept_response {expectedRequest : ProbeBrokerRequest}
    (going : Going stream consumed trial) :
    Tries intakeTools (Returns
      (fun result post => (∃ resp, decodeResponse payload = .ok resp ∧
        Answers expectedRequest resp ∧ resp.result = result) ∧ post.state.arrived = [])
      (fun _ => Spoiled)) (acceptResponse decodeResponse cancellable expectedRequest payload)
      trial := by
  refine safe_then (going_descriptors going) (fun _ _ spoiled => spoiled) ?_
  rintro descriptors listed ⟨goingListed, only⟩
  refine going_refuse goingListed fun noDescriptor => ?_
  obtain rfl := not_not.mp noDescriptor
  refine going_compute goingListed fun resp decoded => ?_
  refine going_refuse goingListed fun matching => going_refuse goingListed fun _ => ?_
  refine safe_then (going_only goingListed only steady_cancelled) (fun _ _ spoiled => spoiled) ?_
  rintro isCancelled post ⟨goingAfter, onlyAfter⟩
  refine going_refuse goingAfter fun _ => ?_
  rw [not_or, not_not, not_not] at matching
  refine ⟨⟨resp, decoded, matching, rfl⟩, ?_⟩
  have all := goingAfter.all
  rw [onlyAfter] at all
  exact subset_nil.mp all

end Accepting

section Functions

variable {decodeRequest : Bytes → Except Raised ProbeBrokerRequest}
  {decodeResponse : Bytes → Except Raised ProbeBrokerResponse}

def Intake.begin (stream : Bytes) : Intake := ⟨stream, [], [], []⟩

def Untouched (stream : Bytes) (trial : IntakeTrial) : Prop :=
  trial.state = .begin stream ∧ trial.failures = []

theorem untouched_going (untouched : Untouched stream trial) : Going stream [] trial := by
  obtain ⟨isBegin, calm⟩ := untouched
  refine ⟨?_, ?_, calm, ?_⟩
  · rw [isBegin]
    exact ⟨nodup_nil, nodup_nil, Subset.refl _, fun _ mem => (by cases mem), rfl⟩
  · rw [isBegin]
    exact Subset.refl _
  · rw [isBegin]
    rfl

theorem begin_left_closed (isBegin : trial.state = .begin stream) : LeftClosed trial := by
  refine ⟨?_, ?_, fun _ => ?_⟩
  · rw [isBegin]
    exact nodup_nil
  · rw [isBegin]
    exact Subset.refl _
  · rw [isBegin]
    exact Perm.refl _

theorem untouched_steady {next : Result → IntakeProg Final} {ret : Final → IntakeTrial → Prop}
    (untouched : Untouched stream trial) (steady : Steady prog)
    (rest : ∀ result post, Untouched stream post →
      Tries intakeTools (Returns ret (fun _ => LeftClosed)) (next result) post) :
    Tries intakeTools (Returns ret (fun _ => LeftClosed)) (prog >>= next) trial := by
  refine safe_then (steady trial untouched.2) ?_ ?_
  · exact fun _ post same => begin_left_closed (same.trans untouched.1)
  · rintro result post ⟨same, calm⟩
    exact rest result post ⟨same.trans untouched.1, calm⟩

theorem untouched_start : Untouched stream (start (begin stream)) := ⟨rfl, rfl⟩

theorem tries_receive_probe_broker_request {unixStream linux : Bool} {expectedUid expectedGid : Int}
    {requestTimeoutSeconds : Rat} :
    Tries intakeTools (Returns
      (fun received post => (∃ payload, Framed 1024 stream payload ∧
        decodeRequest payload = .ok received.request) ∧ Owns received post.state)
      (fun _ => LeftClosed))
      (receiveProbeBrokerRequest decodeRequest unixStream linux expectedUid expectedGid
        requestTimeoutSeconds) (start (begin stream)) := by
  refine untouched_steady untouched_start steady_refuse fun _ _ untouched => ?_
  refine untouched_steady untouched steady_refuse fun _ _ untouched => ?_
  refine untouched_steady untouched steady_refuse fun _ _ untouched => ?_
  refine untouched_steady untouched steady_wall_clock fun startedAtUnixMs _ untouched => ?_
  refine untouched_steady untouched steady_start_io_deadline fun ioDeadline _ untouched => ?_
  refine untouched_steady untouched steady_require_peer fun _ _ untouched => ?_
  refine closing_on_failure ?_
  refine safe_then (tries_receive_frame (fun tries => tries) (untouched_going untouched))
    (fun _ _ spoiled => spoiled) ?_
  rintro payload framedTrial ⟨framed, consumed, going⟩
  refine safe_weaken (tries_accept_request going) ?_
  rintro (err | received) last
  · exact fun spoiled => spoiled
  · rintro ⟨decoded, owns⟩
    exact ⟨⟨payload, framed, decoded⟩, owns⟩

theorem tries_receive_probe_broker_response {unixStream : Bool}
    {expectedRequest : ProbeBrokerRequest} {timeout : Rat} :
    Tries intakeTools (Returns
      (fun result post => (∃ payload resp, Framed 512 stream payload ∧
        decodeResponse payload = .ok resp ∧ Answers expectedRequest resp ∧
        resp.result = result) ∧ post.state.arrived = [])
      (fun _ => LeftClosed))
      (receiveProbeBrokerResponse decodeResponse unixStream cancellable expectedRequest
        timeout) (start (begin stream)) := by
  refine untouched_steady untouched_start steady_refuse fun _ _ untouched => ?_
  refine untouched_steady untouched steady_refuse fun _ _ untouched => ?_
  refine untouched_steady untouched steady_start_io_deadline fun _ _ untouched => ?_
  refine untouched_steady untouched (steady_attempt trivial) fun remaining _ untouched => ?_
  refine untouched_steady untouched steady_start_io_deadline fun ioDeadline _ untouched => ?_
  refine closing_on_failure ?_
  refine safe_then (tries_receive_frame tries_translating (untouched_going untouched))
    (fun _ _ spoiled => spoiled) ?_
  rintro payload framedTrial ⟨framed, consumed, going⟩
  refine safe_weaken (tries_accept_response going) ?_
  rintro (err | result) last
  · exact fun spoiled => spoiled
  · rintro ⟨⟨resp, decoded, answers, isResult⟩, noDescriptor⟩
    exact ⟨⟨payload, resp, framed, decoded, answers, isResult⟩, noDescriptor⟩

/-- However the stream is cut and whatever fails, an accepted request is the one framed in the
stream and owns the one descriptor that arrived, a result comes from a response to the expected
request and without any descriptor, and after an exception no descriptor was closed twice and none
is open, where the failures can be made up for. -/
theorem receive_owns_descriptors (stream : Bytes) (unixStream linux cancellable : Bool)
    (expectedUid expectedGid : Int) (timeout : Rat) (expectedRequest : ProbeBrokerRequest) :
    (∀ out last, Runs (attempting intakeTools) 0
        (receiveProbeBrokerRequest decodeRequest unixStream linux expectedUid expectedGid
          timeout) (start (begin stream)) out last →
      Returns
        (fun received post => Owns received post.state ∧
          ∃ payload, (∀ other, Framed 1024 stream other ↔ other = payload) ∧
            decodeRequest payload = .ok received.request)
        (fun _ => LeftClosed) out last) ∧
    (∀ out last, Runs (attempting intakeTools) 0
        (receiveProbeBrokerResponse decodeResponse unixStream cancellable expectedRequest
          timeout) (start (begin stream)) out last →
      Returns
        (fun result post => post.state.arrived = [] ∧
          ∃ payload resp, (∀ other, Framed 512 stream other ↔ other = payload) ∧
            decodeResponse payload = .ok resp ∧ Answers expectedRequest resp ∧
            resp.result = result)
        (fun _ => LeftClosed) out last) := by
  have exactly : ∀ {maximum : Nat} {payload : Bytes}, Framed maximum stream payload →
      ∀ other, Framed maximum stream other ↔ other = payload := by
    intro maximum payload framed other
    refine ⟨fun isFramed => framed_unique isFramed framed, ?_⟩
    rintro rfl
    exact framed
  refine ⟨?_, ?_⟩
  · intro out last runs
    have holds := runs_ensured tries_receive_probe_broker_request runs
    cases out with
    | error err => exact holds
    | ok received =>
      obtain ⟨⟨payload, framed, decoded⟩, owns⟩ := holds
      exact ⟨owns, payload, exactly framed, decoded⟩
  · intro out last runs
    have holds := runs_ensured tries_receive_probe_broker_response runs
    cases out with
    | error err => exact holds
    | ok result =>
      obtain ⟨⟨payload, resp, framed, rest⟩, noDescriptor⟩ := holds
      exact ⟨noDescriptor, payload, resp, exactly framed, rest⟩

def sampleRequest : ProbeBrokerRequest where
  requestId := 0x00000000000040008000000000000001
  endpointGeneration := 0x00000000000040008000000000000003
  target := ⟨.v4 0x7f000001, 554, by decide⟩
  deadlineUnixMs := 2000
  valid := by decide

def samplePayload : Bytes :=
  ("\x7b\"address\":\"127.0.0.1\",\"deadline_unix_ms\":2000," ++
    "\"endpoint_generation\":\"00000000-0000-4000-8000-000000000003\",\"port\":554," ++
    "\"request_id\":\"00000000-0000-4000-8000-000000000001\",\"schema_version\":1\x7d").toList.map
      fun char => UInt8.ofNat char.toNat

def sampleDecode (payload : Bytes) : Except Raised ProbeBrokerRequest :=
  if payload = samplePayload then .ok sampleRequest
  else .error (.broker "probe_broker_request_invalid")

def sampleStream : Bytes := [0, 0, 0, 190] ++ samplePayload

/-- At most a hundred bytes at a time; a descriptor comes with the first. -/
def sampleMessage (st : Intake) (size : Nat) : Message where
  chunk := st.stream.take (min size 100)
  ancillary := if st.arrived = [] then [⟨1, 1, [7, 0, 0, 0]⟩] else []
  flags := 0

def sampleAct (st : Intake) :
    (req : IntakeCall) → Except Raised (IntakeAnswer req) × Intake
  | .wallClockMs => (.ok (some 1000), st)
  | .monotonic => (.ok (some 0), st)
  | .settimeout _ => (.ok (), st)
  | .waitUntilReadable _ => (.ok 1, st)
  | .cancelled => (.ok false, st)
  | .getPeerCredentials => (.ok ⟨10, 0, 0⟩, st)
  | .recvmsg size => (.ok (sampleMessage st size), st.receive (sampleMessage st size))
  | .register descriptor => (.ok (), st.register descriptor)
  | .descriptors => (.ok st.registered, st)
  | .setInheritable _ => (.ok (), st)
  | .inspectSealedProbeInput _ => (.ok sampleRequest.target, st)
  | .makeReceivedProbeInput req descriptor => (.ok ⟨req, descriptor.toNat⟩, st)
  | .close descriptor => (.ok (), st.close descriptor)

theorem sample_rights {size : Nat} :
    (sampleMessage st size).rights = if st.arrived = [] then [7] else [] := by
  unfold Message.rights sampleMessage
  split
  · rfl
  · rfl

theorem sample_acts (st : Intake) (req : IntakeCall) :
    IntakeEffect st req (sampleAct st req).1 (sampleAct st req).2 := by
  cases req with
  | recvmsg size =>
    refine .recvmsg ?_ (List.take_prefix _ _) ?_ ?_ ?_
    · exact (length_take_le _ _).trans (min_le_left _ _)
    · rw [sample_rights]
      split <;> simp
    · rw [sample_rights]
      split
      · rename_i noneArrived
        rw [noneArrived]
        exact disjoint_nil_left _
      · exact disjoint_nil_right _
    · rw [sample_rights]
      split <;> simp
  | wallClockMs => exact .wallClockMs _
  | monotonic => exact .monotonic _
  | settimeout remaining => exact .settimeout
  | waitUntilReadable ioDeadline => exact .waitUntilReadable _
  | cancelled => exact .cancelled _
  | getPeerCredentials => exact .getPeerCredentials _
  | register descriptor => exact .register
  | descriptors => exact .descriptors
  | setInheritable descriptor => exact .setInheritable
  | inspectSealedProbeInput descriptor => exact .inspectSealedProbeInput _
  | makeReceivedProbeInput req descriptor => exact .makeReceivedProbeInput
  | close descriptor => exact .close

def sampleProgram : IntakeProg ReceivedProbeInput :=
  receiveProbeBrokerRequest sampleDecode true true 0 0 1

def sampleRun (script : List (Option Bool)) : Except Raised ReceivedProbeInput × IntakeTrial :=
  execute sampleAct (fun _ => .other "KeyboardInterrupt") sampleProgram script
    (start (begin sampleStream))

def readsList : IntakeCall → Bool
  | .descriptors => true
  | _ => false

theorem sample_run_runs {script : List (Option Bool)}
    (loses : (sampleRun script).2.failures.all (fun failure => !readsList failure.request) = true) :
    Runs (attempting intakeTools) 0 sampleProgram (start (begin sampleStream))
      (sampleRun script).1 (sampleRun script).2 := by
  refine execute_runs_when sample_acts _ _ _ ?_
  intro failure mem
  have isLost := all_eq_true.mp loses failure mem
  change IntakeLost failure.request (.other "KeyboardInterrupt")
  cases req : failure.request with
  | register descriptor => exact ⟨_, rfl⟩
  | descriptors =>
    rw [req] at isLost
    cases isLost
  | _ => trivial

/-- A request in three pieces: the caller owns descriptor 7. -/
theorem sample_request_received :
    ∃ received, (sampleRun []).1 = .ok received ∧ Owns received (sampleRun []).2.state := by
  obtain ⟨loses, returns⟩ :
      (sampleRun []).2.failures.all (fun failure => !readsList failure.request) = true ∧
        (sampleRun []).1.isOk = true := by decide +kernel
  have holds := (@receive_owns_descriptors sampleDecode (fun _ => .error .valueError)
    sampleStream true true false 0 0 1 sampleRequest).1 _ _ (sample_run_runs loses)
  cases out : (sampleRun []).1 with
  | error err =>
    rw [out] at returns
    cases returns
  | ok received =>
    rw [out] at holds
    exact ⟨received, rfl, holds.1⟩

/-- What an interruption takes out of the code's hands: a `recvmsg` that has received, a second
registration, a `close` that has not closed. -/
def leakingScripts : List (List (Option Bool)) :=
  [replicate 5 none ++ [some true], replicate 6 none ++ [some false, some false],
    replicate 14 none ++ [some false, none, some false]]

/-- Descriptor 7 arrived and is open when the exception reaches the caller. -/
theorem interruptions_leak :
    leakingScripts.length = 3 ∧ ∀ script ∈ leakingScripts,
      Runs (attempting intakeTools) 0 sampleProgram (start (begin sampleStream))
        (sampleRun script).1 (sampleRun script).2 ∧
      (sampleRun script).1.isOk = false ∧ (sampleRun script).2.state.arrived = [7] ∧
      (sampleRun script).2.state.closed = [] := by
  have checked : ∀ script ∈ leakingScripts,
      (sampleRun script).2.failures.all (fun failure => !readsList failure.request) = true ∧
      (sampleRun script).1.isOk = false ∧ (sampleRun script).2.state.arrived = [7] ∧
      (sampleRun script).2.state.closed = [] := by decide +kernel
  refine ⟨rfl, fun script mem => ?_⟩
  obtain ⟨loses, holds⟩ := checked script mem
  exact ⟨sample_run_runs loses, holds⟩

end Functions

end RtspProxy.Broker.Receive
