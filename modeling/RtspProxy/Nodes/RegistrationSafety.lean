import RtspProxy.Nodes.RegistrationLedger

/-!
# Registration requests among other threads

The contract between the threads of the control world, as far as registrations
go: a call is a step of the ledger, registrations carry the context of their
key, and an answer that is noted is accounted for in the ledger. Every request
keeps to it, so that what one request has found in the ledger stays true for all
of them.
-/

namespace RtspProxy.Nodes

open Lib Lib.Program Lib.Program.Prog InMemoryNodeStore NodeControl Lib.Raising NodeMutationContext
  CameraControl

variable [PythonText]

variable {req : ControlCall}

section Calls

variable {w after : ControlWorld}

theorem operated_ledger {fault : Fault} {op : StoreOperation}
    (other : op.isRegistration = false) {ans : Except ControlRaised op.Result}
    (answered : w.operated fault op = (ans, after)) :
    after.ledger = w.ledger ∧ after.answered = w.answered := by
  obtain ⟨onlyStore, effect⟩ := operated_cases answered
  rw [onlyStore]
  refine ⟨?_, rfl⟩
  have entries : after.store.requestEntry = w.store.requestEntry := by
    rcases effect with ⟨_, sameStore⟩ | ⟨res, performed, _⟩
    · rw [sameStore]
    · have nothing := perform_quietly other w.store _ _ performed
      exact entry_congr nothing.nodeRequests nothing.cameraRequests
  rw [ControlWorld.ledger, entries]
  rfl

theorem control_ledger (other : ∀ call, req ≠ .registration call) {choice : ControlChoice}
    {ans : Except ControlRaised (ControlAnswer req)}
    (resp : controlRespond choice w req = (ans, after)) :
    after.ledger = w.ledger ∧ after.answered = w.answered := by
  cases req with
  | registration call => exact absurd rfl (other call)
  | beginPortChange | completePortChange | abortPortChange | applyRuntimeObservation
  | requestAdministrativeState => exact operated_ledger rfl resp
  | acquireSlot | releaseSlot | releaseLifecycle | newOperationId | clock | isPortBindable
  | verifyNodePortChange | verifyNodeReconfigure =>
    cases resp
    exact ⟨rfl, rfl⟩
  | getNode | listNodeCameras | listIncompletePortChanges | enterFence | exitFence =>
    rw [(answers_world resp).1]
    exact ⟨rfl, rfl⟩
  | acquireLifecycle | resolveDisruptionFence =>
    simp only [controlRespond] at resp
    split_ifs at resp
    · cases resp
      exact ⟨rfl, rfl⟩
    · cases resp
      exact ⟨rfl, rfl⟩
  | execute action node deadline =>
    simp only [controlRespond, ControlWorld.executed] at resp
    split_ifs at resp
    · cases resp
      exact ⟨rfl, rfl⟩
    · cases resp
      exact ⟨rfl, rfl⟩
    · cases resp
      exact ⟨rfl, rfl⟩

end Calls

/-- The exceptions a camera request may raise before it has a reservation. -/
def Refused : ControlRaised → Prop
  | .node (.invalidCameraName _) | .node (.invalidCameraSource _) | .node (.valueError _)
  | .node (.cameraLifecycleConflict _) => True
  | _ => False

/-- The record stands for the key and the content of the request. -/
def SettledFor (kind : RecordKind) (idempotency : RegistrationIdempotency) (id : UUID)
    (ledger : RegistrationLedger) : Prop :=
  ledger.Settled (kind, idempotency.requestKey) idempotency.content id

def HeldFor (kind : RecordKind) (idempotency : RegistrationIdempotency)
    (ledger : RegistrationLedger) : Prop :=
  ledger.Held (kind, idempotency.requestKey) idempotency.content

/-- A record that is returned stands for the key and the content of the request, and a camera
request that got as far as its placement holds the key. -/
def Accounted (ledger : RegistrationLedger) (ans : RegistrationAnswer) : Prop :=
  match ans.outcome with
  | .ok id => SettledFor ans.kind ans.idempotency id ledger
  | .error err => ans.kind = .camera → ¬Refused err →
      HeldFor .camera ans.idempotency ledger

/-- Registrations carry their context, and answers are accounted for. -/
def Permitted (w : ControlWorld) : ControlCall → Prop
  | .registration (.operate ctx op) => Attributed ctx op
  | .registration (.answer answered) => Accounted w.ledger answered
  | _ => True

omit [PythonText] in
theorem accounted_extends {pre after : RegistrationLedger} (extends_ : pre.Extends after)
    {ans : RegistrationAnswer} (accounted : Accounted pre ans) :
    Accounted after ans := by
  obtain ⟨kind, idempotency, outcome⟩ := ans
  cases outcome with
  | ok id => exact extends_.settled _ _ _ accounted
  | error err =>
    intro isCamera notRefused
    exact extends_.held _ _ (accounted isCamera notRefused)

theorem call_step {w after : ControlWorld} {tid : Nat}
    {ans : Except ControlRaised (ControlAnswer req)} (permitted : Permitted w req)
    (executed : controlMachine.exec tid w req ans after) :
    Ledger.Step w.ledger after.ledger ∧
      ∀ noted ∈ after.answered, noted ∈ w.answered ∨ Accounted w.ledger noted := by
  obtain ⟨fresh, choice, resp⟩ := executed
  have unchanged (same : after.ledger = w.ledger ∧ after.answered = w.answered) :
      Ledger.Step w.ledger after.ledger ∧
        ∀ noted ∈ after.answered, noted ∈ w.answered ∨ Accounted w.ledger noted := by
    rw [same.1, same.2]
    exact ⟨.skip, fun _ mem => .inl mem⟩
  cases req with
  | registration call =>
    cases call with
    | operate ctx op =>
      obtain ⟨step, sameAnswers⟩ := performed_step permitted fresh resp
      rw [sameAnswers]
      exact ⟨step, fun _ mem => .inl mem⟩
    | answer answered =>
      cases resp
      refine ⟨.skip, ?_⟩
      intro noted mem
      rcases List.mem_cons.mp mem with rfl | pre
      · exact .inr permitted
      · exact .inl pre
    | listNodes | lookupRegistration | portChoices | newCameraId | newPublicId
    | admitProbeEndpoint =>
      cases resp
      exact unchanged ⟨rfl, rfl⟩
  | _ =>
    refine unchanged (control_ledger ?_ resp)
    rintro call ⟨⟩

def registrationProtocol : Protocol controlMachine where
  invariant w := w.ledger.Consistent ∧
    ∀ ans ∈ w.answered, Accounted w.ledger ans
  effect _ pre after := pre.ledger.Extends after.ledger
  permitted _ w req := Permitted w req
  sound := by
    rintro tid w req ans after ⟨consistent, accounted⟩ permitted executed
    obtain ⟨step, answers⟩ := call_step permitted executed
    have extended := Ledger.step_extends step
    refine ⟨⟨Ledger.step_consistent consistent step, ?_⟩, extended⟩
    intro noted mem
    rcases answers noted mem with pre | now
    · exact accounted_extends extended (accounted noted pre)
    · exact accounted_extends extended now
  leaves := by
    intro tid w invariant
    exact ⟨invariant, Ledger.step_extends .skip⟩

section Requests

def Unconditional (req : ControlCall) : Prop := ∀ w, Permitted w req

/-- A program that may run among any others. -/
abbrev Harmless {Value : Type} (program : ControlProgram Value) : Prop := Only Unconditional program

omit [PythonText] in
theorem harmless_send (permitted : Unconditional req) :
    Harmless (send req) := only_ask permitted

omit [PythonText] in
theorem harmless_lifecycle {Value : Type} {nodeId : UUID} {body : ControlProgram Value}
    (harmless : Harmless body) : Harmless (withLifecycleGuard nodeId body) := by
  refine only_bind (harmless_send fun _ => trivial) fun _ => ?_
  refine only_and_then harmless fun _ => ?_
  exact only_and_then (harmless_send fun _ => trivial) fun _ => trivial

omit [PythonText] in
theorem harmless_require (hasRuntime : Bool) (nodeId : UUID) :
    Harmless (requireNodeAndRuntime hasRuntime nodeId) := by
  refine only_bind (harmless_send fun _ => trivial) fun found => ?_
  cases found with
  | none => trivial
  | some node =>
    split_ifs
    · trivial
    · trivial

omit [PythonText] in
theorem harmless_execute_runtime (node : MediaNode) (action : NodeRuntimeAction) :
    Harmless (executeRuntime node action) := by
  have failed : Harmless (do
      let _ ← send (.applyRuntimeObservation node.id (failedObservation node.appliedRevision))
      raise (.node (.nodeRuntimeFailed "node_runtime_operation_failed" node.id)) :
        ControlProgram MediaNode) :=
    only_bind (harmless_send fun _ => trivial) fun _ => trivial
  refine only_and_then (harmless_send fun _ => trivial) fun executed => ?_
  cases executed with
  | error err => exact failed
  | ok obs => exact only_handle (harmless_send fun _ => trivial) fun _ => failed

omit [PythonText] in
theorem harmless_start_node (cfg : NodeControl.Configuration) (nodeId : UUID)
    (fence : Option NodeCommandFence) (ctx : Option NodeMutationContext) :
    Harmless (startNode cfg nodeId fence ctx) := by
  refine harmless_lifecycle ?_
  refine only_bind (harmless_require _ _) fun _ => ?_
  refine only_bind (harmless_send fun _ => trivial) fun _ => ?_
  exact harmless_execute_runtime _ _

omit [PythonText] in
theorem harmless_bindable_ports (ports : List Int) : Harmless (bindablePorts ports) := by
  induction ports with
  | nil => trivial
  | cons port rest ih =>
    refine only_bind (harmless_send fun _ => trivial) fun _ => ?_
    exact only_bind ih fun _ => trivial

omit [PythonText] in
theorem harmless_candidate_ports (args : RegisterNodeArguments) :
    Harmless (candidatePorts args) := by
  unfold candidatePorts
  split
  · exact harmless_bindable_ports _
  · split_ifs
    · refine only_bind (harmless_send fun _ => trivial) fun _ => ?_
      split_ifs
      · trivial
      · trivial
    · trivial

omit [PythonText] in
theorem harmless_provision (cfg : NodeControl.Configuration)
    (creationMode : NodeCreationMode) (ctx : Option NodeMutationContext) (node : MediaNode) :
    Harmless (provisionRegistered cfg creationMode ctx node) := by
  unfold provisionRegistered
  by_cases provisions : cfg.provisionOnCreate = true ∨ creationMode = .automatic
  · rw [if_pos provisions]
    refine only_handle (harmless_start_node _ _ _ _) fun err => ?_
    split
    · split_ifs
      · trivial
      · trivial
    · trivial
  · rw [if_neg provisions]
    trivial

variable {ctx : Option NodeMutationContext}

omit [PythonText] in
theorem idempotency_key {code : String} {payload : Json} [PythonText]
    {idempotency : Option RegistrationIdempotency}
    (made : registrationIdempotency code payload ctx = .ok idempotency) :
    ctx.bind requestKey = idempotency.map RegistrationIdempotency.requestKey := by
  unfold registrationIdempotency at made
  split at made
  · cases made
    rfl
  · next ctx =>
      split at made
      · next absent =>
          cases made
          simp [requestKey, absent]
      · next key carried =>
          dsimp only at made
          split_ifs at made
          · cases made
            simp [requestKey, carried, RegistrationIdempotency.requestKey]

omit [PythonText] in
theorem harmless_store_registration {idempotency : Option NodeRegistrationIdempotency}
    (args : RegisterArguments) (keyed : ctx.bind requestKey =
      idempotency.map RegistrationIdempotency.requestKey) :
    Harmless (storeRegistration ctx idempotency args) := by
  cases idempotency with
  | some idempotency => exact harmless_send fun _ => keyed
  | none => exact only_bind (harmless_send fun _ => keyed) fun _ => trivial

omit [PythonText] in
theorem compute_ok {Value Final : Type} (value : Value) (next : Value → ControlProgram Final) :
    (compute (.ok value) >>= next) = next value := rfl

theorem harmless_register_node (cfg : NodeControl.Configuration)
    (args : RegisterNodeArguments) (ctx : Option NodeMutationContext) :
    Harmless (registerNode cfg args ctx) := by
  unfold registerNode
  cases made : nodeRegistrationIdempotency args.name args.externalPort args.creationMode ctx with
  | error err => trivial
  | ok idempotency =>
    have keyed := idempotency_key made
    rw [compute_ok]
    have replays : Harmless (replayedRegistration idempotency) := by
      cases idempotency with
      | none => trivial
      | some idempotency => exact harmless_send fun _ => trivial
    refine only_bind replays fun replay => ?_
    cases replay with
    | some replay => trivial
    | none =>
      refine only_bind (harmless_candidate_ports args) fun cands => ?_
      refine only_bind (harmless_send fun _ => trivial) fun choices => ?_
      refine only_bind (harmless_store_registration _ keyed) fun registration => ?_
      by_cases replayed : registration.replayed = true
      · rw [if_pos replayed]
        trivial
      · rw [if_neg replayed]
        exact harmless_provision _ _ _ _

omit [PythonText] in
theorem harmless_eligible_nodes (freshness : Int) (nodes : List MediaNode) :
    Harmless (eligibleNodes freshness nodes) := by
  induction nodes with
  | nil => trivial
  | cons node rest ih =>
    refine only_bind (harmless_send fun _ => trivial) fun _ => ?_
    exact only_bind ih fun _ => trivial

omit [PythonText] in
theorem harmless_refresh_nodes (cfg : NodeControl.Configuration)
    (nodes : List MediaNode) : Harmless (refreshNodes cfg nodes) := by
  induction nodes with
  | nil => trivial
  | cons node rest ih =>
    refine only_bind (harmless_lifecycle ?_) fun _ => ih
    exact only_bind (harmless_require _ _) fun _ => harmless_execute_runtime _ _

theorem harmless_ensure_capacity (cfg : NodeControl.Configuration)
    (policy : NodeProvisioningPolicy) (ctx : Option NodeMutationContext) :
    Harmless (ensureAutomaticCapacity cfg policy ctx) := by
  have lists : Harmless (register .listNodes) := harmless_send fun _ => trivial
  unfold ensureAutomaticCapacity
  split_ifs
  · trivial
  refine only_bind lists fun nodes => only_bind (harmless_eligible_nodes _ nodes) fun eligible => ?_
  split
  · trivial
  refine only_bind lists fun _ => only_bind (harmless_refresh_nodes _ _) fun _ => ?_
  refine only_bind lists fun nodes => only_bind (harmless_eligible_nodes _ nodes) fun refreshed => ?_
  split
  · trivial
  refine only_bind lists fun nodes => ?_
  split
  · exact harmless_start_node _ _ _ _
  · exact harmless_register_node _ _ _

omit [PythonText] in
theorem harmless_place {idempotency : Option CameraRegistrationIdempotency}
    (keyed : ctx.bind requestKey =
      idempotency.map RegistrationIdempotency.requestKey) (nodeId : Option UUID)
    (args : Datetime → PlaceArguments) :
    Harmless (place ctx idempotency nodeId args) := by
  refine only_bind (harmless_send fun _ => trivial) fun now => ?_
  cases idempotency with
  | some idempotency => exact only_bind (harmless_send fun _ => keyed) fun _ => trivial
  | none =>
    cases nodeId with
    | some nodeId => exact harmless_send fun _ => keyed
    | none => exact harmless_send fun _ => keyed

variable {cfg : CameraControl.Configuration}

theorem harmless_place_with_capacity {idempotency : Option CameraRegistrationIdempotency}
    (keyed : ctx.bind requestKey =
      idempotency.map RegistrationIdempotency.requestKey) (nodeId : Option UUID)
    (args : Datetime → PlaceArguments) :
    Harmless (placeWithCapacity cfg ctx idempotency nodeId args) := by
  refine only_handle (harmless_place keyed nodeId args) fun err => ?_
  split
  · split
    · exact only_bind (harmless_ensure_capacity _ _ _) fun _ => harmless_place keyed none args
    · trivial
  · trivial

theorem harmless_create_camera (cfg : CameraControl.Configuration)
    (args : CreateCameraArguments) (ctx : Option NodeMutationContext) :
    Harmless (createCamera cfg args ctx) := by
  refine only_bind (show Harmless (compute _) from trivial) fun name => ?_
  refine only_bind (show Harmless (compute _) from trivial) fun source => ?_
  cases made : cameraRegistrationIdempotency name source args.nodeId ctx with
  | error err => trivial
  | ok idempotency =>
    have keyed := idempotency_key made
    rw [compute_ok]
    have reserves : Harmless (reservedRegistration idempotency) := by
      cases idempotency with
      | none => trivial
      | some idempotency => exact harmless_send fun _ => trivial
    refine only_bind reserves fun found => ?_
    cases found with
    | some existing => trivial
    | none =>
      refine only_bind (harmless_send fun _ => trivial) fun cameraId => ?_
      refine only_bind (harmless_send fun _ => trivial) fun text => ?_
      refine only_bind (show Harmless (compute _) from trivial) fun publicId => ?_
      refine only_bind (harmless_send fun _ => trivial) fun probeEndpoint => ?_
      exact harmless_place_with_capacity keyed _ _

variable {tid : Nat} {w : ControlWorld}

theorem safe_harmless {Value : Type} {program : ControlProgram Value} (harmless : Harmless program) :
    SafeAmong registrationProtocol tid (fun _ _ => True) program w :=
  safe_only (fun _ cur allowed => allowed cur) harmless

theorem safe_after {Value Final : Type} {program : ControlProgram Value}
    {next : Value → ControlProgram Final} {ret : Final → ControlWorld → Prop}
    (harmless : Harmless program) (continues : ∀ value after, SafeAmong registrationProtocol tid
      (Returns ret fun _ _ => True) (next value) after) :
    SafeAmong registrationProtocol tid (Returns ret fun _ _ => True) (program >>= next)
      w := by
  refine safe_and_then (safe_harmless harmless) ?_
  intro outcome after _
  cases outcome with
  | ok value => exact continues value after
  | error err => trivial

theorem safe_send (permitted : Unconditional req)
    {post : Except ControlRaised (ControlAnswer req) → ControlWorld → Prop}
    (answers : ∀ cur ans after, controlMachine.exec tid cur req ans after →
      post ans after) : SafeAmong registrationProtocol tid post (send req) w := by
  have always : Stable registrationProtocol tid fun _ => True := fun _ _ _ _ _ holds => holds
  refine safe_ask always trivial (fun cur _ _ => permitted cur) ?_
  intro cur ans after _ _ executed
  exact answers cur ans after executed

/-- The program returns a record with this id, or it raises. -/
def Yields {Record : Type} (idOf : Record → UUID) (id : UUID) (program : ControlProgram Record) :
    Prop :=
  ∀ tid w, SafeAmong registrationProtocol tid
    (Returns (fun record _ => idOf record = id) fun _ _ => True) program w

theorem yields_apply_observation {nodeId : UUID} {obs : NodeRuntimeObservation} :
    Yields MediaNode.id nodeId (send (.applyRuntimeObservation nodeId obs)) := by
  intro tid w
  refine safe_send (show Unconditional (.applyRuntimeObservation _ _) from fun _ => trivial) ?_
  rintro cur ans after ⟨_, choice, resp⟩
  cases ans with
  | error err => trivial
  | ok node =>
    obtain ⟨_, ⟨⟨_, ⟨⟩⟩, _⟩ | ⟨res, performed, ⟨⟨⟩⟩ | ⟨⟨⟩⟩⟩⟩ := operated_cases resp
    simp only [StoreOperation.perform, applyRuntimeObservation, bind_ok,
      or_raise_ok, pure_ok, Prod.mk.injEq] at performed
    obtain ⟨found, isNode, _, _, rfl, _⟩ := performed
    have sameId : found.id = nodeId := find_node_id isNode
    exact sameId

theorem yields_execute_runtime (node : MediaNode) (action : NodeRuntimeAction) :
    Yields MediaNode.id node.id (executeRuntime node action) := by
  intro tid w
  have failed (cur : ControlWorld) : SafeAmong registrationProtocol tid
      (Returns (fun found _ => MediaNode.id found = node.id) fun _ _ => True)
      (do
        let _ ← send (.applyRuntimeObservation node.id (failedObservation node.appliedRevision))
        raise (.node (.nodeRuntimeFailed "node_runtime_operation_failed" node.id)) :
        ControlProgram MediaNode) cur :=
    safe_then (yields_apply_observation tid cur) (fun _ _ _ => trivial)
      fun _ _ _ => safe_raise trivial
  refine safe_and_then (safe_harmless (harmless_send fun _ => trivial)) ?_
  intro executed after _
  cases executed with
  | error err => exact failed after
  | ok obs =>
    exact safe_handle (fun _ _ => True) (yields_apply_observation tid after)
      fun _ later _ => failed later

theorem yields_lifecycle {nodeId id : UUID} {body : ControlProgram MediaNode}
    (yields : Yields MediaNode.id id body) :
    Yields MediaNode.id id (withLifecycleGuard nodeId body) := by
  intro tid w
  refine safe_after (harmless_send fun _ => trivial) fun _ after => ?_
  refine safe_and_then (yields tid after) ?_
  intro outcome later holds
  refine safe_and_then (safe_harmless (harmless_send fun _ => trivial)) ?_
  intro _ _ _
  cases outcome with
  | ok node => exact holds
  | error err => trivial

theorem yields_desired_state {nodeId : UUID} {st : NodeState} {fence : Option NodeCommandFence} :
    Yields MediaNode.id nodeId
      (register (.operate ctx (.requestDesiredState nodeId st fence))) := by
  intro tid w
  have permitted : Unconditional (.registration
      (.operate ctx (.requestDesiredState nodeId st fence))) := fun _ => trivial
  refine safe_send permitted ?_
  rintro cur ans after ⟨_, choice, resp⟩
  rcases performed_cases resp with ⟨_, _, rfl, _⟩ | ⟨res, later, ran, rfl, _⟩
  · trivial
  · simp only [StoreOperation.perform, requestDesiredState, bind_ok,
      or_raise_ok, raise_if_ok, exists_const, ite_ok, pure_ok,
      Prod.mk.injEq] at ran
    obtain ⟨found, isNode, _, _, _, effect⟩ := ran
    have sameId : found.id = nodeId := find_node_id isNode
    rcases effect with ⟨_, rfl, _⟩ | ⟨_, rfl, _⟩
    · exact sameId
    · exact sameId

theorem yields_start_node (cfg : NodeControl.Configuration) (nodeId : UUID)
    (fence : Option NodeCommandFence) (ctx : Option NodeMutationContext) :
    Yields MediaNode.id nodeId (startNode cfg nodeId fence ctx) := by
  refine yields_lifecycle ?_
  intro tid w
  refine safe_after (harmless_require _ _) fun _ after => ?_
  refine safe_then (yields_desired_state tid after) (fun _ _ _ => trivial) ?_
  intro requested later isNode
  exact isNode ▸ yields_execute_runtime requested _ tid later

theorem yields_provision (cfg : NodeControl.Configuration)
    (creationMode : NodeCreationMode) (ctx : Option NodeMutationContext) (node : MediaNode) :
    Yields MediaNode.id node.id (provisionRegistered cfg creationMode ctx node) := by
  intro tid w
  unfold provisionRegistered
  by_cases provisions : cfg.provisionOnCreate = true ∨ creationMode = .automatic
  · rw [if_pos provisions]
    refine safe_handle (fun _ _ => True) (yields_start_node _ _ _ _ tid w) ?_
    intro err after _
    split
    · split_ifs
      · exact safe_pure rfl
      · exact safe_raise trivial
    · exact safe_raise trivial
  · rw [if_neg provisions]
    exact safe_pure rfl

variable {idempotency : RegistrationIdempotency}

theorem safe_settled {Value : Type} {kind : RecordKind}
    {id : UUID} {post : Except ControlRaised Value → ControlWorld → Prop}
    {program : ControlProgram Value} (settled : SettledFor kind idempotency id w.ledger)
    (safe : SafeAmong registrationProtocol tid post program w) :
    SafeAmong registrationProtocol tid
      (fun outcome after => post outcome after ∧ SettledFor kind idempotency id after.ledger) program
      w :=
  safe_frame (fun _ _ _ _ _ extended => extended.settled _ _ _) settled safe

theorem safe_held {Value : Type} {kind : RecordKind}
    {post : Except ControlRaised Value → ControlWorld → Prop} {program : ControlProgram Value}
    (held : HeldFor kind idempotency w.ledger)
    (safe : SafeAmong registrationProtocol tid post program w) :
    SafeAmong registrationProtocol tid
      (fun outcome after => post outcome after ∧ HeldFor kind idempotency after.ledger)
      program w :=
  safe_frame (fun _ _ _ _ _ extended => extended.held _ _) held safe

theorem safe_replayed_registration (idempotency : NodeRegistrationIdempotency) :
    SafeAmong registrationProtocol tid
      (Returns (fun replay after => ∀ res ∈ replay,
        SettledFor .node idempotency res.node.id after.ledger) fun _ _ => True)
      (replayedRegistration (some idempotency)) w := by
  refine safe_send (show Unconditional (.registration (.lookupRegistration idempotency)) from
    fun _ => trivial) ?_
  rintro cur ans after ⟨_, choice, resp⟩
  cases resp
  unfold InMemoryNodeStore.lookupRegistration
  split
  · rintro res ⟨⟩
  · next prev found =>
      cases replayed : cur.store.replayedNode prev idempotency with
      | error err => trivial
      | ok res =>
        rintro _ ⟨⟩
        exact replayed_node_settled found replayed

variable {idempotency : NodeRegistrationIdempotency}

theorem safe_store_registration
    (args : RegisterArguments) (keyed : ctx.bind requestKey = some idempotency.requestKey) :
    SafeAmong registrationProtocol tid
      (Returns
        (fun registration after => SettledFor .node idempotency registration.node.id after.ledger)
        fun _ _ => True)
      (storeRegistration ctx (some idempotency) args) w := by
  have permitted : Unconditional (.registration
      (.operate ctx (.registerIdempotently args idempotency))) := fun _ => keyed
  refine safe_send permitted ?_
  rintro cur ans after ⟨fresh, choice, resp⟩
  rcases performed_cases resp with ⟨_, _, rfl, _⟩ | ⟨res, later, ran, rfl, rfl⟩
  · trivial
  · have unused : cur.store.Unused args.newNodeId := fresh _ rfl
    rcases register_idempotently_effect unused ran with ⟨rfl, settled⟩ | ⟨_, entries, _⟩
    · exact settled
    · exact (congrFun entries _).trans (Function.update_self _ _ _)

theorem safe_register_node {cfg : NodeControl.Configuration} {args : RegisterNodeArguments}
    (made : nodeRegistrationIdempotency args.name args.externalPort
      args.creationMode ctx = .ok (some idempotency)) :
    SafeAmong registrationProtocol tid
      (Returns (fun node after => SettledFor .node idempotency node.id after.ledger) fun _ _ => True)
      (registerNode cfg args ctx) w := by
  unfold registerNode
  rw [made, compute_ok]
  refine safe_then (safe_replayed_registration idempotency) (fun _ _ _ => trivial) ?_
  intro replay looked settled
  cases replay with
  | some replay => exact safe_pure (settled replay rfl)
  | none =>
    refine safe_after (harmless_candidate_ports args) fun cands found => ?_
    refine safe_after (harmless_send fun _ => trivial) fun choices chosen => ?_
    refine safe_then (safe_store_registration _ (idempotency_key made))
      (fun _ _ _ => trivial) ?_
    intro registration registered isSettled
    by_cases replayed : registration.replayed = true
    · rw [if_pos replayed]
      exact safe_pure isSettled
    · rw [if_neg replayed]
      refine safe_weaken (safe_settled isSettled
        (yields_provision _ _ _ registration.node tid registered)) ?_
      intro outcome after holds
      cases outcome with
      | error err => trivial
      | ok node =>
        have sameId : node.id = registration.node.id := holds.1
        have kept : SettledFor .node idempotency node.id after.ledger := sameId ▸ holds.2
        exact kept

/-- The idempotency record of a camera request, once its name and its URL are accepted. -/
def cameraRequestIdempotency (args : CreateCameraArguments) (ctx : Option NodeMutationContext) :
    Except NodeError (Option CameraRegistrationIdempotency) := do
  let name ← validateCameraName args.name
  let source ← requestedSourceUrl args
  cameraRegistrationIdempotency name source args.nodeId ctx

variable {idempotency : CameraRegistrationIdempotency}

omit [PythonText] in
theorem reserve_camera_refused {store : InMemoryNodeStore} {err : NodeError}
    (raised : store.reserveCameraRegistration idempotency = .error err) :
    Refused (.node err) := by
  unfold reserveCameraRegistration at raised
  split at raised
  · cases raised
  · rcases bind_error.mp raised with conflict | ⟨target, _, rest⟩
    · simp only [cameraRegistrationTargetId, bind_error, raise_if_error,
        pure_error, and_false, exists_false, or_false] at conflict
      rw [← conflict.2]
      trivial
    · cases target with
      | none => cases rest
      | some cameraId =>
        simp only [replayedCamera, bind_error, or_raise_error,
          pure_error, and_false, exists_false, or_false] at rest
        rw [← rest.2]
        trivial

/-- A reservation finds the camera of the key, or leaves the key held; where it raises, the
request is refused. -/
theorem safe_reserved_registration (idempotency : CameraRegistrationIdempotency) :
    SafeAmong registrationProtocol tid
      (Returns (fun found after => HeldFor .camera idempotency after.ledger ∧
          ∀ res ∈ found, SettledFor .camera idempotency res.camera.id after.ledger)
        fun err _ => Refused err)
      (reservedRegistration (some idempotency)) w := by
  have permitted : Unconditional (.registration
      (.operate none (.reserveCameraRegistration idempotency))) := fun _ => trivial
  refine safe_send permitted ?_
  rintro cur ans after ⟨_, choice, resp⟩
  rcases performed_cases resp with ⟨_, raised, rfl, _⟩ | ⟨res, later, ran, rfl, rfl⟩
  · exact reserve_camera_refused raised
  · rcases reserve_camera_effect ran with ⟨rfl, _, rfl⟩ | ⟨rfl, found⟩
    · refine ⟨⟨none, ?_⟩, ?_⟩
      · exact (congrFun (entry_assign_camera cur.store idempotency none) _).trans
          (Function.update_self _ _ _)
      · rintro _ ⟨⟩
    · refine ⟨⟨_, found⟩, ?_⟩
      rintro replay ⟨⟩
      exact found

variable (keyed : ctx.bind requestKey = some idempotency.requestKey)

include keyed

theorem safe_place (nodeId : Option UUID) (args : Datetime → PlaceArguments) :
    SafeAmong registrationProtocol tid
      (Returns (fun cam after => SettledFor .camera idempotency cam.id after.ledger)
        fun _ _ => True)
      (place ctx (some idempotency) nodeId args) w := by
  refine safe_after (harmless_send fun _ => trivial) fun now read => ?_
  have permitted : Unconditional (.registration (.operate ctx
      (.placeCameraIdempotently nodeId (args now) idempotency))) := fun _ => keyed
  have placed : SafeAmong registrationProtocol tid
      (Returns (fun res after => SettledFor .camera idempotency res.camera.id after.ledger)
        fun _ _ => True)
      (register (.operate ctx
        (.placeCameraIdempotently nodeId (args now) idempotency))) read := by
    refine safe_send permitted ?_
    rintro cur ans after ⟨fresh, choice, resp⟩
    rcases performed_cases resp with ⟨_, _, rfl, _⟩ | ⟨res, later, ran, rfl, rfl⟩
    · trivial
    · have unused : cur.store.Unused (args now).cameraId := fresh _ rfl
      rcases place_idempotently_effect unused ran with ⟨rfl, settled⟩ | ⟨_, entries, _⟩
      · exact settled
      · exact (congrFun entries _).trans (Function.update_self _ _ _)
  exact safe_then placed (fun _ _ _ => trivial) fun _ _ settled => safe_pure settled

theorem safe_place_with_capacity (nodeId : Option UUID) (args : Datetime → PlaceArguments) :
    SafeAmong registrationProtocol tid
      (Returns (fun cam after => SettledFor .camera idempotency cam.id after.ledger)
        fun _ _ => True)
      (placeWithCapacity cfg ctx (some idempotency) nodeId args) w := by
  refine safe_handle (fun _ _ => True) (safe_place keyed nodeId args) ?_
  intro err after _
  split
  · split
    · next nodeControl policy _ =>
        exact safe_after (harmless_ensure_capacity nodeControl policy ctx)
          fun _ _ => safe_place keyed none args
    · exact safe_raise trivial
  · exact safe_raise trivial

theorem safe_place_new (name source : String) (nodeId : Option UUID) :
    SafeAmong registrationProtocol tid
      (Returns (fun cam after => SettledFor .camera idempotency cam.id after.ledger)
        fun _ _ => True)
      (placeNew cfg ctx (some idempotency) name source nodeId) w := by
  refine safe_after (harmless_send fun _ => trivial) fun cameraId first => ?_
  refine safe_after (harmless_send fun _ => trivial) fun text second => ?_
  refine safe_after (show Harmless (compute (parsePublicId text)) from trivial) ?_
  intro publicId third
  refine safe_after (harmless_send fun _ => trivial) fun probeEndpoint fourth => ?_
  exact safe_place_with_capacity keyed _ _

omit keyed

/-- A camera request returns the camera that stands for its key; where it fails otherwise than
by being refused, it holds the key. -/
theorem safe_create_camera {args : CreateCameraArguments}
    (made : cameraRequestIdempotency args ctx = .ok (some idempotency)) :
    SafeAmong registrationProtocol tid
      (Returns (fun cam after => SettledFor .camera idempotency cam.id after.ledger)
        fun err after => ¬Refused err → HeldFor .camera idempotency after.ledger)
      (createCamera cfg args ctx) w := by
  simp only [cameraRequestIdempotency, bind_ok] at made
  obtain ⟨name, nameOk, source, urlOk, made⟩ := made
  unfold createCamera
  rw [nameOk, compute_ok, urlOk, compute_ok, made, compute_ok]
  refine safe_then (safe_reserved_registration idempotency)
    (fun _ _ refused notRefused => absurd refused notRefused) ?_
  rintro found reserved ⟨held, settled⟩
  cases found with
  | some existing => exact safe_pure (settled existing rfl)
  | none =>
    refine safe_weaken (safe_held held (safe_place_new (idempotency_key made) _ _ _)) ?_
    intro outcome after holds
    cases outcome with
    | error err => exact fun _ => holds.2
    | ok cam => exact holds.1

end Requests

end RtspProxy.Nodes
