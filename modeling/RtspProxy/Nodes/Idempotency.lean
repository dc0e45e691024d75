import RtspProxy.Nodes.RegistrationSafety

/-!
# Idempotent registration

Any number of registration requests and of other programs run against one
control world. Each request is a thread that makes its calls, notes its answer
and may end at any point in between; a retry is one more thread.
-/

namespace RtspProxy.Nodes

open Lib Lib.Program Lib.Program.Prog InMemoryNodeStore NodeControl Lib.Raising
  CameraControl

section Registrations

variable [PythonText]

inductive ClientRequest
  | registerNode (cfg : NodeControl.Configuration) (args : RegisterNodeArguments)
      (ctx : Option NodeMutationContext)
  | createCamera (cfg : CameraControl.Configuration) (args : CreateCameraArguments)
      (ctx : Option NodeMutationContext)

namespace ClientRequest

omit [PythonText] in
def kind : ClientRequest → RecordKind
  | registerNode .. => .node
  | createCamera .. => .camera

/-- The key, the account and the digest a request carries. -/
def idempotency : ClientRequest → Except NodeError (Option RegistrationIdempotency)
  | registerNode _ args ctx =>
    nodeRegistrationIdempotency args.name args.externalPort args.creationMode ctx
  | createCamera _ args ctx => cameraRequestIdempotency args ctx

def body : ClientRequest → ControlProgram UUID
  | registerNode cfg args ctx => do
      let node ← NodeControl.registerNode cfg args ctx
      return node.id
  | createCamera cfg args ctx => do
      let cam ← CameraControl.createCamera cfg args ctx
      return cam.id

/-- The request with its answer noted, where it carries a key. -/
def program (req : ClientRequest) : ControlProgram Unit :=
  req.body.andThen fun outcome =>
    match req.idempotency with
    | .ok (some idempotency) =>
      register (.answer { kind := req.kind, idempotency := idempotency, outcome := outcome })
    | _ => .done (.ok ())

end ClientRequest

/-- Threads run registration requests, or programs whose registrations carry their context. -/
def Starts (program : ControlProgram Unit) : Prop :=
  (∃ req : ClientRequest, program = req.program) ∨ Harmless program

def initialWorld (nodes : List MediaNode) : ControlWorld :=
  { store := { nodes := nodes }, applied := [] }

abbrev RegistrationSystem (nodes : List MediaNode) :
    SystemState ControlCall ControlAnswer ControlRaised Unit ControlWorld → Prop :=
  SystemReachable controlMachine Starts fun w => w = initialWorld nodes

section System

variable {tid : Nat} {w : ControlWorld}

variable {idempotency : RegistrationIdempotency}

theorem safe_body {req : ClientRequest} (carries : req.idempotency = .ok (some idempotency)) :
    SafeAmong registrationProtocol tid
      (fun outcome after => Accounted after.ledger
        { kind := req.kind, idempotency := idempotency, outcome := outcome })
      req.body w := by
  cases req with
  | registerNode cfg args ctx =>
    refine safe_then (safe_register_node carries) ?_ ?_
    · rintro err after _ ⟨⟩
    · intro node after settled
      exact safe_pure settled
  | createCamera cfg args ctx =>
    refine safe_then (safe_create_camera carries) ?_ ?_
    · intro err after held _
      exact held
    · intro cam after settled
      exact safe_pure settled

theorem harmless_body (req : ClientRequest) : Harmless req.body := by
  cases req with
  | registerNode cfg args ctx =>
    exact only_bind (harmless_register_node cfg args ctx) fun _ => trivial
  | createCamera cfg args ctx =>
    exact only_bind (harmless_create_camera cfg args ctx) fun _ => trivial

theorem safe_request (req : ClientRequest) :
    SafeAmong registrationProtocol tid (fun _ _ => True) req.program w := by
  unfold ClientRequest.program
  split
  · next idempotency carries =>
      refine safe_and_then (safe_body carries) ?_
      intro outcome after accounted
      have stable : Stable registrationProtocol tid fun cur => Accounted cur.ledger
          { kind := req.kind, idempotency := idempotency, outcome := outcome } := by
        rintro pre later _ _ ⟨_, _, extended⟩ holds
        exact accounted_extends extended holds
      exact safe_ask stable accounted (fun _ _ holds => holds) fun _ _ _ _ _ _ => trivial
  · refine safe_and_then (safe_harmless (harmless_body req)) ?_
    intro _ _ _
    trivial

/-- Whatever the threads do, the ledger stays consistent and every answer is accounted for. -/
theorem registration_system_invariant {nodes : List MediaNode}
    {st : SystemState ControlCall ControlAnswer ControlRaised Unit ControlWorld}
    (reached : RegistrationSystem nodes st) : registrationProtocol.invariant st.world := by
  refine safe_system ?_ ?_ reached
  · rintro _ rfl
    refine ⟨⟨List.nodup_nil, ?_⟩, ?_⟩
    · rintro ⟨kind, key⟩ id
      cases kind <;> simp [ControlWorld.ledger, initialWorld, requestEntry, registrationRequest,
        cameraRegistrationRequest, RecordTable.lookup]
    · rintro ans ⟨⟩
  · rintro tid w program (⟨req, rfl⟩ | harmless) _
    · exact safe_request req
    · exact safe_harmless harmless

def Interference : ControlWorld → ControlWorld → Prop :=
  Relation.ReflTransGen fun pre after => ∃ (other : Nat) (req : ControlCall)
    (ans : Except ControlRaised (ControlAnswer req)),
    Permitted pre req ∧ controlMachine.exec other pre req ans after

def ChangesNothing (tid : Nat) (w : ControlWorld) (req : ControlCall) : Prop :=
  ∀ ans after, controlMachine.exec tid w req ans after → after = w

omit [PythonText] in
def idempotencyConflict : RecordKind → NodeError
  | .node => .nodeLifecycleConflict "node_idempotency_conflict"
  | .camera => .cameraLifecycleConflict "camera_idempotency_conflict"

/-- The request is rejected as a conflict and changes nothing, whatever happens meanwhile. -/
def Rejected (req : ClientRequest) (w : ControlWorld) : Prop :=
  ∀ tid, Safe controlMachine tid Interference (ChangesNothing tid)
    (fun outcome _ => outcome = .error (.node (idempotencyConflict req.kind))) req.body
    w

variable {content : UUID × String}

theorem interference_held {pre after : ControlWorld} (interference : Interference pre after)
    {key : RecordKind × RequestKey} (held : pre.ledger.Held key content) :
    after.ledger.Held key content := by
  induction interference with
  | refl => exact held
  | tail _ step ih =>
    obtain ⟨_, _, _, permitted, executed⟩ := step
    exact (Ledger.step_extends (call_step permitted executed).1).held _ _ ih

variable {store : InMemoryNodeStore} {target : Option UUID}

omit [PythonText] in
theorem held_node {key : RequestKey}
    (entry : store.requestEntry (.node, key) = some ⟨content, target⟩) :
    ∃ prev, store.registrationRequest key = some prev ∧
      (prev.actorAccountId, prev.requestSha256) = content := by
  rw [requestEntry] at entry
  obtain ⟨prev, found, same⟩ := Option.map_eq_some_iff.mp entry
  cases same
  exact ⟨prev, found, rfl⟩

omit [PythonText] in
theorem held_camera {key : RequestKey}
    (entry : store.requestEntry (.camera, key) = some ⟨content, target⟩) :
    ∃ prev, store.cameraRegistrationRequest key = some prev ∧
      (prev.actorAccountId, prev.requestSha256) = content ∧ prev.target = target := by
  rw [requestEntry] at entry
  obtain ⟨prev, found, same⟩ := Option.map_eq_some_iff.mp entry
  cases same
  exact ⟨prev, found, rfl, rfl⟩

omit [PythonText] in
theorem content_differs {account : UUID} {digest : String}
    (other : (account, digest) ≠ idempotency.content) :
    account ≠ idempotency.actorAccountId ∨ digest ≠ idempotency.requestSha256 := by
  by_contra same
  rw [not_or, not_not, not_not] at same
  exact other (Prod.ext same.1 same.2)

omit [PythonText] in
theorem replayed_conflict {prev : RegistrationRequest UUID}
    {idempotency : NodeRegistrationIdempotency}
    (other : (prev.actorAccountId, prev.requestSha256) ≠ idempotency.content) :
    store.replayedNode prev idempotency =
      .error (.nodeLifecycleConflict "node_idempotency_conflict") :=
  bind_of_error (raise_if_error.mpr ⟨content_differs other, rfl⟩)

variable {idempotency : CameraRegistrationIdempotency}

omit [PythonText] in
theorem target_conflict {prev : RegistrationRequest (Option UUID)}
    (other : (prev.actorAccountId, prev.requestSha256) ≠ idempotency.content) :
    cameraRegistrationTargetId prev idempotency =
      .error (.cameraLifecycleConflict "camera_idempotency_conflict") :=
  bind_of_error (raise_if_error.mpr ⟨content_differs other, rfl⟩)

omit [PythonText] in
theorem lookup_conflict {idempotency : NodeRegistrationIdempotency}
    (entry : store.requestEntry (.node, idempotency.requestKey) = some ⟨content, target⟩)
    (other : content ≠ idempotency.content) :
    store.lookupRegistration idempotency =
      .error (.nodeLifecycleConflict "node_idempotency_conflict") := by
  obtain ⟨prev, found, rfl⟩ := held_node entry
  rw [lookupRegistration, found]
  exact bind_of_error (replayed_conflict other)

omit [PythonText] in
theorem reserve_conflict
    (entry : store.requestEntry (.camera, idempotency.requestKey) = some ⟨content, target⟩)
    (other : content ≠ idempotency.content) :
    store.reserveCameraRegistration idempotency =
      .error (.cameraLifecycleConflict "camera_idempotency_conflict") := by
  obtain ⟨prev, found, rfl, _⟩ := held_camera entry
  rw [reserveCameraRegistration, found]
  exact bind_of_error (target_conflict other)

omit [PythonText] in
theorem register_conflict {idempotency : NodeRegistrationIdempotency} (args : RegisterArguments)
    (entry : store.requestEntry (.node, idempotency.requestKey) = some ⟨content, target⟩)
    (other : content ≠ idempotency.content) :
    store.registerIdempotently args idempotency =
      .error (.nodeLifecycleConflict "node_idempotency_conflict") := by
  obtain ⟨prev, found, rfl⟩ := held_node entry
  rw [registerIdempotently, found]
  exact bind_of_error (replayed_conflict other)

theorem place_conflict (nodeId : Option UUID) (args : PlaceArguments)
    (entry : store.requestEntry (.camera, idempotency.requestKey) = some ⟨content, target⟩)
    (other : content ≠ idempotency.content) :
    store.placeCameraIdempotently nodeId args idempotency =
      .error (.cameraLifecycleConflict "camera_idempotency_conflict") := by
  obtain ⟨prev, found, rfl, _⟩ := held_camera entry
  rw [placeCameraIdempotently, bind_of_ok (or_raise_ok.mpr found)]
  exact bind_of_error (target_conflict other)

omit [PythonText] in
def StoreOperation.requestOf : StoreOperation → Option (RecordKind × RegistrationIdempotency)
  | .registerIdempotently _ idempotency => some (.node, idempotency)
  | .reserveCameraRegistration idempotency | .placeCameraIdempotently _ _ idempotency =>
    some (.camera, idempotency)
  | _ => none

theorem operation_conflict {op : StoreOperation} {kind : RecordKind}
    (isPart : op.requestOf = some (kind, idempotency))
    (entry : store.requestEntry (kind, idempotency.requestKey) = some ⟨content, target⟩)
    (other : content ≠ idempotency.content) :
    op.perform store = .error (idempotencyConflict kind) := by
  cases op with
  | registerIdempotently args =>
    cases isPart
    exact register_conflict args entry other
  | reserveCameraRegistration =>
    cases isPart
    exact reserve_conflict entry other
  | placeCameraIdempotently nodeId args =>
    cases isPart
    exact place_conflict nodeId args entry other
  | _ => cases isPart

theorem safe_raises {req : ControlCall} {err : ControlRaised}
    (raises : ∀ cur ans after, Interference w cur → controlMachine.exec tid cur req ans after →
      ans = .error err ∧ after = cur) :
    Safe controlMachine tid Interference (ChangesNothing tid)
      (Returns (fun _ _ => False) fun raised _ => raised = err) (send req) w := by
  intro cur interference
  refine ⟨fun ans after executed => (raises cur ans after interference executed).2, ?_⟩
  intro ans after executed
  rw [(raises cur ans after interference executed).1]
  rfl

theorem taken_rejected {req : ClientRequest} (carries : req.idempotency = .ok (some idempotency))
    (taken : w.ledger.Held (req.kind, idempotency.requestKey) content)
    (other : content ≠ idempotency.content) : Rejected req w := by
  intro tid
  cases req with
  | registerNode cfg args ctx =>
    have lookup : Safe controlMachine tid Interference (ChangesNothing tid)
        (Returns (fun _ _ => False) fun raised _ => raised = .node (idempotencyConflict .node))
        (replayedRegistration (some idempotency)) w := by
      refine safe_raises ?_
      rintro cur ans after interference ⟨_, choice, resp⟩
      obtain ⟨target, entry⟩ := interference_held interference taken
      cases resp
      exact ⟨congrArg (Except.mapError _) (lookup_conflict entry other), rfl⟩
    have rejected : Safe controlMachine tid Interference (ChangesNothing tid)
        (Returns (fun _ _ => False) fun raised _ => raised = .node (idempotencyConflict .node))
        (NodeControl.registerNode cfg args ctx) w := by
      unfold NodeControl.registerNode
      rw [show nodeRegistrationIdempotency _ _ _ _ = _ from carries, compute_ok]
      exact safe_then lookup (fun _ _ raised => raised) fun _ _ never => never.elim
    exact safe_then rejected (fun _ _ raised => congrArg _ raised) fun _ _ never => never.elim
  | createCamera cfg args ctx =>
    have reserve : Safe controlMachine tid Interference (ChangesNothing tid)
        (Returns (fun _ _ => False) fun raised _ => raised = .node (idempotencyConflict .camera))
        (reservedRegistration (some idempotency)) w := by
      refine safe_raises ?_
      rintro cur ans after interference ⟨_, choice, resp⟩
      obtain ⟨target, entry⟩ := interference_held interference taken
      rcases performed_cases resp with ⟨err, ran, rfl, rfl⟩ | ⟨_, _, ran, _, _⟩
      · cases (reserve_conflict entry other).symm.trans ran
        exact ⟨rfl, rfl⟩
      · cases (reserve_conflict entry other).symm.trans ran
    have rejected : Safe controlMachine tid Interference (ChangesNothing tid)
        (Returns (fun _ _ => False) fun raised _ => raised = .node (idempotencyConflict .camera))
        (CameraControl.createCamera cfg args ctx) w := by
      simp only [ClientRequest.idempotency, cameraRequestIdempotency, bind_ok] at carries
      obtain ⟨name, nameOk, sourceUrl, urlOk, made⟩ := carries
      unfold CameraControl.createCamera
      rw [nameOk, compute_ok, urlOk, compute_ok, made, compute_ok]
      exact safe_then reserve (fun _ _ raised => raised) fun _ _ never => never.elim
    exact safe_then rejected (fun _ _ raised => congrArg _ raised) fun _ _ never => never.elim

/-- A placement that a camera request may ask the store for. -/
structure AskedFor (cfg : CameraControl.Configuration)
    (args : CreateCameraArguments) (placement : PlaceArguments) : Prop where
  name : validateCameraName args.name = .ok placement.name
  sourceUrl : requestedSourceUrl args = .ok placement.sourceUrl
  freshness : cfg.managementFreshnessSeconds = placement.managementFreshnessSeconds

omit [PythonText] in
theorem advanced_same (ctx : Option NodeMutationContext) :
    w.advanced ctx w.store = w := by
  rw [ControlWorld.advanced, creations_nil (registers_nothing_made (registers_nothing_refl _))]
  rfl

variable {ctx : Option NodeMutationContext}

theorem performed_ok {op : StoreOperation} {res : op.Result} {later : InMemoryNodeStore}
    (ran : op.perform w.store = .ok (res, later)) :
    w.performed ctx op = (.ok res, w.advanced ctx later) := by
  rw [ControlWorld.performed, ran, apply_ok ran]
  rfl

theorem runs_register {req : RegistrationCall} {ans : Except ControlRaised req.Answer}
    {after : ControlWorld} (choice : ControlChoice)
    (fresh : FreshControlCall w (.registration req) ans)
    (resp : registrationRespond choice w req = (ans, after)) :
    Runs controlMachine tid (register req) w ans after :=
  runs_ask ⟨fresh, choice, resp⟩

omit [PythonText] in
theorem parse_public_id (publicId : PublicId) : parsePublicId publicId.value = .ok publicId := by
  rw [parsePublicId, dif_pos publicId.canonical]
  rfl

omit [PythonText] in
theorem open_request (isOpen : store.requestEntry (.camera, idempotency.requestKey) =
      some ⟨idempotency.content, none⟩) :
    store.cameraRegistrationRequest idempotency.requestKey = some
      { actorAccountId := idempotency.actorAccountId
        requestSha256 := idempotency.requestSha256, target := none } := by
  obtain ⟨⟨account, digest, target⟩, found, sameContent, isNone⟩ := held_camera isOpen
  obtain ⟨rfl, rfl⟩ := Prod.mk.inj sameContent
  cases isNone
  exact found

omit [PythonText] in
theorem reserve_open (isOpen : store.requestEntry (.camera, idempotency.requestKey) =
      some ⟨idempotency.content, none⟩) :
    store.reserveCameraRegistration idempotency = .ok (none, store) := by
  rw [reserveCameraRegistration, open_request isOpen]
  simp [cameraRegistrationTargetId, raiseIf]
  rfl

/-- While its key is reserved and open, a camera request succeeds whenever the placement it asks
for does. -/
theorem retry_succeeds {cfg : CameraControl.Configuration} {args : CreateCameraArguments}
    {placement : PlaceArguments} {cam : CameraPlacement} {later : InMemoryNodeStore}
    (carries : cameraRequestIdempotency args ctx = .ok (some idempotency))
    (isOpen : w.store.requestEntry (.camera, idempotency.requestKey) =
      some ⟨idempotency.content, none⟩) (asked : AskedFor cfg args placement)
    (fresh : w.store.Unused placement.cameraId)
    (placed : w.store.placement args.nodeId placement = .ok (cam, later)) :
    Runs controlMachine tid (createCamera cfg args ctx) w (.ok cam)
      (w.advanced ctx (later.completed idempotency cam)) := by
  simp only [cameraRequestIdempotency, asked.name, asked.sourceUrl, bind_ok,
    Except.ok.injEq, exists_eq_left'] at carries
  have reserved : Runs controlMachine tid (reservedRegistration (some idempotency)) w
      (.ok none) w := by
    refine runs_register {} (by rintro _ ⟨⟩) ?_
    have ran : (StoreOperation.reserveCameraRegistration idempotency).perform w.store =
        .ok (none, w.store) := reserve_open isOpen
    have performed : w.performed none _ = _ := performed_ok ran
    rw [advanced_same] at performed
    exact performed
  have completes : (StoreOperation.placeCameraIdempotently args.nodeId placement
      idempotency).perform w.store =
      .ok ({ camera := cam, replayed := false }, later.completed idempotency cam) := by
    rw [StoreOperation.perform, place_idempotently_open (open_request isOpen), placed]
    rfl
  have places : Runs controlMachine tid
      (place ctx (some idempotency) args.nodeId fun now =>
        { cameraId := placement.cameraId
          name := placement.name
          sourceUrl := placement.sourceUrl
          publicId := placement.publicId
          managementFreshnessSeconds := cfg.managementFreshnessSeconds
          probeEndpoint := placement.probeEndpoint
          now := now }) w (.ok cam)
      (w.advanced ctx (later.completed idempotency cam)) := by
    refine runs_bind (runs_ask ⟨trivial, { now := placement.now }, rfl⟩) ?_
    rw [asked.freshness]
    refine runs_bind (runs_register {} ?_ (performed_ok completes)) (.done _ _)
    rintro _ ⟨⟩
    exact fresh
  unfold createCamera
  rw [asked.name, compute_ok, asked.sourceUrl, compute_ok, carries, compute_ok]
  refine runs_bind reserved ?_
  refine runs_bind (runs_register { newId := placement.cameraId } trivial rfl) ?_
  refine runs_bind (runs_register { publicId := placement.publicId.value } trivial rfl) ?_
  rw [parse_public_id, compute_ok]
  refine runs_bind (runs_register { admitted := .ok placement.probeEndpoint } trivial rfl) ?_
  exact runs_and_then places (.done _ _)

/-- However requests and other programs interleave, fail and are retried: the requests with one
session and key make at most one node and at most one camera. A request that succeeds returns
the record made for its key, to the account and for the content the key was first used with. A
request whose key was used by another account or with another content is rejected and changes
nothing, and so is each operation of the store that is part of it. A camera request whose
placement failed leaves the key reserved for its content, and while no camera was placed for the
key a request with that content succeeds whenever its placement does. -/
theorem registration_idempotent {nodes : List MediaNode}
    {st : SystemState ControlCall ControlAnswer ControlRaised Unit ControlWorld}
    (reached : RegistrationSystem nodes st) :
    (st.world.created.map fun creation => (creation.kind, creation.key)).Nodup ∧
    (∀ ans ∈ st.world.answered, ∀ id, ans.outcome = .ok id →
      { kind := ans.kind, key := ans.idempotency.requestKey, id := id } ∈
          st.world.created ∧
        SettledFor ans.kind ans.idempotency id st.world.ledger) ∧
    (∀ (req : ClientRequest) (idempotency : RegistrationIdempotency),
      req.idempotency = .ok (some idempotency) → ∀ content,
      st.world.ledger.Held (req.kind, idempotency.requestKey) content →
      content ≠ idempotency.content → Rejected req st.world) ∧
    (∀ (op : StoreOperation) (kind : RecordKind) (idempotency : RegistrationIdempotency),
      op.requestOf = some (kind, idempotency) → ∀ content,
      st.world.ledger.Held (kind, idempotency.requestKey) content →
      content ≠ idempotency.content →
      op.perform st.world.store = .error (idempotencyConflict kind)) ∧
    (∀ ans ∈ st.world.answered, ans.kind = .camera → ∀ err,
      ans.outcome = .error err → ¬Refused err →
      HeldFor .camera ans.idempotency st.world.ledger) ∧
    ∀ (cfg : CameraControl.Configuration) (args : CreateCameraArguments)
      (ctx : Option NodeMutationContext) (idempotency : CameraRegistrationIdempotency)
      (placement : PlaceArguments) (cam : CameraPlacement) (later : InMemoryNodeStore),
      cameraRequestIdempotency args ctx = .ok (some idempotency) →
      st.world.ledger.entry (.camera, idempotency.requestKey) = some ⟨idempotency.content, none⟩ →
      AskedFor cfg args placement → st.world.store.Unused placement.cameraId →
      st.world.store.placement args.nodeId placement = .ok (cam, later) →
      ∀ tid, ∃ after, Runs controlMachine tid
          (createCamera cfg args ctx) st.world (.ok cam) after ∧
        SettledFor .camera idempotency cam.id after.ledger := by
  obtain ⟨consistent, accounted⟩ := registration_system_invariant reached
  refine ⟨?_, ?_, ?_, ?_, ?_, ?_⟩
  · have once := consistent.once
    simp only [ControlWorld.ledger, List.map_map] at once
    exact once
  · intro ans mem id succeeded
    have settled : SettledFor ans.kind ans.idempotency id st.world.ledger := by
      have holds := accounted ans mem
      rw [Accounted, succeeded] at holds
      exact holds
    obtain ⟨creation, created, same⟩ := List.mem_map.mp
      ((consistent.recorded _ id).mpr ⟨_, settled⟩)
    obtain ⟨sameKey, rfl⟩ := Prod.mk.inj same
    obtain ⟨sameKind, sameRequest⟩ := Prod.mk.inj sameKey
    refine ⟨?_, settled⟩
    rw [← sameKind, ← sameRequest]
    exact created
  · intro req idempotency carries content taken other
    exact taken_rejected carries taken other
  · rintro op kind idempotency isPart content ⟨target, entry⟩ other
    exact operation_conflict isPart entry other
  · intro ans mem isCamera err failed notRefused
    have holds := accounted ans mem
    rw [Accounted, failed] at holds
    exact holds isCamera notRefused
  · intro cfg args ctx idempotency placement cam later carries isOpen asked fresh placed tid
    refine ⟨_, retry_succeeds carries isOpen asked fresh placed, ?_⟩
    exact (congrFun (entry_assign_camera later idempotency (some cam.id)) _).trans
      (Function.update_self _ _ _)

end System

end Registrations

section Sample

/-- The text functions with the digests of the three requests below. -/
@[reducible] def requestText : PythonText :=
  { plainText with
    sha256Hexdigest := fun text =>
      if text = "\x7b\"name\":\"gate\",\"node_id\":null,\"request_schema\":1," ++
          "\"source_url\":\"rtsp://camera/live\"\x7d" then
        "d25772bd2f2f84be271ee6cc84946b64759c167fbef4689a140c748d57008b6f"
      else if text = "\x7b\"name\":\"door\",\"node_id\":null,\"request_schema\":1," ++
          "\"source_url\":\"rtsp://camera/live\"\x7d" then
        "50073a7cba292042de0116fd1221120781cfaa8b7e1f7ba734461e24c37d437a"
      else if text = "\x7b\"creation_mode\":\"automatic\",\"external_port\":null," ++
          "\"name\":\"automatic-node\",\"request_schema\":1\x7d" then
        "9ec7cb29cf1ca537d1c1bdc841411459977ce3b35d8c1e1e7e800b4fac2cdf46"
      else plainText.sha256Hexdigest text }

local instance requestTexts : PythonText := requestText

def sampleContext : NodeMutationContext :=
  { actorAccountId := 7, actorSessionId := 8, authzVersion := 1
    idempotencyKey := some 0x00000000000040008000000000000001
    keyVersion := by rintro key ⟨⟩; decide }

def samplePolicy : NodeProvisioningPolicy :=
  { portRangeStart := 8554, portRangeEnd := 8555, maxNodes := 4, reservedPorts := []
    apiPorts := [20000], metricsPorts := [20100], releaseId := "0.1.0"
    mediamtxBinarySha256 := "0000000000000000000000000000000000000000000000000000000000000000"
    managementFreshnessSeconds := 30 }

/-- A request for a camera, where capacity is provided automatically. -/
def sampleRequest (name : String) : ClientRequest :=
  .createCamera
    { managementFreshnessSeconds := 30
      automaticCapacity := some ({ hasRuntime := true, provisionOnCreate := true }, samplePolicy) }
    { name := name, sourceUrl := "rtsp://camera/live", sourceCredentials := none, nodeId := none }
    (some sampleContext)

/-- Every call of the runs below answers from these values. -/
def requestChoice : ControlChoice :=
  { newId := 10, publicId := "aaaaaaaaaaaaaaaaaaaaaaaaaa", observation := sampleObservation 2
    ports := { newNodeId := 1, choosePort := fun _ cands => cands.headD 0
               externalBindable := fun _ _ => true, apiBindable := fun _ _ => true
               metricsBindable := fun _ _ => true } }

def served (fault : Fault) (req : ClientRequest) (w : ControlWorld) : ControlWorld :=
  playedWorld (List.replicate 40 { requestChoice with fault := fault }) req.program w

/-- No node exists, and the one that is registered does not come up: the placement fails. The
retry starts that node and places the camera. -/
@[irreducible] def providedWorld : ControlWorld :=
  served .none (sampleRequest "gate") (served .before (sampleRequest "gate") (initialWorld []))

/-- The request is repeated once more, and another one uses its key. -/
@[irreducible] def repeatedWorld : ControlWorld :=
  served .none (sampleRequest "door") (served .none (sampleRequest "gate") providedWorld)

def finishes (fault : Fault) (req : ClientRequest) (w : ControlWorld) : Bool :=
  (play (List.replicate 40 { requestChoice with fault := fault }) req.program w).isSome

theorem served_reachable {fault : Fault} {req : ClientRequest} {w : ControlWorld}
    (ends : finishes fault req w = true)
    (reached : RegistrationSystem [] { world := w, threads := fun _ => none }) :
    RegistrationSystem [] { world := served fault req w, threads := fun _ => none } := by
  obtain ⟨outcome, runs⟩ := played_world_runs ends
  exact reachable_alone (.inl ⟨req, rfl⟩) runs reached

theorem provided_world_facts :
    finishes .before (sampleRequest "gate") (initialWorld []) = true ∧
      finishes .none (sampleRequest "gate")
        (served .before (sampleRequest "gate") (initialWorld [])) = true ∧
      (providedWorld.answered.filter fun ans => ans.kind = .node) = [] ∧
      { kind := .node, key := (8, 0x00000000000040008000000000000001), id := 1 } ∈
        providedWorld.created ∧
      { kind := .camera, key := (8, 0x00000000000040008000000000000001), id := 10 } ∈
        providedWorld.created := by
  decide +kernel

theorem provided_world_reachable :
    RegistrationSystem [] { world := providedWorld, threads := fun _ => none } := by
  unfold providedWorld
  exact served_reachable provided_world_facts.2.1
    (served_reachable provided_world_facts.1 (.initial rfl))

theorem repeated_world_facts :
    finishes .none (sampleRequest "gate") providedWorld = true ∧
      finishes .none (sampleRequest "door") (served .none (sampleRequest "gate") providedWorld) =
        true ∧
      repeatedWorld.answered.map (fun ans => ans.outcome) =
        [.error (.node (idempotencyConflict .camera)), .ok 10, .ok 10,
          .error .storeUnavailable] := by
  decide +kernel

theorem repeated_world_reachable :
    RegistrationSystem [] { world := repeatedWorld, threads := fun _ => none } := by
  unfold repeatedWorld
  exact served_reachable repeated_world_facts.2.1
    (served_reachable repeated_world_facts.1 provided_world_reachable)

/-- The first answer is a failure, the next two are the camera, the last one is the conflict. -/
theorem registration_idempotent_repeated :
    repeatedWorld.answered.map (fun ans => ans.outcome) =
      [.error (.node (idempotencyConflict .camera)), .ok 10, .ok 10, .error .storeUnavailable] ∧
    (repeatedWorld.created.map fun creation => (creation.kind, creation.key)).Nodup ∧
    ∀ ans ∈ repeatedWorld.answered, ∀ id, ans.outcome = .ok id →
      { kind := ans.kind, key := ans.idempotency.requestKey, id := id } ∈
          repeatedWorld.created ∧
        SettledFor ans.kind ans.idempotency id repeatedWorld.ledger := by
  refine ⟨repeated_world_facts.2.2, ?_, ?_⟩
  · exact (registration_idempotent repeated_world_reachable).1
  · exact (registration_idempotent repeated_world_reachable).2.1

/-- A camera request and its retry make two records under one session and key: a node and a
camera. -/
theorem camera_request_makes_node_and_camera :
    ∃ st, RegistrationSystem [] st ∧ (st.world.answered.filter fun ans => ans.kind = .node) = [] ∧
      { kind := .node, key := (8, 0x00000000000040008000000000000001), id := 1 } ∈
        st.world.created ∧
      { kind := .camera, key := (8, 0x00000000000040008000000000000001), id := 10 } ∈
        st.world.created :=
  ⟨_, provided_world_reachable, provided_world_facts.2.2⟩

end Sample

end RtspProxy.Nodes
