import RtspProxy.Nodes.Registration
import RtspProxy.Nodes.PortChange
import RtspProxy.Lib.Ledger

/-!
# The ledger of the registration requests

The two request tables of the store, read as one ledger with a key space for
nodes and one for cameras. Reserving, registering and placing are the steps of
such a ledger; all other operations leave it alone and make neither a node nor a
camera.
-/

namespace RtspProxy.Nodes

open Lib Lib.Program InMemoryNodeStore Lib.RecordTable Lib.Raising Function List
open Prod (mk_inj fst)

/-- The registration requests stay as they are, and no node and no camera is new. -/
structure RegistersNothing (pre post : InMemoryNodeStore) : Prop where
  nodeRequests : post.registrationRequests = pre.registrationRequests
  cameraRequests : post.cameraRegistrationRequests = pre.cameraRegistrationRequests
  nodes : post.nodes.map MediaNode.id ⊆ pre.nodes.map MediaNode.id
  cameras : post.cameras.map CameraPlacement.id ⊆ pre.cameras.map CameraPlacement.id

variable {later : InMemoryNodeStore}

section Frame

variable {pre post : InMemoryNodeStore}

theorem registers_nothing_refl (store : InMemoryNodeStore) : RegistersNothing store store :=
  ⟨rfl, rfl, Subset.refl _, Subset.refl _⟩

theorem registers_nothing_put_node (nothing : RegistersNothing pre post) (node : MediaNode) :
    RegistersNothing pre (post.putNode node) := by
  refine ⟨nothing.nodeRequests, nothing.cameraRequests, ?_, nothing.cameras⟩
  rw [putNode, map_key_replace]
  exact nothing.nodes

theorem registers_nothing_put_camera (nothing : RegistersNothing pre post)
    (cam : CameraPlacement) : RegistersNothing pre (post.putCamera cam) := by
  refine ⟨nothing.nodeRequests, nothing.cameraRequests, nothing.nodes, ?_⟩
  rw [putCamera, map_key_replace]
  exact nothing.cameras

theorem publish_port_ids (nodeId : UUID) (port : Int) :
    (post.publishPort nodeId port).cameras.map CameraPlacement.id =
      post.cameras.map CameraPlacement.id := by
  rw [publishPort, map_map]
  refine map_congr_left ?_
  intro cam _
  rw [comp_apply]
  split_ifs
  · rfl
  · rfl

variable (nothing : RegistersNothing pre post)

include nothing

theorem registers_nothing_publish (nodeId : UUID)
    (port : Int) : RegistersNothing pre (post.publishPort nodeId port) := by
  refine ⟨nothing.nodeRequests, nothing.cameraRequests, nothing.nodes, ?_⟩
  rw [publish_port_ids]
  exact nothing.cameras

theorem registers_nothing_put_move (move : CameraMove) :
    RegistersNothing pre (post.putMove move) :=
  ⟨nothing.nodeRequests, nothing.cameraRequests, nothing.nodes, nothing.cameras⟩

theorem registers_nothing_put_port_change
    (change : NodePortChange) : RegistersNothing pre (post.putPortChange change) :=
  ⟨nothing.nodeRequests, nothing.cameraRequests, nothing.nodes, nothing.cameras⟩

theorem registers_nothing_moves
    (moves : List CameraMove) : RegistersNothing pre { post with cameraMoves := moves } :=
  ⟨nothing.nodeRequests, nothing.cameraRequests, nothing.nodes, nothing.cameras⟩

theorem registers_nothing_port_changes
    (changes : List NodePortChange) : RegistersNothing pre { post with portChanges := changes } :=
  ⟨nothing.nodeRequests, nothing.cameraRequests, nothing.nodes, nothing.cameras⟩

theorem registers_nothing_erase (node : MediaNode) :
    RegistersNothing pre { post with nodes := post.nodes.erase node } :=
  ⟨nothing.nodeRequests, nothing.cameraRequests,
    Subset.trans (map_subset _ erase_subset) nothing.nodes, nothing.cameras⟩

omit nothing

/-- Where the computation returns a store, nothing was registered in it. -/
def Quietly {Result : Type} (store : InMemoryNodeStore)
    (out : Except NodeError (Result × InMemoryNodeStore)) : Prop :=
  ∀ res later, out = .ok (res, later) → RegistersNothing store later

variable {store : InMemoryNodeStore}

theorem quietly_bind {Value Result : Type} {first : Except NodeError Value}
    {rest : Value → Except NodeError (Result × InMemoryNodeStore)}
    (quiet : ∀ value, Quietly store (rest value)) : Quietly store (first >>= rest) := by
  intro res later ran
  obtain ⟨value, _, ended⟩ := bind_ok.mp ran
  exact quiet value res later ended

theorem quietly_pure {Result : Type} {res : Result} (nothing : RegistersNothing store later) :
    Quietly store (pure (res, later) : Except NodeError (Result × InMemoryNodeStore)) := by
  rintro _ _ ⟨⟩
  exact nothing

theorem quietly_throw {Result : Type} {err : NodeError} :
    Quietly store (throw err : Except NodeError (Result × InMemoryNodeStore)) := by
  rintro _ _ ⟨⟩

end Frame

variable [PythonText]

/-- The operations that touch the registration requests or make a node or a camera. -/
def StoreOperation.isRegistration : StoreOperation → Bool
  | .registerAutomatically _ | .registerIdempotently .. | .placeCameraAutomatically _
  | .placeCameraManually .. | .placeCameraIdempotently .. | .reserveCameraRegistration _ => true
  | _ => false

theorem perform_quietly {op : StoreOperation} (other : op.isRegistration = false)
    (store : InMemoryNodeStore) : Quietly store (op.perform store) := by
  cases op with
  | registerAutomatically | registerIdempotently | placeCameraAutomatically | placeCameraManually
  | placeCameraIdempotently | reserveCameraRegistration => cases other
  | _ =>
    -- Checks only raise, so that what counts are the stores the operation may return.
    simp only [StoreOperation.perform, applyRuntimeObservation, requestDesiredState,
      requestAdministrativeState, requestNodeDelete, finalizeNodeDelete, requestStop,
      requestRestart, requestRelease, requestReconfigure, beginPortChange, completePortChange,
      abortPortChange, updateCamera, setCameraEnabled, requestCameraDelete, markCameraApplied,
      createCameraMove, switchCameraMove, markCameraMoveSourceCleaned, requestCameraMoveAbort,
      abortCameraMove, completeCameraMove]
    repeat' first
      | exact quietly_throw
      | refine quietly_bind fun _ => ?_
      | refine quietly_pure ?_
      | split
    all_goals repeat' first
      | exact registers_nothing_refl store
      | refine registers_nothing_put_node ?_ _
      | refine registers_nothing_put_camera ?_ _
      | refine registers_nothing_put_move ?_ _
      | refine registers_nothing_put_port_change ?_ _
      | refine registers_nothing_publish ?_ _ _
      | refine registers_nothing_erase ?_ _
      | refine registers_nothing_moves ?_ _
      | refine registers_nothing_port_changes ?_ _

abbrev RegistrationLedger := Ledger (RecordKind × RequestKey) (UUID × String) UUID

omit [PythonText] in
def RegistrationIdempotency.content (idempotency : RegistrationIdempotency) : UUID × String :=
  (idempotency.actorAccountId, idempotency.requestSha256)

omit [PythonText] in
def InMemoryNodeStore.requestEntry (store : InMemoryNodeStore) :
    RecordKind × RequestKey → Option (LedgerEntry (UUID × String) UUID)
  | (.node, key) => (store.registrationRequest key).map fun req =>
    ⟨(req.actorAccountId, req.requestSha256), some req.target⟩
  | (.camera, key) => (store.cameraRegistrationRequest key).map fun req =>
    ⟨(req.actorAccountId, req.requestSha256), req.target⟩

omit [PythonText] in
def ControlWorld.ledger (w : ControlWorld) : RegistrationLedger :=
  { entry := w.store.requestEntry
    made := w.created.map fun creation => ((creation.kind, creation.key), creation.id) }

section Assign

variable {Value : Type} {key other : RequestKey} {value : Value}
  {entries : List (RequestKey × Value)}

omit [PythonText] in
theorem lookup_assign_self :
    lookup fst key (assign key value entries) = some (key, value) := by
  unfold assign
  split_ifs with present
  · obtain ⟨entry, mem, same⟩ := any_eq_true.mp present
    have sameKey : entry.1 = (key, value).1 := of_decide_eq_true same
    exact lookup_replace_self mem sameKey
  · refine lookup_append_new rfl ?_
    intro entry mem same
    exact present (any_eq_true.mpr ⟨entry, mem, decide_eq_true same⟩)

omit [PythonText] in
theorem lookup_assign_ne (differ : other ≠ key) :
    lookup fst other (assign key value entries) = lookup fst other entries := by
  unfold assign
  split_ifs with present
  · exact lookup_replace_ne differ
  · exact lookup_append_ne (Ne.symm differ)

end Assign

variable {pre : InMemoryNodeStore} {idempotency : CameraRegistrationIdempotency}

section Entries

variable {store : InMemoryNodeStore}

omit [PythonText] in
theorem entry_assign_node (store : InMemoryNodeStore) (idempotency : RegistrationIdempotency)
    (id : UUID) :
    ({ store with
        registrationRequests := assign idempotency.requestKey
          { actorAccountId := idempotency.actorAccountId
            requestSha256 := idempotency.requestSha256
            target := id } store.registrationRequests } : InMemoryNodeStore).requestEntry =
      update store.requestEntry (.node, idempotency.requestKey)
        (some ⟨idempotency.content, some id⟩) := by
  funext ⟨kind, key⟩
  cases kind with
  | node =>
    by_cases same : key = idempotency.requestKey
    · subst same
      simp only [requestEntry, registrationRequest, lookup_assign_self, update_self]
      rfl
    · rw [update_of_ne (fun equal => same (Prod.mk.inj equal).2)]
      simp only [requestEntry, registrationRequest, lookup_assign_ne same]
  | camera =>
    rw [update_of_ne (fun equal => by cases (Prod.mk.inj equal).1)]
    rfl

omit [PythonText] in
theorem entry_assign_camera (store : InMemoryNodeStore) (idempotency : RegistrationIdempotency)
    (target : Option UUID) :
    ({ store with
        cameraRegistrationRequests := assign idempotency.requestKey
          { actorAccountId := idempotency.actorAccountId
            requestSha256 := idempotency.requestSha256
            target := target } store.cameraRegistrationRequests } : InMemoryNodeStore).requestEntry =
      update store.requestEntry (.camera, idempotency.requestKey)
        (some ⟨idempotency.content, target⟩) := by
  funext ⟨kind, key⟩
  cases kind with
  | camera =>
    by_cases same : key = idempotency.requestKey
    · subst same
      simp only [requestEntry, cameraRegistrationRequest, lookup_assign_self, update_self]
      rfl
    · rw [update_of_ne (fun equal => same (Prod.mk.inj equal).2)]
      simp only [requestEntry, cameraRegistrationRequest, lookup_assign_ne same]
  | node =>
    rw [update_of_ne (fun equal => by cases (Prod.mk.inj equal).1)]
    rfl

variable {post : InMemoryNodeStore}

omit [PythonText] in
theorem entry_congr (nodeRequests : post.registrationRequests = pre.registrationRequests)
    (cameraRequests : post.cameraRegistrationRequests = pre.cameraRegistrationRequests) :
    post.requestEntry = pre.requestEntry := by
  funext ⟨kind, key⟩
  cases kind with
  | node => simp only [requestEntry, registrationRequest, nodeRequests]
  | camera => simp only [requestEntry, cameraRegistrationRequest, cameraRequests]

section Records

variable {Record : Type} {id : Record → UUID} {records others : List Record} {record : Record}

omit [PythonText] in
theorem new_ids_nil (known : others.map id ⊆ records.map id) : newIds id records others = [] := by
  rw [newIds, filter_eq_nil_iff]
  intro mem isMember isNew
  exact of_decide_eq_true isNew (known isMember)

omit [PythonText] in
theorem new_ids_append (fresh : ∀ other ∈ records, id other ≠ id record) :
    newIds id records (records ++ [record]) = [id record] := by
  have isNew : id record ∉ records.map id := by
    intro mem
    obtain ⟨other, inRecords, same⟩ := mem_map.mp mem
    exact fresh other inRecords same
  have old := new_ids_nil (Subset.refl (records.map id))
  rw [newIds] at old ⊢
  rw [map_append, filter_append, old, map_singleton, filter_singleton, decide_eq_true isNew]
  rfl

end Records

omit [PythonText] in
theorem register_automatically_store {args : RegisterArguments} {node : MediaNode}
    (ran : store.registerAutomatically args = .ok (node, post)) :
    post = { store with nodes := store.nodes ++ [node] } ∧ node.id = args.newNodeId := by
  simp only [registerAutomatically, bind_ok, raise_if_ok, exists_const, pure_ok, mk_inj] at ran
  obtain ⟨-, -, -, -, _, -, -, _, -, _, -, isNode, rfl⟩ := ran
  rw [← isNode]
  exact ⟨rfl, rfl⟩

variable {args : PlaceArguments} {cam : CameraPlacement}

theorem place_on_store {selected : MediaNode} {mode : PlacementMode} {name sourceUrl : String}
    (ran : store.placeOn selected mode args name sourceUrl = .ok (cam, post)) :
    (∃ node, post = { store.putNode node with cameras := store.cameras ++ [cam] }) ∧
      cam.id = args.cameraId := by
  simp only [placeOn, bind_ok, pure_ok, mk_inj] at ran
  obtain ⟨_, -, rfl, rfl⟩ := ran
  exact ⟨⟨_, rfl⟩, rfl⟩

/-- The placement a request asks for: by hand where it names a node. -/
def InMemoryNodeStore.placement (store : InMemoryNodeStore) (nodeId : Option UUID)
    (args : PlaceArguments) : Except NodeError (CameraPlacement × InMemoryNodeStore) :=
  match nodeId with
  | none => store.placeCameraAutomatically args
  | some nodeId => store.placeCameraManually nodeId args

variable {nodeId : Option UUID}

theorem placement_store (ran : store.placement nodeId args = .ok (cam, post)) :
    (∃ node, post = { store.putNode node with cameras := store.cameras ++ [cam] }) ∧
      cam.id = args.cameraId := by
  cases nodeId with
  | none =>
    simp only [placement, placeCameraAutomatically, bind_ok] at ran
    obtain ⟨_, -, _, -, _, -, placed⟩ := ran
    exact place_on_store placed
  | some nodeId =>
    simp only [placement, placeCameraManually, bind_ok] at ran
    obtain ⟨_, -, _, -, _, -, _, -, _, -, _, -, placed⟩ := ran
    exact place_on_store placed

omit [PythonText] in
theorem entry_node {key : RequestKey} {req : RegistrationRequest UUID}
    (found : store.registrationRequest key = some req) :
    store.requestEntry (.node, key) =
      some ⟨(req.actorAccountId, req.requestSha256), some req.target⟩ := by
  rw [requestEntry, found]
  rfl

omit [PythonText] in
theorem entry_camera {key : RequestKey} {req : RegistrationRequest (Option UUID)}
    (found : store.cameraRegistrationRequest key = some req) :
    store.requestEntry (.camera, key) =
      some ⟨(req.actorAccountId, req.requestSha256), req.target⟩ := by
  rw [requestEntry, found]
  rfl

omit [PythonText] in
theorem replayed_node_settled {idempotency : NodeRegistrationIdempotency}
    {prev : RegistrationRequest UUID} {res : NodeRegistrationResult}
    (found : store.registrationRequest idempotency.requestKey = some prev)
    (replayed : store.replayedNode prev idempotency = .ok res) :
    store.requestEntry (.node, idempotency.requestKey) =
      some ⟨idempotency.content, some res.node.id⟩ := by
  simp only [replayedNode, bind_ok, raise_if_ok, exists_const, not_or, not_not,
    or_raise_ok, pure_ok] at replayed
  obtain ⟨⟨sameAccount, sameDigest⟩, node, isNode, rfl⟩ := replayed
  rw [entry_node found, sameAccount, sameDigest, find_node_id isNode]
  rfl

omit [PythonText] in
theorem register_idempotently_effect {args : RegisterArguments}
    {idempotency : NodeRegistrationIdempotency} {res : NodeRegistrationResult}
    (fresh : store.Unused args.newNodeId)
    (ran : store.registerIdempotently args idempotency = .ok (res, post)) :
    (post = store ∧ store.requestEntry (.node, idempotency.requestKey) =
        some ⟨idempotency.content, some res.node.id⟩) ∨
      store.requestEntry (.node, idempotency.requestKey) = none ∧
        post.requestEntry = update store.requestEntry (.node, idempotency.requestKey)
          (some ⟨idempotency.content, some res.node.id⟩) ∧
        recordsMade store post = [(.node, res.node.id)] := by
  unfold registerIdempotently at ran
  split at ran
  · next prev found =>
      simp only [bind_ok, pure_ok, mk_inj] at ran
      obtain ⟨_, replayed, rfl, rfl⟩ := ran
      exact .inl ⟨rfl, replayed_node_settled found replayed⟩
  · next absent =>
      simp only [bind_ok, pure_ok, mk_inj] at ran
      obtain ⟨⟨node, registered⟩, registeredOk, rfl, rfl⟩ := ran
      obtain ⟨rfl, isNew⟩ := register_automatically_store registeredOk
      have freshId : ∀ other ∈ store.nodes, other.id ≠ node.id := isNew ▸ fresh.node
      refine .inr ⟨by rw [requestEntry, absent]; rfl, ?_, ?_⟩
      · exact entry_assign_node { store with nodes := store.nodes ++ [node] } idempotency node.id
      · rw [recordsMade, new_ids_append freshId, new_ids_nil (Subset.refl _)]
        rfl

omit [PythonText] in
theorem camera_target_ok {prev : RegistrationRequest (Option UUID)} {target : Option UUID}
    (ran : cameraRegistrationTargetId prev idempotency = .ok target) :
    (prev.actorAccountId, prev.requestSha256) = idempotency.content ∧ prev.target = target := by
  simp only [cameraRegistrationTargetId, bind_ok, raise_if_ok, exists_const, not_or,
    not_not, pure_ok] at ran
  obtain ⟨⟨sameAccount, sameDigest⟩, sameTarget⟩ := ran
  exact ⟨Prod.ext sameAccount sameDigest, sameTarget⟩

omit [PythonText] in
theorem get_camera_id {cameraId : UUID} (found : store.getCamera cameraId = some cam) :
    cam.id = cameraId := by
  have both := find?_some found
  exact (of_decide_eq_true both).1

omit [PythonText] in
theorem replayed_camera_id {cameraId : UUID} {res : CameraRegistrationResult}
    (ran : store.replayedCamera cameraId = .ok res) : res.camera.id = cameraId := by
  simp only [replayedCamera, bind_ok, or_raise_ok, pure_ok] at ran
  obtain ⟨cam, found, rfl⟩ := ran
  exact get_camera_id found

omit [PythonText] in
def InMemoryNodeStore.reserved (store : InMemoryNodeStore)
    (idempotency : CameraRegistrationIdempotency) : InMemoryNodeStore :=
  { store with
    cameraRegistrationRequests := assign idempotency.requestKey
      { actorAccountId := idempotency.actorAccountId
        requestSha256 := idempotency.requestSha256
        target := none } store.cameraRegistrationRequests }

omit [PythonText] in
theorem reserve_camera_effect {res : Option CameraRegistrationResult}
    (ran : store.reserveCameraRegistration idempotency = .ok (res, post)) :
    (res = none ∧ store.requestEntry (.camera, idempotency.requestKey) = none ∧
        post = store.reserved idempotency) ∨
      post = store ∧ store.requestEntry (.camera, idempotency.requestKey) =
        some ⟨idempotency.content, res.map fun found => found.camera.id⟩ := by
  unfold reserveCameraRegistration at ran
  split at ran
  · next absent =>
      simp only [pure_ok, mk_inj] at ran
      exact .inl ⟨ran.1.symm, by rw [requestEntry, absent]; rfl, ran.2.symm⟩
  · next prev found =>
      obtain ⟨target, matched, rest⟩ := bind_ok.mp ran
      obtain ⟨sameContent, isTarget⟩ := camera_target_ok matched
      rw [entry_camera found, sameContent, isTarget]
      cases target with
      | none =>
        simp only [pure_ok, mk_inj] at rest
        exact .inr ⟨rest.2.symm, by rw [← rest.1]; rfl⟩
      | some cameraId =>
        simp only [bind_ok, pure_ok, mk_inj] at rest
        obtain ⟨replay, replayed, rfl, rfl⟩ := rest
        exact .inr ⟨rfl, by rw [Option.map_some, replayed_camera_id replayed]⟩

/-- The store after the camera of a reserved key was placed. -/
def InMemoryNodeStore.completed (placed : InMemoryNodeStore)
    (idempotency : CameraRegistrationIdempotency) (cam : CameraPlacement) : InMemoryNodeStore :=
  { placed with
    cameraRegistrationRequests := assign idempotency.requestKey
      { actorAccountId := idempotency.actorAccountId
        requestSha256 := idempotency.requestSha256
        target := some cam.id } placed.cameraRegistrationRequests }

theorem place_idempotently_open
    (isOpen : store.cameraRegistrationRequest idempotency.requestKey = some
      { actorAccountId := idempotency.actorAccountId
        requestSha256 := idempotency.requestSha256, target := none }) :
    store.placeCameraIdempotently nodeId args idempotency =
      (store.placement nodeId args).map fun placed =>
        ({ camera := placed.1, replayed := false }, placed.2.completed idempotency placed.1) := by
  have matched : cameraRegistrationTargetId
      { actorAccountId := idempotency.actorAccountId
        requestSha256 := idempotency.requestSha256, target := none } idempotency = .ok none := by
    simp [cameraRegistrationTargetId, raiseIf]
  rw [placeCameraIdempotently, bind_of_ok (or_raise_ok.mpr isOpen), bind_of_ok matched]
  cases nodeId with
  | none =>
    dsimp only [placement]
    generalize store.placeCameraAutomatically args = out
    cases out with
    | error err => rfl
    | ok placed => rfl
  | some nodeId =>
    dsimp only [placement]
    generalize store.placeCameraManually nodeId args = out
    cases out with
    | error err => rfl
    | ok placed => rfl

theorem place_idempotently_effect {res : CameraRegistrationResult}
    (fresh : store.Unused args.cameraId)
    (ran : store.placeCameraIdempotently nodeId args idempotency = .ok (res, post)) :
    (post = store ∧ store.requestEntry (.camera, idempotency.requestKey) =
        some ⟨idempotency.content, some res.camera.id⟩) ∨
      store.requestEntry (.camera, idempotency.requestKey) = some ⟨idempotency.content, none⟩ ∧
        post.requestEntry = update store.requestEntry (.camera, idempotency.requestKey)
          (some ⟨idempotency.content, some res.camera.id⟩) ∧
        recordsMade store post = [(.camera, res.camera.id)] := by
  have steps := ran
  simp only [placeCameraIdempotently, bind_ok, or_raise_ok] at steps
  obtain ⟨⟨account, digest, prev⟩, found, target, matched, rest⟩ := steps
  obtain ⟨sameContent, isTarget⟩ := camera_target_ok matched
  obtain ⟨rfl, rfl⟩ := Prod.mk.inj sameContent
  subst isTarget
  rw [entry_camera found]
  cases prev with
  | some cameraId =>
    simp only [bind_ok, pure_ok, mk_inj] at rest
    obtain ⟨_, replayed, rfl, rfl⟩ := rest
    exact .inl ⟨rfl, by rw [replayed_camera_id replayed]; rfl⟩
  | none =>
    rw [place_idempotently_open found] at ran
    cases placedOk : store.placement nodeId args with
    | error err =>
      rw [placedOk] at ran
      cases ran
    | ok placed =>
      obtain ⟨cam, placed⟩ := placed
      rw [placedOk] at ran
      cases ran
      obtain ⟨⟨node, rfl⟩, isNew⟩ := placement_store placedOk
      have freshId : ∀ other ∈ store.cameras, other.id ≠ cam.id := isNew ▸ fresh.camera
      have nodesKept := (registers_nothing_put_node (registers_nothing_refl store) node).nodes
      refine .inr ⟨rfl, ?_, ?_⟩
      · exact entry_assign_camera
          { store.putNode node with cameras := store.cameras ++ [cam] } idempotency
          (some cam.id)
      · rw [recordsMade, completed, new_ids_append freshId, new_ids_nil nodesKept]
        rfl

end Entries

omit [PythonText] in
/-- A registration with a key is made with the mutation context of that key, and one without a
key with a context that carries none. -/
def Attributed (ctx : Option NodeMutationContext) : StoreOperation → Prop
  | .registerIdempotently _ idempotency | .placeCameraIdempotently _ _ idempotency =>
    ctx.bind NodeMutationContext.requestKey = some idempotency.requestKey
  | .registerAutomatically _ | .placeCameraAutomatically _ | .placeCameraManually .. =>
    ctx.bind NodeMutationContext.requestKey = none
  | _ => True

section Steps

variable {w post : ControlWorld} {ctx : Option NodeMutationContext}
  {op : StoreOperation}

omit [PythonText] in
theorem creations_nil (none : recordsMade pre later = []) :
    creations ctx pre later = [] := by
  unfold creations
  split
  · rfl
  · rw [none, map_nil]

omit [PythonText] in
theorem registers_nothing_made (nothing : RegistersNothing pre later) :
    recordsMade pre later = [] := by
  rw [recordsMade, new_ids_nil nothing.nodes, new_ids_nil nothing.cameras]
  rfl

variable {ans : Except ControlRaised op.Result}

theorem performed_cases (performed : w.performed ctx op = (ans, post)) :
    (∃ err, op.perform w.store = .error err ∧ ans = .error (.node err) ∧ post = w) ∨
      ∃ res later, op.perform w.store = .ok (res, later) ∧ ans = .ok res ∧
        post = w.advanced ctx later := by
  unfold ControlWorld.performed at performed
  cases ran : op.perform w.store with
  | error err =>
    rw [ran, apply_error ran, ControlWorld.advanced,
      creations_nil (registers_nothing_made (registers_nothing_refl _))] at performed
    cases performed
    exact .inl ⟨err, rfl, rfl, rfl⟩
  | ok out =>
    obtain ⟨res, later⟩ := out
    rw [ran, apply_ok ran] at performed
    cases performed
    exact .inr ⟨res, later, rfl, rfl, rfl⟩

omit [PythonText] in
theorem ledger_skip (entries : later.requestEntry = w.store.requestEntry)
    (none : creations ctx w.store later = []) :
    Ledger.Step w.ledger (w.advanced ctx later).ledger := by
  have same : (w.advanced ctx later).ledger = w.ledger := by
    rw [ControlWorld.ledger, ControlWorld.ledger, ControlWorld.advanced, none, entries]
    rfl
  rw [same]
  exact .skip

omit [PythonText] in
theorem ledger_quiet (nothing : RegistersNothing w.store later) :
    Ledger.Step w.ledger (w.advanced ctx later).ledger :=
  ledger_skip (entry_congr nothing.nodeRequests nothing.cameraRequests)
    (creations_nil (registers_nothing_made nothing))

omit [PythonText] in
theorem ledger_keyless (keyless : ctx.bind NodeMutationContext.requestKey = none)
    (nodeRequests : later.registrationRequests = w.store.registrationRequests)
    (cameraRequests : later.cameraRegistrationRequests = w.store.cameraRegistrationRequests) :
    Ledger.Step w.ledger (w.advanced ctx later).ledger := by
  refine ledger_skip (entry_congr nodeRequests cameraRequests) ?_
  rw [creations, keyless]

omit [PythonText] in
theorem ledger_complete {kind : RecordKind} {key : RequestKey} {content : UUID × String} {id : UUID}
    (keyed : ctx.bind NodeMutationContext.requestKey = some key) (entries : later.requestEntry =
      update w.store.requestEntry (kind, key) (some ⟨content, some id⟩))
    (made : recordsMade w.store later = [(kind, id)])
    (isOpen : w.store.requestEntry (kind, key) = none ∨
      w.store.requestEntry (kind, key) = some ⟨content, none⟩) :
    Ledger.Step w.ledger (w.advanced ctx later).ledger := by
  have step : Ledger.Step w.ledger _ := .complete (kind, key) content id isOpen
  have next : (w.advanced ctx later).ledger =
      { entry := update w.ledger.entry (kind, key) (some ⟨content, some id⟩)
        made := ((kind, key), id) :: w.ledger.made } := by
    rw [ControlWorld.ledger, ControlWorld.advanced, creations, keyed, made, entries]
    rfl
  rw [next]
  exact step

omit [PythonText] in
theorem ledger_reserve (absent : w.store.requestEntry (.camera, idempotency.requestKey) = none) :
    Ledger.Step w.ledger (w.advanced ctx (w.store.reserved idempotency)).ledger := by
  have step : Ledger.Step w.ledger _ :=
    .reserve (RecordKind.camera, idempotency.requestKey) idempotency.content absent
  have next : (w.advanced ctx (w.store.reserved idempotency)).ledger = { w.ledger with
        entry := update w.ledger.entry (.camera, idempotency.requestKey)
          (some ⟨idempotency.content, none⟩) } := by
    have none : recordsMade w.store (w.store.reserved idempotency) = [] := by
      rw [recordsMade, reserved, new_ids_nil (Subset.refl _), new_ids_nil (Subset.refl _)]
      rfl
    rw [ControlWorld.ledger, ControlWorld.advanced, creations_nil none, reserved,
      entry_assign_camera]
    rfl
  rw [next]
  exact step

theorem performed_step (attributed : Attributed ctx op) (fresh : op.Fresh w.store)
    (performed : w.performed ctx op = (ans, post)) :
    Ledger.Step w.ledger post.ledger ∧ post.answered = w.answered := by
  rcases performed_cases performed with ⟨_, _, _, rfl⟩ | ⟨res, later, ran, _, rfl⟩
  · exact ⟨.skip, rfl⟩
  refine ⟨?_, rfl⟩
  cases op with
  | registerAutomatically args =>
    obtain ⟨rfl, _⟩ := register_automatically_store ran
    exact ledger_keyless attributed rfl rfl
  | placeCameraAutomatically args =>
    obtain ⟨⟨node, rfl⟩, _⟩ := placement_store (show w.store.placement none args = _ from ran)
    exact ledger_keyless attributed rfl rfl
  | placeCameraManually nodeId args =>
    obtain ⟨⟨node, rfl⟩, _⟩ :=
      placement_store (show w.store.placement (some nodeId) args = _ from ran)
    exact ledger_keyless attributed rfl rfl
  | registerIdempotently args idempotency =>
    have unused : w.store.Unused args.newNodeId := fresh _ rfl
    rcases register_idempotently_effect unused ran with ⟨rfl, _⟩ | ⟨absent, entries, made⟩
    · exact ledger_quiet (registers_nothing_refl _)
    · exact ledger_complete attributed entries made (.inl absent)
  | placeCameraIdempotently nodeId args idempotency =>
    have unused : w.store.Unused args.cameraId := fresh _ rfl
    rcases place_idempotently_effect unused ran with ⟨rfl, _⟩ | ⟨reserved, entries, made⟩
    · exact ledger_quiet (registers_nothing_refl _)
    · exact ledger_complete attributed entries made (.inr reserved)
  | reserveCameraRegistration idempotency =>
    rcases reserve_camera_effect ran with ⟨_, absent, rfl⟩ | ⟨rfl, _⟩
    · exact ledger_reserve absent
    · exact ledger_quiet (registers_nothing_refl _)
  | _ => exact ledger_quiet (perform_quietly rfl w.store res later ran)

end Steps

end RtspProxy.Nodes
