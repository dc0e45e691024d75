import RtspProxy.Nodes.Control
import RtspProxy.Nodes.Ports

/-!
# Port changes agree with the runtime

`change_port` walked through call by call, with every call free to fail. Until
the change is begun nothing is written. From then on the store is in one of
three places: the change is prepared, complete or aborted, and the port and the
revision of the node follow from that. The runtime is told about the old
configuration only while the store has the old port.
-/

namespace RtspProxy.Nodes

open Lib Lib.Program Lib.Program.Prog InMemoryNodeStore NodeControl Lib.RecordTable Lib.Raising
open StoreOperation (apply run)

/-- The node has this port and revision, and the change is in this state. -/
structure ChangeAt [PythonText] (nodes : List MediaNode) (cur : MediaNode)
    (change : NodePortChange) (port revision : Int) (state : NodePortChangeState)
    (w : ControlWorld) : Prop where
  reached : Reachable nodes w.store
  node : ∃ node, w.store.getNode cur.id = some node ∧ node.externalPort = port ∧
    node.desiredRevision = revision
  change : w.store.findPortChange change.id = some { change with state := state }

/-- The change moves the node from its port and revision to the next ones. -/
structure PlannedFor (cur : MediaNode) (change : NodePortChange) : Prop where
  ofNode : change.nodeId = cur.id
  oldPort : change.oldPort = cur.externalPort
  sourceRevision : change.sourceRevision = cur.desiredRevision
  targetRevision : change.targetRevision = cur.desiredRevision + 1

variable {store : InMemoryNodeStore} {err : NodeError}

section Operations

variable [PythonText] {nodes : List MediaNode} {w after : ControlWorld}
  {op : StoreOperation}

theorem apply_error (raised : op.perform store = .error err) :
    op.apply store = store := by
  simp [apply, run, raised]

theorem apply_ok {later : InMemoryNodeStore} {res : op.Result}
    (performed : op.perform store = .ok (res, later)) :
    op.apply store = later := by
  simp [apply, run, performed]

theorem operated_cases {fault : Fault} {ans : Except ControlRaised op.Result}
    (answered : w.operated fault op = (ans, after)) :
    after = { w with store := after.store } ∧
      ((∃ err, ans = .error err) ∧ after.store = w.store ∨
        ∃ res, op.perform w.store = .ok (res, after.store) ∧
          (ans = .ok res ∨ ans = .error .storeUnavailable)) := by
  simp only [ControlWorld.operated] at answered
  cases fault with
  | before =>
    cases answered
    exact ⟨rfl, .inl ⟨⟨_, rfl⟩, rfl⟩⟩
  | none =>
    cases answered
    refine ⟨rfl, ?_⟩
    cases performed : op.perform w.store with
    | error err => exact .inl ⟨⟨_, rfl⟩, apply_error performed⟩
    | ok out => exact .inr ⟨out.1, by rw [apply_ok performed], .inl rfl⟩
  | after =>
    cases answered
    refine ⟨rfl, ?_⟩
    cases performed : op.perform w.store with
    | error err => exact .inl ⟨⟨_, rfl⟩, apply_error performed⟩
    | ok out => exact .inr ⟨out.1, by rw [apply_ok performed], .inr rfl⟩

theorem operated_error {fault : Fault} {err : ControlRaised}
    (answered : w.operated fault op = (.error err, after)) :
    err = .storeUnavailable ∨
      ∃ inner, op.perform w.store = .error inner ∧ err = .node inner := by
  cases fault with
  | before => exact .inl (Except.error.inj (Prod.mk.inj answered).1).symm
  | after => exact .inl (Except.error.inj (Prod.mk.inj answered).1).symm
  | none =>
    have isError := (Prod.mk.inj answered).1
    cases performed : op.perform w.store with
    | ok out =>
      rw [performed] at isError
      cases isError
    | error inner =>
      rw [performed] at isError
      exact .inr ⟨inner, rfl, (Except.error.inj isError).symm⟩

theorem reachable_perform {later : InMemoryNodeStore} {res : op.Result}
    (reached : Reachable nodes store) (fresh : op.Fresh store)
    (performed : op.perform store = .ok (res, later)) : Reachable nodes later := by
  have next := reached.operate op fresh
  simp only [apply, run, performed] at next
  exact next

end Operations

/-! ## The four store operations -/

variable {node : MediaNode} {nodeId : UUID} {revision : Int} {obs : NodeRuntimeObservation}

section Changes

open Raising

variable [PythonText] {nodes : List MediaNode} {cur : MediaNode} {change : NodePortChange}
  {store after : InMemoryNodeStore}

omit [PythonText] in
theorem find_put_node (upd : MediaNode) (found : store.findNode nodeId = some node)
    (sameId : upd.id = node.id) : (store.putNode upd).findNode nodeId = some upd := by
  have isId : nodeId = upd.id := (find_node_id found).symm.trans sameId.symm
  rw [isId]
  exact lookup_replace_self (lookup_mem found) sameId.symm

omit [PythonText] in
theorem find_put_port_change {stored : NodePortChange} (upd : NodePortChange)
    (found : store.findPortChange upd.id = some stored) :
    (store.putPortChange upd).findPortChange upd.id = some upd :=
  lookup_replace_self (lookup_mem found) (find_port_change_id found)

theorem begin_planned {changeId : UUID} {newPort : Int} {allowedPorts : List Int} {cameras : Int}
    {digest : String} (found : store.getNode nodeId = some cur) (fresh : store.Unused changeId)
    (performed : store.beginPortChange changeId nodeId newPort allowedPorts revision cameras digest =
      .ok (change, after)) :
    PlannedFor cur change ∧ change.id = changeId ∧ change.newPort = newPort ∧
      cur.externalPort ≠ newPort ∧ change.state = .prepared ∧
      after.getNode nodeId = some cur ∧ after.findPortChange changeId = some change := by
  simp only [beginPortChange, bind_ok, or_raise_ok, raise_if_ok, exists_const, pure_ok,
    Prod.mk_inj] at performed
  obtain ⟨node, isNode, -, -, -, -, portChanged, -, -, -, rfl, rfl⟩ := performed
  have same : node = cur := Option.some.inj (isNode.symm.trans found)
  subst same
  refine ⟨⟨?_, rfl, rfl, rfl⟩, rfl, rfl, portChanged, rfl, found, ?_⟩
  · exact (find_node_id isNode).symm
  · exact lookup_append_new rfl fresh.portChange

omit [PythonText] in
theorem complete_settles {now : Datetime} {res : MediaNode} (planned : PlannedFor cur change)
    (prepared : store.findPortChange change.id = some { change with state := .prepared })
    (performed : store.completePortChange change.id obs now = .ok (res, after)) :
    (∃ node, after.getNode cur.id = some node ∧ node.externalPort = change.newPort ∧
      node.desiredRevision = change.targetRevision) ∧
      after.findPortChange change.id = some { change with state := .complete } := by
  simp only [completePortChange, bind_ok, or_raise_ok, raise_if_ok, exists_const, ite_ok, pure_ok,
    Prod.mk_inj, not_not] at performed
  obtain ⟨other, isOther, stored, isStored, settled⟩ := performed
  have same : other = { change with state := .prepared } :=
    Option.some.inj (isOther.symm.trans prepared)
  subst same
  obtain ⟨impossible, -, -⟩ | ⟨-, -, -, -, rfl, rfl⟩ := settled
  · cases impossible
  · have found : store.findNode cur.id = some stored := planned.ofNode ▸ isStored
    exact ⟨⟨_, find_put_node _ found rfl, rfl, rfl⟩,
      find_put_port_change { change with state := .complete } prepared⟩

omit [PythonText] in
theorem abort_settles {now : Datetime} {res : MediaNode} (planned : PlannedFor cur change)
    (prepared : store.findPortChange change.id = some { change with state := .prepared })
    (performed : store.abortPortChange change.id obs now = .ok (res, after)) :
    (∃ node, after.getNode cur.id = some node ∧ node.externalPort = change.oldPort ∧
      node.desiredRevision = change.sourceRevision) ∧
      after.findPortChange change.id = some { change with state := .aborted } := by
  simp only [abortPortChange, bind_ok, or_raise_ok, raise_if_ok, exists_const, ite_ok, pure_ok,
    Prod.mk_inj, not_not] at performed
  obtain ⟨other, isOther, stored, isStored, settled⟩ := performed
  have same : other = { change with state := .prepared } :=
    Option.some.inj (isOther.symm.trans prepared)
  subst same
  obtain ⟨impossible, -, -⟩ | ⟨-, -, -, -, rfl, rfl⟩ := settled
  · cases impossible
  · have found : store.findNode cur.id = some stored := planned.ofNode ▸ isStored
    exact ⟨⟨_, find_put_node _ found rfl, rfl, rfl⟩,
      find_put_port_change { change with state := .aborted } prepared⟩

omit [PythonText] in
theorem observation_keeps {now : Datetime} {res : MediaNode}
    (found : store.getNode nodeId = some node)
    (performed : store.applyRuntimeObservation nodeId obs now = .ok (res, after)) :
    (∃ later, after.getNode nodeId = some later ∧ later.externalPort = node.externalPort ∧
      later.desiredRevision = node.desiredRevision) ∧ after.portChanges = store.portChanges := by
  simp only [applyRuntimeObservation, bind_ok, or_raise_ok, pure_ok, Prod.mk_inj] at performed
  obtain ⟨stored, isStored, -, -, rfl, rfl⟩ := performed
  have same : stored = node := Option.some.inj (isStored.symm.trans found)
  subst same
  exact ⟨⟨_, find_put_node _ isStored rfl, rfl, rfl⟩, rfl⟩

end Changes

/-! ## Calls that change nothing -/

/-- The call changes neither the store nor what the runtime applied. -/
def Quiet : ControlCall → Prop
  | .beginPortChange .. | .completePortChange .. | .abortPortChange ..
  | .applyRuntimeObservation .. | .requestAdministrativeState .. | .registration _ => False
  | .execute action _ _ => action = .observe
  | _ => True

def Foreign : ControlRaised → Prop
  | .node (.nodeRuntimeFailed _ _) => False
  | _ => True

theorem foreign_of_ne (other : ∀ code nodeId, err ≠ .nodeRuntimeFailed code nodeId) :
    Foreign (.node err) := by
  cases err with
  | nodeRuntimeFailed code nodeId => exact absurd rfl (other code nodeId)
  | _ => trivial

section Quiet

variable [PythonText] {w after : ControlWorld}

omit [PythonText] in
theorem answers_world {Value : Type} {fault : Fault} {lost : ControlRaised}
    {ans given : Except ControlRaised Value}
    (answered : w.answers fault lost given = (ans, after)) :
    after = w ∧ (ans = given ∨ ans = .error lost) := by
  cases fault with
  | none =>
    cases answered
    exact ⟨rfl, .inl rfl⟩
  | before =>
    cases answered
    exact ⟨rfl, .inr rfl⟩
  | after =>
    cases answered
    exact ⟨rfl, .inr rfl⟩

omit [PythonText] in
theorem list_node_cameras_error (raised : store.listNodeCameras nodeId = .error err) :
    err = .nodeNotFound "node_not_found" := by
  simp only [listNodeCameras, bind_error, raise_if_error, pure_error,
    and_false, exists_false, or_false] at raised
  exact raised.2.symm

variable {tid : Nat}

variable {req : ControlCall}

theorem quiet_call (quiet : Quiet req) {ans : Except ControlRaised (ControlAnswer req)}
    (ran : controlMachine.exec tid w req ans after) :
    after = w ∧ ∀ err, ans = .error err → Foreign err := by
  obtain ⟨_, choice, resp⟩ := ran
  cases req with
  | beginPortChange | completePortChange | abortPortChange | applyRuntimeObservation
  | requestAdministrativeState | registration => cases quiet
  | acquireSlot | releaseSlot | releaseLifecycle | newOperationId | clock | isPortBindable
  | verifyNodePortChange | verifyNodeReconfigure =>
    cases resp
    refine ⟨rfl, ?_⟩
    rintro err ⟨⟩
  | acquireLifecycle | resolveDisruptionFence =>
    simp only [controlRespond] at resp
    split_ifs at resp
    · cases resp
      refine ⟨rfl, ?_⟩
      rintro err ⟨⟩
    · cases resp
      refine ⟨rfl, ?_⟩
      rintro err ⟨⟩
      trivial
  | getNode | listIncompletePortChanges | enterFence | exitFence =>
    obtain ⟨same, rfl | rfl⟩ := answers_world resp
    · refine ⟨same, ?_⟩
      rintro err ⟨⟩
    · refine ⟨same, ?_⟩
      rintro err ⟨⟩
      trivial
  | listNodeCameras nodeId =>
    obtain ⟨same, rfl | rfl⟩ := answers_world resp
    · refine ⟨same, ?_⟩
      intro err raised
      cases listed : w.store.listNodeCameras nodeId with
      | ok cameras =>
        rw [listed] at raised
        cases raised
      | error inner =>
        rw [listed] at raised
        cases raised
        rw [list_node_cameras_error listed]
        trivial
    · refine ⟨same, ?_⟩
      rintro err ⟨⟩
      trivial
  | execute action node due =>
    simp only [controlRespond, ControlWorld.executed] at resp
    rw [if_pos (show action = .observe from quiet)] at resp
    split_ifs at resp
    · cases resp
      refine ⟨rfl, ?_⟩
      rintro err ⟨⟩
    · cases resp
      refine ⟨rfl, ?_⟩
      rintro err ⟨⟩
      trivial

/-- The program changes nothing, and what it raises is not a rollback. -/
def Observes {Value : Type} (program : ControlProgram Value) : Prop :=
  ∀ tid w, Ensures controlMachine tid
    (Returns (fun _ after => after = w) fun err after => after = w ∧ Foreign err)
    program w

theorem observes_send (quiet : Quiet req) : Observes (send req) := by
  intro tid w
  refine ensures_ask ?_
  intro ans after ran
  obtain ⟨same, foreign⟩ := quiet_call quiet ran
  cases ans with
  | ok val => exact same
  | error err => exact ⟨same, foreign err rfl⟩

theorem observes_pure {Value : Type} (val : Value) : Observes (pure val) :=
  fun _ _ => safe_pure rfl

theorem observes_raise {Value : Type} {err : ControlRaised} (foreign : Foreign err) :
    Observes (raise err : ControlProgram Value) := fun _ _ => safe_raise ⟨rfl, foreign⟩

theorem observes_then {Value Final : Type} {program : ControlProgram Value}
    {next : Value → ControlProgram Final} {post : Except ControlRaised Final → ControlWorld → Prop}
    (observes : Observes program) (raised : ∀ err, Foreign err → post (.error err) w)
    (continues : ∀ val, Ensures controlMachine tid post (next val) w) :
    Ensures controlMachine tid post (program >>= next) w := by
  refine safe_then (observes tid w) ?_ ?_
  · rintro err after ⟨rfl, foreign⟩
    exact raised err foreign
  · rintro val after rfl
    exact continues val

theorem quiet_then {Final : Type} {next : ControlAnswer req → ControlProgram Final}
    {post : Except ControlRaised Final → ControlWorld → Prop} (quiet : Quiet req)
    (raised : ∀ err, Foreign err → post (.error err) w)
    (continues : ∀ ans, controlMachine.exec tid w req (.ok ans) w →
      Ensures controlMachine tid post (next ans) w) :
    Ensures controlMachine tid post (send req >>= next) w := by
  rintro cur rfl
  refine ⟨trivial, ?_⟩
  intro ans after ran
  obtain ⟨rfl, foreign⟩ := quiet_call quiet ran
  cases ans with
  | ok val => exact continues val ran
  | error err => exact raised err (foreign err rfl)

theorem exec_get_node {found : Option MediaNode}
    (ran : controlMachine.exec tid w (.getNode nodeId) (.ok found) after) :
    found = w.store.getNode nodeId := by
  obtain ⟨_, choice, resp⟩ := ran
  rcases (answers_world resp).2 with answered | lost
  · exact Except.ok.inj answered
  · cases lost

theorem exec_incomplete {changes : List NodePortChange}
    (ran : controlMachine.exec tid w .listIncompletePortChanges (.ok changes) after) :
    changes = w.store.listIncompletePortChanges := by
  obtain ⟨_, choice, resp⟩ := ran
  rcases (answers_world resp).2 with answered | lost
  · exact Except.ok.inj answered
  · cases lost

theorem observes_bind {Value Final : Type} {program : ControlProgram Value}
    {next : Value → ControlProgram Final} (observes : Observes program)
    (continues : ∀ val, Observes (next val)) : Observes (program >>= next) := by
  intro tid w
  exact observes_then observes (fun _ foreign => ⟨rfl, foreign⟩) fun val =>
    continues val tid w

theorem observes_except_any {Value : Type} {body handler : ControlProgram Value}
    (observes : Observes body) (handled : Observes handler) : Observes (exceptAny body handler) := by
  intro tid w
  refine safe_handle (fun _ after => after = w) ?_ ?_
  · refine safe_weaken (observes tid w) ?_
    intro out after holds
    cases out with
    | ok val => exact holds
    | error err => exact holds.1
  · rintro err after rfl
    exact handled tid after

theorem observes_compute {Value : Type} {out : Except NodeError Value}
    (foreign : ∀ err, out = .error err → Foreign (.node err)) :
    Observes (compute out) := by
  intro tid w
  cases out with
  | ok val => exact rfl
  | error err => exact ⟨rfl, foreign err rfl⟩

theorem observes_node_camera_details (node : MediaNode) : Observes (nodeCameraDetails node) := by
  refine observes_bind (observes_send trivial) ?_
  intro listed
  dsimp only
  split_ifs
  · exact observes_raise trivial
  · exact observes_pure _

theorem reader_fingerprint_error {state : NodeState} {processId ticks : Option Int}
    {boot : Option UUID} {release : Option String} {readers : List PublicId}
    (raised : nodeReaderBlastRadiusFingerprint nodeId state processId ticks boot release readers =
      .error err) : Foreign (.node err) := by
  simp only [nodeReaderBlastRadiusFingerprint, bind_error, raise_if_error,
    pure_error, and_false, exists_false, or_false] at raised
  rw [← raised.2]
  trivial

theorem observes_validated_details (node : MediaNode) (publicIds : List PublicId) (digest : String)
    (obs : NodeDisruptionObservation) :
    Observes (validatedDisruptionDetails node publicIds digest obs) := by
  refine observes_bind (observes_send trivial) ?_
  intro now
  split_ifs
  · exact observes_raise trivial
  · exact observes_bind (observes_compute fun _ => reader_fingerprint_error) fun _ =>
      observes_pure _

theorem observes_require_inactive (node : MediaNode) : Observes (requireRuntimeInactive node) := by
  refine observes_bind
    (observes_except_any (observes_send rfl) (observes_raise trivial)) ?_
  intro obs
  split_ifs
  · exact observes_raise trivial
  · exact observes_pure _

theorem observes_inactive_details (node : MediaNode) (publicIds : List PublicId) (digest : String) :
    Observes (inactiveDisruptionDetails node publicIds digest) := by
  refine observes_bind (observes_send trivial) ?_
  intro now
  exact observes_bind (observes_compute fun _ => reader_fingerprint_error) fun _ => observes_pure _

end Quiet

variable {state : NodePortChangeState}

section Settling

variable [PythonText] {nodes : List MediaNode} {cur : MediaNode} {change : NodePortChange}
  {w after : ControlWorld} {tid : Nat}

/-- The change is prepared and the node as before. -/
abbrev Prepared (nodes : List MediaNode) (cur : MediaNode) (change : NodePortChange) :
    ControlWorld → Prop :=
  ChangeAt nodes cur change cur.externalPort cur.desiredRevision .prepared

abbrev Aborted (nodes : List MediaNode) (cur : MediaNode) (change : NodePortChange) :
    ControlWorld → Prop :=
  ChangeAt nodes cur change cur.externalPort cur.desiredRevision .aborted

abbrev Completed (nodes : List MediaNode) (cur : MediaNode) (change : NodePortChange) :
    ControlWorld → Prop :=
  ChangeAt nodes cur change change.newPort (cur.desiredRevision + 1) .complete

/-- The configuration the runtime is told about by a port change. -/
abbrev targetOf (cur : MediaNode) (change : NodePortChange) : MediaNode :=
  { cur with externalPort := change.newPort, desiredRevision := change.targetRevision }

variable {port : Int}

theorem change_at_same_store (holds : ChangeAt nodes cur change port revision state w)
    (same : after.store = w.store) : ChangeAt nodes cur change port revision state after :=
  ⟨same ▸ holds.reached, same ▸ holds.node, same ▸ holds.change⟩

variable {ans : Except ControlRaised MediaNode}

theorem call_complete (planned : PlannedFor cur change) (prepared : Prepared nodes cur change w)
    (ran : controlMachine.exec tid w (.completePortChange change.id obs) ans after) :
    after.applied = w.applied ∧
      ((∃ err, ans = .error err) ∧ Prepared nodes cur change after ∨
        Completed nodes cur change after) := by
  obtain ⟨_, choice, resp⟩ := ran
  obtain ⟨onlyStore, effect⟩ := operated_cases resp
  refine ⟨by rw [onlyStore], ?_⟩
  rcases effect with ⟨raised, sameStore⟩ | ⟨res, performed, _⟩
  · exact .inl ⟨raised, change_at_same_store prepared sameStore⟩
  · have settled := complete_settles planned prepared.change performed
    refine .inr ⟨reachable_perform prepared.reached ?_ performed, ?_, settled.2⟩
    · rintro id ⟨⟩
    · rw [← planned.targetRevision]
      exact settled.1

theorem call_abort (planned : PlannedFor cur change) (prepared : Prepared nodes cur change w)
    (ran : controlMachine.exec tid w (.abortPortChange change.id obs) ans after) :
    after.applied = w.applied ∧
      ((∃ err, ans = .error err) ∧ Prepared nodes cur change after ∨
        Aborted nodes cur change after) := by
  obtain ⟨_, choice, resp⟩ := ran
  obtain ⟨onlyStore, effect⟩ := operated_cases resp
  refine ⟨by rw [onlyStore], ?_⟩
  rcases effect with ⟨raised, sameStore⟩ | ⟨res, performed, _⟩
  · exact .inl ⟨raised, change_at_same_store prepared sameStore⟩
  · have settled := abort_settles planned prepared.change performed
    refine .inr ⟨reachable_perform prepared.reached ?_ performed, ?_, settled.2⟩
    · rintro id ⟨⟩
    · rw [← planned.oldPort, ← planned.sourceRevision]
      exact settled.1

theorem call_observation (holds : ChangeAt nodes cur change port revision state w)
    (ran : controlMachine.exec tid w (.applyRuntimeObservation cur.id obs)
      ans after) : ChangeAt nodes cur change port revision state after := by
  obtain ⟨_, choice, resp⟩ := ran
  obtain ⟨_, effect⟩ := operated_cases resp
  rcases effect with ⟨_, sameStore⟩ | ⟨res, performed, _⟩
  · exact change_at_same_store holds sameStore
  · obtain ⟨node, found, isPort, isRevision⟩ := holds.node
    obtain ⟨⟨later, laterFound, samePort, sameRevision⟩, sameChanges⟩ :=
      observation_keeps found performed
    refine ⟨reachable_perform holds.reached ?_ performed, ⟨later, laterFound,
      samePort.trans isPort, sameRevision.trans isRevision⟩, ?_⟩
    · rintro id ⟨⟩
    · rw [findPortChange, sameChanges]
      exact holds.change

omit [PythonText] in
theorem incomplete_of_prepared
    (found : store.findPortChange change.id = some { change with state := .prepared }) :
    change.id ∈ store.listIncompletePortChanges.map (·.id) := by
  refine List.mem_map.mpr ⟨_, List.mem_filter.mpr ⟨lookup_mem found, ?_⟩, rfl⟩
  simp

theorem ensures_read_back (nodeId : UUID) (w : ControlWorld) :
    Ensures controlMachine tid
      (Returns (fun read after => after = w ∧ read.1 = w.store.getNode nodeId ∧
        read.2 = w.store.listIncompletePortChanges.map (·.id)) fun _ after => after = w)
      (readBack nodeId) w := by
  refine quiet_then trivial (fun _ _ => rfl) ?_
  intro committed isCommitted
  refine quiet_then trivial (fun _ _ => rfl) ?_
  intro changes isChanges
  exact safe_pure ⟨rfl, exec_get_node isCommitted, by rw [exec_incomplete isChanges]⟩

/-- The exception that reports a successful rollback. -/
abbrev rolledBackError (nodeId : UUID) : ControlRaised :=
  .node (.nodeRuntimeFailed "node_port_change_rolled_back" nodeId)

/-- How a rollback ends: it raises, with the store at the old port, and it reports success only
when the change is aborted and the runtime was given the old configuration last. -/
def RollsBack (nodes : List MediaNode) (cur : MediaNode) (change : NodePortChange)
    (err : ControlRaised) (after : ControlWorld) : Prop :=
  (err = rolledBackError cur.id →
    Aborted nodes cur change after ∧ after.applied.head? = some cur) ∧
    (Prepared nodes cur change after ∨ Aborted nodes cur change after)

theorem ensures_suppressed_observation
    (holds : ChangeAt nodes cur change port revision state w) :
    Ensures controlMachine tid
      (Returns (fun _ after => ChangeAt nodes cur change port revision state after)
        fun _ _ => False)
      (suppress (send (.applyRuntimeObservation cur.id obs))) w := by
  refine safe_and_then (ensures_ask fun ans after ran => call_observation holds ran) ?_
  intro out after kept
  exact kept

theorem exec_reconfigure {due : Option Int} {ans : Except ControlRaised NodeRuntimeObservation}
    (ran : controlMachine.exec tid w (.execute .reconfigureRestart node due) ans after) :
    after.store = w.store ∧ ((∃ err, ans = .error err) ∧ after.applied = w.applied ∨
      after.applied = node :: w.applied) := by
  obtain ⟨_, choice, resp⟩ := ran
  simp only [controlRespond] at resp
  split_ifs at resp
  · cases resp
    exact ⟨rfl, .inr rfl⟩
  · cases resp
    exact ⟨rfl, .inl ⟨⟨_, rfl⟩, rfl⟩⟩

theorem ensures_resolve_abort
    (settled : Prepared nodes cur change w ∨ Aborted nodes cur change w) :
    Ensures controlMachine tid
      (Returns (fun _ after => after = w ∧ Aborted nodes cur change w)
        fun err after => err ≠ rolledBackError cur.id ∧
          (Prepared nodes cur change after ∨ Aborted nodes cur change after))
      (resolveAbort cur change) w := by
  have read : Ensures controlMachine tid
      (Returns (fun read after => after = w ∧
          read.2 = w.store.listIncompletePortChanges.map (·.id))
        fun err after => err ≠ rolledBackError cur.id ∧
          (Prepared nodes cur change after ∨ Aborted nodes cur change after))
      (exceptAny (readBack cur.id)
        (raise (.node (.nodeRuntimeFailed "node_port_change_rollback_commit_unknown" cur.id))))
      w := by
    refine safe_handle (fun _ after => after = w) ?_ ?_
    · refine safe_weaken (ensures_read_back cur.id w) ?_
      intro out after holds
      cases out with
      | ok read => exact ⟨holds.1, holds.2.2⟩
      | error err => exact holds
    · rintro err after rfl
      exact safe_raise ⟨by simp, settled⟩
  refine safe_bind read ?_
  rintro ⟨committed, incompleteIds⟩ after ⟨rfl, rfl⟩
  dsimp only
  split_ifs with missing
  · rcases settled with prepared | aborted
    · refine safe_then (ensures_suppressed_observation prepared) (fun _ _ => False.elim) ?_
      intro _ later kept
      exact safe_raise ⟨by simp, .inl kept⟩
    · refine safe_then (ensures_suppressed_observation aborted) (fun _ _ => False.elim) ?_
      intro _ later kept
      exact safe_raise ⟨by simp, .inr kept⟩
  · refine safe_pure ⟨rfl, ?_⟩
    rcases settled with prepared | aborted
    · refine absurd ?_ missing
      have incomplete := incomplete_of_prepared prepared.change
      cases committed <;> simp [incomplete]
    · exact aborted

theorem ensures_rollback (planned : PlannedFor cur change) (due : Option Int)
    (prepared : Prepared nodes cur change w) :
    Ensures controlMachine tid
      (Returns (fun _ _ => False) fun err after => RollsBack nodes cur change err after)
      (rollbackPortChange cur change due) w := by
  have applies : Ensures controlMachine tid
      (Returns (fun _ after => Prepared nodes cur change after ∧ after.applied.head? = some cur)
        fun err after => RollsBack nodes cur change err after)
      (exceptAny (send (.execute .reconfigureRestart cur due))
        (do
          suppress (send (.applyRuntimeObservation cur.id
            (failedObservation cur.appliedRevision)))
          raise (.node (.nodeRuntimeFailed "node_port_change_rollback_failed" cur.id))))
      w := by
    refine safe_handle (fun _ after => Prepared nodes cur change after) ?_ ?_
    · refine ensures_ask ?_
      intro ans after ran
      obtain ⟨sameStore, applied⟩ := exec_reconfigure ran
      have kept := change_at_same_store prepared sameStore
      cases ans with
      | error err => exact kept
      | ok obs =>
        rcases applied with ⟨⟨err, ⟨⟩⟩, _⟩ | applied
        exact ⟨kept, by rw [applied]; rfl⟩
    · intro err after kept
      refine safe_then (ensures_suppressed_observation kept) (fun _ _ => False.elim) ?_
      intro _ later kept
      refine safe_raise ⟨?_, .inl kept⟩
      simp
  refine safe_bind applies ?_
  rintro obs after ⟨kept, appliedCurrent⟩
  -- The abort takes effect or not; if it raised, the store decides which.
  have aborts : Ensures controlMachine tid
      (Returns (fun _ later => Aborted nodes cur change later ∧ later.applied.head? = some cur)
        fun err later => RollsBack nodes cur change err later)
      (exceptAny (do let _ ← send (.abortPortChange change.id obs))
        (resolveAbort cur change)) after := by
    refine safe_handle (fun _ later =>
      (Prepared nodes cur change later ∨ Aborted nodes cur change later) ∧
        later.applied.head? = some cur) ?_ ?_
    · refine safe_and_then (ensures_ask fun ans later ran =>
        call_abort planned kept ran) ?_
      rintro out later ⟨sameApplied, settled⟩
      have applied : later.applied.head? = some cur := by rw [sameApplied, appliedCurrent]
      cases out with
      | ok node =>
        rcases settled with ⟨⟨err, ⟨⟩⟩, _⟩ | aborted
        exact ⟨aborted, applied⟩
      | error err =>
        rcases settled with ⟨_, stillPrepared⟩ | aborted
        · exact ⟨.inl stillPrepared, applied⟩
        · exact ⟨.inr aborted, applied⟩
    · rintro err later ⟨settled, applied⟩
      refine safe_weaken (ensures_resolve_abort settled) ?_
      intro out last holds
      cases out with
      | ok _ =>
        obtain ⟨rfl, aborted⟩ := holds
        exact ⟨aborted, applied⟩
      | error err =>
        refine ⟨?_, holds.2⟩
        intro isRolledBack
        exact absurd isRolledBack holds.1
  refine safe_bind aborts ?_
  rintro _ later ⟨aborted, applied⟩
  exact safe_raise ⟨fun _ => ⟨aborted, applied⟩, .inr aborted⟩

def Carries (nodes : List MediaNode) (cur : MediaNode) (change : NodePortChange) :
    Except ControlRaised MediaNode → ControlWorld → Prop :=
  Returns
    (fun _ after => Completed nodes cur change after ∧
      after.applied.head? = some (targetOf cur change))
    fun err after => RollsBack nodes cur change err after ∨
      err ≠ rolledBackError cur.id ∧ Completed nodes cur change after ∧
        after.applied.head? = some (targetOf cur change)

theorem ensures_rolled_back (planned : PlannedFor cur change) (due : Option Int)
    (prepared : Prepared nodes cur change w) :
    Ensures controlMachine tid (Carries nodes cur change)
      (rolledBack cur change due) w := by
  refine safe_then (ensures_rollback planned due prepared) ?_ ?_
  · intro err after rollsBack
    exact .inl rollsBack
  · intro _ _ impossible
    exact impossible.elim

theorem observes_wait (port : Int) (attempts : Nat) : Observes (waitForPortRelease port attempts) := by
  induction attempts with
  | zero => exact observes_pure _
  | succ attempts ih =>
    refine observes_bind (observes_send trivial) ?_
    intro free
    split_ifs
    · exact observes_pure _
    · exact ih

theorem ensures_resolve_commit (planned : PlannedFor cur change) (due : Option Int)
    (portChanged : cur.externalPort ≠ change.newPort)
    (settled : Prepared nodes cur change w ∨ Completed nodes cur change w ∧
      w.applied.head? = some (targetOf cur change)) :
    Ensures controlMachine tid (Carries nodes cur change)
      (resolveCommit cur change due) w := by
  -- Without a rollback the world stays where it is.
  have unknown : Carries nodes cur change
      (.error (.node (.nodeRuntimeFailed "node_port_change_commit_unknown" cur.id))) w := by
    rcases settled with prepared | ⟨completed, applied⟩
    · exact .inl ⟨by simp, .inl prepared⟩
    · exact .inr ⟨by simp, completed, applied⟩
  have read : Ensures controlMachine tid
      (Returns (fun read after => after = w ∧ read.1 = w.store.getNode cur.id)
        fun err after => Carries nodes cur change (.error err) after)
      (exceptAny (readBack cur.id)
        (raise (.node (.nodeRuntimeFailed "node_port_change_commit_unknown" cur.id)))) w := by
    refine safe_handle (fun _ after => after = w) ?_ ?_
    · refine safe_weaken (ensures_read_back cur.id w) ?_
      intro out after holds
      cases out with
      | ok read => exact ⟨holds.1, holds.2.1⟩
      | error err => exact holds
    · rintro err after rfl
      exact safe_raise unknown
  refine safe_bind read ?_
  rintro ⟨committed, incompleteIds⟩ after ⟨rfl, isCommitted⟩
  cases committed with
  | none => exact safe_raise unknown
  | some node =>
    dsimp only
    split_ifs with isComplete isOther
    · rcases settled with prepared | completed
      · obtain ⟨stored, found, samePort, _⟩ := prepared.node
        have same : node = stored := Option.some.inj (isCommitted.trans found)
        rw [same, samePort] at isComplete
        exact absurd isComplete.1 portChanged
      · exact safe_pure completed
    · exact safe_raise unknown
    · rcases settled with prepared | ⟨completed, _⟩
      · exact ensures_rolled_back planned due prepared
      · obtain ⟨stored, found, samePort, _⟩ := completed.node
        have same : node = stored := Option.some.inj (isCommitted.trans found)
        have oldPort := (not_or.mp isOther).1
        rw [same, samePort, not_not, planned.oldPort] at oldPort
        exact absurd oldPort.symm portChanged

theorem ensures_carry_out (planned : PlannedFor cur change) (due : Option Int)
    (portChanged : cur.externalPort ≠ change.newPort) (prepared : Prepared nodes cur change w) :
    Ensures controlMachine tid (Carries nodes cur change)
      (carryOutPortChange cur change due) w := by
  refine safe_and_then (ensures_ask fun ans after ran => exec_reconfigure ran) ?_
  rintro out after ⟨sameStore, applied⟩
  have kept := change_at_same_store prepared sameStore
  cases out with
  | error err => exact ensures_rolled_back planned due kept
  | ok obs =>
    have appliedTarget : after.applied.head? = some (targetOf cur change) := by
      rcases applied with ⟨⟨err, ⟨⟩⟩, _⟩ | applied
      rw [applied]
      rfl
    refine observes_then (observes_wait change.oldPort 21) ?_ ?_
    · intro err foreign
      refine .inl ⟨?_, .inl kept⟩
      rintro rfl
      cases foreign
    · intro released
      split_ifs
      · exact ensures_rolled_back planned due kept
      · refine safe_handle (fun _ later => Prepared nodes cur change later ∨
          Completed nodes cur change later ∧ later.applied.head? = some (targetOf cur change)) ?_ ?_
        · refine ensures_ask ?_
          intro ans later ran
          obtain ⟨sameApplied, settled⟩ := call_complete planned kept ran
          have appliedLater : later.applied.head? = some (targetOf cur change) := by
            rw [sameApplied, appliedTarget]
          cases ans with
          | ok node =>
            rcases settled with ⟨⟨err, ⟨⟩⟩, _⟩ | completed
            exact ⟨completed, appliedLater⟩
          | error err =>
            rcases settled with ⟨_, stillPrepared⟩ | completed
            · exact .inl stillPrepared
            · exact .inr ⟨completed, appliedLater⟩
        · intro err later settled
          exact ensures_resolve_commit planned due portChanged settled

end Settling

section ChangePort

variable [PythonText] {nodes : List MediaNode} {start : ControlWorld} {nodeId : UUID} {newPort : Int}
  {tid : Nat}

omit [PythonText] in
/-- The change that the command begins on the node as it finds it. -/
structure Begins (start : ControlWorld) (nodeId : UUID) (newPort : Int) (cur : MediaNode)
    (change : NodePortChange) : Prop where
  found : start.store.getNode nodeId = some cur
  planned : PlannedFor cur change
  toPort : change.newPort = newPort
  portChanged : cur.externalPort ≠ newPort
  fresh : start.store.Unused change.id

def Agrees (nodes : List MediaNode) (start : ControlWorld) (nodeId : UUID) (newPort : Int) :
    Except ControlRaised MediaNode → ControlWorld → Prop :=
  Returns
    (fun _ after => ∃ cur change, Begins start nodeId newPort cur change ∧
      Completed nodes cur change after ∧
      after.applied.head? = some (targetOf cur change))
    fun err after =>
      (err = rolledBackError nodeId → ∃ cur change,
        Begins start nodeId newPort cur change ∧ Aborted nodes cur change after ∧
          after.applied.head? = some cur) ∧
      (after = start ∨ ∃ cur change, Begins start nodeId newPort cur change ∧
        (Prepared nodes cur change after ∨ Aborted nodes cur change after ∨
          Completed nodes cur change after ∧ after.applied.head? = some (targetOf cur change)))

theorem agrees_unchanged {err : ControlRaised} (foreign : Foreign err) :
    Agrees nodes start nodeId newPort (.error err) start := by
  refine ⟨?_, .inl rfl⟩
  rintro rfl
  cases foreign

variable {out : Except ControlRaised MediaNode}

theorem agrees_masked {after : ControlWorld}
    {err : ControlRaised} (agrees : Agrees nodes start nodeId newPort out after)
    (foreign : Foreign err) : Agrees nodes start nodeId newPort (.error err) after := by
  refine ⟨?_, ?_⟩
  · rintro rfl
    cases foreign
  · cases out with
    | error inner => exact agrees.2
    | ok node =>
      obtain ⟨cur, change, begins, completed⟩ := agrees
      exact .inr ⟨cur, change, begins, .inr (.inr completed)⟩

variable {cur : MediaNode}

theorem agrees_of_carries {change : NodePortChange}
    (begins : Begins start nodeId newPort cur change)
    {after : ControlWorld} (carries : Carries nodes cur change out after) :
    Agrees nodes start nodeId newPort out after := by
  have isNode : cur.id = nodeId := find_node_id begins.found
  cases out with
  | ok node => exact ⟨cur, change, begins, carries⟩
  | error err =>
    rcases carries with rollsBack | ⟨notRolledBack, completed⟩
    · refine ⟨?_, .inr ⟨cur, change, begins, ?_⟩⟩
      · rintro rfl
        exact ⟨cur, change, begins, rollsBack.1 (by rw [isNode])⟩
      · rcases rollsBack.2 with prepared | aborted
        · exact .inl prepared
        · exact .inr (.inl aborted)
    · refine ⟨?_, .inr ⟨cur, change, begins, .inr (.inr completed)⟩⟩
      rintro rfl
      exact absurd (by rw [isNode]) notRolledBack

omit [PythonText] in
theorem confirmed_context_error {mutation : Option NodeMutationContext}
    {confirmation : Option NodeDisruptionConfirmationContext}
    (raised : confirmedMutationContext mutation confirmation = .error err) :
    Foreign (.node err) := by
  cases mutation with
  | none => cases raised
  | some mutation =>
    cases confirmation with
    | none =>
      cases raised
      trivial
    | some confirmation =>
      simp only [confirmedMutationContext, raise_if_error] at raised
      rw [← raised.2]
      trivial

theorem begin_error {changeId : UUID} {allowedPorts : List Int} {cameras : Int} {digest : String}
    (raised : store.beginPortChange changeId nodeId newPort allowedPorts revision cameras digest =
      .error err) : Foreign (.node err) := by
  refine foreign_of_ne ?_
  rintro code failed rfl
  simp only [beginPortChange, bind_error, or_raise_error, raise_if_error,
    pure_error, reduceCtorEq, and_false, exists_false, or_false] at raised

theorem observes_confirmed (args : ChangePortArguments) (cur : MediaNode)
    (details : NodeDisruptionDetails) : Observes (confirmed args cur details) := by
  unfold confirmed
  split
  · exact observes_pure _
  · split_ifs
    · exact observes_pure _
    · exact observes_send trivial

theorem ensures_change_port_fenced {args : ChangePortArguments}
    {details : NodeDisruptionDetails} {lease : Option NodeDisruptionFenceLease}
    (reached : Reachable nodes start.store) (found : start.store.getNode args.nodeId = some cur) :
    Ensures controlMachine tid (Agrees nodes start args.nodeId args.newPort)
      (changePortFenced args cur details lease) start := by
  refine observes_then (observes_confirmed args cur details)
    (fun _ foreign => agrees_unchanged foreign) ?_
  intro isConfirmed
  split_ifs
  · exact safe_raise (agrees_unchanged trivial)
  refine observes_then (observes_send trivial) (fun _ foreign => agrees_unchanged foreign) ?_
  intro bindable
  split_ifs
  · exact safe_raise (agrees_unchanged trivial)
  refine observes_then (observes_compute fun _ => confirmed_context_error)
    (fun _ foreign => agrees_unchanged foreign) ?_
  intro _
  refine quiet_then trivial (fun _ foreign => agrees_unchanged foreign) ?_
  rintro changeId ⟨fresh, _⟩
  have isNode : cur.id = args.nodeId := find_node_id found
  refine safe_and_then (ensures_ask fun ans after ran => ran) ?_
  rintro out after ⟨_, choice, resp⟩
  obtain ⟨onlyStore, effect⟩ := operated_cases resp
  rcases effect with ⟨⟨err, rfl⟩, sameStore⟩ | ⟨change, performed, answered⟩
  · rw [sameStore] at onlyStore
    rw [onlyStore]
    refine safe_raise (agrees_unchanged ?_)
    rcases operated_error resp with rfl | ⟨inner, raised, rfl⟩
    · trivial
    · exact begin_error raised
  · obtain ⟨planned, sameId, toPort, portChanged, isPrepared, stillFound, changeFound⟩ :=
      begin_planned found fresh performed
    have begins : Begins start args.nodeId args.newPort cur change :=
      ⟨found, planned, toPort, portChanged, sameId ▸ fresh⟩
    have prepared : Prepared nodes cur change after := by
      refine ⟨reachable_perform reached ?_ performed, ⟨cur, isNode ▸ stillFound, rfl, rfl⟩, ?_⟩
      · rintro id ⟨⟩
        exact fresh
      · have same : { change with state := .prepared } = change := by rw [← isPrepared]
        rw [same, sameId]
        exact changeFound
    rcases answered with rfl | rfl
    · refine safe_weaken (ensures_carry_out planned _ (toPort ▸ portChanged) prepared) ?_
      intro out later carries
      exact agrees_of_carries begins carries
    · refine safe_raise ⟨?_, .inr ⟨cur, change, begins, .inl prepared⟩⟩
      rintro ⟨⟩

/-- Leaving the fence keeps the outcome, or an exception that reports no rollback takes its
place. -/
theorem ensures_fenced {args : ChangePortArguments} (reached : Reachable nodes start.store)
    (found : start.store.getNode args.nodeId = some cur) :
    Ensures controlMachine tid (Agrees nodes start args.nodeId args.newPort)
      (withFencedNodeDisruptionDetails cur (changePortFenced args cur)) start := by
  have untouched : ∀ err, Foreign err →
      Agrees nodes start args.nodeId args.newPort (.error err) start :=
    fun _ foreign => agrees_unchanged foreign
  refine observes_then (observes_node_camera_details cur) untouched ?_
  rintro ⟨publicIds, digest⟩
  split_ifs
  · refine observes_then (observes_require_inactive cur) untouched ?_
    intro _
    refine observes_then (observes_inactive_details cur publicIds digest) untouched ?_
    intro details
    exact ensures_change_port_fenced reached found
  · refine observes_then (observes_send trivial) untouched ?_
    intro _
    refine observes_then (observes_except_any (observes_send trivial) (observes_raise trivial))
      untouched ?_
    intro lease
    have block : Ensures controlMachine tid
        (Agrees nodes start args.nodeId args.newPort)
        (do
          let details ← validatedDisruptionDetails cur publicIds digest lease.observation
          changePortFenced args cur details (some lease)) start := by
      refine observes_then (observes_validated_details cur publicIds digest lease.observation)
        untouched ?_
      intro details
      exact ensures_change_port_fenced reached found
    refine safe_and_then block ?_
    intro out after agrees
    cases out with
    | error err =>
      have leaves := observes_send (show Quiet (.exitFence false true) from trivial) tid after
      refine safe_and_then leaves ?_
      intro exited later left
      cases exited with
      | ok _ =>
        cases left
        exact safe_raise agrees
      | error _ =>
        obtain ⟨rfl, _⟩ := left
        exact safe_raise (agrees_masked agrees trivial)
    | ok node =>
      have leaves := observes_send (show Quiet (.exitFence true false) from trivial) tid after
      refine safe_and_then leaves ?_
      intro exited later left
      cases exited with
      | ok _ =>
        cases left
        exact safe_pure agrees
      | error _ =>
        obtain ⟨rfl, _⟩ := left
        exact safe_raise (agrees_masked agrees trivial)

theorem ensures_finally {Value : Type} {body : ControlProgram Value} {last : ControlCall}
    {post : Except ControlRaised Value → ControlWorld → Prop} {w : ControlWorld}
    (quiet : Quiet last) (ensures : Ensures controlMachine tid post body w) :
    Ensures controlMachine tid post (finally_ body last) w := by
  refine safe_and_then ensures ?_
  intro out after holds
  refine safe_and_then (observes_send quiet tid after) ?_
  intro released later left
  cases released with
  | ok _ =>
    cases left
    exact holds
  | error _ =>
    obtain ⟨rfl, _⟩ := left
    exact holds

omit [PythonText] in
theorem command_fence_error {fence : Option NodeCommandFence}
    (raised : requireNodeCommandFence cur fence = .error err) : Foreign (.node err) := by
  cases fence with
  | none => cases raised
  | some fence =>
    simp only [requireNodeCommandFence, raise_if_error] at raised
    rw [← raised.2]
    trivial

theorem ensures_change_port (args : ChangePortArguments) (reached : Reachable nodes start.store) :
    Ensures controlMachine tid (Agrees nodes start args.nodeId args.newPort)
      (changePort args) start := by
  have untouched : ∀ err, Foreign err →
      Agrees nodes start args.nodeId args.newPort (.error err) start :=
    fun _ foreign => agrees_unchanged foreign
  refine observes_then (observes_send trivial) untouched ?_
  intro free
  split_ifs
  · exact safe_raise (agrees_unchanged trivial)
  refine ensures_finally trivial ?_
  refine observes_then (observes_send trivial) untouched ?_
  intro _
  refine ensures_finally trivial ?_
  -- The node is read, and nothing changes until its port change is begun.
  have required : Ensures controlMachine tid
      (Returns (fun cur after => after = start ∧ start.store.getNode args.nodeId = some cur)
        fun err after => after = start ∧ Foreign err)
      (requireNodeAndRuntime args.hasRuntime args.nodeId) start := by
    refine quiet_then trivial (fun _ foreign => ⟨rfl, foreign⟩) ?_
    intro found isFound
    cases found with
    | none => exact safe_raise ⟨rfl, trivial⟩
    | some node =>
      split_ifs
      · exact safe_raise ⟨rfl, trivial⟩
      · exact safe_pure ⟨rfl, (exec_get_node isFound).symm⟩
  refine safe_then required ?_ ?_
  · rintro err after ⟨rfl, foreign⟩
    exact agrees_unchanged foreign
  · rintro cur after ⟨rfl, found⟩
    refine observes_then (observes_compute fun _ => command_fence_error) untouched ?_
    intro _
    exact ensures_fenced reached found

/-- The store publishes the port: as that of the node, or as that of a camera on the node. -/
def Publishes (store : InMemoryNodeStore) (nodeId : UUID) (port : Int) : Prop :=
  (∃ node, store.getNode nodeId = some node ∧ node.externalPort = port) ∨
    ∃ cam ∈ store.cameras, cam.state ≠ .deleted ∧ cam.nodeId = nodeId ∧ cam.nodePort = port

theorem published_node_port {port : Int} (init : InitialNodes nodes)
    (reached : Reachable nodes store) (found : store.getNode nodeId = some node)
    (publishes : Publishes store nodeId port) : node.externalPort = port := by
  rcases publishes with ⟨other, otherFound, isPort⟩ | ⟨cam, mem, live, onNode, isPort⟩
  · have same : other = node := Option.some.inj (otherFound.symm.trans found)
    rw [← same]
    exact isPort
  · obtain ⟨_, kept⟩ := reachable_ports_kept init reached
    rw [← isPort]
    exact (kept.published cam mem live node (lookup_mem found)
      ((find_node_id found).trans onNode.symm)).symm

theorem change_at_publishes {change : NodePortChange} {port : Int} {w : ControlWorld}
    {published : Int} (init : InitialNodes nodes) (isNode : cur.id = nodeId)
    (holds : ChangeAt nodes cur change port revision state w)
    (publishes : Publishes w.store nodeId published) : port = published := by
  obtain ⟨node, found, isPort, _⟩ := holds.node
  rw [← isPort]
  exact published_node_port init holds.reached (isNode ▸ found) publishes

/-- Whatever fails inside `change_port`: if it returns, the store has the new port and the next
revision and the change is complete; if it reports a rollback, the store has the old port and the
old revision, the change is no longer prepared and the runtime was given the old configuration
last; and neither the node nor one of its cameras is ever published at the new port unless the
configuration the runtime applied last has that port. -/
theorem port_change_agreement (init : InitialNodes nodes) (args : ChangePortArguments)
    (reached : Reachable nodes start.store) {out : Except ControlRaised MediaNode}
    {after : ControlWorld} (runs : Runs controlMachine tid (changePort args) start out after) :
    (∀ res, out = .ok res → ∃ cur node change, start.store.getNode args.nodeId = some cur ∧
      after.store.getNode args.nodeId = some node ∧
      node.externalPort = args.newPort ∧
      node.desiredRevision = cur.desiredRevision + 1 ∧
      start.store.Unused change.id ∧ after.store.findPortChange change.id = some change ∧
      change.nodeId = args.nodeId ∧ change.targetRevision = node.desiredRevision ∧
      change.state = .complete) ∧
    (out = .error (rolledBackError args.nodeId) → ∃ cur node change,
      start.store.getNode args.nodeId = some cur ∧
      after.store.getNode args.nodeId = some node ∧
      node.externalPort = cur.externalPort ∧
      node.desiredRevision = cur.desiredRevision ∧
      start.store.Unused change.id ∧ after.store.findPortChange change.id = some change ∧
      change.nodeId = args.nodeId ∧ change.sourceRevision = node.desiredRevision ∧
      change.state ≠ .prepared ∧ after.applied.head? = some cur) ∧
    ∀ cur, start.store.getNode args.nodeId = some cur → cur.externalPort ≠ args.newPort →
      Publishes after.store args.nodeId args.newPort →
      ∃ applied, after.applied.head? = some applied ∧ applied.externalPort = args.newPort := by
  have agrees := runs_ensured (ensures_change_port args reached) runs
  refine ⟨?_, ?_, ?_⟩
  · rintro res rfl
    obtain ⟨cur, change, begins, completed, _⟩ := agrees
    have isNode : cur.id = args.nodeId := find_node_id begins.found
    obtain ⟨node, found, isPort, isRevision⟩ := completed.node
    refine ⟨cur, node, { change with state := .complete }, begins.found, isNode ▸ found,
      isPort.trans begins.toPort, isRevision, begins.fresh, completed.change,
      begins.planned.ofNode.trans isNode, ?_, rfl⟩
    exact begins.planned.targetRevision.trans isRevision.symm
  · rintro rfl
    obtain ⟨cur, change, begins, aborted, applied⟩ := agrees.1 rfl
    have isNode : cur.id = args.nodeId := find_node_id begins.found
    obtain ⟨node, found, isPort, isRevision⟩ := aborted.node
    refine ⟨cur, node, { change with state := .aborted }, begins.found, isNode ▸ found,
      isPort, isRevision, begins.fresh, aborted.change, begins.planned.ofNode.trans isNode, ?_, ?_,
      applied⟩
    · exact begins.planned.sourceRevision.trans isRevision.symm
    · simp
  · intro cur found portChanged publishes
    have settled : after = start ∨ ∃ cur change, Begins start args.nodeId args.newPort cur change ∧
          (Prepared nodes cur change after ∨ Aborted nodes cur change after ∨
            Completed nodes cur change after ∧
              after.applied.head? = some (targetOf cur change)) := by
      cases out with
      | ok res =>
        obtain ⟨cur, change, begins, completed⟩ := agrees
        exact .inr ⟨cur, change, begins, .inr (.inr completed)⟩
      | error err => exact agrees.2
    rcases settled with rfl | ⟨other, change, begins, state⟩
    · exact absurd (published_node_port init reached found publishes) portChanged
    · have same : other = cur := Option.some.inj (begins.found.symm.trans found)
      subst same
      have isNode : other.id = args.nodeId := find_node_id begins.found
      rcases state with prepared | aborted | ⟨_, applied⟩
      · exact absurd (change_at_publishes init isNode prepared publishes) portChanged
      · exact absurd (change_at_publishes init isNode aborted publishes) portChanged
      · exact ⟨_, applied, begins.toPort⟩

end ChangePort

section Sample

local instance : PythonText := plainText

def sampleObservation (revision : Int) : NodeRuntimeObservation :=
  { state := .running, health := .healthy, managementFresh := true, configCompatible := true
    appliedRevision := revision, processId := some 1, processStartTicks := some 1
    processBootId := some 7, configSha256 := some "", releaseId := some "0.1.0" }

def runningWorld : ControlWorld where
  store := apply (.applyRuntimeObservation 1 (sampleObservation 1) 0)
    { nodes := sampleNodes }
  applied := []

theorem running_world_reachable : Reachable sampleNodes runningWorld.store :=
  .operate .start (.applyRuntimeObservation 1 (sampleObservation 1) 0) (by decide)

def sampleChange : ChangePortArguments where
  hasRuntime := true
  hasConfirmations := true
  nodeId := 1
  newPort := 8560
  allowedPorts := [8554, 8555, 8560]
  confirmationToken := some "token"
  confirmationContext := none
  fence := none
  mutationContext := none

/-- Every call succeeds, and the process of the node is the known one. -/
def sampleChoice (revision : Int) : ControlChoice where
  newId := 30
  lease :=
    { observation := { activeReaderPublicIds := [], observedAt := 0, processId := 1
                       processStartTicks := 1, processBootId := 7, releaseId := "0.1.0" }
      workDeadlineUnixMs := none }
  observation := sampleObservation revision

theorem port_change_agreement_completed : ∃ res after,
    Runs controlMachine 0 (changePort sampleChange) runningWorld (.ok res) after ∧
      ∃ cur node change, runningWorld.store.getNode 1 = some cur ∧
        after.store.getNode 1 = some node ∧ node.externalPort = 8560 ∧
        node.desiredRevision = cur.desiredRevision + 1 ∧
        runningWorld.store.Unused change.id ∧ after.store.findPortChange change.id = some change ∧
        change.nodeId = 1 ∧ change.targetRevision = node.desiredRevision ∧
        change.state = .complete := by
  have finishes : ((play (List.replicate 18 (sampleChoice 2)) (changePort sampleChange)
      runningWorld).any fun run => run.1.isOk) = true := by
    decide +kernel
  obtain ⟨⟨out, after⟩, played, isOk⟩ := (Option.any_eq_true _ _).mp finishes
  cases out with
  | error err => cases isOk
  | ok res =>
    have runs := play_runs played
    exact ⟨res, after, runs, (port_change_agreement sample_nodes_initial sampleChange
      running_world_reachable runs).1 res rfl⟩

end Sample

end RtspProxy.Nodes
