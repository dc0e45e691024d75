import RtspProxy.Nodes.PortChange

/-!
# The revision fence of a node

Every command moves the desired revision of its node by one, and nothing else
changes what is desired. The exception is the end of a port change, which writes
the revision that was saved when the change was begun. As long as no other
command came in between, that is the current revision or the next one. A rollback
that failed leaves the change prepared; a command that comes before the recovery is
then undone by it.
-/

namespace RtspProxy.Nodes

open Lib Lib.Program InMemoryNodeStore NodeControl Lib.RecordTable List

/-- The revision does not fall, and within one revision the same is desired. -/
def Follows (node later : MediaNode) : Prop :=
  node.desiredRevision ≤ later.desiredRevision ∧
    (later.desiredRevision = node.desiredRevision → later.state = node.state ∧
      later.externalPort = node.externalPort ∧ later.cameraCapacity = node.cameraCapacity)

theorem follows_refl (node : MediaNode) : Follows node node :=
  ⟨le_refl _, fun _ => ⟨rfl, rfl, rfl⟩⟩

theorem follows_trans {first second third : MediaNode} (earlier : Follows first second)
    (later : Follows second third) : Follows first third := by
  refine ⟨le_trans earlier.1 later.1, ?_⟩
  intro same
  have middle : second.desiredRevision = first.desiredRevision :=
    le_antisymm (same ▸ later.1) earlier.1
  obtain ⟨sameState, samePort, sameCapacity⟩ := earlier.2 middle
  obtain ⟨laterState, laterPort, laterCapacity⟩ := later.2 (same.trans middle.symm)
  exact ⟨laterState.trans sameState, laterPort.trans samePort, laterCapacity.trans sameCapacity⟩

/-- A prepared change is settled only while its node has the revision it was begun at. -/
def SettlesInTime (store : InMemoryNodeStore) (label : StepLabel) : Prop :=
  ∀ changeId, label = .settlePort changeId → ∀ change ∈ store.findPortChange changeId,
    change.state = .prepared → ∀ node ∈ store.findNode change.nodeId,
      node.desiredRevision = change.sourceRevision

section Steps

variable {store after : InMemoryNodeStore} {label : StepLabel}

/-- Every change is planned for the revision after the one it was begun at. -/
def ChangesPlanned (changes : List NodePortChange) : Prop :=
  ∀ change ∈ changes, change.targetRevision = change.sourceRevision + 1

theorem changes_planned_step (planned : ChangesPlanned store.portChanges)
    (step : StoreStep store label after) : ChangesPlanned after.portChanges := by
  have settled {change upd : NodePortChange}
      (found : store.findPortChange change.id = some change)
      (sameSource : upd.sourceRevision = change.sourceRevision)
      (sameTarget : upd.targetRevision = change.targetRevision) :
      ChangesPlanned (replace NodePortChange.id upd store.portChanges) := by
    intro other mem
    rcases mem_of_mem_replace mem with rfl | inChanges
    · rw [sameSource, sameTarget]
      exact planned change (lookup_mem found)
    · exact planned other inChanges
  cases step with
  | beginPortChange node change found fresh onNode prepared oldPort portChanged portFree
      portUnreserved sourceRevision targetRevision =>
      intro other mem
      rcases mem_append.mp mem with inChanges | isNew
      · exact planned other inChanges
      · rw [mem_singleton.mp isNew, sourceRevision, targetRevision]
  | completePortChange change node obs observedAt changeFound =>
    exact settled changeFound rfl rfl
  | abortPortChange change node obs observedAt changeFound =>
    exact settled changeFound rfl rfl
  | requestAbort => dsimp only [putMove]; split_ifs <;> exact planned
  | _ => exact planned

theorem follows_step (ports : PortsKept store.nodes store.cameras store.portChanges)
    (planned : ChangesPlanned store.portChanges) (inTime : SettlesInTime store label)
    (step : StoreStep store label after) :
    ∀ later ∈ after.nodes, label = .register later.id ∨
      ∃ node ∈ store.nodes, node.id = later.id ∧ Follows node later := by
  have same : ∀ later ∈ store.nodes, label = .register later.id ∨
      ∃ node ∈ store.nodes, node.id = later.id ∧ Follows node later :=
    fun later mem => .inr ⟨later, mem, rfl, follows_refl later⟩
  have replaced {node : MediaNode} (upd : MediaNode) (present : node ∈ store.nodes)
      (sameId : upd.id = node.id) (follows : Follows node upd) :
      ∀ later ∈ replace MediaNode.id upd store.nodes, label = .register later.id ∨
        ∃ node ∈ store.nodes, node.id = later.id ∧ Follows node later := by
    intro later mem
    rcases mem_of_mem_replace mem with rfl | inNodes
    · exact .inr ⟨node, present, sameId.symm, follows⟩
    · exact same later inNodes
  have counted {node : MediaNode} (count : Int) :
      Follows node { node with registeredCameras := count } :=
    ⟨le_refl _, fun _ => ⟨rfl, rfl, rfl⟩⟩
  cases step with
  | requests | beginPortChange | editCamera | markApplied | createMove | sourceCleaned | abortMove
  | completeMove => exact same
  | requestAbort =>
    intro later mem
    refine same later ?_
    dsimp only [putMove] at mem
    split_ifs at mem <;> exact mem
  | registerNode node =>
    intro later mem
    rcases mem_append.mp mem with inNodes | isNew
    · exact same later inNodes
    · exact .inl (by rw [mem_singleton.mp isNew])
  | removeNode node => exact fun later mem => same later (mem_of_mem_erase mem)
  | commandNode node upd found sameId samePorts sameCount sameCapacity revision =>
    refine replaced upd (lookup_mem found) sameId ?_
    rcases revision with ⟨sameRevision, sameState⟩ | next
    · exact ⟨le_of_eq sameRevision.symm, fun _ => ⟨sameState, samePorts.1, sameCapacity⟩⟩
    · refine ⟨by omega, ?_⟩
      intro unchanged
      omega
  | completePortChange change node obs observedAt changeFound found onNode prepared =>
    have cur := inTime change.id rfl change changeFound prepared node (onNode ▸ found)
    have next := planned change (lookup_mem changeFound)
    refine replaced _ (lookup_mem found) rfl ⟨?_, ?_⟩
    · show node.desiredRevision ≤ change.targetRevision
      omega
    · intro unchanged
      have isSame : change.targetRevision = node.desiredRevision := unchanged
      omega
  | abortPortChange change node obs observedAt changeFound found onNode prepared =>
    have cur := inTime change.id rfl change changeFound prepared node (onNode ▸ found)
    refine replaced _ (lookup_mem found) rfl ⟨le_of_eq cur, ?_⟩
    intro _
    exact ⟨rfl, (ports.oldPort node (lookup_mem found) change
      (lookup_mem changeFound) prepared onNode).symm, rfl⟩
  | placeCamera selected cam requests found =>
    exact replaced _ (lookup_mem found) rfl (counted _)
  | markDeleted cam node found nodeFound =>
    exact replaced _ (lookup_mem nodeFound) rfl (counted _)
  | switchMove move cam source target moveFound found sourceFound targetFound =>
    intro later mem
    rcases mem_of_mem_replace mem with rfl | inNodes
    · exact .inr ⟨target, lookup_mem targetFound, rfl, counted _⟩
    · exact replaced { source with registeredCameras := source.registeredCameras - 1 }
        (lookup_mem sourceFound) rfl (counted _) later inNodes

end Steps

section Runs

variable [PythonText] {nodes : List MediaNode}

/-- The states of a run, the newest first, in which ids are generated once and every settlement
of a port change that succeeds is in time. -/
inductive FencedRun (nodes : List MediaNode) : List InMemoryNodeStore → Prop
  | start : FencedRun nodes [{ nodes := nodes }]
  | operate {store : InMemoryNodeStore} {earlier : List InMemoryNodeStore}
      (run : FencedRun nodes (store :: earlier)) (op : StoreOperation)
      (fresh : ∀ visited ∈ store :: earlier, op.Fresh visited)
      (inTime : (op.run store).isOk = true → SettlesInTime store op.label) :
      FencedRun nodes (op.apply store :: store :: earlier)

theorem fenced_run_reachable {states : List InMemoryNodeStore} (run : FencedRun nodes states) :
    ∀ store ∈ states, Reachable nodes store := by
  induction run with
  | start =>
    intro store mem
    rw [mem_singleton.mp mem]
    exact .start
  | operate run op fresh inTime ih =>
    intro store mem
    rcases mem_cons.mp mem with rfl | inRun
    · exact (ih _ mem_cons_self).operate op (fresh _ mem_cons_self)
    · exact ih store inRun

theorem reachable_changes_planned (init : InitialNodes nodes) {store : InMemoryNodeStore}
    (reached : Reachable nodes store) : ChangesPlanned store.portChanges := by
  refine (reachable_induction init (fun store => ChangesPlanned store.portChanges) ?_ ?_ reached).2
  · intro change mem
    cases mem
  · intro store after label _ planned step
    exact changes_planned_step planned step

theorem apply_of_raises {store : InMemoryNodeStore} {op : StoreOperation}
    (raises : ¬(op.run store).isOk = true) : op.apply store = store := by
  unfold StoreOperation.apply
  cases ran : op.run store with
  | ok result => exact absurd (congrArg Except.isOk ran) raises
  | error raised => rfl

omit [PythonText] in
theorem generated_registers {op : StoreOperation} {nodeId : UUID}
    (registers : op.label = .register nodeId) : op.generatedId = some nodeId := by
  cases op <;> simp_all [StoreOperation.label, StoreOperation.generatedId]

/-- In a run whose port changes are settled in time, the desired revision of a node never falls,
and no two states desire different things of the node under one revision. -/
theorem node_revision_fence (init : InitialNodes nodes) {states : List InMemoryNodeStore}
    (run : FencedRun nodes states) :
    states.Pairwise fun later earlier => ∀ node ∈ earlier.nodes, ∀ next ∈ later.nodes,
      next.id = node.id → node.desiredRevision ≤ next.desiredRevision ∧
        (next.desiredRevision = node.desiredRevision → next.state = node.state ∧
          next.externalPort = node.externalPort ∧ next.cameraCapacity = node.cameraCapacity) := by
  induction run with
  | start => exact pairwise_singleton _ _
  | @operate store earlier run op fresh inTime ih =>
    refine pairwise_cons.mpr ⟨?_, ih⟩
    have reached := fenced_run_reachable run store mem_cons_self
    obtain ⟨distinct, ports⟩ := reachable_ports_kept init reached
    have step : ∀ later ∈ (op.apply store).nodes, op.label = .register later.id ∨
        ∃ node ∈ store.nodes, node.id = later.id ∧ Follows node later := by
      by_cases succeeds : (op.run store).isOk = true
      · exact follows_step ports (reachable_changes_planned init reached) (inTime succeeds)
          (apply_step distinct (fresh store mem_cons_self))
      · rw [apply_of_raises succeeds]
        exact fun later mem => .inr ⟨later, mem, rfl, follows_refl later⟩
    intro visited mem node nodeMember next nextMember sameId
    rcases step next nextMember with registers | ⟨middle, middleMember, middleId, follows⟩
    · -- A newly registered node has an id that no state of the run has seen.
      have unused := fresh visited mem next.id (generated_registers registers)
      exact absurd sameId.symm (unused.node node nodeMember)
    · rcases mem_cons.mp mem with rfl | inEarlier
      · have same : middle = node := distinct_eq distinct middleMember nodeMember
          (middleId.trans sameId)
        rw [← same]
        exact follows
      · have before := (pairwise_cons.mp ih).1 visited inEarlier node nodeMember middle
          middleMember (middleId.trans sameId)
        exact follows_trans before follows

end Runs

section Sample

local instance : PythonText := plainText

def sampleObserve : StoreOperation := .applyRuntimeObservation 1 (sampleObservation 1) 0

def sampleBegin : StoreOperation :=
  .beginPortChange 30 1 8560 [8554, 8555, 8560] 1 0
    "e3b0c44298fc1c149afbf4c8996fb92427ae41e4649b934ca495991b7852b855"

def sampleComplete : StoreOperation := .completePortChange 30 (sampleObservation 2) 0

def changingStates : List InMemoryNodeStore :=
  let observed := sampleObserve.apply { nodes := sampleNodes }
  [sampleComplete.apply (sampleBegin.apply observed), sampleBegin.apply observed, observed,
    { nodes := sampleNodes }]

theorem changing_states_run : FencedRun sampleNodes changingStates := by
  refine .operate (.operate (.operate .start sampleObserve ?_ ?_) sampleBegin ?_ ?_)
    sampleComplete ?_ ?_
  · decide
  · rintro _ changeId ⟨⟩
  · decide
  · rintro _ changeId ⟨⟩
  · decide
  · rintro _ changeId ⟨⟩
    decide +kernel

theorem node_revision_fence_changing :
    (∀ node ∈ (changingStates.headD {}).nodes, node.id = 1 → node.desiredRevision = 2) ∧
    changingStates.Pairwise fun later earlier => ∀ node ∈ earlier.nodes, ∀ next ∈ later.nodes,
      next.id = node.id → node.desiredRevision ≤ next.desiredRevision ∧
        (next.desiredRevision = node.desiredRevision → next.state = node.state ∧
          next.externalPort = node.externalPort ∧ next.cameraCapacity = node.cameraCapacity) :=
  ⟨by decide +kernel, node_revision_fence sample_nodes_initial changing_states_run⟩

/-- Neither the new nor the old configuration can be applied: the change stays prepared. -/
def strandedWorld : ControlWorld :=
  playedWorld (replicate 11 (sampleChoice 2) ++
    replicate 2 { sampleChoice 2 with fault := .before } ++
    replicate 5 (sampleChoice 2)) (changePort sampleChange) runningWorld

def drainedWorld : ControlWorld :=
  playedWorld [] (setAdministrativeState 1 .draining none) strandedWorld

def recoveredWorld : ControlWorld :=
  playedWorld (replicate 6 (sampleChoice 1)) recoverPortChanges drainedWorld

/-- The recovery takes the revision of the drained node back to the one under which the node was
to run. -/
theorem recovery_reuses_revision :
    (∃ out, Runs controlMachine 0 (changePort sampleChange) runningWorld out strandedWorld) ∧
    (∃ out, Runs controlMachine 0 (setAdministrativeState 1 .draining none) strandedWorld out
      drainedWorld) ∧
    (∃ out, Runs controlMachine 0 recoverPortChanges drainedWorld out recoveredWorld) ∧
    ∃ running ∈ runningWorld.store.getNode 1, ∃ drained ∈ drainedWorld.store.getNode 1,
      ∃ recovered ∈ recoveredWorld.store.getNode 1,
        recovered.desiredRevision < drained.desiredRevision ∧
        recovered.desiredRevision = running.desiredRevision ∧
        recovered.state ≠ running.state := by
  refine ⟨played_world_runs ?_, played_world_runs ?_, played_world_runs ?_, ?_⟩
  · decide +kernel
  · decide +kernel
  · decide +kernel
  · decide +kernel

end Sample

end RtspProxy.Nodes
