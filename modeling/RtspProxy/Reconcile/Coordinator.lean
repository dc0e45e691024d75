import RtspProxy.Reconcile.System

/-!
# `ReconcileCoordinator`

One pass over the incomplete moves and the running nodes. The coordinator sees
its two reconcilers through `resume` and `reconcile_node`, each of which
returns or raises; four families of exceptions are counted and the pass goes
on, any other one ends it.
-/

namespace RtspProxy.Reconcile

open Nodes Lib Lib.Program Lib.Program.Prog

structure ReconcileCycleReport where
  completedMoves : Nat := 0
  reconciledNodes : Nat := 0
  retryableFailures : Nat := 0
  deriving DecidableEq

inductive CoordinatorCall
  | cancelled
  | listIncompleteCameraMoves
  | listNodes
  | resume (moveId : UUID)
  | reconcileNode (nodeId : UUID)

abbrev CoordinatorAnswer : CoordinatorCall → Type
  | .cancelled => Bool
  | .listIncompleteCameraMoves => List CameraMove
  | .listNodes => List MediaNode
  | .resume _ => CameraMove
  | .reconcileNode _ => CameraReconciler.ReconcileReport

abbrev CoordinatorProgram := Prog CoordinatorCall CoordinatorAnswer Raised

/-- `ReconcileRetry`, `MediaNodeError`, `CameraLifecycleConflict` with its two subclasses, and
`NodeLifecycleBusy`. -/
def isRetryable : Raised → Bool
  | .reconcileRetry _ | .mediaNodeError => true
  | .node (.cameraLifecycleConflict _) | .node (.cameraRevisionConflict ..)
  | .node (.cameraMoveExpired _) | .node (.nodeLifecycleBusy _) => true
  | _ => false

namespace ReconcileCoordinator

def send (req : CoordinatorCall) : CoordinatorProgram (CoordinatorAnswer req) :=
  ask req

def continueOrCancel : CoordinatorProgram Unit := do
  if ← send .cancelled then raise (.reconcileCancelled "camera_reconcile_cancelled")

/-- The `try` statement around one move or node: the counters after it. -/
def counted {Value : Type} (report : ReconcileCycleReport) (attempt : CoordinatorProgram Value)
    (count : Value → ReconcileCycleReport) : CoordinatorProgram ReconcileCycleReport :=
  handle
    (do
      let res ← attempt
      return count res)
    fun err =>
      if isRetryable err then
        return { report with retryableFailures := report.retryableFailures + 1 }
      else raise err

def resumeMoves : List CameraMove → ReconcileCycleReport → CoordinatorProgram ReconcileCycleReport
  | [], report => return report
  | move :: rest, report => do
      continueOrCancel
      let report ← counted report (send (.resume move.id)) fun res =>
        if res.state = .complete then
          { report with completedMoves := report.completedMoves + 1 }
        else report
      resumeMoves rest report

def reconcileNodes : List MediaNode → ReconcileCycleReport → CoordinatorProgram ReconcileCycleReport
  | [], report => return report
  | node :: rest, report => do
      continueOrCancel
      if node.runtimeState ≠ .running then
        reconcileNodes rest report
      else
        let report ← counted report (send (.reconcileNode node.id)) fun _ =>
          { report with reconciledNodes := report.reconciledNodes + 1 }
        reconcileNodes rest report

def runOnce : CoordinatorProgram ReconcileCycleReport := do
  let moves ← send .listIncompleteCameraMoves
  let report ← resumeMoves moves {}
  let nodes ← send .listNodes
  reconcileNodes nodes report

inductive Attempt
  | move (moveId : UUID)
  | node (nodeId : UUID)
  deriving DecidableEq

/-- What the store lists, and the exception that the processing of each attempt raises, if any:
`failures index` is that of the attempt made after `index` others. -/
structure Pass where
  moves : List CameraMove
  nodes : List MediaNode
  failures : Nat → Option Raised

namespace Pass

def moveAttempts (pass : Pass) : List Attempt :=
  pass.moves.map fun move => .move move.id

def nodeAttempts (nodes : List MediaNode) : List Attempt :=
  (nodes.filter fun node => node.runtimeState = .running).map fun node => .node node.id

def listed (pass : Pass) : List Attempt :=
  pass.moveAttempts ++ nodeAttempts pass.nodes

/-- How an attempt ends: with the exception of the pattern, else with some result. -/
def Ends (pass : Pass) {Value : Type} (index : Nat) (ans : Except Raised Value) : Prop :=
  match pass.failures index with
  | some err => ans = .error err
  | none => ∃ value, ans = .ok value

def machine (pass : Pass) : Machine CoordinatorCall CoordinatorAnswer Raised (List Attempt) where
  exec _ made req ans post :=
    match req, ans with
    | .cancelled, ans => ans = .ok false ∧ post = made
    | .listIncompleteCameraMoves, ans => ans = .ok pass.moves ∧ post = made
    | .listNodes, ans => ans = .ok pass.nodes ∧ post = made
    | .resume moveId, ans => pass.Ends made.length ans ∧ post = made ++ [.move moveId]
    | .reconcileNode nodeId, ans =>
      pass.Ends made.length ans ∧ post = made ++ [.node nodeId]
  leave _ made := made

end Pass

section Passes

variable {pass : Pass} {tid : Nat}

/-- None of the attempts in this range fails with an exception that ends the pass. -/
def Tolerates (pass : Pass) (start count : Nat) : Prop :=
  ∀ index < count, ∀ err, pass.failures (start + index) = some err → isRetryable err = true

/-- The loop makes all the attempts, or all up to the first one whose exception is not counted. -/
def Proceeds (pass : Pass) (made items : List Attempt) :
    Except Raised ReconcileCycleReport → List Attempt → Prop :=
  Returns (fun _ post => post = made ++ items ∧ Tolerates pass made.length items.length)
    fun err post => ∃ count < items.length, post = made ++ items.take (count + 1) ∧
      Tolerates pass made.length count ∧ pass.failures (made.length + count) = some err ∧
      isRetryable err = false

theorem tolerates_succ {start count : Nat}
    (first : ∀ err, pass.failures start = some err → isRetryable err = true)
    (rest : Tolerates pass (start + 1) count) : Tolerates pass start (count + 1) := by
  intro index bound err failed
  cases index with
  | zero => exact first err failed
  | succ index =>
    apply rest index (by omega) err
    rw [← failed]
    congr 1
    omega

variable {out : Except Raised ReconcileCycleReport}

variable {item : Attempt}

theorem proceeds_cons {made items : List Attempt} {post : List Attempt}
    (first : ∀ err, pass.failures made.length = some err → isRetryable err = true)
    (rest : Proceeds pass (made ++ [item]) items out post) :
    Proceeds pass made (item :: items) out post := by
  have lengths : (made ++ [item]).length = made.length + 1 := by simp
  cases out with
  | ok report =>
    obtain ⟨isAfter, tolerates⟩ := rest
    rw [lengths] at tolerates
    refine ⟨by simpa using isAfter, ?_⟩
    exact tolerates_succ first tolerates
  | error err =>
    obtain ⟨count, bound, isAfter, tolerates, failed, ends⟩ := rest
    rw [lengths] at tolerates failed
    refine ⟨count + 1, by simpa using bound, by simpa using isAfter,
      tolerates_succ first tolerates, ?_, ends⟩
    rw [← failed]
    congr 1
    omega

theorem ensures_continue (made : List Attempt) :
    Ensures pass.machine tid (Returns (fun _ post => post = made) fun _ _ => False)
      continueOrCancel made := by
  rintro cur rfl
  refine ⟨trivial, ?_⟩
  rintro ans post ⟨rfl, rfl⟩
  rfl

theorem ensures_counted {req : CoordinatorCall} {made : List Attempt}
    (attempts : ∀ ans post, pass.machine.exec tid made req ans post →
      pass.Ends made.length ans ∧ post = made ++ [item])
    (report : ReconcileCycleReport) (count : CoordinatorAnswer req → ReconcileCycleReport) :
    Ensures pass.machine tid
      (Returns (fun _ post => post = made ++ [item] ∧
          ∀ err, pass.failures made.length = some err → isRetryable err = true)
        fun err post => post = made ++ [item] ∧ pass.failures made.length = some err ∧
          isRetryable err = false)
      (counted report (send req) count) made := by
  refine safe_handle (fun err post => post = made ++ [item] ∧
    pass.failures made.length = some err) ?_ ?_
  · have asked : Ensures pass.machine tid
        (Returns (fun _ post => post = made ++ [item] ∧ pass.failures made.length = none)
          fun err post => post = made ++ [item] ∧ pass.failures made.length = some err)
        (send req) made := by
      apply ensures_ask
      intro ans post executed
      obtain ⟨ends, rfl⟩ := attempts ans post executed
      unfold Pass.Ends at ends
      cases failed : pass.failures made.length with
      | none =>
        rw [failed] at ends
        obtain ⟨value, rfl⟩ := ends
        exact ⟨rfl, rfl⟩
      | some err =>
        rw [failed] at ends
        rw [ends]
        exact ⟨rfl, rfl⟩
    refine safe_bind asked ?_
    rintro res post ⟨rfl, succeeded⟩
    refine safe_pure ⟨rfl, ?_⟩
    intro err failed
    rw [succeeded] at failed
    cases failed
  · rintro err post ⟨rfl, failed⟩
    cases retryable : isRetryable err with
    | true =>
      refine safe_pure ⟨rfl, ?_⟩
      intro other otherFailed
      rw [failed] at otherFailed
      cases otherFailed
      exact retryable
    | false => exact safe_raise ⟨rfl, failed, retryable⟩

theorem ensures_attempt {req : CoordinatorCall} {items made : List Attempt}
    {report : ReconcileCycleReport} {count : CoordinatorAnswer req → ReconcileCycleReport}
    {rest : ReconcileCycleReport → CoordinatorProgram ReconcileCycleReport}
    (attempts : ∀ ans post, pass.machine.exec tid made req ans post →
      pass.Ends made.length ans ∧ post = made ++ [item])
    (continues : ∀ counters, Ensures pass.machine tid (Proceeds pass (made ++ [item]) items)
      (rest counters) (made ++ [item])) :
    Ensures pass.machine tid (Proceeds pass made (item :: items))
      (counted report (send req) count >>= rest) made := by
  refine safe_then (ensures_counted attempts report count) ?_ ?_
  · rintro err post ⟨rfl, failed, ends⟩
    refine ⟨0, by simp, by simp, ?_, failed, ends⟩
    intro index bound
    omega
  · rintro counters post ⟨rfl, first⟩
    refine safe_weaken (continues counters) ?_
    intro out post proceeds
    exact proceeds_cons first proceeds

theorem proceeds_nil (made : List Attempt) (report : ReconcileCycleReport) :
    Proceeds pass made [] (.ok report) made := by
  refine ⟨by simp, ?_⟩
  intro index bound
  cases bound

theorem ensures_resume_moves (moves : List CameraMove) (report : ReconcileCycleReport)
    (made : List Attempt) :
    Ensures pass.machine tid (Proceeds pass made (moves.map fun move => .move move.id))
      (resumeMoves moves report) made := by
  induction moves generalizing report made with
  | nil => exact safe_pure (proceeds_nil made report)
  | cons move rest ih =>
    refine safe_then (ensures_continue made) (fun _ _ => False.elim) ?_
    rintro _ post rfl
    apply ensures_attempt
    · rintro ans post ⟨ends, rfl⟩
      exact ⟨ends, rfl⟩
    · intro counters
      exact ih counters _

theorem ensures_reconcile_nodes (nodes : List MediaNode) (report : ReconcileCycleReport)
    (made : List Attempt) :
    Ensures pass.machine tid (Proceeds pass made (Pass.nodeAttempts nodes))
      (reconcileNodes nodes report) made := by
  induction nodes generalizing report made with
  | nil => exact safe_pure (proceeds_nil made report)
  | cons node rest ih =>
    refine safe_then (ensures_continue made) (fun _ _ => False.elim) ?_
    rintro _ post rfl
    by_cases running : node.runtimeState = .running
    · rw [if_neg (not_not_intro running)]
      have split : Pass.nodeAttempts (node :: rest) = .node node.id :: Pass.nodeAttempts rest := by
        simp [Pass.nodeAttempts, running]
      rw [split]
      apply ensures_attempt
      · rintro ans post ⟨ends, rfl⟩
        exact ⟨ends, rfl⟩
      · intro counters
        exact ih counters _
    · rw [if_pos running]
      have split : Pass.nodeAttempts (node :: rest) = Pass.nodeAttempts rest := by
        simp [Pass.nodeAttempts, running]
      rw [split]
      exact ih report _

/-- The two loops one after the other are one loop over everything listed. -/
theorem proceeds_append {made first second : List Attempt} {post : List Attempt}
    (tolerated : Tolerates pass made.length first.length)
    (rest : Proceeds pass (made ++ first) second out post) :
    Proceeds pass made (first ++ second) out post := by
  induction first generalizing made with
  | nil => simpa using rest
  | cons item items ih =>
    apply proceeds_cons
    · intro err failed
      exact tolerated 0 (by simp) err failed
    · apply ih
      · intro index bound err failed
        apply tolerated (index + 1) (by simpa using bound) err
        rw [← failed, List.length_append, List.length_singleton]
        congr 1
        omega
      · simpa using rest

theorem ensures_run_once :
    Ensures pass.machine tid (Proceeds pass [] pass.listed) runOnce [] := by
  have listsMoves : Ensures pass.machine tid
      (Returns (fun moves post => moves = pass.moves ∧ post = []) fun _ _ => False)
      (send .listIncompleteCameraMoves) [] := by
    apply ensures_ask
    rintro ans post ⟨rfl, rfl⟩
    exact ⟨rfl, rfl⟩
  have listsNodes (made : List Attempt) : Ensures pass.machine tid
      (Returns (fun nodes post => nodes = pass.nodes ∧ post = made) fun _ _ => False)
      (send .listNodes) made := by
    apply ensures_ask
    rintro ans post ⟨rfl, rfl⟩
    exact ⟨rfl, rfl⟩
  refine safe_then listsMoves (fun _ _ => False.elim) ?_
  rintro moves post ⟨rfl, rfl⟩
  refine safe_then (ensures_resume_moves pass.moves {} []) ?_ ?_
  · rintro err post ⟨count, bound, isAfter, tolerates, failed, ends⟩
    refine ⟨count, ?_, ?_, tolerates, failed, ends⟩
    · simp only [Pass.listed, Pass.moveAttempts, List.length_append]
      omega
    · rw [isAfter, Pass.listed, Pass.moveAttempts, List.take_append_of_le_length (by omega)]
  · rintro report post ⟨rfl, tolerates⟩
    refine safe_then (listsNodes _) (fun _ _ => False.elim) ?_
    rintro nodes post ⟨rfl, rfl⟩
    refine safe_weaken (ensures_reconcile_nodes pass.nodes report _) ?_
    intro out post proceeds
    exact proceeds_append tolerates proceeds

theorem answers_exist (req : CoordinatorCall) : Nonempty (CoordinatorAnswer req) := by
  cases req with
  | cancelled => exact ⟨false⟩
  | listIncompleteCameraMoves => exact ⟨[]⟩
  | listNodes => exact ⟨[]⟩
  | resume moveId =>
    exact ⟨{ id := moveId, cameraId := 0, sourceNodeId := 0, targetNodeId := 1
             publicId := ⟨"aaaaaaaaaaaaaaaaaaaaaaaaaa", by decide⟩, sourceUrl := ""
             sourceGeneration := 1, targetGeneration := 2, desiredRevision := 1
             force := false, confirmedDisconnectReaders := 0, sourcePort := none
             targetPort := none, sourceEndpoint := none, targetEndpoint := none
             expiresAt := 0 }⟩
  | reconcileNode nodeId =>
    exact ⟨{ nodeId := nodeId, applied := 0, unchanged := 0, deletedOrphans := 0 }⟩

theorem call_answered (made : List Attempt) (req : CoordinatorCall) :
    ∃ ans post, pass.machine.exec tid made req ans post := by
  have ends : ∃ ans : Except Raised (CoordinatorAnswer req), pass.Ends made.length ans := by
    obtain ⟨value⟩ := answers_exist req
    unfold Pass.Ends
    cases pass.failures made.length with
    | none => exact ⟨.ok value, value, rfl⟩
    | some err => exact ⟨.error err, rfl⟩
  cases req with
  | cancelled => exact ⟨_, _, rfl, rfl⟩
  | listIncompleteCameraMoves => exact ⟨_, _, rfl, rfl⟩
  | listNodes => exact ⟨_, _, rfl, rfl⟩
  | resume moveId =>
    obtain ⟨ans, holds⟩ := ends
    exact ⟨ans, _, holds, rfl⟩
  | reconcileNode nodeId =>
    obtain ⟨ans, holds⟩ := ends
    exact ⟨ans, _, holds, rfl⟩

end Passes

/-- A pass always ends, and it attempts everything that is listed exactly where no attempt but the
last one fails with an exception that is not counted. -/
theorem run_once_attempts_every_listed (pass : Pass) :
    (∃ out attempted, Runs pass.machine 0 runOnce [] out attempted) ∧
    ∀ out attempted, Runs pass.machine 0 runOnce [] out attempted → (attempted = pass.listed ↔
        ∀ index err, index + 1 < pass.listed.length → pass.failures index = some err →
          isRetryable err = true) := by
  refine ⟨runs_total call_answered runOnce [], ?_⟩
  intro out attempted ran
  have proceeds := runs_ensured ensures_run_once ran
  cases out with
  | ok report =>
    obtain ⟨isAll, tolerates⟩ := proceeds
    refine ⟨fun _ index err bound failed => ?_, fun _ => by simpa using isAll⟩
    exact tolerates index (by omega) err (by simpa using failed)
  | error err =>
    obtain ⟨count, bound, isPart, tolerates, failed, ends⟩ := proceeds
    rw [List.nil_append] at isPart
    rw [List.length_nil, Nat.zero_add] at failed
    constructor
    · intro isAll index other notLast otherFailed
      have isLast : count + 1 = pass.listed.length := by
        have lengths := congrArg List.length (isPart.symm.trans isAll)
        rw [List.length_take] at lengths
        omega
      exact tolerates index (by omega) other (by simpa using otherFailed)
    · intro tolerated
      have isLast : ¬count + 1 < pass.listed.length := by
        intro notLast
        rw [tolerated count err notLast failed] at ends
        cases ends
      rw [isPart, List.take_of_length_le (by omega)]

section Vanished

variable [PythonText] {tid : Nat} {w : World}

/-- The attempt ends with this exception, unless it is cancelled. -/
def RaisesUnlessCancelled {Value : Type} (err : Raised) (out : Except Raised Value) : Prop :=
  out = .error err ∨ out = .error (.reconcileCancelled "camera_reconcile_cancelled")

theorem ensures_continue_or_cancel {Value : Type} {err : Raised} {rest : Program Value}
    (continues : Ensures Reconcile.machine tid (fun out _ => RaisesUnlessCancelled err out)
      rest w) :
    Ensures Reconcile.machine tid (fun out _ => RaisesUnlessCancelled err out)
      (Reconcile.continueOrCancel >>= fun _ => rest) w := by
  rintro cur rfl
  refine ⟨trivial, ?_⟩
  rintro ans post ⟨-, choice, resp⟩
  cases resp
  cases choice.cancelled with
  | true => exact .inr rfl
  | false => exact continues

theorem vanished_node_raises {nodeId : UUID} {post : World}
    {out : Except Raised CameraReconciler.ReconcileReport}
    (gone : ∀ node ∈ w.store.nodes, node.id ≠ nodeId)
    (ran : Runs Reconcile.machine tid (CameraReconciler.reconcileNode nodeId) w out post) :
    RaisesUnlessCancelled (.node (.nodeNotFound "node_not_found")) out := by
  refine runs_ensured (ensures_continue_or_cancel ?_) ran
  rintro cur rfl
  refine ⟨trivial, ?_⟩
  rintro ans post ⟨-, choice, resp⟩
  simp only [respond, if_pos gone] at resp
  cases resp
  exact .inl rfl

end Vanished

section Sample

local instance : PythonText := plainText

def listedWorld : World := emptyWorld sampleNodes

/-- Before it gets to the first one, another client has stopped and deleted it. -/
def deletedWorld : World :=
  (((listedWorld.operated (.requestStop 1 none)).operated
    (.applyRuntimeObservation 1 { state := .stopped, health := .unknown } 0)).operated
    (.requestNodeDelete 1 none)).operated (.finalizeNodeDelete 1)

/-- The pass over the two nodes in which the first attempt fails this way. -/
def failingPass (err : Raised) : Pass where
  moves := listedWorld.store.cameraMoves
  nodes := listedWorld.store.nodes
  failures index := if index = 0 then some err else none

theorem failing_pass_continues :
    Runs (failingPass .mediaNodeError).machine 0 runOnce []
      (.ok { reconciledNodes := 1, retryableFailures := 1 }) [.node 1, .node 2] := by
  refine .call ⟨rfl, rfl⟩ (.call ⟨rfl, rfl⟩ (.call ⟨rfl, rfl⟩ (.call ⟨rfl, rfl⟩ ?_)))
  refine .call ⟨rfl, rfl⟩ (.call ⟨⟨?_, rfl⟩, rfl⟩ (.done _ _))
  exact { nodeId := 2, applied := 0, unchanged := 0, deletedOrphans := 0 }

theorem run_once_attempts_every_listed_retried :
    [.node 1, .node 2] = (failingPass .mediaNodeError).listed := by
  apply ((run_once_attempts_every_listed _).2 _ _ failing_pass_continues).mpr
  intro index err _ failed
  cases index with
  | zero =>
    cases failed
    rfl
  | succ index => cases failed

theorem failing_pass_ends :
    Runs (failingPass (.node (.nodeNotFound "node_not_found"))).machine 0 runOnce []
      (.error (.node (.nodeNotFound "node_not_found"))) [.node 1] :=
  .call ⟨rfl, rfl⟩ (.call ⟨rfl, rfl⟩ (.call ⟨rfl, rfl⟩ (.call ⟨rfl, rfl⟩ (.done _ _))))

/-- The first node is deleted after it was listed; its guard raises, and the second node is listed
but not attempted. -/
theorem vanished_node_ends_pass :
    (∀ out post, Runs Reconcile.machine 0 (CameraReconciler.reconcileNode 1) deletedWorld
      out post → RaisesUnlessCancelled (.node (.nodeNotFound "node_not_found")) out) ∧
    ¬∀ pass : Pass, (∀ index code, pass.failures index ≠ some (.reconcileCancelled code)) →
      ∀ out attempted, Runs pass.machine 0 runOnce [] out attempted →
        ∀ item ∈ pass.listed, item ∈ attempted := by
  constructor
  · intro out post ran
    exact vanished_node_raises (by decide) ran
  · intro isolates
    have attempted := isolates (failingPass (.node (.nodeNotFound "node_not_found"))) ?_ _ _
      failing_pass_ends (.node 2) (by decide)
    · revert attempted
      decide
    · intro index code cancelled
      cases index with
      | zero => cases cancelled
      | succ index => cases cancelled

end Sample

end ReconcileCoordinator

end RtspProxy.Reconcile
