import RtspProxy.Media.Fence

/-!
# What the fence leaves behind

While the paths are closed, every path that differs from the start is in
`original`. The restoration writes these back and reads each of them, so a path
that is not as it was at the start leaves an error behind.
-/

namespace RtspProxy.Media

open Nodes Lib.Program Lib.Program.Prog List

open Reconcile (MediaPathConfig)

variable {start : PathTable} {affected : List PublicId} {trial : FenceTrial}

/-- The state differs at most in what is there under the name. -/
structure Wrote (name : PublicId) (pre post : FencedNode) : Prop where
  others : DiffersAt name pre.table post.table
  handedOut : post.handedOut = pre.handedOut
  completed : post.completed = pre.completed

theorem wrote_self (name : PublicId) (st : FencedNode) : Wrote name st st :=
  ⟨fun _ _ => rfl, rfl, rfl⟩

variable {st : FencedNode}

section Write

variable {prop : FencedNode → Prop}

theorem get_path_effect {left : FencedNode} {name : PublicId}
    {ans : Except Raised (Option MediaPathConfig)}
    (effect : FenceEffect st (.getPath name) ans left) :
    left = st ∧
      (∀ path, ans = .ok (some path) → path.name = name ∧ st.table name = some (entryOf path)) ∧
      (ans = .ok none → st.table name = none) := by
  cases effect with
  | noPath missing => exact ⟨rfl, fun _ isPath => (by cases isPath), fun _ => missing⟩
  | path isName present =>
    refine ⟨rfl, ?_, fun isNone => (by cases isNone)⟩
    intro path isPath
    cases isPath
    exact ⟨isName, present⟩
  | invalidPath present invalid =>
    exact ⟨rfl, fun _ isPath => (by cases isPath), fun isNone => (by cases isNone)⟩

theorem tries_get_path {name : PublicId} (always : trial.Always prop) (holds : prop trial.state) :
    Tries fenceTools (fun ans post => post.Always prop ∧ post.state = trial.state ∧
      (∀ path, ans = .ok (some path) →
        path.name = name ∧ trial.state.table name = some (entryOf path)) ∧
      (ans = .ok none → trial.state.table name = none)) (attempt (.getPath name)) trial := by
  refine tries_ask ?_ ?_ ?_
  · intro ans left effect
    obtain ⟨rfl, found⟩ := get_path_effect effect
    exact ⟨Trial.always_moved always holds, rfl, found⟩
  · intro err _
    exact ⟨Trial.always_failed always holds, rfl, fun _ isPath => (by cases isPath),
      fun isNone => (by cases isNone)⟩
  · intro ans left err effect _
    obtain ⟨rfl, _⟩ := get_path_effect effect
    exact ⟨Trial.always_failed always holds, rfl, fun _ isPath => (by cases isPath),
      fun isNone => (by cases isNone)⟩

theorem put_path_effect {left : FencedNode} {path : MediaPathConfig} {ans : Except Raised Unit}
    (effect : FenceEffect st (.putPath path) ans left) : Wrote path.name st left := by
  cases effect with
  | putPath others => exact ⟨others, rfl, rfl⟩

/-- A path that was written and read back is there; a write that raised may have left anything. -/
theorem tries_write_path {path : MediaPathConfig} {code : String} (always : trial.Always prop)
    (stays : ∀ post, Wrote path.name trial.state post → prop post) :
    Tries fenceTools (fun out post => post.Always prop ∧ Wrote path.name trial.state post.state ∧
      (out = .ok () → post.state.table path.name = some (entryOf path)))
      (writePath path code) trial := by
  have put : Tries fenceTools
      (Returns (fun _ post => post.Always prop ∧ Wrote path.name trial.state post.state)
        (fun _ post => post.Always prop ∧ Wrote path.name trial.state post.state))
      (attempt (.putPath path)) trial := by
    refine tries_ask ?_ ?_ ?_
    · intro ans left effect
      have wrote := put_path_effect effect
      cases effect with
      | putPath others => exact ⟨Trial.always_moved always (stays _ wrote), wrote⟩
    · intro err _
      exact ⟨Trial.always_failed always (stays _ (wrote_self _ _)), wrote_self _ _⟩
    · intro ans left err effect _
      have wrote := put_path_effect effect
      exact ⟨Trial.always_failed always (stays _ wrote), wrote⟩
  refine safe_then put ?_ ?_
  · intro err post holds
    exact ⟨holds.1, holds.2, fun isOk => (by cases isOk)⟩
  · intro _ post holds
    refine safe_and_then (tries_get_path holds.1 (stays _ holds.2)) ?_
    rintro ans last ⟨alwaysLast, same, found, _⟩
    rw [← same] at holds
    cases ans with
    | error err => exact ⟨alwaysLast, holds.2, fun isOk => (by cases isOk)⟩
    | ok observed =>
      dsimp only
      split
      · exact ⟨alwaysLast, holds.2, fun isOk => (by cases isOk)⟩
      · rename_i isPath
        obtain rfl := not_not.mp isPath
        refine ⟨alwaysLast, holds.2, fun _ => ?_⟩
        rw [same]
        exact (found _ rfl).2

end Write

def OutsideKept (start : PathTable) (affected : List PublicId) (st : FencedNode) : Prop :=
  ∀ name, name ∉ affected → st.table name = start name

/-- Every path that may differ from the start is in `original`, as it was at the start. -/
structure Fencing (start : PathTable) (affected : List PublicId) (original : List MediaPathConfig)
    (trial : FenceTrial) : Prop where
  outside : trial.Always (OutsideKept start affected)
  handedOut : trial.state.handedOut = none
  completed : trial.state.completed = false
  found : ∀ path ∈ original, path.name ∈ affected ∧ start path.name = some (entryOf path)
  others : ∀ name, name ∉ original.map (·.name) → trial.state.table name = start name

/-- What the loop has closed, and that it found nothing under the other names it is done with. -/
structure Closed (start : PathTable) (affected remaining : List PublicId)
    (original : List MediaPathConfig) (st : FencedNode) : Prop where
  closed : ∀ path ∈ original, st.table path.name = some (entryOf (fenced path))
  missing : ∀ name ∈ affected, name ∉ remaining → name ∉ original.map (·.name) → start name = none

section Closing

variable {original : List MediaPathConfig} {remaining : List PublicId}

theorem fencing_outside (fencing : Fencing start affected original trial) :
    OutsideKept start affected trial.state := by
  intro name outside
  refine fencing.others name ?_
  intro mem
  obtain ⟨path, isPath, rfl⟩ := mem_map.mp mem
  exact outside (fencing.found path isPath).1

theorem outside_wrote {name : PublicId} {pre post : FencedNode} (isAffected : name ∈ affected)
    (outside : OutsideKept start affected pre) (wrote : Wrote name pre post) :
    OutsideKept start affected post := by
  intro other isOutside
  have away : other ≠ name := by
    rintro rfl
    exact isOutside isAffected
  rw [wrote.others other away]
  exact outside other isOutside

theorem fencing_read {later : FenceTrial} (fencing : Fencing start affected original trial)
    (always : later.Always (OutsideKept start affected)) (same : later.state = trial.state) :
    Fencing start affected original later := by
  refine ⟨always, ?_, ?_, fencing.found, ?_⟩
  · rw [same]
    exact fencing.handedOut
  · rw [same]
    exact fencing.completed
  · rw [same]
    exact fencing.others

variable {configured : MediaPathConfig}

theorem fencing_write {later : FenceTrial} (fencing : Fencing start affected original trial)
    (isAffected : configured.name ∈ affected)
    (wasThere : start configured.name = some (entryOf configured))
    (always : later.Always (OutsideKept start affected))
    (wrote : Wrote configured.name trial.state later.state) :
    Fencing start affected (original ++ [configured]) later := by
  refine ⟨always, ?_, ?_, ?_, ?_⟩
  · rw [wrote.handedOut]
    exact fencing.handedOut
  · rw [wrote.completed]
    exact fencing.completed
  · intro path mem
    rcases mem_append.mp mem with pre | isLast
    · exact fencing.found path pre
    · rw [mem_singleton.mp isLast]
      exact ⟨isAffected, wasThere⟩
  · intro name notIn
    rw [map_append, mem_append, not_or] at notIn
    have away : name ≠ configured.name := fun isName => notIn.2 (by simp [isName])
    rw [wrote.others name away]
    exact fencing.others name notIn.1

theorem closed_skip {publicId : PublicId}
    (closed : Closed start affected (publicId :: remaining) original trial.state)
    (missing : publicId ∉ original.map (·.name) → start publicId = none) :
    Closed start affected remaining original trial.state := by
  refine ⟨closed.closed, ?_⟩
  intro name isAffected notLeft notIn
  by_cases isThis : name = publicId
  · rw [isThis] at notIn ⊢
    exact missing notIn
  · refine closed.missing name isAffected ?_ notIn
    rw [mem_cons, not_or]
    exact ⟨isThis, notLeft⟩

theorem closed_write {post : FencedNode}
    (closed : Closed start affected (configured.name :: remaining) original trial.state)
    (isNew : configured.name ∉ original.map (·.name))
    (wrote : Wrote configured.name trial.state post)
    (isFenced : post.table configured.name = some (entryOf (fenced configured))) :
    Closed start affected remaining (original ++ [configured]) post := by
  constructor
  · intro path mem
    rcases mem_append.mp mem with pre | isLast
    · have away : path.name ≠ configured.name := fun isName =>
        isNew (isName ▸ mem_map_of_mem pre)
      rw [wrote.others _ away]
      exact closed.closed path pre
    · rw [mem_singleton.mp isLast]
      exact isFenced
  · intro name isAffected notLeft notIn
    rw [map_append, mem_append, not_or] at notIn
    have away : name ≠ configured.name := fun isName => notIn.2 (by simp [isName])
    refine closed.missing name isAffected ?_ notIn.1
    rw [mem_cons, not_or]
    exact ⟨away, notLeft⟩

theorem open_is_new (closed : Closed start affected remaining original st)
    (isOpen : configured.maxReaders = 1)
    (present : st.table configured.name = some (entryOf configured)) :
    configured.name ∉ original.map (·.name) := by
  intro mem
  obtain ⟨path, isPath, isName⟩ := mem_map.mp mem
  have isClosed := closed.closed path isPath
  rw [isName, present] at isClosed
  have limits := congrArg PathEntry.maxReaders (Option.some.inj isClosed)
  simp only [entryOf, fenced, isOpen] at limits
  omega

/-- The loop: by induction on the names that are left. -/
theorem tries_close_paths (fencing : Fencing start affected original trial)
    (closed : Closed start affected remaining original trial.state)
    (within : ∀ name ∈ remaining, name ∈ affected) :
    Tries fenceTools (Returns
      (fun closing post => Fencing start affected closing.1 post ∧
        (closing.2 = .ok () → Closed start affected [] closing.1 post.state))
      (fun _ _ => False)) (closePaths remaining original) trial := by
  induction remaining generalizing original trial with
  | nil => exact ⟨fencing, fun _ => closed⟩
  | cons publicId rest ih =>
    have isAffected := within publicId mem_cons_self
    have withinRest : ∀ name ∈ rest, name ∈ affected :=
      fun name mem => within name (mem_cons_of_mem _ mem)
    refine safe_and_then (tries_get_path fencing.outside (fencing_outside fencing)) ?_
    rintro ans post ⟨always, same, found, missing⟩
    have fencingAfter := fencing_read fencing always same
    rw [← same] at closed found missing
    cases ans with
    | error err => exact ⟨fencingAfter, fun isOk => (by cases isOk)⟩
    | ok observed =>
      cases observed with
      | none =>
        refine ih fencingAfter (closed_skip closed ?_) withinRest
        intro notIn
        rw [← fencingAfter.others publicId notIn]
        exact missing rfl
      | some configured =>
        dsimp only
        split
        · exact ⟨fencingAfter, fun isOk => (by cases isOk)⟩
        rename_i isOpen
        obtain ⟨rfl, present⟩ := found configured rfl
        have isNew := open_is_new closed (not_not.mp isOpen) present
        have wasThere : start configured.name = some (entryOf configured) := by
          rw [← fencingAfter.others _ isNew]
          exact present
        have writes := @tries_write_path post (OutsideKept start affected)
          (fenced configured) "node_media_fence_unverified" always fun _ wrote =>
            outside_wrote isAffected (fencing_outside fencingAfter) wrote
        refine safe_and_then writes ?_
        rintro out last ⟨alwaysLast, wrote, isFenced⟩
        have fencingLast := fencing_write fencingAfter isAffected wasThere alwaysLast wrote
        cases out with
        | error err => exact ⟨fencingLast, fun isOk => (by cases isOk)⟩
        | ok _ =>
          exact ih fencingLast (closed_write closed isNew wrote (isFenced rfl)) withinRest

end Closing

/-- The paths that existed are closed to new readers, from the same sources. -/
def ClosedToReaders (start : PathTable) (affected : List PublicId) (table : PathTable) : Prop :=
  ∀ name ∈ affected, ∀ entry, start name = some entry →
    table name = some { entry with maxReaders := -1 }

/-- The fence is over its work: what may differ from the start is in `original`. -/
structure Leaving (start : PathTable) (affected : List PublicId) (original : List MediaPathConfig)
    (trial : FenceTrial) : Prop where
  outside : trial.Always (OutsideKept start affected)
  handedOut : ∀ table, trial.state.handedOut = some table → ClosedToReaders start affected table
  found : ∀ path ∈ original, path.name ∈ affected ∧ start path.name = some (entryOf path)
  others : ∀ name, name ∉ original.map (·.name) → trial.state.table name = start name

structure Left (start : PathTable) (affected : List PublicId) (out : Except Raised Unit)
    (trial : FenceTrial) : Prop where
  handedOut : ∀ table, trial.state.handedOut = some table → ClosedToReaders start affected table
  restored : trial.state.completed = false →
    (∀ name ∈ affected, trial.state.table name = start name) ∨
      out = .error (.mediaNodeProtocolError "node_media_fence_restore_failed")
  outside : trial.Always (OutsideKept start affected)

/-- Without an error so far, what is not left to restore is as it was. -/
structure Restoring (start : PathTable) (affected : List PublicId)
    (remaining : List MediaPathConfig) (restoreError : Option Raised) (begun : FencedNode)
    (trial : FenceTrial) : Prop where
  outside : trial.Always (OutsideKept start affected)
  outsideNow : OutsideKept start affected trial.state
  handedOut : trial.state.handedOut = begun.handedOut
  restored : restoreError = none →
    ∀ name, name ∉ remaining.map (·.name) → trial.state.table name = start name

section Restore

variable {original : List MediaPathConfig}

theorem fencing_leaving (fencing : Fencing start affected original trial) :
    Leaving start affected original trial := by
  refine ⟨fencing.outside, ?_, fencing.found, fencing.others⟩
  intro table isHandedOut
  rw [fencing.handedOut] at isHandedOut
  cases isHandedOut

theorem leaving_outside (leaving : Leaving start affected original trial) :
    OutsideKept start affected trial.state := by
  intro name outside
  refine leaving.others name ?_
  intro mem
  obtain ⟨path, isPath, rfl⟩ := mem_map.mp mem
  exact outside (leaving.found path isPath).1

theorem closed_to_readers
    (found : ∀ path ∈ original, path.name ∈ affected ∧ start path.name = some (entryOf path))
    (closed : Closed start affected [] original st) :
    ClosedToReaders start affected st.table := by
  intro name isAffected entry isEntry
  by_cases mem : name ∈ original.map (·.name)
  · obtain ⟨path, isPath, rfl⟩ := mem_map.mp mem
    rw [(found path isPath).2] at isEntry
    rw [closed.closed path isPath, ← Option.some.inj isEntry]
    rfl
  · rw [closed.missing name isAffected not_mem_nil mem] at isEntry
    cases isEntry

/-- The restoring loop: by induction on the paths that are left. -/
theorem tries_restore_paths {remaining : List MediaPathConfig} {restoreError : Option Raised}
    {begun : FencedNode} (restoring : Restoring start affected remaining restoreError begun trial)
    (found : ∀ path ∈ remaining, path.name ∈ affected ∧ start path.name = some (entryOf path)) :
    Tries fenceTools (Returns (fun res => Restoring start affected [] res begun)
      (fun _ _ => False)) (restorePaths remaining restoreError) trial := by
  induction remaining generalizing restoreError trial with
  | nil => exact restoring
  | cons configured rest ih =>
    obtain ⟨isAffected, wasThere⟩ := found configured mem_cons_self
    have foundRest : ∀ path ∈ rest, path.name ∈ affected ∧ start path.name = some (entryOf path) :=
      fun path mem => found path (mem_cons_of_mem _ mem)
    have writes := @tries_write_path trial (OutsideKept start affected) configured
      "node_media_fence_restore_unverified" restoring.outside fun _ wrote =>
        outside_wrote isAffected restoring.outsideNow wrote
    refine safe_and_then writes ?_
    rintro out post ⟨always, wrote, isWritten⟩
    have outsideAfter := outside_wrote isAffected restoring.outsideNow wrote
    have handedOut := wrote.handedOut.trans restoring.handedOut
    cases out with
    | error err =>
      exact ih ⟨always, outsideAfter, handedOut, fun isNone => (by cases isNone)⟩ foundRest
    | ok _ =>
      refine ih ⟨always, outsideAfter, handedOut, ?_⟩ foundRest
      intro noError name notLeft
      by_cases isThis : name = configured.name
      · rw [isThis, isWritten rfl, wasThere]
      · rw [wrote.others name isThis]
        refine restoring.restored noError name ?_
        rw [map_cons, mem_cons, not_or]
        exact ⟨isThis, notLeft⟩

theorem left_failed {begun : FencedNode} {later : FenceTrial}
    (leaving : Leaving start affected original trial) (same : begun = trial.state)
    (always : later.Always (OutsideKept start affected))
    (handedOut : later.state.handedOut = begun.handedOut) :
    Left start affected (.error (.mediaNodeProtocolError "node_media_fence_restore_failed"))
      later := by
  refine ⟨?_, fun _ => .inr rfl, always⟩
  rw [handedOut, same]
  exact leaving.handedOut

theorem for_node_effect {left : FencedNode} {ans : Except Raised Unit}
    (effect : FenceEffect st .forNodeUntil ans left) : left = st ∧ ans = .ok () := by
  cases effect
  exact ⟨rfl, rfl⟩

theorem tries_for_node {prop : FencedNode → Prop} (always : trial.Always prop)
    (holds : prop trial.state) :
    Tries fenceTools (fun _ post => post.Always prop ∧ post.state = trial.state)
      (attempt .forNodeUntil) trial := by
  refine tries_ask ?_ ?_ ?_
  · intro ans left effect
    obtain ⟨rfl, _⟩ := for_node_effect effect
    exact ⟨Trial.always_moved always holds, rfl⟩
  · intro err _
    exact ⟨Trial.always_failed always holds, rfl⟩
  · intro ans left err effect _
    obtain ⟨rfl, _⟩ := for_node_effect effect
    exact ⟨Trial.always_failed always holds, rfl⟩

theorem tries_restoring {ended : Except Raised Unit}
    (leaving : Leaving start affected original trial) :
    Tries fenceTools (Left start affected) (restoring original ended) trial := by
  refine safe_and_then (tries_for_node leaving.outside (leaving_outside leaving)) ?_
  rintro client post ⟨always, same⟩
  cases client with
  | error err => exact left_failed leaving rfl always (congrArg FencedNode.handedOut same)
  | ok _ =>
    have begun : Restoring start affected original.reverse none post.state post := by
      refine ⟨always, same ▸ leaving_outside leaving, rfl, ?_⟩
      intro _ name notLeft
      rw [same]
      refine leaving.others name ?_
      rw [map_reverse, mem_reverse] at notLeft
      exact notLeft
    have restores := tries_restore_paths begun fun path mem =>
      leaving.found path (mem_reverse.mp mem)
    refine safe_then restores (fun _ _ never => never.elim) ?_
    intro restoreError last restored
    split
    · exact left_failed leaving same restored.outside restored.handedOut
    · rename_i noError
      refine ⟨?_, fun _ => .inl ?_, restored.outside⟩
      · rw [restored.handedOut, same]
        exact leaving.handedOut
      · intro name _
        exact restored.restored (not_not.mp noError) name not_mem_nil

theorem tries_leaving {ended : BlockEnd} (isEnd : trial.state.completed = ended.completed)
    (isLeaving : Leaving start affected original trial) :
    Tries fenceTools (Left start affected) (leaving original ended) trial := by
  unfold leaving
  split
  · exact tries_restoring isLeaving
  · rename_i notRestored
    refine ⟨isLeaving.handedOut, fun notCompleted => .inl ?_, isLeaving.outside⟩
    intro name _
    refine isLeaving.others name ?_
    rw [isEnd] at notCompleted
    have empty : original = [] := not_not.mp fun some => notRestored ⟨notCompleted, some⟩
    rw [empty]
    exact not_mem_nil

end Restore

section Lease

variable {original : List MediaPathConfig} {observedAt : Datetime} {workDeadlineUnixMs : Int}

theorem tries_leased (fencing : Fencing start affected original trial)
    (closed : Closed start affected [] original trial.state) :
    Tries fenceTools (fun out post => Leaving start affected original post ∧
      post.state.completed = match out with
        | .ok ended => ended.completed
        | .error _ => false) (leased observedAt workDeadlineUnixMs original) trial := by
  have outside := fencing_outside fencing
  have metrics : Tries fenceTools
      (fun _ post => post.Always (OutsideKept start affected) ∧ post.state = trial.state)
      (attempt .nodeMetrics) trial := by
    have unchanged : ∀ {left ans}, FenceEffect trial.state .nodeMetrics ans left →
        left = trial.state := by
      intro left ans effect
      cases effect
      rfl
    refine tries_ask ?_ ?_ ?_
    · intro ans left effect
      obtain rfl := unchanged effect
      exact ⟨Trial.always_moved fencing.outside outside, rfl⟩
    · intro err _
      exact ⟨Trial.always_failed fencing.outside outside, rfl⟩
    · intro ans left err effect _
      obtain rfl := unchanged effect
      exact ⟨Trial.always_failed fencing.outside outside, rfl⟩
  refine safe_and_then metrics ?_
  rintro ans post ⟨always, same⟩
  have fencingAfter := fencing_read fencing always same
  cases ans with
  | error err => exact ⟨fencing_leaving fencingAfter, fencingAfter.completed⟩
  | ok obs =>
    dsimp only
    split
    · exact ⟨fencing_leaving fencingAfter, fencingAfter.completed⟩
    refine tries_ask ?_ (fun _ lost => lost.elim) (fun _ _ _ _ lost => lost.elim)
    intro blockEnd left effect
    cases effect with
    | block ended table others =>
      have leaving : Leaving start affected original
          (post.moved ⟨table, some post.state.table, ended.completed⟩) := by
        refine ⟨Trial.always_moved always ?_, ?_, fencingAfter.found, ?_⟩
        · intro name isOutside
          refine (others name ?_).trans (fencing_outside fencingAfter name isOutside)
          intro mem
          obtain ⟨path, isPath, rfl⟩ := mem_map.mp mem
          exact isOutside (fencingAfter.found path isPath).1
        · intro handedOut isHandedOut
          rw [← Option.some.inj isHandedOut, same]
          exact closed_to_readers fencing.found closed
        · intro name notIn
          exact (others name notIn).trans (fencingAfter.others name notIn)
      exact ⟨leaving, rfl⟩

theorem tries_fence (start : PathTable) (affected : List PublicId) :
    Tries fenceTools (Left start affected) (fence observedAt workDeadlineUnixMs affected)
      (Trial.start ⟨start, none, false⟩) := by
  have kept : OutsideKept start affected ⟨start, none, false⟩ := fun _ _ => rfl
  have idle : ∀ {later : FenceTrial}, later.Always (OutsideKept start affected) →
      later.state = ⟨start, none, false⟩ → Fencing start affected [] later := by
    intro later always same
    refine ⟨always, by rw [same], by rw [same], fun _ mem => (by cases mem), ?_⟩
    intro name _
    rw [same]
  have untouched : ∀ {later : FenceTrial} {out}, Fencing start affected [] later →
      Left start affected out later := by
    intro later out fencing
    have leaving := fencing_leaving fencing
    exact ⟨leaving.handedOut, fun _ => .inl fun name _ => fencing.others name not_mem_nil,
      fencing.outside⟩
  unfold fence
  split
  · exact untouched (idle (Trial.always_start kept) rfl)
  refine safe_and_then (tries_for_node (Trial.always_start kept) kept) ?_
  rintro client post ⟨always, same⟩
  have fencing := idle always same
  cases client with
  | error err => exact untouched fencing
  | ok _ =>
    have closed : Closed start affected affected [] post.state :=
      ⟨fun _ mem => (by cases mem), fun name isAffected notLeft =>
        absurd isAffected notLeft⟩
    refine safe_then (tries_close_paths fencing closed fun _ mem => mem)
      (fun _ _ never => never.elim) ?_
    rintro ⟨original, out⟩ last ⟨fencingLast, closedLast⟩
    cases out with
    | error err => exact tries_leaving fencingLast.completed (fencing_leaving fencingLast)
    | ok _ =>
      refine safe_and_then (tries_leased fencingLast (closedLast rfl)) ?_
      rintro ended final ⟨leaving, isEnd⟩
      cases ended with
      | ok ended => exact tries_leaving isEnd leaving
      | error err => exact tries_leaving isEnd leaving

/-- Whatever the calls and the block do, the lease is handed out over closed paths, a fence that is
left without its completion has restored the affected paths or says that it has not, and the other
paths never change. -/
theorem fence_restores {out : Except Raised Unit} {last : FenceTrial}
    (runs : Runs (attempting fenceTools) 0 (fence observedAt workDeadlineUnixMs affected)
      (Trial.start ⟨start, none, false⟩) out last) :
    (∀ table, last.state.handedOut = some table → ClosedToReaders start affected table) ∧
      (last.state.completed = false → (∀ name ∈ affected, last.state.table name = start name) ∨
          out = .error (.mediaNodeProtocolError "node_media_fence_restore_failed")) ∧
      last.Always (OutsideKept start affected) := by
  have left := runs_ensured (tries_fence start affected) runs
  exact ⟨left.handedOut, left.restored, left.outside⟩

def sampleSample : NodeMetricSample where
  activeSources := 0
  occupiedStreams := 0
  receivedBytesTotal := 0
  sentBytesTotal := 0
  pathCounters := []
  occupiedPublicIds := some []
  valid := by decide

def sampleObservation : NodeMetricObservation where
  sample := sampleSample
  process := ⟨1, 1, 0, "release"⟩
  valid := by decide

def sampleCamera : PublicId := ⟨"daaaaaaaaaaaaaaaaaaaaaaaaa", by decide⟩

def sampleTable : PathTable := fun name =>
  if name = sampleCamera then some ⟨"rtsp://camera/", 1⟩ else none

def sampleAct (st : FencedNode) :
    (request : FenceCall) → Except Raised (FenceAnswer request) × FencedNode
  | .forNodeUntil => (.ok (), st)
  | .getPath name =>
    match st.table name with
    | none => (.ok none, st)
    | some entry =>
      if limit : entry.maxReaders = -1 ∨ entry.maxReaders = 1 then
        (.ok (some ⟨name, entry.sourceUrl, entry.maxReaders, limit⟩), st)
      else (.error (.mediaNodeProtocolError "node_media_response_invalid"), st)
  | .putPath path =>
    (.ok (), { st with
      table := fun name => if name = path.name then some (entryOf path) else st.table name })
  | .nodeMetrics => (.ok sampleObservation, st)
  | .block _ =>
    (.ok ⟨.error (.other "RuntimeError"), false⟩, ⟨st.table, some st.table, false⟩)

theorem sample_acts (st : FencedNode) (request : FenceCall) :
    FenceEffect st request (sampleAct st request).1 (sampleAct st request).2 := by
  cases request with
  | forNodeUntil => exact .forNodeUntil
  | nodeMetrics => exact .nodeMetrics _
  | putPath path => exact .putPath fun _ away => if_neg away
  | block closed => exact .block ⟨_, false⟩ _ fun _ _ => rfl
  | getPath name =>
    dsimp only [sampleAct]
    split
    · rename_i missing
      exact .noPath missing
    · rename_i entry present
      split
      · exact .path rfl present
      · rename_i invalid
        exact .invalidPath present invalid

def sampleRun : Except Raised Unit × FenceTrial :=
  execute sampleAct (fun _ => .other "OSError") (fence 0 1 [sampleCamera]) []
    (Trial.start ⟨sampleTable, none, false⟩)

theorem sample_run_runs : Runs (attempting fenceTools) 0 (fence 0 1 [sampleCamera])
    (Trial.start ⟨sampleTable, none, false⟩) sampleRun.1 sampleRun.2 :=
  execute_runs_unfailing sample_acts _ _

/-- No call fails and the block raises: the path is open again. -/
theorem fence_restores_after_block :
    sampleRun.1 = .error (.other "RuntimeError") ∧
      (∀ name ∈ [sampleCamera], sampleRun.2.state.table name = sampleTable name) := by
  have raised : sampleRun.1 = .error (.other "RuntimeError") := by decide +kernel
  refine ⟨raised, ?_⟩
  rcases (fence_restores sample_run_runs).2.1 (by decide +kernel) with restored | failed
  · exact restored
  · rw [raised] at failed
    cases failed

end Lease

end RtspProxy.Media
