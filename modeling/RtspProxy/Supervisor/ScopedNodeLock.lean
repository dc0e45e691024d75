import RtspProxy.Nodes.Records
import RtspProxy.Lib.Dict

/-!
# The lock of one node

`_ScopedNodeLock` keeps the supervisor's threads apart node by node. The locks are
made on demand: a table under a guard maps each node to its lock and to the number
of threads that refer to it, and the last one to leave takes the entry away. The
model runs every line as a step of its own, so that other threads come in between
any two of them; acquiring a lock may time out and the deadline may raise.
-/

namespace RtspProxy.Supervisor

open Nodes Lib Dict List Option

/-- A `Lock` object, named by when it was made. -/
abbrev LockId := Nat

/-- The line a thread is at, with the local variables it has there. -/
inductive Position
  -- `__enter__`
  | enter
  | lookUp
  | count (lock : LockId) (refs : Nat)
  | keep (lock : LockId)
  | leaveGuard (lock : LockId)
  | remaining (lock : LockId)
  | acquire (lock : LockId)
  -- the body of the `with` statement
  | inside
  -- `__exit__`
  | exit
  | release (lock : LockId)
  -- `_drop_reference`, and the exception its caller raises afterwards
  | drop (lock : LockId) (err : Option String)
  | recall (lock : LockId) (err : Option String)
  | uncount (lock : LockId) (refs : Nat) (err : Option String)
  | dropGuard (err : Option String)
  | forget (err : Option String)
  | left (err : Option String)
  -- an assertion, a missing key or the release of a free lock
  | failed
  deriving DecidableEq

/-- One use of `_ScopedNodeLock` by a thread. -/
structure ScopedNodeLock where
  nodeId : UUID
  lock : Option LockId := none
  position : Position := .enter
  deriving DecidableEq

/-- `_node_locks_guard`, `_node_locks`, and which thread has acquired which lock. -/
structure NodeLocks where
  guard : Option Nat
  locks : Dict UUID (LockId × Nat)
  owner : LockId → Option Nat
  created : Nat

/-- How a line ends that need not simply go on. -/
inductive Event
  | proceeds
  | timesOut
  | raises (err : String)
  deriving DecidableEq

namespace NodeLocks

def setOwner (shared : NodeLocks) (lock : LockId) (owner : Option Nat) : NodeLocks :=
  { shared with owner := fun other => if other = lock then owner else shared.owner other }

end NodeLocks

namespace ScopedNodeLock

def moveTo (scope : ScopedNodeLock) (position : Position) : ScopedNodeLock := { scope with position }

def advance (tid : Nat) (event : Event) (shared : NodeLocks) (scope : ScopedNodeLock) :
    Option (NodeLocks × ScopedNodeLock) :=
  match scope.position, event with
  | .enter, .proceeds =>
    if shared.guard = none then some ({ shared with guard := some tid }, scope.moveTo .lookUp)
    else none
  | .lookUp, .proceeds =>
    -- The default of `get` is built whether or not the node has an entry.
    match shared.locks.get scope.nodeId with
    | some (lock, refs) =>
      some ({ shared with created := shared.created + 1 }, scope.moveTo (.count lock refs))
    | none =>
      some ({ shared with created := shared.created + 1 }, scope.moveTo (.count shared.created 0))
  | .count lock refs, .proceeds =>
    some ({ shared with locks := shared.locks.set scope.nodeId (lock, refs + 1) },
      scope.moveTo (.keep lock))
  | .keep lock, .proceeds =>
    some (shared, { scope with lock := some lock, position := .leaveGuard lock })
  | .leaveGuard lock, .proceeds =>
    some ({ shared with guard := none }, scope.moveTo (.remaining lock))
  | .remaining lock, .proceeds => some (shared, scope.moveTo (.acquire lock))
  | .remaining lock, .raises err => some (shared, scope.moveTo (.drop lock (some err)))
  | .acquire lock, .proceeds =>
    if shared.owner lock = none then
      some (shared.setOwner lock (some tid), scope.moveTo .inside)
    else none
  | .acquire lock, .timesOut =>
    some (shared, scope.moveTo (.drop lock (some "node_runtime_operation_timeout")))
  | .acquire lock, .raises err => some (shared, scope.moveTo (.drop lock (some err)))
  | .inside, .proceeds => some (shared, scope.moveTo .exit)
  | .exit, .proceeds =>
    match scope.lock with
    | some lock => some (shared, scope.moveTo (.release lock))
    | none => some (shared, scope.moveTo .failed)
  | .release lock, .proceeds =>
    if shared.owner lock = none then some (shared, scope.moveTo .failed)
    else some (shared.setOwner lock none, scope.moveTo (.drop lock none))
  | .drop lock err, .proceeds =>
    if shared.guard = none then
      some ({ shared with guard := some tid }, scope.moveTo (.recall lock err))
    else none
  | .recall lock err, .proceeds =>
    match shared.locks.get scope.nodeId with
    | some (cur, refs) =>
      if cur = lock ∧ 0 < refs then
        some (shared, scope.moveTo (.uncount lock refs err))
      else some ({ shared with guard := none }, scope.moveTo .failed)
    | none => some ({ shared with guard := none }, scope.moveTo .failed)
  | .uncount lock refs err, .proceeds =>
    if refs = 1 then
      some ({ shared with locks := shared.locks.pop scope.nodeId }, scope.moveTo (.dropGuard err))
    else
      some ({ shared with locks := shared.locks.set scope.nodeId (lock, refs - 1) },
        scope.moveTo (.dropGuard err))
  | .dropGuard err, .proceeds =>
    some ({ shared with guard := none }, scope.moveTo (.forget err))
  | .forget err, .proceeds => some (shared, { scope with lock := none, position := .left err })
  | _, _ => none

def reference (scope : ScopedNodeLock) : Option LockId :=
  match scope.position with
  | .keep lock | .leaveGuard lock | .remaining lock | .acquire lock | .release lock
  | .drop lock _ | .recall lock _ | .uncount lock _ _ => some lock
  | .inside | .exit => scope.lock
  | _ => none

def refersTo (node : UUID) (scope : ScopedNodeLock) : Bool :=
  decide (scope.nodeId = node) && scope.reference.isSome

/-- The lock that the thread has acquired and not released. -/
def holds (scope : ScopedNodeLock) : Option LockId :=
  match scope.position with
  | .inside | .exit => scope.lock
  | .release lock => some lock
  | _ => none

def guarded (scope : ScopedNodeLock) : Bool :=
  match scope.position with
  | .lookUp | .count _ _ | .keep _ | .leaveGuard _ | .recall _ _ | .uncount _ _ _ | .dropGuard _ =>
    true
  | _ => false

end ScopedNodeLock

/-- The shared table and every use of it so far. -/
structure NodeLockState where
  shared : NodeLocks
  scopes : List ScopedNodeLock

/-- A thread begins to enter, or one of those there runs a line. -/
inductive NodeLockStep (st : NodeLockState) : NodeLockState → Prop
  | begin (nodeId : UUID) : NodeLockStep st { st with scopes := st.scopes ++ [{ nodeId }] }
  | line (tid : Nat) (event : Event) (scope : ScopedNodeLock)
      (at_ : st.scopes[tid]? = some scope) (shared : NodeLocks) (next : ScopedNodeLock)
      (ran : scope.advance tid event st.shared = some (shared, next)) :
      NodeLockStep st ⟨shared, st.scopes.set tid next⟩

def NodeLockState.init : NodeLockState where
  shared := { guard := none, locks := .empty, owner := fun _ => none, created := 0 }
  scopes := []

inductive NodeLockReachable : NodeLockState → Prop
  | init : NodeLockReachable .init
  | step {st next : NodeLockState} (reached : NodeLockReachable st)
      (step : NodeLockStep st next) : NodeLockReachable next

variable {shared : NodeLocks}

namespace ScopedNodeLock

def LineHolds (shared : NodeLocks) (scope : ScopedNodeLock) : Prop :=
  match scope.position with
  | .count lock refs =>
    shared.locks.get scope.nodeId = some (lock, refs) ∨
      (shared.locks.get scope.nodeId = none ∧ refs = 0)
  | .leaveGuard lock | .remaining lock | .acquire lock | .release lock => scope.lock = some lock
  | .inside | .exit => scope.lock ≠ none
  | .uncount lock refs _ =>
    shared.locks.get scope.nodeId = some (lock, refs) ∧ 0 < refs
  | .failed => False
  | _ => True

/-- What holds of one thread, whatever the others do. -/
structure Own (shared : NodeLocks) (tid : Nat) (scope : ScopedNodeLock) : Prop where
  guard : scope.guarded = true ↔ shared.guard = some tid
  held : ∀ lock, scope.holds = some lock → shared.owner lock = some tid
  line : scope.LineHolds shared

/-- What the others leave alone. -/
structure Respects (tid : Nat) (shared post : NodeLocks) : Prop where
  guard : post.guard = some tid ↔ shared.guard = some tid
  locks : shared.guard = some tid → post.locks = shared.locks
  owner : ∀ lock, shared.owner lock = some tid → post.owner lock = some tid

theorem own_respected {tid : Nat} {post : NodeLocks} {scope : ScopedNodeLock}
    (own : Own shared tid scope) (respects : Respects tid shared post) :
    Own post tid scope where
  guard := own.guard.trans respects.guard.symm
  held lock holds := respects.owner lock (own.held lock holds)
  line := by
    have line := own.line
    by_cases guarded : scope.guarded = true
    · have same := respects.locks (own.guard.mp guarded)
      unfold LineHolds at line ⊢
      rw [same]
      exact line
    · -- Only the lines under the guard say something about the table.
      unfold LineHolds at line ⊢
      unfold ScopedNodeLock.guarded at guarded
      split <;> simp_all

variable {lock : LockId}

section Advance

variable {tid : Nat} {event : Event} {shared post : NodeLocks} {scope next : ScopedNodeLock}

variable {other : Nat}

theorem respects_same (guard : post.guard = shared.guard)
    (locks : post.locks = shared.locks) (owner : post.owner = shared.owner) :
    Respects other shared post :=
  ⟨by rw [guard], fun _ => locks, fun _ owned => by rw [owner]; exact owned⟩

/-- Neither taking nor leaving the guard, nor changing the table under it, reaches another thread. -/
theorem respects_guard (differ : other ≠ tid) (pre : shared.guard = none ∨ shared.guard = some tid)
    (guard : post.guard = none ∨ post.guard = some tid) (owner : post.owner = shared.owner) :
    Respects other shared post := by
  have notBefore : shared.guard ≠ some other := by
    rcases pre with isNone | isThread
    · simp [isNone]
    · simpa [isThread] using differ.symm
  have notAfter : post.guard ≠ some other := by
    rcases guard with isNone | isThread
    · simp [isNone]
    · simpa [isThread] using differ.symm
  refine ⟨⟨fun isOther => absurd isOther notAfter, fun isOther => absurd isOther notBefore⟩,
    fun isOther => absurd isOther notBefore, ?_⟩
  intro lock owned
  rw [owner]
  exact owned

theorem respects_owner (differ : other ≠ tid) (owner : Option Nat)
    (owned : shared.owner lock = none ∨ shared.owner lock = some tid) :
    Respects other shared (shared.setOwner lock owner) := by
  refine ⟨Iff.rfl, fun _ => rfl, ?_⟩
  intro otherLock isOther
  have notSame : otherLock ≠ lock := by
    rintro rfl
    rw [isOther] at owned
    rcases owned with isNone | isThread
    · cases isNone
    · exact differ (some.inj isThread)
  exact (if_neg notSame).trans isOther

/-- Everything a line can do in a state that meets the invariant. -/
inductive Line (tid : Nat) (shared : NodeLocks) (scope : ScopedNodeLock) :
    NodeLocks → ScopedNodeLock → Prop
  | enter (at_ : scope.position = .enter) (free : shared.guard = none) :
      Line tid shared scope { shared with guard := some tid } (scope.moveTo .lookUp)
  | lookUp (lock : LockId) (refs : Nat) (at_ : scope.position = .lookUp)
      (entry : shared.locks.get scope.nodeId = some (lock, refs) ∨
        (shared.locks.get scope.nodeId = none ∧ refs = 0)) :
      Line tid shared scope { shared with created := shared.created + 1 }
        (scope.moveTo (.count lock refs))
  | count (lock : LockId) (refs : Nat) (at_ : scope.position = .count lock refs) :
      Line tid shared scope
        { shared with locks := shared.locks.set scope.nodeId (lock, refs + 1) }
        (scope.moveTo (.keep lock))
  | keep (lock : LockId) (at_ : scope.position = .keep lock) :
      Line tid shared scope shared { scope with lock := some lock, position := .leaveGuard lock }
  | leaveGuard (lock : LockId) (at_ : scope.position = .leaveGuard lock) :
      Line tid shared scope { shared with guard := none } (scope.moveTo (.remaining lock))
  | remaining (lock : LockId) (at_ : scope.position = .remaining lock) :
      Line tid shared scope shared (scope.moveTo (.acquire lock))
  | giveUp (lock : LockId) (err : String)
      (at_ : scope.position = .remaining lock ∨ scope.position = .acquire lock) :
      Line tid shared scope shared (scope.moveTo (.drop lock (some err)))
  | acquire (lock : LockId) (at_ : scope.position = .acquire lock)
      (free : shared.owner lock = none) :
      Line tid shared scope (shared.setOwner lock (some tid)) (scope.moveTo .inside)
  | leave (at_ : scope.position = .inside) : Line tid shared scope shared (scope.moveTo .exit)
  | exit (lock : LockId) (at_ : scope.position = .exit) (kept : scope.lock = some lock) :
      Line tid shared scope shared (scope.moveTo (.release lock))
  | release (lock : LockId) (at_ : scope.position = .release lock) :
      Line tid shared scope (shared.setOwner lock none) (scope.moveTo (.drop lock none))
  | drop (lock : LockId) (err : Option String) (at_ : scope.position = .drop lock err)
      (free : shared.guard = none) :
      Line tid shared scope { shared with guard := some tid }
        (scope.moveTo (.recall lock err))
  | recall (lock : LockId) (refs : Nat) (err : Option String)
      (at_ : scope.position = .recall lock err)
      (entry : shared.locks.get scope.nodeId = some (lock, refs)) (positive : 0 < refs) :
      Line tid shared scope shared (scope.moveTo (.uncount lock refs err))
  | uncountLast (lock : LockId) (err : Option String)
      (at_ : scope.position = .uncount lock 1 err) :
      Line tid shared scope { shared with locks := shared.locks.pop scope.nodeId }
        (scope.moveTo (.dropGuard err))
  | uncount (lock : LockId) (refs : Nat) (err : Option String)
      (at_ : scope.position = .uncount lock refs err) (further : refs ≠ 1) :
      Line tid shared scope
        { shared with locks := shared.locks.set scope.nodeId (lock, refs - 1) }
        (scope.moveTo (.dropGuard err))
  | dropGuard (err : Option String) (at_ : scope.position = .dropGuard err) :
      Line tid shared scope { shared with guard := none } (scope.moveTo (.forget err))
  | forget (err : Option String) (at_ : scope.position = .forget err) :
      Line tid shared scope shared { scope with lock := none, position := .left err }

variable (own : Own shared tid scope)

include own

theorem advance_line (entry : ∀ lock, scope.reference = some lock →
      ∃ refs, shared.locks.get scope.nodeId = some (lock, refs) ∧ 0 < refs)
    (ran : scope.advance tid event shared = some (post, next)) :
    Line tid shared scope post next := by
  have line := own.line
  unfold LineHolds at line
  unfold advance at ran
  split at ran
  case h_19 => cases ran
  all_goals rename_i at_
  all_goals rw [at_] at line
  case h_1 =>
    split at ran
    · cases ran
      exact .enter at_ ‹_›
    · cases ran
  case h_2 =>
    split at ran
    all_goals cases ran
    · exact .lookUp _ _ at_ (.inl ‹_›)
    · exact .lookUp _ _ at_ (.inr ⟨‹_›, rfl⟩)
  case h_3 => cases ran; exact .count _ _ at_
  case h_4 => cases ran; exact .keep _ at_
  case h_5 => cases ran; exact .leaveGuard _ at_
  case h_6 => cases ran; exact .remaining _ at_
  case h_7 => cases ran; exact .giveUp _ _ (.inl at_)
  case h_8 =>
    split at ran
    · cases ran
      exact .acquire _ at_ ‹_›
    · cases ran
  case h_9 => cases ran; exact .giveUp _ _ (.inr at_)
  case h_10 => cases ran; exact .giveUp _ _ (.inr at_)
  case h_11 => cases ran; exact .leave at_
  case h_12 =>
    split at ran
    · cases ran
      exact .exit _ at_ ‹_›
    · exact absurd ‹_› line
  case h_13 lock =>
    have owned : shared.owner lock = some tid := own.held lock (by simp [holds, at_])
    rw [if_neg (by simp [owned])] at ran
    cases ran
    exact .release lock at_
  case h_14 =>
    split at ran
    · cases ran
      exact .drop _ _ at_ ‹_›
    · cases ran
  case h_15 lock err =>
    obtain ⟨refs, found, pos⟩ := entry lock (by simp [reference, at_])
    simp only [found, pos, and_self, if_true] at ran
    cases ran
    exact .recall lock refs err at_ found pos
  case h_16 lock refs err =>
    split at ran
    all_goals cases ran
    · rename_i isLast
      exact .uncountLast lock err (isLast ▸ at_)
    · exact .uncount lock refs err at_ ‹_›
  case h_17 => cases ran; exact .dropGuard _ at_
  case h_18 => cases ran; exact .forget _ at_

variable (line : Line tid shared scope post next)

include line

theorem line_respects (differ : other ≠ tid) : Respects other shared post := by
  have underGuard : scope.guarded = true → shared.guard = none ∨ shared.guard = some tid :=
    fun guarded => .inr (own.guard.mp guarded)
  cases line with
  | enter at_ free | drop lock err at_ free =>
    exact respects_guard differ (.inl free) (.inr rfl) rfl
  | lookUp | keep | remaining | giveUp | leave | exit | «recall» | forget =>
    exact respects_same rfl rfl rfl
  | count lock refs at_ =>
    have guarded := own.guard.mp (by simp [guarded, at_])
    exact respects_guard differ (.inr guarded) (.inr guarded) rfl
  | uncountLast lock err at_ | uncount lock refs err at_ =>
    have guarded := own.guard.mp (by simp [guarded, at_])
    exact respects_guard differ (.inr guarded) (.inr guarded) rfl
  | leaveGuard lock at_ | dropGuard err at_ =>
    exact respects_guard differ (underGuard (by simp [guarded, at_])) (.inl rfl) rfl
  | acquire lock at_ free => exact respects_owner differ _ (.inl free)
  | release lock at_ =>
    exact respects_owner differ _ (.inr (own.held lock (by simp [holds, at_])))

theorem line_guarded :
    next.guarded = true ↔ post.guard = some tid := by
  have guards := own.guard
  unfold guarded at guards ⊢
  cases line
  case giveUp lock err at_ => rcases at_ with at_ | at_ <;> simpa [moveTo, at_] using guards
  all_goals simp_all [moveTo, NodeLocks.setOwner]

theorem line_held
    (lock : LockId) (isHeld : next.holds = some lock) : post.owner lock = some tid := by
  have held := own.held
  have known := own.line
  unfold holds at held isHeld
  unfold LineHolds at known
  cases line
  case giveUp other err at_ => cases isHeld
  all_goals simp_all [moveTo, NodeLocks.setOwner]

theorem line_known :
    next.LineHolds post := by
  have known := own.line
  unfold LineHolds at known ⊢
  cases line
  case giveUp lock err at_ => trivial
  all_goals simp_all [moveTo]

theorem line_own :
    Own post tid next :=
  ⟨line_guarded own line, line_held own line, line_known own line⟩

omit line

omit own

/-- What a line does to the table, beside the reference its thread has. -/
inductive TableEffect (shared post : NodeLocks) (scope next : ScopedNodeLock) : Prop
  | same (locks : post.locks = shared.locks) (reference : next.reference = scope.reference)
  | counts (lock : LockId) (refs : Nat) (pre : scope.reference = none)
      (reference : next.reference = some lock)
      (entry : shared.locks.get scope.nodeId = some (lock, refs) ∨
        (shared.locks.get scope.nodeId = none ∧ refs = 0))
      (locks : post.locks = shared.locks.set scope.nodeId (lock, refs + 1))
  | removes (lock : LockId) (pre : scope.reference = some lock) (reference : next.reference = none)
      (entry : shared.locks.get scope.nodeId = some (lock, 1))
      (locks : post.locks = shared.locks.pop scope.nodeId)
  | uncounts (lock : LockId) (refs : Nat) (pre : scope.reference = some lock)
      (reference : next.reference = none)
      (entry : shared.locks.get scope.nodeId = some (lock, refs)) (many : 1 < refs)
      (locks : post.locks = shared.locks.set scope.nodeId (lock, refs - 1))

theorem line_node (line : Line tid shared scope post next) : next.nodeId = scope.nodeId := by
  cases line <;> rfl

theorem line_table (own : Own shared tid scope) (line : Line tid shared scope post next) :
    TableEffect shared post scope next := by
  have known := own.line
  unfold LineHolds at known
  cases line
  case count lock refs at_ =>
    rw [at_] at known
    exact .counts lock refs (by simp [reference, at_]) rfl known rfl
  case uncountLast lock err at_ =>
    rw [at_] at known
    exact .removes lock (by simp [reference, at_]) rfl known.1 rfl
  case uncount lock refs err at_ further =>
    rw [at_] at known
    exact .uncounts lock refs (by simp [reference, at_]) rfl known.1
      (Nat.lt_of_le_of_ne known.2 further.symm) rfl
  case giveUp lock err at_ =>
    rcases at_ with at_ | at_ <;> exact .same rfl (by simp [reference, moveTo, at_])
  all_goals refine .same rfl ?_
  all_goals simp_all [reference, moveTo]

end Advance

/-- The table counts the threads that refer to a node, and they all have its lock. -/
structure Counted (locks : Dict UUID (LockId × Nat)) (scopes : List ScopedNodeLock) : Prop where
  present : ∀ node lock refs, locks.get node = some (lock, refs) →
    0 < refs ∧ refs = scopes.countP (refersTo node) ∧
      ∀ scope ∈ scopes, scope.nodeId = node → ∀ other, scope.reference = some other → other = lock
  absent : ∀ node, locks.get node = none → scopes.countP (refersTo node) = 0

section Counting

variable {locks : Dict UUID (LockId × Nat)} {scopes : List ScopedNodeLock} {tid : Nat}
  {scope next : ScopedNodeLock}

theorem refers_to_own (refers : scope.reference = some lock) :
    refersTo scope.nodeId scope = true := by
  simp [refersTo, refers]

theorem counted_entry (counted : Counted locks scopes) (mem : scope ∈ scopes)
    (refers : scope.reference = some lock) :
    ∃ refs, locks.get scope.nodeId = some (lock, refs) ∧ 0 < refs := by
  cases found : locks.get scope.nodeId with
  | none =>
    have none := counted.absent scope.nodeId found
    exact absurd (refers_to_own refers) (countP_eq_zero.mp none scope mem)
  | some entry =>
    obtain ⟨other, refs⟩ := entry
    obtain ⟨pos, _, same⟩ := counted.present scope.nodeId other refs found
    rw [same scope mem rfl lock refers]
    exact ⟨refs, rfl, pos⟩

theorem count_set (at_ : scopes[tid]? = some scope) (counts : ScopedNodeLock → Bool) :
    (scopes.set tid next).countP counts + (if counts scope then 1 else 0) =
      scopes.countP counts + if counts next then 1 else 0 := by
  obtain ⟨bound, isScope⟩ := List.getElem?_eq_some_iff.mp at_
  have mem : scope ∈ scopes := mem_of_getElem? at_
  rw [countP_set bound, isScope]
  by_cases counted : counts scope = true
  · have pos : 0 < scopes.countP counts := countP_pos_iff.mpr ⟨scope, mem, counted⟩
    simp only [counted, if_true]
    omega
  · simp [counted]

theorem count_other {node : UUID} (at_ : scopes[tid]? = some scope)
    (sameNode : next.nodeId = scope.nodeId) (differ : scope.nodeId ≠ node) :
    (scopes.set tid next).countP (refersTo node) = scopes.countP (refersTo node) := by
  have changed := @count_set _ _ _ next at_ (refersTo node)
  simpa [refersTo, sameNode, differ] using changed

theorem same_lock_set {node : UUID} (sameNode : next.nodeId = scope.nodeId)
    (others : ∀ listed ∈ scopes, listed.nodeId = node → ∀ other, listed.reference = some other →
      other = lock)
    (own : scope.nodeId = node → ∀ other, next.reference = some other → other = lock) :
    ∀ listed ∈ scopes.set tid next, listed.nodeId = node → ∀ other,
      listed.reference = some other → other = lock := by
  intro listed mem
  rcases mem_or_eq_of_mem_set mem with pre | rfl
  · exact others listed pre
  · intro isNode
    exact own (sameNode.symm.trans isNode)

variable {post : Dict UUID (LockId × Nat)}

variable (counted : Counted locks scopes)

include counted

variable (at_ : scopes[tid]? = some scope)

include at_

variable (sameNode : next.nodeId = scope.nodeId)

include sameNode

theorem counted_elsewhere
    (others : ∀ node, node ≠ scope.nodeId → post.get node = locks.get node)
    (present : ∀ lock refs, post.get scope.nodeId = some (lock, refs) → 0 < refs ∧
        refs = (scopes.set tid next).countP (refersTo scope.nodeId) ∧
        ∀ listed ∈ scopes.set tid next, listed.nodeId = scope.nodeId → ∀ other,
          listed.reference = some other → other = lock) (absent : post.get scope.nodeId = none →
      (scopes.set tid next).countP (refersTo scope.nodeId) = 0) :
    Counted post (scopes.set tid next) := by
  refine ⟨?_, ?_⟩
  · intro node lock refs found
    by_cases isNode : node = scope.nodeId
    · subst isNode
      exact present lock refs found
    · rw [others node isNode] at found
      obtain ⟨pos, isCount, sameLock⟩ := counted.present node lock refs found
      refine ⟨pos, ?_, same_lock_set sameNode sameLock ?_⟩
      · rw [count_other at_ sameNode (Ne.symm isNode)]
        exact isCount
      · intro isScope
        exact absurd isScope.symm isNode
  · intro node found
    by_cases isNode : node = scope.nodeId
    · subst isNode
      exact absent found
    · rw [others node isNode] at found
      rw [count_other at_ sameNode (Ne.symm isNode)]
      exact counted.absent node found

theorem counted_same (reference : next.reference = scope.reference) :
    Counted locks (scopes.set tid next) := by
  have sameCount : (scopes.set tid next).countP (refersTo scope.nodeId) =
      scopes.countP (refersTo scope.nodeId) := by
    have changed := @count_set _ _ _ next at_ (refersTo scope.nodeId)
    simp only [refersTo, sameNode, reference] at changed
    exact Nat.add_right_cancel changed
  refine counted_elsewhere counted at_ sameNode (fun _ _ => rfl) ?_ ?_
  · intro lock refs found
    obtain ⟨pos, isCount, sameLock⟩ := counted.present _ lock refs found
    refine ⟨pos, isCount.trans sameCount.symm, same_lock_set sameNode sameLock ?_⟩
    intro isNode other refers
    exact sameLock scope (mem_of_getElem? at_) isNode other (reference ▸ refers)
  · intro found
    exact sameCount.trans (counted.absent _ found)

theorem counted_more {refs : Nat}
    (pre : scope.reference = none) (reference : next.reference = some lock)
    (entry : locks.get scope.nodeId = some (lock, refs) ∨
      (locks.get scope.nodeId = none ∧ refs = 0)) :
    Counted (locks.set scope.nodeId (lock, refs + 1)) (scopes.set tid next) := by
  have isCount : refs = scopes.countP (refersTo scope.nodeId) := by
    rcases entry with found | ⟨missing, rfl⟩
    · exact (counted.present _ _ _ found).2.1
    · exact (counted.absent _ missing).symm
  have sameLock : ∀ listed ∈ scopes, listed.nodeId = scope.nodeId → ∀ other,
      listed.reference = some other → other = lock := by
    rcases entry with found | ⟨missing, _⟩
    · exact (counted.present _ _ _ found).2.2
    · intro listed isListed isNode other refers
      have none := counted.absent scope.nodeId missing
      exact absurd (isNode ▸ refers_to_own refers) (countP_eq_zero.mp none listed isListed)
  have changed := @count_set _ _ _ next at_ (refersTo scope.nodeId)
  simp only [refersTo, sameNode, pre, reference, decide_true, Bool.true_and, isSome_none,
    isSome_some, if_true] at changed
  refine counted_elsewhere counted at_ sameNode (fun _ differ => get_set_ne differ) ?_ ?_
  · intro other total found
    rw [get_set_self] at found
    cases found
    refine ⟨Nat.succ_pos _, ?_, same_lock_set sameNode sameLock ?_⟩
    · rw [isCount]
      exact changed.symm
    · intro _ other refers
      exact some.inj (refers.symm.trans reference)
  · intro found
    rw [get_set_self] at found
    cases found

theorem counted_fewer {refs : Nat} (pre : scope.reference = some lock)
    (reference : next.reference = none) (entry : locks.get scope.nodeId = some (lock, refs))
    (others : ∀ node, node ≠ scope.nodeId → post.get node = locks.get node)
    (own : post.get scope.nodeId = if refs = 1 then none else some (lock, refs - 1)) :
    Counted post (scopes.set tid next) := by
  obtain ⟨pos, isCount, sameLock⟩ := counted.present _ _ _ entry
  have changed := @count_set _ _ _ next at_ (refersTo scope.nodeId)
  simp only [refersTo, sameNode, pre, reference, decide_true, Bool.true_and, isSome_none,
    isSome_some, if_true] at changed
  refine counted_elsewhere counted at_ sameNode others ?_ ?_
  · intro other total found
    rw [own] at found
    split_ifs at found with isLast
    cases found
    refine ⟨by omega, ?_, same_lock_set sameNode sameLock ?_⟩
    · rw [isCount]
      exact Nat.sub_eq_of_eq_add changed.symm
    · intro _ other refers
      rw [reference] at refers
      cases refers
  · intro found
    rw [own] at found
    split_ifs at found with isLast
    rw [isLast] at isCount
    exact Nat.succ.inj (changed.trans isCount.symm)

omit sameNode

omit at_

omit counted

theorem counted_line {post : NodeLocks} (counted : Counted shared.locks scopes)
    (at_ : scopes[tid]? = some scope) (sameNode : next.nodeId = scope.nodeId)
    (effect : TableEffect shared post scope next) :
    Counted post.locks (scopes.set tid next) := by
  cases effect with
  | same locks reference =>
    rw [locks]
    exact counted_same counted at_ sameNode reference
  | counts lock refs pre reference entry locks =>
    rw [locks]
    exact counted_more counted at_ sameNode pre reference entry
  | removes lock pre reference entry locks =>
    rw [locks]
    refine counted_fewer counted at_ sameNode pre reference entry ?_ ?_
    · intro node differ
      rw [get_pop, if_neg differ]
    · exact get_pop_self _ _
  | uncounts lock refs pre reference entry many locks =>
    rw [locks]
    refine counted_fewer counted at_ sameNode pre reference entry ?_ ?_
    · exact fun _ differ => get_set_ne differ
    · rw [get_set_self, if_neg (Nat.ne_of_gt many)]

end Counting

/-- The thread has entered the scope of its node and not yet released the lock. -/
def inside (scope : ScopedNodeLock) : Bool :=
  match scope.position with
  | .inside | .exit | .release _ => true
  | _ => false

theorem inside_holds {scope : ScopedNodeLock} (known : scope.LineHolds shared)
    (isInside : scope.inside = true) :
    ∃ lock, scope.holds = some lock ∧ scope.reference = some lock := by
  unfold inside at isInside
  unfold LineHolds at known
  unfold holds reference
  split at isInside
  case h_1 at_ | h_2 at_ =>
    simp only [at_] at known ⊢
    obtain ⟨lock, isLock⟩ := ne_none_iff_exists'.mp known
    exact ⟨lock, isLock, isLock⟩
  case h_3 lock at_ =>
    simp only [at_]
    exact ⟨lock, rfl, rfl⟩
  case h_4 => cases isInside

end ScopedNodeLock

open ScopedNodeLock

structure NodeLockInvariant (st : NodeLockState) : Prop where
  own : ∀ tid scope, st.scopes[tid]? = some scope → Own st.shared tid scope
  counted : Counted st.shared.locks st.scopes
  guard : ∀ tid, st.shared.guard = some tid → tid < st.scopes.length

variable {st : NodeLockState}

theorem begin_invariant (inv : NodeLockInvariant st) (nodeId : UUID) :
    NodeLockInvariant { st with scopes := st.scopes ++ [{ nodeId }] } where
  own := by
    intro tid scope at_
    rw [getElem?_append] at at_
    split_ifs at at_ with pre
    · exact inv.own tid scope at_
    · obtain rfl : scope = { nodeId } := by
        have mem := mem_of_getElem? at_
        exact mem_singleton.mp mem
      refine ⟨?_, ?_, trivial⟩
      · simp only [guarded, Bool.false_eq_true, false_iff]
        intro isGuard
        exact pre (inv.guard tid isGuard)
      · intro lock isHeld
        cases isHeld
  counted := by
    let new : ScopedNodeLock := { nodeId }
    have sameCount : ∀ node, (st.scopes ++ [new]).countP (refersTo node) =
        st.scopes.countP (refersTo node) := by
      intro node
      simp [new, countP_append, refersTo, reference]
    refine ⟨?_, ?_⟩
    · intro node lock refs found
      obtain ⟨pos, isCount, sameLock⟩ := inv.counted.present node lock refs found
      refine ⟨pos, isCount.trans (sameCount node).symm, ?_⟩
      intro scope mem isNode other refers
      rcases mem_append.mp mem with pre | isNew
      · exact sameLock scope pre isNode other refers
      · rw [mem_singleton.mp isNew] at refers
        cases refers
    · intro node found
      exact (sameCount node).trans (inv.counted.absent node found)
  guard := by
    intro tid isGuard
    rw [length_append]
    exact Nat.lt_add_right _ (inv.guard tid isGuard)

theorem line_invariant (inv : NodeLockInvariant st) {tid : Nat} {event : Event}
    {scope next : ScopedNodeLock} (at_ : st.scopes[tid]? = some scope)
    (ran : scope.advance tid event st.shared = some (shared, next)) :
    NodeLockInvariant ⟨shared, st.scopes.set tid next⟩ := by
  have own := inv.own tid scope at_
  have line := advance_line own
    (fun lock refers => counted_entry inv.counted (mem_of_getElem? at_) refers) ran
  have bound := (List.getElem?_eq_some_iff.mp at_).1
  refine ⟨?_, counted_line inv.counted at_ (line_node line) (line_table own line), ?_⟩
  · intro other otherScope isOther
    by_cases same : other = tid
    · subst same
      rw [getElem?_set_self bound] at isOther
      cases isOther
      exact line_own own line
    · rw [getElem?_set_ne (Ne.symm same)] at isOther
      exact own_respected (inv.own other otherScope isOther) (line_respects own line same)
  · intro other isGuard
    rw [length_set]
    by_cases same : other = tid
    · exact same ▸ bound
    · exact inv.guard other ((line_respects own line same).guard.mp isGuard)

theorem node_lock_invariant (reached : NodeLockReachable st) : NodeLockInvariant st := by
  induction reached with
  | init =>
    refine ⟨?_, ⟨?_, fun _ _ => rfl⟩, ?_⟩
    · intro tid scope at_
      cases at_
    · intro node lock refs found
      cases found
    · intro tid isGuard
      cases isGuard
  | step _ step ih =>
    cases step with
    | begin nodeId => exact begin_invariant ih nodeId
    | line tid event scope at_ shared next ran => exact line_invariant ih at_ ran

/-- One thread at a time inside the scope of a node; the table has exactly the nodes that threads
refer to, with their number and the lock they all have; no assertion fails, and nothing stays in the
table when everyone has left. -/
theorem scoped_node_lock_serialises {st : NodeLockState} (reached : NodeLockReachable st) :
    (∀ (first second : Nat) (scope other : ScopedNodeLock), st.scopes[first]? = some scope →
      st.scopes[second]? = some other → scope.nodeId = other.nodeId → scope.inside = true →
      other.inside = true → first = second) ∧
    (∀ node, st.shared.locks.get node = none ↔ ∀ scope ∈ st.scopes, refersTo node scope = false) ∧
    (∀ node lock refs, st.shared.locks.get node = some (lock, refs) →
      refs = st.scopes.countP (refersTo node) ∧
        ∀ scope ∈ st.scopes, refersTo node scope = true → scope.reference = some lock) ∧
    (∀ scope ∈ st.scopes, scope.inside = true → refersTo scope.nodeId scope = true) ∧
    (∀ scope ∈ st.scopes, scope.position ≠ .failed) ∧
    ((∀ scope ∈ st.scopes, ∃ err, scope.position = .left err) →
      st.shared.locks.items = []) := by
  have invariant := node_lock_invariant reached
  have isNone : ∀ node, st.shared.locks.get node = none ↔
      ∀ scope ∈ st.scopes, refersTo node scope = false := by
    intro node
    constructor
    · intro found scope mem
      exact Bool.eq_false_iff.mpr
        (countP_eq_zero.mp (invariant.counted.absent node found) scope mem)
    · intro nobody
      cases found : st.shared.locks.get node with
      | none => rfl
      | some entry =>
        obtain ⟨positive, isCount, _⟩ := invariant.counted.present node entry.1 entry.2 found
        rw [isCount] at positive
        obtain ⟨scope, mem, refers⟩ := countP_pos_iff.mp positive
        rw [nobody scope mem] at refers
        cases refers
  have ofMember : ∀ scope ∈ st.scopes, ∃ tid, Own st.shared tid scope := by
    intro scope mem
    obtain ⟨tid, at_⟩ := mem_iff_getElem?.mp mem
    exact ⟨tid, invariant.own tid scope at_⟩
  refine ⟨?_, isNone, ?_, ?_, ?_, ?_⟩
  · intro first second scope other isFirst isSecond sameNode firstInside secondInside
    have firstOwn := invariant.own first scope isFirst
    have secondOwn := invariant.own second other isSecond
    obtain ⟨lock, holds, refers⟩ := inside_holds firstOwn.line firstInside
    obtain ⟨otherLock, otherHolds, otherRefers⟩ := inside_holds secondOwn.line secondInside
    obtain ⟨refs, found, _⟩ :=
      counted_entry invariant.counted (mem_of_getElem? isFirst) refers
    have sameLock := (invariant.counted.present _ _ _ found).2.2 other
      (mem_of_getElem? isSecond) sameNode.symm otherLock otherRefers
    have owner := firstOwn.held lock holds
    have otherOwner := secondOwn.held otherLock otherHolds
    rw [sameLock, owner] at otherOwner
    exact some.inj otherOwner
  · intro node lock refs found
    obtain ⟨_, isCount, sameLock⟩ := invariant.counted.present node lock refs found
    refine ⟨isCount, ?_⟩
    intro scope mem refers
    obtain ⟨isNode, some⟩ := Bool.and_eq_true_iff.mp refers
    obtain ⟨other, isOther⟩ := isSome_iff_exists.mp some
    rw [isOther, sameLock scope mem (of_decide_eq_true isNode) other isOther]
  · intro scope mem isInside
    obtain ⟨tid, own⟩ := ofMember scope mem
    obtain ⟨lock, _, refers⟩ := inside_holds own.line isInside
    exact refers_to_own refers
  · intro scope mem failed
    obtain ⟨tid, own⟩ := ofMember scope mem
    have known := own.line
    unfold LineHolds at known
    rw [failed] at known
    exact known
  · intro everyoneLeft
    refine eq_nil_iff_forall_not_mem.mpr ?_
    rintro ⟨node, entry⟩ mem
    have found := get_eq_some.mpr mem
    have missing : st.shared.locks.get node = none := by
      rw [isNone]
      intro scope isScope
      obtain ⟨err, at_⟩ := everyoneLeft scope isScope
      simp [refersTo, reference, at_]
    rw [missing] at found
    cases found

/-- A run of threads that have begun, one line after the other. -/
def NodeLockState.play : List (Nat × Event) → NodeLockState → Option NodeLockState
  | [], st => some st
  | (tid, event) :: rest, st => do
      let scope ← st.scopes[tid]?
      let (shared, next) ← scope.advance tid event st.shared
      NodeLockState.play rest ⟨shared, st.scopes.set tid next⟩

theorem play_reachable {moves : List (Nat × Event)} {final : NodeLockState}
    (reached : NodeLockReachable st) (played : NodeLockState.play moves st = some final) :
    NodeLockReachable final := by
  induction moves generalizing st with
  | nil =>
    cases played
    exact reached
  | cons move rest ih =>
    simp only [NodeLockState.play, bind_eq_bind, bind_eq_some_iff] at played
    obtain ⟨scope, at_, ⟨shared, next⟩, ran, played⟩ := played
    exact ih (.step reached (.line move.1 move.2 scope at_ shared next ran)) played

/-- Two threads have begun to enter the scope of one node. -/
def twoThreads : NodeLockState :=
  { NodeLockState.init with scopes := [{ nodeId := 1 }, { nodeId := 1 }] }

theorem two_threads_reachable : NodeLockReachable twoThreads :=
  .step (.step .init (.begin 1)) (.begin 1)

/-- The first is inside, the second waits for the same lock. -/
def firstInside : List (Nat × Event) :=
  (replicate 7 (0, Event.proceeds)) ++ replicate 6 (1, Event.proceeds)

theorem scoped_node_lock_serialises_two_threads :
    ∃ st, NodeLockState.play firstInside twoThreads = some st ∧
      st.shared.locks.get 1 = some (0, st.scopes.countP (refersTo 1)) ∧
      st.scopes.countP (refersTo 1) = 2 := by
  have played : (NodeLockState.play firstInside twoThreads).any (fun st =>
      decide (st.shared.locks.get 1 = some (0, 2))) = true := by
    decide +kernel
  obtain ⟨st, isState, entry⟩ := (any_eq_true _ _).mp played
  have found := of_decide_eq_true entry
  have serialised := scoped_node_lock_serialises (play_reachable two_threads_reachable isState)
  have isCount := (serialised.2.2.1 1 0 2 found).1
  exact ⟨st, isState, isCount ▸ found, isCount.symm⟩

end RtspProxy.Supervisor
