import RtspProxy.Lib.Program

/-!
# Calls that may fail

A program on its own whose calls act on a state, where any call may fail before
it takes effect or after it took effect. A `Trial` is such a run in progress: the
state, every state it has been in, and every failure with the call that failed
and the state it left. What a program leaves behind can so be compared with where
its calls failed. A call that returns an exception without failing (a file that
is there already) is an effect like any other.
-/

namespace RtspProxy.Lib.Program

open Prog List

/-- What calls do when they do not fail, and what they may raise when they do. -/
structure Tools (Call : Type) (Answer : Call → Type) (Error State : Type) where
  effect : State → (request : Call) → Except Error (Answer request) → State → Prop
  lost : Call → Error → Prop

structure Failure (State Call : Type) where
  request : Call
  tookEffect : Bool
  left : State

structure Trial (State Call : Type) where
  state : State
  states : List State
  failures : List (Failure State Call)

namespace Trial

variable {State Call : Type} (trial : Trial State Call)

def start (st : State) : Trial State Call := ⟨st, [st], []⟩

def moved (left : State) : Trial State Call :=
  { trial with state := left, states := trial.states ++ [left] }

def failed (req : Call) (tookEffect : Bool) (left : State) : Trial State Call :=
  { trial.moved left with failures := trial.failures ++ [⟨req, tookEffect, left⟩] }

@[simp] theorem moved_state (left : State) : (trial.moved left).state = left := rfl

@[simp] theorem moved_failures (left : State) : (trial.moved left).failures = trial.failures := rfl

@[simp] theorem failed_state (req : Call) (tookEffect : Bool) (left : State) :
    (trial.failed req tookEffect left).state = left := rfl

@[simp] theorem failed_failures (req : Call) (tookEffect : Bool) (left : State) :
    (trial.failed req tookEffect left).failures = trial.failures ++ [⟨req, tookEffect, left⟩] := rfl

def Always (prop : State → Prop) : Prop := ∀ st ∈ trial.states, prop st

variable {trial} {prop : State → Prop}

theorem always_start {st : State} (holds : prop st) :
    (start st : Trial State Call).Always prop := by
  intro other mem
  rw [mem_singleton.mp mem]
  exact holds

theorem always_moved {left : State} (always : trial.Always prop) (holds : prop left) :
    (trial.moved left).Always prop := by
  intro other mem
  rcases mem_append.mp mem with before | isLeft
  · exact always other before
  · rw [mem_singleton.mp isLeft]
    exact holds

theorem always_failed {req : Call} {tookEffect : Bool} {left : State}
    (always : trial.Always prop) (holds : prop left) :
    (trial.failed req tookEffect left).Always prop :=
  fun other mem => always_moved always holds other mem

end Trial

section Attempts

variable {Call : Type} {Answer : Call → Type} {Error State Result : Type}

/-- A call returns, or fails before or after it took effect. -/
inductive Attempted (tools : Tools Call Answer Error State) (trial : Trial State Call)
    (request : Call) : Except Error (Answer request) → Trial State Call → Prop
  | returned {ans : Except Error (Answer request)} {left : State}
      (effect : tools.effect trial.state request ans left) :
      Attempted tools trial request ans (trial.moved left)
  | before {err : Error} (lost : tools.lost request err) :
      Attempted tools trial request (.error err) (trial.failed request false trial.state)
  | after {ans : Except Error (Answer request)} {left : State} {err : Error}
      (effect : tools.effect trial.state request ans left) (lost : tools.lost request err) :
      Attempted tools trial request (.error err) (trial.failed request true left)

def attempting (tools : Tools Call Answer Error State) :
    Machine Call Answer Error (Trial State Call) where
  exec _ trial req ans after := Attempted tools trial req ans after
  leave _ trial := trial

abbrev Tries (tools : Tools Call Answer Error State)
    (post : Except Error Result → Trial State Call → Prop) (prog : Prog Call Answer Error Result)
    (trial : Trial State Call) : Prop :=
  Ensures (attempting tools) 0 post prog trial

variable {tools : Tools Call Answer Error State} {trial : Trial State Call}

theorem tries_ask {req : Call} {post : Except Error (Answer req) → Trial State Call → Prop}
    (returned : ∀ ans left, tools.effect trial.state req ans left → post ans (trial.moved left))
    (before : ∀ err, tools.lost req err →
      post (.error err) (trial.failed req false trial.state))
    (after : ∀ ans left err, tools.effect trial.state req ans left →
      tools.lost req err → post (.error err) (trial.failed req true left)) :
    Tries tools post (.ask req) trial := by
  refine ensures_ask ?_
  intro ans later attempted
  cases attempted with
  | returned effect => exact returned _ _ effect
  | before lost => exact before _ lost
  | after effect lost => exact after _ _ _ effect lost

theorem attempted_grows {req : Call} {ans : Except Error (Answer req)}
    {after : Trial State Call} (attempted : Attempted tools trial req ans after) :
    ∀ st ∈ trial.states, st ∈ after.states := by
  intro st mem
  cases attempted with
  | returned effect => exact mem_append_left _ mem
  | before lost => exact mem_append_left _ mem
  | after effect lost => exact mem_append_left _ mem

theorem tries_grow {returned : Result → Trial State Call → Prop}
    {raised : Error → Trial State Call → Prop} {prog : Prog Call Answer Error Result}
    (tries : Tries tools (Returns returned raised) prog trial) :
    Tries tools (Returns
      (fun res after => returned res after ∧ ∀ st ∈ trial.states, st ∈ after.states)
      raised) prog trial := by
  induction prog generalizing trial with
  | done out =>
    cases out with
    | ok res => exact ⟨tries, fun _ mem => mem⟩
    | error err => exact tries
  | call req next ih =>
    rintro cur rfl
    refine ⟨trivial, ?_⟩
    intro ans after attempted
    refine safe_weaken (ih ans ((tries _ rfl).2 ans after attempted)) ?_
    intro out last holds
    cases out with
    | ok res =>
      exact ⟨holds.1, fun st mem =>
        holds.2 st (attempted_grows attempted st mem)⟩
    | error err => exact holds

/-- The run in which calls do what `act` says and fail as the script says, call by call: with
`some tookEffect` the call raises `fails`, and past its end none fails. -/
def execute (act : State → (req : Call) → Except Error (Answer req) × State)
    (fails : Call → Error) :
    Prog Call Answer Error Result → List (Option Bool) → Trial State Call →
      Except Error Result × Trial State Call
  | .done out, _, trial => (out, trial)
  | .call req next, script, trial =>
    let res := act trial.state req
    match script.head?.join with
    | none => execute act fails (next res.1) script.tail (trial.moved res.2)
    | some false => execute act fails (next (.error (fails req))) script.tail
        (trial.failed req false trial.state)
    | some true => execute act fails (next (.error (fails req))) script.tail
        (trial.failed req true res.2)

variable {act : State → (req : Call) → Except Error (Answer req) × State}
  {fails : Call → Error}

theorem execute_failures (prog : Prog Call Answer Error Result) (script : List (Option Bool))
    (trial : Trial State Call) :
    trial.failures ⊆ (execute act fails prog script trial).2.failures := by
  induction prog generalizing script trial with
  | done out => exact Subset.refl _
  | call req next ih =>
    unfold execute
    split
    · exact ih _ _ (trial.moved _)
    · exact Subset.trans (subset_append_left _ _) (ih _ _ (trial.failed ..))
    · exact Subset.trans (subset_append_left _ _) (ih _ _ (trial.failed ..))

variable (acts : ∀ st req, tools.effect st req (act st req).1 (act st req).2)

include acts

theorem execute_runs_when
    (prog : Prog Call Answer Error Result) (script : List (Option Bool)) (trial : Trial State Call)
    (loses : ∀ failure ∈ (execute act fails prog script trial).2.failures,
      tools.lost failure.request (fails failure.request)) :
    Runs (attempting tools) 0 prog trial (execute act fails prog script trial).1
      (execute act fails prog script trial).2 := by
  induction prog generalizing script trial with
  | done out => exact .done out trial
  | call req next ih =>
    unfold execute at loses ⊢
    split at loses
    · exact .call (.returned (acts _ _)) (ih _ _ _ loses)
    · refine .call (.before ?_) (ih _ _ _ loses)
      exact loses _ (execute_failures _ _ _ (mem_append_right _ (mem_singleton_self _)))
    · refine .call (.after (acts _ _) ?_) (ih _ _ _ loses)
      exact loses _ (execute_failures _ _ _ (mem_append_right _ (mem_singleton_self _)))

theorem execute_runs (loses : ∀ req, tools.lost req (fails req))
    (prog : Prog Call Answer Error Result) (script : List (Option Bool))
    (trial : Trial State Call) :
    Runs (attempting tools) 0 prog trial (execute act fails prog script trial).1
      (execute act fails prog script trial).2 :=
  execute_runs_when acts prog script trial fun _ _ => loses _

theorem execute_runs_unfailing (prog : Prog Call Answer Error Result) (trial : Trial State Call) :
    Runs (attempting tools) 0 prog trial (execute act fails prog [] trial).1
      (execute act fails prog [] trial).2 := by
  induction prog generalizing trial with
  | done out => exact .done out trial
  | call req next ih => exact .call (.returned (acts _ _)) (ih _ _)

omit acts

end Attempts

end RtspProxy.Lib.Program
