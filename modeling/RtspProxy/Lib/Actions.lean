import Mathlib.Tactic.Common

/-!
# Code that changes a state and may raise

What such code changed before it raised stays changed: there is no rollback. An
action `Meets` a postcondition from a precondition when every run from a state of
the one ends in an outcome and a state of the other; the rules follow the way
actions are put together.
-/

namespace RtspProxy.Lib

/-- The outcome, a value or an exception, and the state that is left. -/
def Action (State Error Value : Type) := State → Except Error Value × State

namespace Action

variable {State Error Value Result : Type}

def bind (action : Action State Error Value) (next : Value → Action State Error Result) :
    Action State Error Result := fun st =>
  match action st with
  | (.ok val, post) => next val post
  | (.error err, post) => (.error err, post)

instance : Monad (Action State Error) where
  pure val := fun st => (.ok val, st)
  bind := bind

def raise (err : Error) : Action State Error Value := fun st => (.error err, st)

/-- `try: action except BaseException: handler; raise`. -/
def onError (action : Action State Error Value) (handler : Action State Error Unit) :
    Action State Error Value := fun st =>
  match action st with
  | (.ok val, post) => (.ok val, post)
  | (.error err, post) => (.error err, (handler post).2)

def read (view : State → Value) : Action State Error Value := fun st => (.ok (view st), st)

def update (change : State → State) : Action State Error Unit := fun st => (.ok (), change st)

/-- `for element in elements: body(element)`. -/
def forEach {Element : Type} : List Element → (Element → Action State Error Unit) →
    Action State Error Unit
  | [], _ => pure ()
  | element :: rest, body => do
      body element
      forEach rest body

/-- Every run from a state that meets the precondition ends in a state that meets the
postcondition for its outcome. -/
def Meets (pre : State → Prop) (action : Action State Error Value)
    (post : Except Error Value → State → Prop) : Prop :=
  ∀ st, pre st → post (action st).1 (action st).2

/-- A postcondition with one part for values and one for exceptions. -/
def Outcomes (ret : Value → State → Prop) (raised : Error → State → Prop) :
    Except Error Value → State → Prop
  | .ok val, st => ret val st
  | .error err, st => raised err st

/-- The action keeps a property, whether it returns or raises. -/
abbrev Keeps (prop : State → Prop) (action : Action State Error Value) : Prop :=
  Meets prop action fun _ => prop

section Rules

variable {pre : State → Prop} {action : Action State Error Value}

theorem meets_weaken {stronger : State → Prop} {post weaker : Except Error Value → State → Prop}
    (meets : Meets pre action post) (strengthen : ∀ st, stronger st → pre st)
    (weaken : ∀ out st, post out st → weaker out st) :
    Meets stronger action weaker :=
  fun st holds => weaken _ _ (meets st (strengthen st holds))

variable {post : Except Error Value → State → Prop}

theorem meets_pure {val : Value} (holds : ∀ st, pre st → post (.ok val) st) :
    Meets pre (pure val : Action State Error Value) post :=
  holds

theorem meets_raise {err : Error} (holds : ∀ st, pre st → post (.error err) st) :
    Meets pre (raise err : Action State Error Value) post :=
  holds

theorem meets_update {post : Except Error Unit → State → Prop} {change : State → State}
    (holds : ∀ st, pre st → post (.ok ()) (change st)) :
    Meets pre (update change : Action State Error Unit) post :=
  holds

theorem meets_bind {middle : Value → State → Prop} {post : Except Error Result → State → Prop}
    {next : Value → Action State Error Result}
    (first : Meets pre action (Outcomes middle fun err => post (.error err)))
    (rest : ∀ val, Meets (middle val) (next val) post) :
    Meets pre (action >>= next) post := by
  intro st holds
  have met := first st holds
  change post (bind action next st).1 (bind action next st).2
  unfold bind
  cases ran : action st with
  | mk out left =>
    rw [ran] at met
    cases out with
    | ok val => exact rest val left met
    | error err => exact met

theorem then_assoc {Final : Type} (action : Action State Error Value)
    (next : Value → Action State Error Result) (last : Result → Action State Error Final) :
    (action >>= next) >>= last = action >>= fun val => next val >>= last := by
  funext st
  change bind (bind action next) last st = bind action (fun val => bind (next val) last) st
  unfold bind
  cases action st with
  | mk out left =>
    cases out with
    | ok val => rfl
    | error err => rfl

theorem meets_read {view : State → Value} {post : Except Error Result → State → Prop}
    {next : Value → Action State Error Result}
    (rest : ∀ val, Meets (fun st => pre st ∧ view st = val) (next val) post) :
    Meets pre (read view >>= next) post :=
  fun st holds => rest (view st) st ⟨holds, rfl⟩

theorem meets_any_read {view : State → Value} {post : Except Error Result → State → Prop}
    {next : Value → Action State Error Result} (rest : ∀ val, Meets pre (next val) post) :
    Meets pre (read view >>= next) post :=
  fun st holds => rest (view st) st holds

variable {raised : Error → State → Prop}

theorem meets_on_error {ret : Value → State → Prop} {failed : State → Prop}
    {handler : Action State Error Unit} (first : Meets pre action (Outcomes ret fun _ => failed))
    (handles : ∀ err, Meets failed handler fun _ => raised err) :
    Meets pre (action.onError handler) (Outcomes ret raised) := by
  intro st holds
  have met := first st holds
  unfold onError
  cases ran : action st with
  | mk out left =>
    rw [ran] at met
    cases out with
    | ok val => exact met
    | error err => exact handles err left met

theorem outcomes_weaken {ret weaker : Value → State → Prop}
    {raised weakly : Error → State → Prop} (meets : Meets pre action (Outcomes ret raised))
    (returns : ∀ val st, ret val st → weaker val st)
    (raises : ∀ err st, raised err st → weakly err st) :
    Meets pre action (Outcomes weaker weakly) := by
  refine meets_weaken meets (fun _ holds => holds) ?_
  intro out st holds
  cases out with
  | ok val => exact returns val st holds
  | error err => exact raises err st holds

variable {prop : State → Prop}

theorem keeps_pure {val : Value} :
    Keeps prop (pure val : Action State Error Value) :=
  fun _ holds => holds

theorem keeps_raise {err : Error} :
    Keeps prop (raise err : Action State Error Value) :=
  fun _ holds => holds

theorem keeps_and {prop further : State → Prop} (first : Keeps prop action)
    (second : Keeps further action) :
    Keeps (fun st => prop st ∧ further st) action :=
  fun st holds => ⟨first st holds.1, second st holds.2⟩

theorem keeps_outcomes
    (keeps : Keeps prop action) (weaken : ∀ err st, prop st → raised err st) :
    Meets prop action (Outcomes (fun _ => prop) raised) := by
  refine meets_weaken keeps (fun _ holds => holds) ?_
  intro out st holds
  cases out with
  | ok val => exact holds
  | error err => exact weaken err st holds

theorem meets_bind_keeps {post : Except Error Result → State → Prop}
    {next : Value → Action State Error Result} (keeps : Keeps pre action)
    (raises : ∀ err st, pre st → post (.error err) st)
    (rest : ∀ val, Meets pre (next val) post) : Meets pre (action >>= next) post :=
  meets_bind (keeps_outcomes keeps raises) rest

theorem keeps_bind {next : Value → Action State Error Result}
    (first : Keeps prop action) (rest : ∀ val, Keeps prop (next val)) :
    Keeps prop (action >>= next) :=
  meets_bind_keeps first (fun _ _ holds => holds) rest

theorem keeps_for_each {Element : Type} {elements : List Element}
    {body : Element → Action State Error Unit}
    (keeps : ∀ element ∈ elements, Keeps prop (body element)) :
    Keeps prop (forEach elements body) := by
  induction elements with
  | nil => exact keeps_pure
  | cons element rest ih =>
    refine keeps_bind (keeps element List.mem_cons_self) ?_
    intro _
    exact ih fun later mem => keeps later (List.mem_cons_of_mem _ mem)

/-- A loop whose body always returns, with what is left to do in its invariant. -/
theorem meets_for_each {Element : Type} {prop : List Element → State → Prop}
    {elements : List Element} {body : Element → Action State Error Unit}
    (step : ∀ element rest, Meets (prop (element :: rest)) (body element)
      fun out st => out = .ok () ∧ prop rest st) :
    Meets (prop elements) (forEach elements body)
      fun out st => out = .ok () ∧ prop [] st := by
  induction elements with
  | nil => exact meets_pure fun _ holds => ⟨rfl, holds⟩
  | cons element rest ih =>
    refine @meets_bind _ _ _ _ _ _ (fun _ => prop rest) _ _ ?_ fun _ => ih
    refine meets_weaken (step element rest) (fun _ holds => holds) ?_
    rintro out st ⟨rfl, holds⟩
    exact holds

end Rules

end Action

end RtspProxy.Lib
