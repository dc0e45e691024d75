import Mathlib.Tactic.Common

/-!
# Computations that raise

Checks in the form the modelled code writes them: `raiseIf condition error` is
`if condition: raise error`, `orRaise` is a lookup that raises when it finds
nothing. The equivalences turn a successful run into the conjunction of what
each line established, so that a caller never unfolds the computation again.
-/

namespace RtspProxy.Lib.Raising

variable {Error Value Result : Type}

def raiseIf (cond : Prop) [Decidable cond] (err : Error) : Except Error Unit :=
  if cond then .error err else .ok ()

def orRaise (found : Option Value) (err : Error) : Except Error Value :=
  match found with
  | some val => .ok val
  | none => .error err

variable {err : Error} {val : Value} {first : Except Error Value}
  {rest : Value → Except Error Result}

variable {cond : Prop} {res : Result}

@[simp] theorem raise_if_ok [Decidable cond] {val : Unit} :
    raiseIf cond err = .ok val ↔ ¬cond := by
  unfold raiseIf
  split_ifs with holds <;> simp [holds]

@[simp] theorem or_raise_ok {found : Option Value} :
    orRaise found err = .ok val ↔ found = some val := by
  cases found <;> simp [orRaise]

theorem bind_ok :
    (first >>= rest) = .ok res ↔ ∃ val, first = .ok val ∧ rest val = .ok res := by
  cases first with
  | error err => simp [bind, Except.bind]
  | ok val => simp [bind, Except.bind]

theorem bind_of_ok (ran : first = .ok val) : (first >>= rest) = rest val := by
  rw [ran]
  rfl

theorem bind_of_error (raised : first = .error err) : (first >>= rest) = .error err := by
  rw [raised]
  rfl

theorem check_passes [Decidable cond] {rest : Unit → Except Error Result}
    (passes : ¬cond) : (raiseIf cond err >>= rest) = rest () :=
  bind_of_ok (raise_if_ok.mpr passes)

theorem bind_error :
    (first >>= rest) = .error err ↔
      first = .error err ∨ ∃ val, first = .ok val ∧ rest val = .error err := by
  cases first with
  | error raised => simp [bind, Except.bind]
  | ok val => simp [bind, Except.bind]

theorem raise_if_error [Decidable cond] {raised : Error} :
    (raiseIf cond raised : Except Error Unit) = .error err ↔ cond ∧ raised = err := by
  unfold raiseIf
  split_ifs with holds <;> simp [holds]

theorem or_raise_error {found : Option Value} {raised : Error} :
    orRaise found raised = .error err ↔ found = none ∧ raised = err := by
  cases found <;> simp [orRaise]

theorem pure_error : (pure val : Except Error Value) = .error err ↔ False := by
  simp [pure, Except.pure]

theorem map_ok {read : Value → Result} :
    (read <$> first) = .ok res ↔ ∃ val, first = .ok val ∧ read val = res := by
  cases first with
  | error err => simp [Functor.map, Except.map]
  | ok val => simp [Functor.map, Except.map]

theorem ite_ok [Decidable cond] {positive negative : Except Error Result} :
    (if cond then positive else negative) = .ok res ↔
      cond ∧ positive = .ok res ∨ ¬cond ∧ negative = .ok res := by
  split_ifs with holds <;> simp [holds]

theorem pure_ok {res : Value} :
    (pure val : Except Error Value) = .ok res ↔ val = res := by
  simp [pure, Except.pure]

theorem throw_ok {res : Value} : (throw err : Except Error Value) = .ok res ↔ False := by
  simp [throw, throwThe, MonadExceptOf.throw]

def RaisesOnly (allowed : Error → Prop) (computation : Except Error Value) : Prop :=
  ∀ err, computation = .error err → allowed err

section RaisesOnly

variable {allowed : Error → Prop}

theorem raises_only_bind (raises : RaisesOnly allowed first)
    (continues : ∀ val, first = .ok val → RaisesOnly allowed (rest val)) :
    RaisesOnly allowed (first >>= rest) := by
  intro err raised
  rcases bind_error.mp raised with isFirst | ⟨val, ran, isRest⟩
  · exact raises err isFirst
  · exact continues val ran err isRest

theorem raises_only_check [Decidable cond] (isAllowed : allowed err) :
    RaisesOnly allowed (raiseIf cond err) := by
  intro raised isRaised
  rw [← (raise_if_error.mp isRaised).2]
  exact isAllowed

theorem raises_only_ok : RaisesOnly allowed (.ok val : Except Error Value) :=
  fun _ raised => (by cases raised)

theorem raises_only_error (isAllowed : allowed err) :
    RaisesOnly allowed (.error err : Except Error Value) := by
  intro raised isRaised
  cases isRaised
  exact isAllowed

end RaisesOnly

variable {State Item : Type}

/-- A loop whose body may raise. What was done to the state before a raise stays done. -/
def forEach (body : Item → State → Except Error Unit × State) :
    List Item → State → Except Error Unit × State
  | [], st => (.ok (), st)
  | item :: rest, st =>
    match body item st with
    | (.ok (), post) => forEach body rest post
    | (.error err, post) => (.error err, post)

variable {body : Item → State → Except Error Unit × State}

/-- The loop rule: an invariant over what is left to do excludes every raise. -/
theorem for_each_ok {inv : List Item → State → Prop} (step : ∀ item rest st, inv (item :: rest) st →
      ∃ post, body item st = (.ok (), post) ∧ inv rest post)
    {items : List Item} {st : State} (start : inv items st) :
    ∃ post, forEach body items st = (.ok (), post) ∧ inv [] post := by
  induction items generalizing st with
  | nil => exact ⟨st, rfl, start⟩
  | cons item rest ih =>
    rcases step item rest st start with ⟨next, ran, kept⟩
    rcases ih kept with ⟨post, finished, done⟩
    refine ⟨post, ?_, done⟩
    simp only [forEach, ran]
    exact finished

/-- What every turn keeps, the loop keeps, whether it raises or not. -/
theorem for_each_keeps {inv : State → Prop} (step : ∀ item st, inv st → inv (body item st).2)
    {items : List Item} {st : State} (start : inv st) :
    inv (forEach body items st).2 := by
  induction items generalizing st with
  | nil => exact start
  | cons item rest ih =>
    have next := step item st start
    unfold forEach
    cases turn : body item st with
    | mk out post =>
      rw [turn] at next
      cases out with
      | ok val => exact ih next
      | error err => exact next

end RtspProxy.Lib.Raising
