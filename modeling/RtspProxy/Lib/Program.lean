import Mathlib.Logic.Relation
import Mathlib.Tactic.Common

/-!
# Programs that make calls, and threads that run them

A program is a tree of calls: at every call it waits for an answer or an
exception and goes on accordingly. A system runs any number of programs, one
per thread, against a shared world; a call is one atomic step, and between two
calls of a thread the other threads may do anything.

A program is `Safe` when each of its calls is permitted in every world it may be
made in, and its outcome meets a postcondition. For a program on its own that is
`Ensures`. For a system, a `Protocol` fixes the invariant, what a thread may do to
the others (`effect`), and when a call is `permitted`; once every program is safe
among the others, `safe_system` gives the invariant in every state reached.
-/

namespace RtspProxy.Lib.Program

inductive Prog (Call : Type) (Answer : Call → Type) (Error Result : Type)
  | done (out : Except Error Result)
  | call (req : Call)
      (next : Except Error (Answer req) → Prog Call Answer Error Result)

namespace Prog

variable {Call : Type} {Answer : Call → Type} {Error Result Final : Type}

/-- Continue with the outcome, whether a result or an exception. -/
def andThen (prog : Prog Call Answer Error Result)
    (next : Except Error Result → Prog Call Answer Error Final) : Prog Call Answer Error Final :=
  match prog with
  | done out => next out
  | call req rest => call req fun ans => (rest ans).andThen next

def ask (req : Call) : Prog Call Answer Error (Answer req) := call req done

def raise (err : Error) : Prog Call Answer Error Result := done (.error err)

def bind (prog : Prog Call Answer Error Result)
    (next : Result → Prog Call Answer Error Final) : Prog Call Answer Error Final :=
  prog.andThen fun out =>
    match out with
    | .ok res => next res
    | .error err => raise err

/-- `try: program except: handler`. -/
def handle (prog : Prog Call Answer Error Result)
    (handler : Error → Prog Call Answer Error Result) : Prog Call Answer Error Result :=
  prog.andThen fun out =>
    match out with
    | .ok res => done (.ok res)
    | .error err => handler err

instance : Monad (Prog Call Answer Error) where
  pure res := done (.ok res)
  bind := bind

instance : MonadExceptOf Error (Prog Call Answer Error) where
  throw := raise
  tryCatch := handle

theorem and_then_assoc {Middle : Type} (prog : Prog Call Answer Error Result)
    (next : Except Error Result → Prog Call Answer Error Middle)
    (last : Except Error Middle → Prog Call Answer Error Final) :
    (prog.andThen next).andThen last = prog.andThen fun out => (next out).andThen last := by
  induction prog with
  | done out => rfl
  | call req rest ih =>
    simp only [andThen]
    congr 1
    funext ans
    exact ih ans

theorem bind_bind {Middle : Type} (prog : Prog Call Answer Error Result)
    (next : Result → Prog Call Answer Error Middle) (last : Middle → Prog Call Answer Error Final) :
    (prog >>= next) >>= last = prog >>= fun res => next res >>= last := by
  refine (and_then_assoc prog _ _).trans ?_
  refine congrArg prog.andThen ?_
  funext out
  cases out with
  | ok res => rfl
  | error err => rfl

end Prog

open Prog
open Relation (ReflTransGen)

section Systems

variable {Call : Type} {Answer : Call → Type} {Error Result World : Type}

/-- How calls act on the world. -/
structure Machine (Call : Type) (Answer : Call → Type) (Error World : Type) where
  /-- `exec tid w req answer after`: the call may answer this way. -/
  exec : Nat → World → (req : Call) → Except Error (Answer req) → World → Prop
  /-- What the end of a thread, by completion or by a crash, does to the world. -/
  leave : Nat → World → World

/-- Where a call fails: not at all, before it takes effect, or after it took effect. -/
inductive Fault
  | none
  | before
  | after
  deriving DecidableEq

/-- The answer and the world after a call that may be lost. -/
def Fault.strike {Value : Type} (fault : Fault) (lost : Error)
    (effect : Except Error Value × World) (w : World) : Except Error Value × World :=
  match fault with
  | .none => effect
  | .before => (.error lost, w)
  | .after => (.error lost, effect.2)

structure SystemState (Call : Type) (Answer : Call → Type) (Error Result World : Type) where
  world : World
  threads : Nat → Option (Prog Call Answer Error Result)

def setThread (threads : Nat → Option (Prog Call Answer Error Result)) (tid : Nat)
    (prog : Option (Prog Call Answer Error Result)) :
    Nat → Option (Prog Call Answer Error Result) :=
  fun other => if other = tid then prog else threads other

/-- Threads start with one of the given programs, make calls, and end at any point. -/
inductive SystemStep (machine : Machine Call Answer Error World)
    (starts : Prog Call Answer Error Result → Prop)
    (st : SystemState Call Answer Error Result World) :
    SystemState Call Answer Error Result World → Prop
  | start (tid : Nat) (prog : Prog Call Answer Error Result) (allowed : starts prog)
      (idle : st.threads tid = none) :
      SystemStep machine starts st { st with threads := setThread st.threads tid (some prog) }
  | call (tid : Nat) (req : Call)
      (next : Except Error (Answer req) → Prog Call Answer Error Result)
      (answer : Except Error (Answer req)) (after : World)
      (at_ : st.threads tid = some (.call req next))
      (executed : machine.exec tid st.world req answer after) :
      SystemStep machine starts st
        { world := after, threads := setThread st.threads tid (some (next answer)) }
  | leave (tid : Nat) (prog : Prog Call Answer Error Result)
      (at_ : st.threads tid = some prog) :
      SystemStep machine starts st
        { world := machine.leave tid st.world
          threads := setThread st.threads tid none }

inductive SystemReachable (machine : Machine Call Answer Error World)
    (starts : Prog Call Answer Error Result → Prop) (initial : World → Prop) :
    SystemState Call Answer Error Result World → Prop
  | initial {w : World} (holds : initial w) :
      SystemReachable machine starts initial { world := w, threads := fun _ => none }
  | step {st next : SystemState Call Answer Error Result World}
      (reached : SystemReachable machine starts initial st)
      (step : SystemStep machine starts st next) :
      SystemReachable machine starts initial next

/-- A step in which the program of this thread changes: it starts, is answered or ends. -/
def ThreadStep (machine : Machine Call Answer Error World)
    (starts : Prog Call Answer Error Result → Prop) (tid : Nat)
    (st next : SystemState Call Answer Error Result World) : Prop :=
  SystemStep machine starts st next ∧ next.threads tid ≠ st.threads tid

/-- A run of a system, with the thread that takes each step and the world it leads to. -/
inductive SystemRun (machine : Machine Call Answer Error World)
    (starts : Prog Call Answer Error Result → Prop) :
    SystemState Call Answer Error Result World → List (Nat × World) →
      SystemState Call Answer Error Result World → Prop
  | stay (st : SystemState Call Answer Error Result World) : SystemRun machine starts st [] st
  | step {st next last : SystemState Call Answer Error Result World} {tid : Nat}
      {trace : List (Nat × World)} (step : ThreadStep machine starts tid st next)
      (rest : SystemRun machine starts next trace last) :
      SystemRun machine starts st ((tid, next.world) :: trace) last

/-- Each world comes from the one before by a step of the thread that is named with it. -/
def Traces (effect : Nat → World → World → Prop) : World → List (Nat × World) → Prop
  | _, [] => True
  | w, (tid, after) :: rest => effect tid w after ∧ Traces effect after rest

/-- Every call is permitted in each world that `rely` leads to, and the outcome meets `post`. -/
def Safe (machine : Machine Call Answer Error World) (tid : Nat) (rely : World → World → Prop)
    (permitted : World → Call → Prop) (post : Except Error Result → World → Prop) :
    Prog Call Answer Error Result → World → Prop
  | .done out, w => post out w
  | .call req next, w => ∀ cur, rely w cur →
      permitted cur req ∧ ∀ ans after, machine.exec tid cur req ans after →
          Safe machine tid rely permitted post (next ans) after

/-- A postcondition with one part for results and one for exceptions. -/
def Returns (ret : Result → World → Prop) (raised : Error → World → Prop) :
    Except Error Result → World → Prop
  | .ok res, w => ret res w
  | .error err, w => raised err w

variable {post : Except Error Result → World → Prop} {w : World}
  {handler : Error → Prog Call Answer Error Result}

section Rules

variable {machine : Machine Call Answer Error World} {tid : Nat} {rely : World → World → Prop}
  {permitted : World → Call → Prop}

variable {prog : Prog Call Answer Error Result}

theorem safe_weaken {weaker : Except Error Result → World → Prop}
    (safe : Safe machine tid rely permitted post prog w)
    (weaken : ∀ out after, post out after → weaker out after) :
    Safe machine tid rely permitted weaker prog w := by
  induction prog generalizing w with
  | done out => exact weaken out w safe
  | call req next ih =>
    intro cur relied
    obtain ⟨allowed, rest⟩ := safe cur relied
    refine ⟨allowed, ?_⟩
    intro ans after ran
    exact ih ans (rest ans after ran)

theorem safe_any (safe : Safe machine tid rely permitted post prog w) :
    Safe machine tid rely permitted (fun _ _ => True) prog w :=
  safe_weaken safe fun _ _ _ => trivial

variable {Final : Type}

variable {next : Except Error Result → Prog Call Answer Error Final}

theorem safe_and_then {middle : Except Error Result → World → Prop}
    {post : Except Error Final → World → Prop}
    (safe : Safe machine tid rely permitted middle prog w)
    (continues : ∀ out after, middle out after →
      Safe machine tid rely permitted post (next out) after) :
    Safe machine tid rely permitted post (prog.andThen next) w := by
  induction prog generalizing w with
  | done out => exact continues out w safe
  | call req rest ih =>
    intro cur relied
    obtain ⟨allowed, further⟩ := safe cur relied
    refine ⟨allowed, ?_⟩
    intro ans after ran
    exact ih ans (further ans after ran)

variable {raised : Error → World → Prop}

theorem safe_cases {ret : Result → World → Prop} {post : Except Error Final → World → Prop}
    (safe : Safe machine tid rely permitted (Returns ret raised) prog w)
    (returns : ∀ res after, ret res after →
      Safe machine tid rely permitted post (next (.ok res)) after)
    (raises : ∀ err after, raised err after →
      Safe machine tid rely permitted post (next (.error err)) after) :
    Safe machine tid rely permitted post (prog.andThen next) w := by
  refine safe_and_then safe ?_
  intro out after holds
  cases out with
  | ok res => exact returns res after holds
  | error err => exact raises err after holds

theorem safe_pure {res : Result} (holds : post (.ok res) w) :
    Safe machine tid rely permitted post (pure res : Prog Call Answer Error Result) w :=
  holds

theorem safe_raise {err : Error} (holds : post (.error err) w) :
    Safe machine tid rely permitted post (raise err : Prog Call Answer Error Result) w :=
  holds

variable {next : Result → Prog Call Answer Error Final}

theorem safe_then {ret : Result → World → Prop} {post : Except Error Final → World → Prop}
    (safe : Safe machine tid rely permitted (Returns ret raised) prog w)
    (passes : ∀ err after, raised err after → post (.error err) after)
    (continues : ∀ res after, ret res after →
      Safe machine tid rely permitted post (next res) after) :
    Safe machine tid rely permitted post (prog >>= next) w := by
  refine safe_and_then safe ?_
  intro out after holds
  cases out with
  | ok res => exact continues res after holds
  | error err => exact passes err after holds

theorem safe_bind {middle : Result → World → Prop} {post : Except Error Final → World → Prop}
    (safe : Safe machine tid rely permitted
      (Returns middle fun err after => post (.error err) after) prog w)
    (continues : ∀ res after, middle res after →
      Safe machine tid rely permitted post (next res) after) :
    Safe machine tid rely permitted post (prog >>= next) w :=
  safe_then safe (fun _ _ holds => holds) continues

theorem safe_handle (caught : Error → World → Prop) (safe : Safe machine tid rely permitted
      (Returns (fun res after => post (.ok res) after) caught) prog w)
    (handles : ∀ err after, caught err after →
      Safe machine tid rely permitted post (handler err) after) :
    Safe machine tid rely permitted post (prog.handle handler) w := by
  refine safe_and_then safe ?_
  intro out after holds
  cases out with
  | ok res => exact holds
  | error err => exact handles err after holds

end Rules

def Only (allowed : Call → Prop) : Prog Call Answer Error Result → Prop
  | .done _ => True
  | .call req next => allowed req ∧ ∀ ans, Only allowed (next ans)

section Only

variable {Final : Type} {allowed : Call → Prop}

theorem only_ask {req : Call} (isAllowed : allowed req) :
    Only allowed (ask req : Prog Call Answer Error (Answer req)) :=
  ⟨isAllowed, fun _ => trivial⟩

variable {prog : Prog Call Answer Error Result}

theorem only_weaken {wider : Call → Prop}
    (only : Only allowed prog) (weaken : ∀ req, allowed req → wider req) :
    Only wider prog := by
  induction prog with
  | done out => trivial
  | call req next ih => exact ⟨weaken req only.1, fun ans => ih ans (only.2 ans)⟩

theorem only_and_then
    {next : Except Error Result → Prog Call Answer Error Final} (first : Only allowed prog)
    (rest : ∀ out, Only allowed (next out)) : Only allowed (prog.andThen next) := by
  induction prog with
  | done out => exact rest out
  | call req further ih => exact ⟨first.1, fun ans => ih ans (first.2 ans)⟩

theorem only_bind {next : Result → Prog Call Answer Error Final} (first : Only allowed prog)
    (rest : ∀ res, Only allowed (next res)) : Only allowed (prog >>= next) := by
  refine only_and_then first ?_
  intro out
  cases out with
  | ok res => exact rest res
  | error err => trivial

theorem only_handle (first : Only allowed prog)
    (rest : ∀ err, Only allowed (handler err)) : Only allowed (prog.handle handler) := by
  refine only_and_then first ?_
  intro out
  cases out with
  | ok res => trivial
  | error err => exact rest err

end Only

variable {after : World} {out : Except Error Result}
  {starts : Prog Call Answer Error Result → Prop}

section Alone

variable {machine : Machine Call Answer Error World}

/-- A run of the program that nobody disturbs, from the first call to the outcome. -/
inductive Runs (machine : Machine Call Answer Error World) (tid : Nat) :
    Prog Call Answer Error Result → World → Except Error Result → World → Prop
  | done (out : Except Error Result) (w : World) :
      Runs machine tid (.done out) w out w
  | call {req : Call} {next : Except Error (Answer req) → Prog Call Answer Error Result}
      {answer : Except Error (Answer req)} {w middle after : World}
      {out : Except Error Result}
      (executed : machine.exec tid w req answer middle)
      (rest : Runs machine tid (next answer) middle out after) :
      Runs machine tid (.call req next) w out after

variable {tid : Nat}

theorem runs_ask {req : Call} {ans : Except Error (Answer req)}
    (ran : machine.exec tid w req ans after) :
    Runs machine tid (.ask req) w ans after :=
  .call ran (.done _ _)

variable {prog : Prog Call Answer Error Result}

theorem runs_and_then {Final : Type}
    {next : Except Error Result → Prog Call Answer Error Final} {middle : World}
    {final : Except Error Final} (first : Runs machine tid prog w out middle)
    (rest : Runs machine tid (next out) middle final after) :
    Runs machine tid (prog.andThen next) w final after := by
  induction first with
  | done out w => exact rest
  | call ran _ ih => exact .call ran (ih rest)

theorem runs_bind {Final : Type}
    {next : Result → Prog Call Answer Error Final} {middle : World} {res : Result}
    {final : Except Error Final} (first : Runs machine tid prog w (.ok res) middle)
    (rest : Runs machine tid (next res) middle final after) :
    Runs machine tid (prog >>= next) w final after :=
  runs_and_then first rest

theorem runs_total
    (answered : ∀ w req, ∃ ans after, machine.exec tid w req ans after)
    (prog : Prog Call Answer Error Result) (w : World) :
    ∃ out after, Runs machine tid prog w out after := by
  induction prog generalizing w with
  | done out => exact ⟨out, w, .done out w⟩
  | call req next ih =>
    obtain ⟨ans, middle, ran⟩ := answered w req
    obtain ⟨out, after, rest⟩ := ih ans middle
    exact ⟨out, after, .call ran rest⟩

variable {threads : Nat → Option (Prog Call Answer Error Result)}

theorem set_thread_again {first second : Option (Prog Call Answer Error Result)} :
    setThread (setThread threads tid first) tid second = setThread threads tid second := by
  funext other
  unfold setThread
  split_ifs
  · rfl
  · rfl

theorem set_thread_self {prog : Option (Prog Call Answer Error Result)} :
    setThread threads tid prog tid = prog := if_pos rfl

theorem reachable_runs {initial : World → Prop} (runs : Runs machine tid prog w out after)
    (reached : SystemReachable machine starts initial
      { world := w, threads := setThread threads tid (some prog) }) :
    SystemReachable machine starts initial
      { world := machine.leave tid after, threads := setThread threads tid none } := by
  induction runs with
  | done out w =>
    have left := reached.step (.leave tid _ set_thread_self)
    rw [set_thread_again] at left
    exact left
  | call ran _ ih =>
    have called := reached.step (.call tid _ _ _ _ set_thread_self ran)
    rw [set_thread_again] at called
    exact ih called

theorem reachable_alone {initial : World → Prop} (allowed : starts prog)
    (runs : Runs machine tid prog w out after)
    (reached : SystemReachable machine starts initial { world := w, threads := fun _ => none }) :
    SystemReachable machine starts initial
      { world := machine.leave tid after, threads := fun _ => none } := by
  have ended := reachable_runs runs (reached.step (.start tid prog allowed rfl))
  have idle : setThread (fun _ => none) tid none =
      fun _ => (none : Option (Prog Call Answer Error Result)) := by
    funext other
    exact ite_self _
  rw [idle] at ended
  exact ended

/-- However the calls answer, the outcome meets `post`. -/
abbrev Ensures (machine : Machine Call Answer Error World) (tid : Nat)
    (post : Except Error Result → World → Prop) (prog : Prog Call Answer Error Result)
    (w : World) : Prop :=
  Safe machine tid Eq (fun _ _ => True) post prog w

theorem ensures_ask {req : Call} {post : Except Error (Answer req) → World → Prop}
    (answers : ∀ ans after, machine.exec tid w req ans after → post ans after) :
    Ensures machine tid post (.ask req) w := by
  rintro cur rfl
  exact ⟨trivial, answers⟩

theorem runs_ensured (ensures : Ensures machine tid post prog w)
    (runs : Runs machine tid prog w out after) : post out after := by
  induction runs with
  | done out w => exact ensures
  | call ran rest ih => exact ih ((ensures _ rfl).2 _ _ ran)

theorem safe_ensures {permitted : World → Call → Prop}
    (safe : Safe machine tid Eq permitted post prog w) :
    Ensures machine tid post prog w := by
  induction prog generalizing w with
  | done out => exact safe
  | call req next ih =>
    rintro cur rfl
    refine ⟨trivial, ?_⟩
    intro ans after ran
    exact ih ans ((safe _ rfl).2 ans after ran)

end Alone

/-! ## A program disturbed by others -/

section Disturbed

variable {machine : Machine Call Answer Error World} {others : World → World → Prop} {tid : Nat}

/-- One call of a run: the world it was made in, its answer and the world it left. -/
structure Made (Call : Type) (Answer : Call → Type) (Error World : Type) where
  world : World
  request : Call
  answer : Except Error (Answer request)
  after : World

/-- A run between whose calls others may take any number of steps, with the calls it made. -/
inductive RunsAmong (machine : Machine Call Answer Error World) (others : World → World → Prop)
    (tid : Nat) : Prog Call Answer Error Result → World → List (Made Call Answer Error World) →
      Except Error Result → World → Prop
  | done (out : Except Error Result) (w : World) :
      RunsAmong machine others tid (.done out) w [] out w
  | call {req : Call} {next : Except Error (Answer req) → Prog Call Answer Error Result}
      {answer : Except Error (Answer req)} {w cur middle after : World}
      {made : List (Made Call Answer Error World)} {out : Except Error Result}
      (disturbed : ReflTransGen others w cur)
      (executed : machine.exec tid cur req answer middle)
      (rest : RunsAmong machine others tid (next answer) middle made out after) :
      RunsAmong machine others tid (.call req next) w
        (⟨cur, req, answer, middle⟩ :: made) out after

variable {made : List (Made Call Answer Error World)}

theorem runs_among_done {final : Except Error Result}
    (runs : RunsAmong machine others tid (.done out) w made final after) :
    made = [] ∧ out = final ∧ after = w := by
  cases runs
  exact ⟨rfl, rfl, rfl⟩

theorem runs_among_ask {req : Call} {ans : Except Error (Answer req)}
    (runs : RunsAmong machine others tid (.ask req) w made ans after) :
    ∃ cur, ReflTransGen others w cur ∧ machine.exec tid cur req ans after ∧
      made = [⟨cur, req, ans, after⟩] := by
  cases runs with
  | call disturbed ran rest =>
    cases rest
    exact ⟨_, disturbed, ran, rfl⟩

variable {prog : Prog Call Answer Error Result}

theorem runs_among_and_then {Final : Type}
    {next : Except Error Result → Prog Call Answer Error Final} {final : Except Error Final}
    (runs : RunsAmong machine others tid (prog.andThen next) w made final after) :
    ∃ out middle first rest, made = first ++ rest ∧
      RunsAmong machine others tid prog w first out middle ∧
      RunsAmong machine others tid (next out) middle rest final after := by
  induction prog generalizing w made with
  | done out => exact ⟨out, w, [], made, rfl, .done out w, runs⟩
  | call req further ih =>
    cases runs with
    | call disturbed executed rest =>
      obtain ⟨out, middle, first, last, isMade, ran, finished⟩ := ih _ rest
      exact ⟨out, middle, _ :: first, last, congrArg _ isMade, .call disturbed executed ran,
        finished⟩

theorem runs_among_bind {Final : Type}
    {next : Result → Prog Call Answer Error Final} {final : Final}
    (runs : RunsAmong machine others tid (prog >>= next) w made (.ok final) after) :
    ∃ res middle first rest, made = first ++ rest ∧
      RunsAmong machine others tid prog w first (.ok res) middle ∧
      RunsAmong machine others tid (next res) middle rest (.ok final) after := by
  obtain ⟨out, middle, first, rest, isMade, ran, finished⟩ := runs_among_and_then runs
  cases out with
  | ok res => exact ⟨res, middle, first, rest, isMade, ran, finished⟩
  | error err => cases finished

theorem runs_alone_permitted {permitted : World → Call → Prop}
    (alone : ∀ pre later, ¬ others pre later)
    (safe : Safe machine tid Eq permitted post prog w)
    (runs : RunsAmong machine others tid prog w made out after) :
    ∀ call ∈ made, permitted call.world call.request := by
  induction runs with
  | done out w =>
    intro call mem
    cases mem
  | call disturbed ran rest ih =>
    rcases disturbed.cases_head with rfl | ⟨_, step, _⟩
    · obtain ⟨isPermitted, further⟩ := safe _ rfl
      intro call mem
      rcases List.mem_cons.mp mem with rfl | later
      · exact isPermitted
      · exact ih (further _ _ ran) call later
    · exact absurd step (alone _ _)

end Disturbed

/-- The contract between the threads of a system. -/
structure Protocol (machine : Machine Call Answer Error World) where
  invariant : World → Prop
  /-- What a step of one thread may look like to the others. -/
  effect : Nat → World → World → Prop
  /-- When a thread may make a call. -/
  permitted : Nat → World → Call → Prop
  sound : ∀ {tid w req answer after}, invariant w →
    permitted tid w req → machine.exec tid w req answer after →
    invariant after ∧ effect tid w after
  leaves : ∀ tid {w}, invariant w →
    invariant (machine.leave tid w) ∧ effect tid w (machine.leave tid w)

variable {machine : Machine Call Answer Error World} (protocol : Protocol machine)

def Others (tid : Nat) : World → World → Prop :=
  ReflTransGen fun pre after =>
    protocol.invariant pre ∧ protocol.invariant after ∧
      ∃ other, other ≠ tid ∧ protocol.effect other pre after

def Stable (tid : Nat) (prop : World → Prop) : Prop :=
  ∀ pre after, protocol.invariant pre → protocol.invariant after →
    (∃ other, other ≠ tid ∧ protocol.effect other pre after) →
    prop pre → prop after

/-- Every call is permitted whatever the others do, and the outcome meets `post`. -/
abbrev SafeAmong (tid : Nat) (post : Except Error Result → World → Prop)
    (prog : Prog Call Answer Error Result) (w : World) : Prop :=
  Safe machine tid
    (fun pre cur => Others protocol tid pre cur ∧ protocol.invariant cur)
    (protocol.permitted tid) post prog w

variable {protocol} {tid : Nat}

variable {prop : World → Prop}

variable {pre : World}

theorem stable_others (stable : Stable protocol tid prop)
    (others : Others protocol tid pre after) (holds : prop pre) : prop after := by
  induction others with
  | refl => exact holds
  | tail _ step ih => exact stable _ _ step.1 step.2.1 step.2.2 ih

theorem stable_and {further : World → Prop} (first : Stable protocol tid prop)
    (second : Stable protocol tid further) :
    Stable protocol tid fun w => prop w ∧ further w := by
  intro pre after beforeHolds afterHolds step both
  exact ⟨first pre after beforeHolds afterHolds step both.1,
    second pre after beforeHolds afterHolds step both.2⟩

variable {req : Call}

theorem safe_call_others {next : Except Error (Answer req) → Prog Call Answer Error Result}
    (safe : SafeAmong protocol tid post (.call req next) pre)
    (others : Others protocol tid pre after) :
    SafeAmong protocol tid post (.call req next) after := by
  rintro cur ⟨further, holds⟩
  exact safe cur ⟨others.trans further, holds⟩

theorem safe_ask {post : Except Error (Answer req) → World → Prop}
    (stable : Stable protocol tid prop) (holds : prop w)
    (permitted : ∀ cur, protocol.invariant cur → prop cur → protocol.permitted tid cur req)
    (answers : ∀ cur ans after, protocol.invariant cur → prop cur →
      machine.exec tid cur req ans after → post ans after) :
    SafeAmong protocol tid post (.ask req) w := by
  rintro cur ⟨others, inv⟩
  have still := stable_others stable others holds
  refine ⟨permitted cur inv still, ?_⟩
  intro ans after ran
  exact answers cur ans after inv still ran

variable {prog : Prog Call Answer Error Result}

theorem safe_frame
    (kept : ∀ actor pre after, protocol.invariant pre → protocol.invariant after →
      protocol.effect actor pre after → prop pre → prop after)
    (holds : prop w) (safe : SafeAmong protocol tid post prog w) :
    SafeAmong protocol tid (fun out after => post out after ∧ prop after) prog
      w := by
  induction prog generalizing w with
  | done out => exact ⟨safe, holds⟩
  | call req next ih =>
    rintro cur ⟨others, inv⟩
    obtain ⟨permitted, further⟩ := safe cur ⟨others, inv⟩
    refine ⟨permitted, ?_⟩
    intro ans after ran
    have stable : Stable protocol tid prop := by
      rintro pre later beforeHolds laterHolds ⟨actor, _, effect⟩
      exact kept actor pre later beforeHolds laterHolds effect
    obtain ⟨afterHolds, effect⟩ := protocol.sound inv permitted ran
    have still := stable_others stable others holds
    exact ih ans (kept tid cur after inv afterHolds effect still)
      (further ans after ran)

variable {allowed : Call → Prop}

/-- What the others leave alone and the program's own calls keep holds after the program as well. -/
theorem safe_frame_only (stable : Stable protocol tid prop)
    (kept : ∀ req pre ans after, allowed req → protocol.invariant pre →
      protocol.permitted tid pre req → machine.exec tid pre req ans after →
      prop pre → prop after) (only : Only allowed prog) (holds : prop w)
    (safe : SafeAmong protocol tid post prog w) :
    SafeAmong protocol tid (fun out after => post out after ∧ prop after) prog
      w := by
  induction prog generalizing w with
  | done out => exact ⟨safe, holds⟩
  | call req next ih =>
    rintro cur ⟨others, inv⟩
    obtain ⟨permitted, further⟩ := safe cur ⟨others, inv⟩
    refine ⟨permitted, ?_⟩
    intro ans after ran
    have still := stable_others stable others holds
    exact ih ans (only.2 ans)
      (kept req cur ans after only.1 inv permitted ran still)
      (further ans after ran)

theorem safe_only
    (permitted : ∀ req cur, allowed req → protocol.permitted tid cur req)
    (only : Only allowed prog) : SafeAmong protocol tid (fun _ _ => True) prog w := by
  induction prog generalizing w with
  | done out => trivial
  | call req next ih =>
    rintro cur _
    refine ⟨permitted req cur only.1, ?_⟩
    intro ans after _
    exact ih ans (only.2 ans)

/-! ## Facts a program maintains -/

/-- A fact that holds before the program holds after it, whatever its outcome. -/
def Maintains (protocol : Protocol machine) (tid : Nat) (fact : World → Prop)
    (prog : Prog Call Answer Error Result) : Prop :=
  ∀ w, fact w → SafeAmong protocol tid (fun _ => fact) prog w

section Maintains

variable {Final : Type} {fact : World → Prop}

variable {prog : Prog Call Answer Error Result}

theorem safe_returns (safe : SafeAmong protocol tid (fun _ => fact) prog w) :
    SafeAmong protocol tid (Returns (fun _ => fact) fun _ => fact) prog w := by
  refine safe_weaken safe ?_
  intro out after holds
  cases out <;> exact holds

theorem maintains_then
    {next : Result → Prog Call Answer Error Final} {post : Except Error Final → World → Prop}
    (maintains : Maintains protocol tid fact prog)
    (raised : ∀ err w, fact w → post (.error err) w)
    (continues : ∀ res w, fact w → SafeAmong protocol tid post (next res) w)
    {w : World} (holds : fact w) :
    SafeAmong protocol tid post (prog >>= next) w :=
  safe_then (safe_returns (maintains w holds)) raised continues

theorem maintains_bind
    {next : Result → Prog Call Answer Error Final} (first : Maintains protocol tid fact prog)
    (rest : ∀ res, Maintains protocol tid fact (next res)) :
    Maintains protocol tid fact (prog >>= next) :=
  fun _ holds => maintains_then first (fun _ _ => id) (fun res w => rest res w) holds

theorem maintains_pure {res : Result} :
    Maintains protocol tid fact (pure res : Prog Call Answer Error Result) :=
  fun _ holds => safe_pure holds

theorem maintains_raise {err : Error} :
    Maintains protocol tid fact (raise err : Prog Call Answer Error Result) :=
  fun _ holds => safe_raise holds

theorem maintains_and_then {next : Except Error Result → Prog Call Answer Error Final}
    (first : Maintains protocol tid fact prog)
    (rest : ∀ out, Maintains protocol tid fact (next out)) :
    Maintains protocol tid fact (prog.andThen next) :=
  fun w holds => safe_and_then (first w holds) fun out after => rest out after

theorem maintains_handle (first : Maintains protocol tid fact prog)
    (rest : ∀ err, Maintains protocol tid fact (handler err)) :
    Maintains protocol tid fact (prog.handle handler) := by
  refine maintains_and_then first ?_
  intro out
  cases out with
  | ok res => exact maintains_pure
  | error err => exact rest err

theorem maintains_only
    (permitted : ∀ req cur, allowed req → protocol.permitted tid cur req)
    (idle : ∀ req pre ans after, allowed req →
      machine.exec tid pre req ans after → after = pre)
    (stable : Stable protocol tid fact) (only : Only allowed prog) :
    Maintains protocol tid fact prog := by
  intro w holds
  have framed := safe_frame_only stable
    (fun req pre ans after isAllowed _ _ ran isFact =>
      (idle req pre ans after isAllowed ran) ▸ isFact) only holds
    (safe_only permitted only)
  exact safe_weaken framed fun _ _ both => both.2

end Maintains

/-- The state of a system whose threads are safe, and end as they should: a thread that has ended
meets its postcondition. -/
def AllMeet (protocol : Protocol machine) (post : Nat → Except Error Result → World → Prop)
    (st : SystemState Call Answer Error Result World) : Prop :=
  protocol.invariant st.world ∧ ∀ tid prog, st.threads tid = some prog →
    SafeAmong protocol tid (post tid) prog st.world

def AllSafe (protocol : Protocol machine) (st : SystemState Call Answer Error Result World) :
    Prop :=
  protocol.invariant st.world ∧ ∀ tid prog, st.threads tid = some prog →
    SafeAmong protocol tid (fun _ _ => True) prog st.world

variable {st : SystemState Call Answer Error Result World}

section Meeting

variable {post : Nat → Except Error Result → World → Prop}

theorem safe_others {post : Except Error Result → World → Prop}
    {prog : Prog Call Answer Error Result} {after : World} {actor : Nat}
    (lasting : ∀ out, Stable protocol tid (post out))
    (safe : SafeAmong protocol tid post prog pre) (differ : actor ≠ tid)
    (inv : protocol.invariant pre) (holds : protocol.invariant after)
    (effect : protocol.effect actor pre after) :
    SafeAmong protocol tid post prog after := by
  cases prog with
  | done out =>
    exact lasting out pre after inv holds ⟨actor, differ, effect⟩ safe
  | call req next =>
    exact safe_call_others safe (.single ⟨inv, holds, actor, differ, effect⟩)

theorem all_meet_update {actor : Nat} {own : Option (Prog Call Answer Error Result)}
    (threadsSafe : ∀ tid prog, st.threads tid = some prog →
      SafeAmong protocol tid (post tid) prog st.world)
    (holds : protocol.invariant after) (ownSafe : ∀ prog, own = some prog →
      SafeAmong protocol actor (post actor) prog after)
    (othersSafe : ∀ tid (prog : Prog Call Answer Error Result), tid ≠ actor →
      SafeAmong protocol tid (post tid) prog st.world →
      SafeAmong protocol tid (post tid) prog after) :
    AllMeet protocol post { world := after, threads := setThread st.threads actor own } := by
  refine ⟨holds, ?_⟩
  intro tid prog running
  dsimp only [setThread] at running
  split_ifs at running with same
  · exact same ▸ ownSafe prog running
  · exact othersSafe tid prog same (threadsSafe tid prog running)

theorem all_meet_step {starts : Prog Call Answer Error Result → Prop}
    {st next : SystemState Call Answer Error Result World}
    (lasting : ∀ tid out, Stable protocol tid (post tid out))
    (startsSafe : ∀ tid prog, starts prog → st.threads tid = none →
      SafeAmong protocol tid (post tid) prog st.world)
    (safe : AllMeet protocol post st) (step : SystemStep machine starts st next) :
    AllMeet protocol post next := by
  obtain ⟨inv, threadsSafe⟩ := safe
  cases step with
  | start tid prog allowed idle =>
    refine all_meet_update threadsSafe inv ?_ fun _ _ _ => id
    intro own isProgram
    rw [← Option.some.inj isProgram]
    exact startsSafe tid prog allowed idle
  | call tid req rest ans after at_ ran =>
    obtain ⟨permitted, further⟩ := threadsSafe tid _ at_ st.world ⟨.refl, inv⟩
    obtain ⟨holds, effect⟩ := protocol.sound inv permitted ran
    refine all_meet_update threadsSafe holds ?_ ?_
    · intro own isRest
      rw [← Option.some.inj isRest]
      exact further ans after ran
    · intro other prog differ otherSafe
      exact safe_others (lasting other) otherSafe (Ne.symm differ) inv holds effect
  | leave tid prog at_ =>
    obtain ⟨holds, effect⟩ := protocol.leaves tid inv
    refine all_meet_update threadsSafe holds ?_ ?_
    · intro own isNone
      cases isNone
    · intro other prog differ otherSafe
      exact safe_others (lasting other) otherSafe (Ne.symm differ) inv holds effect

theorem all_safe_step {next : SystemState Call Answer Error Result World}
    (startsSafe : ∀ tid prog, starts prog → st.threads tid = none →
      SafeAmong protocol tid (fun _ _ => True) prog st.world)
    (safe : AllSafe protocol st) (step : SystemStep machine starts st next) :
    AllSafe protocol next := by
  have met : AllMeet protocol (fun _ _ _ => True) next :=
    all_meet_step (fun _ _ _ _ _ _ _ _ => trivial) startsSafe safe step
  exact met

end Meeting

section SafeSystems

variable {starts : Prog Call Answer Error Result → Prop} {initial : World → Prop}
  {st next : SystemState Call Answer Error Result World}

variable (initialHolds : ∀ w, initial w → protocol.invariant w)

include initialHolds

theorem all_safe_reachable
    (startsSafe : ∀ tid w prog, starts prog → protocol.invariant w →
      SafeAmong protocol tid (fun _ _ => True) prog w)
    (reached : SystemReachable machine starts initial st) : AllSafe protocol st := by
  induction reached with
  | initial holds =>
    refine ⟨initialHolds _ holds, ?_⟩
    intro tid prog running
    cases running
  | step _ step ih =>
    refine all_safe_step ?_ ih step
    intro tid prog allowed _
    exact startsSafe tid _ prog allowed ih.1

theorem all_safe_idle {idle : Nat → World → Prop}
    (initialIdle : ∀ w, initial w → ∀ tid, idle tid w)
    (leavesIdle : ∀ tid w, idle tid (machine.leave tid w))
    (staysIdle : ∀ tid, Stable protocol tid (idle tid))
    (startsSafe : ∀ tid w prog, starts prog → protocol.invariant w →
      idle tid w → SafeAmong protocol tid (fun _ _ => True) prog w)
    (reached : SystemReachable machine starts initial st) :
    AllSafe protocol st ∧ ∀ tid, st.threads tid = none → idle tid st.world := by
  induction reached with
  | initial holds =>
    refine ⟨⟨initialHolds _ holds, ?_⟩, fun tid _ => initialIdle _ holds tid⟩
    intro tid prog running
    cases running
  | @step st next _ step ih =>
    obtain ⟨safe, areIdle⟩ := ih
    have nextSafe : AllSafe protocol next := by
      refine all_safe_step ?_ safe step
      intro tid prog allowed isIdle
      exact startsSafe tid _ prog allowed safe.1 (areIdle tid isIdle)
    refine ⟨nextSafe, ?_⟩
    intro tid isIdle
    cases step with
    | start actor prog allowed wasIdle =>
      dsimp only [setThread] at isIdle
      split_ifs at isIdle
      exact areIdle tid isIdle
    | call actor req rest ans after at_ ran =>
      dsimp only [setThread] at isIdle
      split_ifs at isIdle with isActor
      have effect := protocol.sound safe.1
        (safe.2 actor _ at_ st.world ⟨.refl, safe.1⟩).1 ran
      exact staysIdle tid _ _ safe.1 effect.1 ⟨actor, Ne.symm isActor, effect.2⟩
        (areIdle tid isIdle)
    | leave actor prog at_ =>
      dsimp only [setThread] at isIdle
      by_cases isActor : tid = actor
      · rw [isActor]
        exact leavesIdle actor st.world
      · rw [if_neg isActor] at isIdle
        have effect := protocol.leaves actor safe.1
        exact staysIdle tid _ _ safe.1 effect.1 ⟨actor, Ne.symm isActor, effect.2⟩
          (areIdle tid isIdle)

/-- Systems of safe programs keep the invariant of the protocol. -/
theorem safe_system (startsSafe : ∀ tid w prog, starts prog → protocol.invariant w →
      SafeAmong protocol tid (fun _ _ => True) prog w)
    (reached : SystemReachable machine starts initial st) :
    protocol.invariant st.world :=
  (all_safe_reachable initialHolds startsSafe reached).1

omit initialHolds

theorem all_safe_permits (safe : AllSafe protocol st)
    {rest : Except Error (Answer req) → Prog Call Answer Error Result}
    (at_ : st.threads tid = some (.call req rest)) :
    protocol.permitted tid st.world req :=
  (safe.2 tid _ at_ st.world ⟨.refl, safe.1⟩).1

theorem answer_ne {rest : Except Error (Answer req) → Prog Call Answer Error Result}
    {ans : Except Error (Answer req)} : rest ans ≠ .call req rest := by
  have differs (prog : Prog Call Answer Error Result) : ∀ (req : Call)
      (rest : Except Error (Answer req) → Prog Call Answer Error Result)
      (ans : Except Error (Answer req)), prog = .call req rest → rest ans ≠ prog := by
    induction prog with
    | done out =>
      intro req rest ans impossible
      cases impossible
    | call req next ih =>
      rintro _ _ ans ⟨⟩ same
      exact ih ans req next ans same rfl
  exact differs _ req rest ans rfl

/-- Each step is one of exactly one thread. -/
theorem thread_of_step (step : SystemStep machine starts st next) :
    ∃ tid, ThreadStep machine starts tid st next ∧
      ∀ other, ThreadStep machine starts other st next → other = tid := by
  have only {tid : Nat} {own : Option (Prog Call Answer Error Result)}
      (same : next.threads = setThread st.threads tid own) (changed : own ≠ st.threads tid) :
      ∃ tid, ThreadStep machine starts tid st next ∧
        ∀ other, ThreadStep machine starts other st next → other = tid := by
    refine ⟨tid, ⟨step, ?_⟩, ?_⟩
    · rw [same]
      exact fun isSame => changed ((if_pos rfl).symm.trans isSame)
    · rintro other ⟨_, moved⟩
      by_contra differ
      rw [same] at moved
      exact moved (if_neg differ)
  cases step with
  | start tid prog allowed idle =>
    refine only rfl ?_
    rw [idle]
    exact Option.some_ne_none prog
  | call tid req rest ans after at_ ran =>
    refine only rfl ?_
    rw [at_]
    exact fun same => answer_ne (Option.some.inj same)
  | leave tid prog at_ =>
    refine only rfl ?_
    rw [at_]
    exact (Option.some_ne_none prog).symm

/-- A step of a thread of a system of safe programs is its step in the protocol, unless it leaves
the world alone. -/
theorem thread_step_effect (safe : AllSafe protocol st)
    (step : ThreadStep machine starts tid st next) :
    next.world = st.world ∨ protocol.effect tid st.world next.world := by
  obtain ⟨step, changed⟩ := step
  have isActor {actor : Nat} {own : Option (Prog Call Answer Error Result)}
      (moved : setThread st.threads actor own tid ≠ st.threads tid) : actor = tid := by
    by_contra differ
    exact moved (if_neg (Ne.symm differ))
  cases step with
  | start actor prog allowed idle => exact .inl rfl
  | call actor req rest ans after at_ ran =>
    obtain rfl := isActor changed
    exact .inr (protocol.sound safe.1 (all_safe_permits safe at_) ran).2
  | leave actor prog at_ =>
    obtain rfl := isActor changed
    exact .inr (protocol.leaves actor safe.1).2

theorem all_safe_effect (safe : AllSafe protocol st) (step : SystemStep machine starts st next) :
    next.world = st.world ∨ ∃ actor, protocol.effect actor st.world next.world := by
  obtain ⟨actor, own, _⟩ := thread_of_step step
  exact (thread_step_effect safe own).imp_right fun effect => ⟨actor, effect⟩

end SafeSystems

section Scheduling

variable {Choice : Call → Type}
  (perform : Nat → World → (req : Call) → Choice req →
    Option (Except Error (Answer req) × World))

/-- Up to `steps` calls of a thread, each answered as chosen; `none` when a call has no such
answer. -/
def advance (choose : (req : Call) → Choice req) (tid : Nat) :
    Nat → SystemState Call Answer Error Result World →
      Option (SystemState Call Answer Error Result World)
  | 0, st => some st
  | steps + 1, st =>
    match st.threads tid with
    | some (.call req next) =>
      match perform tid st.world req (choose req) with
      | some (ans, after) => advance choose tid steps
          { world := after, threads := setThread st.threads tid (some (next ans)) }
      | none => none
    | _ => some st

/-- All calls of a program, each answered as chosen; `none` when a call has no such answer. -/
def finish (choose : (req : Call) → Choice req) (tid : Nat) :
    Prog Call Answer Error Result → World → Option (Except Error Result × World)
  | .done out, w => some (out, w)
  | .call req next, w =>
    match perform tid w req (choose req) with
    | some (ans, after) => finish choose tid (next ans) after
    | none => none

inductive Move (Call : Type) (Answer : Call → Type) (Error Result : Type) (Choice : Call → Type)
  | start (tid : Nat) (prog : Prog Call Answer Error Result)
  | advance (tid steps : Nat) (choose : (req : Call) → Choice req)

def play : List (Move Call Answer Error Result Choice) →
    SystemState Call Answer Error Result World → Option (SystemState Call Answer Error Result World)
  | [], st => some st
  | .start tid prog :: rest, st =>
    match st.threads tid with
    | none => play rest { st with threads := setThread st.threads tid (some prog) }
    | some _ => none
  | .advance tid steps choose :: rest, st =>
    match advance perform choose tid steps st with
    | some after => play rest after
    | none => none

variable {perform} {starts : Prog Call Answer Error Result → Prop} {initial : World → Prop}

variable {choose : (req : Call) → Choice req}
  {after : SystemState Call Answer Error Result World}

variable {tid : Nat}

theorem reachable_steps (reached : SystemReachable machine starts initial st)
    (steps : ReflTransGen (SystemStep machine starts) st after) :
    SystemReachable machine starts initial after := by
  induction steps with
  | refl => exact reached
  | tail _ step ih => exact ih.step step

/-- From where a system of safe programs is, its runs are runs of the protocol. -/
theorem all_safe_run (protocol : Protocol machine)
    (safe : ∀ {st : SystemState Call Answer Error Result World},
      SystemReachable machine starts initial st → AllSafe protocol st)
    (reached : SystemReachable machine starts initial st)
    (steps : ReflTransGen (SystemStep machine starts) st after) :
    ReflTransGen (fun pre post => ∃ actor, protocol.effect actor pre post)
      st.world after.world := by
  induction steps with
  | refl => exact .refl
  | tail earlier step ih =>
    obtain same | effect := all_safe_effect (safe (reachable_steps reached earlier)) step
    · exact same ▸ ih
    · exact ih.tail effect

/-- From where a system of safe programs is, its runs are step by step those of the protocol. -/
theorem system_run_traces (protocol : Protocol machine)
    (idle : ∀ tid w, protocol.effect tid w w)
    (safe : ∀ {st : SystemState Call Answer Error Result World},
      SystemReachable machine starts initial st → AllSafe protocol st)
    (reached : SystemReachable machine starts initial st) {trace : List (Nat × World)}
    (run : SystemRun machine starts st trace after) :
    Traces protocol.effect st.world trace := by
  induction run with
  | stay st => trivial
  | step step rest ih =>
    refine ⟨?_, ih (reached.step step.1)⟩
    obtain same | effect := thread_step_effect (safe reached) step
    · rw [same]
      exact idle _ _
    · exact effect

theorem reachable_run (reached : SystemReachable machine starts initial st) :
    ∃ start trace, initial start ∧
      SystemRun machine starts { world := start, threads := fun _ => none } trace st := by
  have extends_ {first last next : SystemState Call Answer Error Result World} {trace}
      (run : SystemRun machine starts first trace last) (step : SystemStep machine starts last next) :
      ∃ longer, SystemRun machine starts first longer next := by
    induction run with
    | stay st =>
      obtain ⟨_, own, _⟩ := thread_of_step step
      exact ⟨_, .step own (.stay next)⟩
    | step own _ ih =>
      obtain ⟨longer, run⟩ := ih step
      exact ⟨_, .step own run⟩
  induction reached with
  | initial holds => exact ⟨_, _, holds, .stay _⟩
  | step _ step ih =>
    obtain ⟨start, _, holds, run⟩ := ih
    obtain ⟨longer, run⟩ := extends_ run step
    exact ⟨start, longer, holds, run⟩

variable (performs : ∀ {tid w req choice ans after},
  perform tid w req choice = some (ans, after) →
    machine.exec tid w req ans after)

include performs

theorem advance_steps (steps : Nat) (advanced : advance perform choose tid steps st = some after) :
    ReflTransGen (SystemStep machine starts) st after := by
  induction steps generalizing st with
  | zero =>
    cases advanced
    exact .refl
  | succ steps ih =>
    unfold advance at advanced
    split at advanced
    · rename_i req next at_
      split at advanced
      · rename_i ans w acted
        exact .head (.call tid req next ans w at_ (performs acted))
          (ih advanced)
      · cases advanced
    · cases advanced
      exact .refl

theorem advance_reachable (steps : Nat) (reached : SystemReachable machine starts initial st)
    (advanced : advance perform choose tid steps st = some after) :
    SystemReachable machine starts initial after :=
  reachable_steps reached (advance_steps performs steps advanced)

theorem advance_one (advanced : advance perform choose tid 1 st = some after) :
    after = st ∨ ThreadStep machine starts tid st after := by
  unfold advance at advanced
  split at advanced
  · rename_i req next at_
    split at advanced
    · rename_i ans w acted
      cases advanced
      refine .inr ⟨.call tid req next ans w at_ (performs acted), ?_⟩
      rw [at_]
      exact fun same => answer_ne (Option.some.inj (set_thread_self.symm.trans same))
    · cases advanced
  · cases advanced
    exact .inl rfl

theorem finish_runs {choose : (req : Call) → Choice req}
    {prog : Prog Call Answer Error Result} {w after : World} {out : Except Error Result}
    (finished : finish perform choose tid prog w = some (out, after)) :
    Runs machine tid prog w out after := by
  induction prog generalizing w with
  | done res =>
    cases finished
    exact .done _ _
  | call req next ih =>
    unfold finish at finished
    split at finished
    · rename_i ans middle acted
      exact .call (performs acted) (ih ans finished)
    · cases finished

theorem play_steps {moves : List (Move Call Answer Error Result Choice)}
    (allowed : ∀ tid prog, Move.start tid prog ∈ moves → starts prog)
    (played : play perform moves st = some after) :
    ReflTransGen (SystemStep machine starts) st after := by
  induction moves generalizing st with
  | nil =>
    cases played
    exact .refl
  | cons move rest ih =>
    have allowedRest : ∀ tid prog, Move.start tid prog ∈ rest → starts prog :=
      fun tid prog mem => allowed tid prog (List.mem_cons_of_mem _ mem)
    cases move with
    | start tid prog =>
      unfold play at played
      split at played
      · rename_i idle
        exact .head (.start tid prog (allowed tid prog List.mem_cons_self) idle)
          (ih allowedRest played)
      · cases played
    | advance tid steps choose =>
      unfold play at played
      split at played
      · rename_i middle advanced
        exact (advance_steps performs steps advanced).trans (ih allowedRest played)
      · cases played

theorem play_reachable {moves : List (Move Call Answer Error Result Choice)}
    (allowed : ∀ tid prog, Move.start tid prog ∈ moves → starts prog)
    (reached : SystemReachable machine starts initial st)
    (played : play perform moves st = some after) : SystemReachable machine starts initial after :=
  reachable_steps reached (play_steps performs allowed played)

end Scheduling

end Systems

end RtspProxy.Lib.Program
