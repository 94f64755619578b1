/-
Rulebook/Eval/Run.lean

Runs of rules.  What a run does not change is its environment: the data that
all runs share, the game and the settings.  An `Eval α` takes the state of a
run, that is the store and the activation, and ends with a value or a `Stop`,
in either case with the state that was reached: a rule that fails half-way has
done what it had done.

Three stops are told apart.  A `failure` is an answer of the rule.  An
`abort` answers nothing: it is how a run ends on a reserved operator under
the policy to abort, and nothing absorbs it.  `exhausted` says that the
allowance of loop turns was too small for the run, and nothing else.

A frame of scratch collections is entered by `inScope`, which puts the
enclosing collections back whatever the ending.  A loop over conditions is
run by `closing`, which leaves null pointers in the slots of the condition.
-/
import Rulebook.Activation
import Rulebook.Curve
import Rulebook.Game
import Rulebook.Property.Registry
import Rulebook.Settings

namespace Rulebook

/-! ### Environment and state -/

/-- The data shared by all evaluations. -/
structure StaticData where
  schemas : Registry := .builtins
  curves : CurveTable := {}
  catalog : Catalog := {}
  /-- Properties of the game as a whole; rules can only read them. -/
  globals : Option Handle := none

/-- What a run does not change. -/
structure Env where
  data : StaticData
  /-- The game that the contexts are looked up in, if one is bound. -/
  game : Option Game
  settings : Settings
  /-- The collections that are alive whatever the slots refer to: those of
  the host of the run, and those of loops and assignments in progress. -/
  held : Handle → Bool

/-- The same environment with more collections that are kept alive. -/
def Env.holding (env : Env) (more : Handle → Bool) : Env :=
  { env with held := fun h => env.held h || more h }

/-- The state of a run. -/
structure State where
  store : Store
  activation : Activation

/-- Whether a collection is alive in a state, where `held` is kept alive. -/
def State.alive (s : State) (held : Handle → Bool) (h : Handle) : Bool :=
  held h || s.activation.slotsReferTo h

/-- Whether a collection is alive during a run. -/
def Env.live (env : Env) (s : State) (h : Handle) : Bool := s.alive env.held h

/-- The ways in which a run ends without a value. -/
inductive Stop where
  | failure (f : Failure)
  | abort (message : String)
  | exhausted

/-- A step of a run. -/
abbrev Eval := ExceptT Stop (StateM State)

namespace Eval

variable {α β : Type}

/-! ### Failures -/

/-- Fail; the expression that is being evaluated is added by `locating`. -/
def fail (c : Cause) : Eval α := throw (.failure { cause := c })

/-- The value of a check that may find a cause to fail. -/
def ofExcept : Except Cause α → Eval α
  | .ok a => pure a
  | .error c => fail c

/-- Locate the failures of a step at an expression. -/
def locating (e : Expr) (m : Eval α) : Eval α := ExceptT.mk fun s =>
  match m.run s with
  | (.error (.failure f), s) => (.error (.failure (f.locate e)), s)
  | r => r

/-- Something that is done around the evaluation of every expression of a
rule, given the step that evaluates the expression. -/
abbrev Around := Env → Expr → Eval Value → Eval Value

/-- Locate the failures of every expression. -/
def located : Around := fun _ e m => locating e m

/-- Take a failure for a value. The other stops stay what they are. -/
def attempt (m : Eval α) : Eval (Except Failure α) := ExceptT.mk fun s =>
  match m.run s with
  | (.ok a, s) => (.ok (.ok a), s)
  | (.error (.failure f), s) => (.ok (.error f), s)
  | (.error stop, s) => (.error stop, s)

/-! ### Frames -/

/-- Run `body` in a scope of its own: the local collection becomes the
caller's, and a fresh one takes its place. The body is given the activation
outside of the scope and the fresh collection. Afterwards both collections
are again what they were. -/
def inScope (body : Activation → Handle → Eval α) : Eval α := ExceptT.mk fun s =>
  let (store, frame) := s.store.create
  let outer := s.activation
  let inner := { outer with callerStack := outer.localStack, localStack := some frame }
  match (body outer frame).run { store, activation := inner } with
  | (r, s) =>
    (r, { s with
      activation := { s.activation with
        callerStack := outer.callerStack, localStack := outer.localStack } })

/-- Change the activation. -/
def modifyActivation (f : Activation → Activation) : Eval Unit :=
  modify fun s => { s with activation := f s.activation }

/-- Run a loop over conditions and clear the slots of the condition after it.
A loop that stops before it has `bound` a condition leaves them alone. -/
def closing (bound : Bool) (loop : Eval α) : Eval α := ExceptT.mk fun s =>
  match loop.run s with
  | (.error stop, s) =>
    (.error stop,
      if bound then { s with activation := s.activation.clearCondition } else s)
  | (r, s) => (r, { s with activation := s.activation.clearCondition })

/-! ### Contexts -/

/-- The value of a context for a use of it. -/
def resolve (env : Env) (c : Context) (access : Access) : Eval Value := do
  ofExcept ((← get).activation.resolve env.data.globals c access)

end Eval

end Rulebook
