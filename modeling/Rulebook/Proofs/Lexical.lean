/-
Rulebook/Proofs/Lexical.lean

Evaluation with lexical scoping.  `evalIn` is a second evaluator of the
language.  It is given the two scratch collections, the one of the caller
and the local one, as an argument (`Frames`) and never changes what it was
given: a scope or a loop creates one collection and evaluates its parts with
other frames, and every other operator hands its own frames on.

    Scope, loops        enter h    caller := enclosing local,  local := h
    For, after the loop leave h    caller := enclosing caller, local := h

The stacks that the state of a run has are of no account to it: a step that
evaluates no child sees the frames in their place (`seeing`), and nothing
else looks at them.  What it shares with `eval` is what both do with values.

That both evaluators come to the same is shown in `Rulebook.Proofs.Scoping`.
-/
import Rulebook.Proofs.Outcome

namespace Rulebook

/-- The two scratch collections that an expression is evaluated with. -/
structure Frames where
  caller : Option Handle
  here : Option Handle

namespace Frames

/-- The frames of the children of a scope, and of the parts of a loop, with the
collection `h` of its own. -/
def enter (f : Frames) (h : Handle) : Frames := ⟨f.here, some h⟩

/-- The frames of what comes after a counted loop with the collection `h`. -/
def leave (f : Frames) (h : Handle) : Frames := ⟨f.caller, some h⟩

end Frames

namespace State

/-- The stacks of a state. -/
def frames (s : State) : Frames := ⟨s.activation.callerStack, s.activation.localStack⟩

/-- The state with other stacks. -/
def withFrames (s : State) (f : Frames) : State :=
  s.withActivation { s.activation with callerStack := f.caller, localStack := f.here }

end State

open Eval

/-! ### Primitives -/

/-- A step as it is with the frames `f` for the stacks, which stay what they are. -/
def Eval.seeing {α : Type} (f : Frames) (m : Eval α) : Eval α := ExceptT.mk fun s =>
  match m.run (s.withFrames f) with
  | (r, t) => (r, t.withFrames s.frames)

/-- Create the collection of a scope or a loop. -/
def Eval.newFrame : Eval Handle := ExceptT.mk fun s =>
  (.ok s.frame, { s with store := s.store.create.1 })

/-! ### The evaluator -/

mutual

/-- The value of an expression with the frames `f`. -/
def evalIn (allowance : Nat) (f : Frames) (env : Env) (e : Expr) : Eval Value :=
  locating e <|
    match e with
    -- literals and loads
    | .int v => pure (.int v)
    | .float v => pure (.float v)
    | .bool v => pure (.bool v)
    | .asset id => pure (.asset id)
    | .prototype id => pure (.prototype id)
    | .contextInt c => seeing f (contextInt c)
    | .contextPrototype c => seeing f (contextPrototype c)
    | .isNull c => seeing f (isNull env c)
    | .curve id index =>
      if !id.isValid then fail (.unknownCurve id)
      else
        match index, env.data.curves.get? id with
        | none, _ => fail (.missingField "Index")
        | some _, none => fail (.unknownCurve id)
        | some index, some curve => do
          let i ← ofExcept (← evalIn allowance f env index).position
          match curve.get? (curve.clamp i) with
          | some v => pure (.float v)
          | none => fail (.unknownCurve id)
    -- arithmetic
    | .arith op a b => do
      let x ← evalNumberIn allowance f env "Arg1" a
      let y ← evalNumberIn allowance f env "Arg2" b
      return (← ofExcept (op.apply x y)).toValue
    | .power base exponent => do
      let x ← evalNumberIn allowance f env "BaseArg" base
      let y ← evalNumberIn allowance f env "ExpArg" exponent
      return (x.power y).toValue
    -- comparison and logic
    | .equals a b epsilon => do
      let x ← evalChildIn allowance f env "Arg1" a
      let y ← evalChildIn allowance f env "Arg2" b
      return .bool (← ofExcept (x.equalWithin epsilon y))
    | .compare op a b => do
      let x ← evalNumberIn allowance f env "Arg1" a
      let y ← evalNumberIn allowance f env "Arg2" b
      return .bool (op.holds x y)
    | .logic op a b =>
      match b with
      | none => fail (.missingField "Arg2")
      | some b => do
        let x ← ofExcept ((← evalChildIn allowance f env "Arg1" a).truth "Arg1")
        if x = op.deciding then return .bool x
        return .bool (← ofExcept ((← evalIn allowance f env b).truth "Arg2"))
    | .not a => do
      return .bool (!(← ofExcept ((← evalChildIn allowance f env "Arg" a).truth "Arg")))
    -- control flow
    | .ifElse conditional onTrue onFalse =>
      match conditional, onTrue with
      | none, _ => fail (.missingField "Conditional")
      | some _, none => fail (.missingField "EvalIf")
      | some conditional, some onTrue => do
        if ← ofExcept (← evalIn allowance f env conditional).branch then
          evalIn allowance f env onTrue
        else
          evalOptionalIn allowance f env .undefined onFalse
    | .scope body =>
      if body.isEmpty then fail (.missingField "Scope")
      else do
        let h ← newFrame
        evalStatementsIn allowance (f.enter h) env body .undefined none
    | .forLoop before init condition advance body after =>
      match init, advance, condition with
      | none, _, _ => fail (.missingField "LoopVarInit")
      | some _, none, _ => fail (.missingField "LoopAdvance")
      | some _, some _, none => fail (.missingField "LoopCondition")
      | some init, some advance, some condition =>
        if body.isEmpty then fail (.missingField "ScopeLoopBody")
        else do
          let h ← newFrame
          discard (evalOptionalIn allowance (f.enter h) env .undefined before)
          discard (evalIn allowance (f.enter h) env init)
          let first ← evalIn allowance (f.enter h) env condition
          let turn := do
            discard (evalBodyIn allowance (f.enter h) env body .undefined)
            discard (evalIn allowance (f.enter h) env advance)
          concluding
            (repeatWhile env (evalIn allowance (f.enter h) env condition) turn allowance 0 first)
            fun last => evalOptionalIn allowance (f.leave h) env last after
    | .forEachCondition c before gate body endGate after =>
      if body.isEmpty then fail (.missingField "ScopeLoopBody")
      else do
        let h ← newFrame
        let first ← evalOptionalIn allowance (f.enter h) env .undefined before
        let list ← seeing (f.enter h) (conditionsOf env c)
        let env := env.holding list.refersTo
        let turn := conditionTurn (evalGateIn allowance (f.enter h) env gate)
          (evalBodyIn allowance (f.enter h) env body .undefined)
          (evalGateIn allowance (f.enter h) env endGate)
        let bound := !list.conditions.isEmpty && env.settings.admits 1
        concluding (closing bound (forEach env turn list.conditions 0 first))
          fun last => evalOptionalIn allowance (f.enter h) env last after
    | .forEachPrototype c before gate body after =>
      if body.isEmpty then fail (.missingField "ScopeLoopBody")
      else do
        let h ← newFrame
        let first ← evalOptionalIn allowance (f.enter h) env .undefined before
        let elements ← seeing (f.enter h) (elementsOf env c)
        let turn := elementTurn h (evalGateIn allowance (f.enter h) env gate)
          (evalBodyIn allowance (f.enter h) env body .undefined)
        concluding (forEach env turn elements 0 first)
          fun last => evalOptionalIn allowance (f.enter h) env last after
    -- properties
    | .assign c key value =>
      match value with
      | none => fail (.missingField "Eval")
      | some value =>
        if !key.isValid then fail (.missingField "Prop")
        else do
          let v ← ofExcept (← evalIn allowance f env value).storable
          let h ← seeing f (collection env c .write)
          record h key (← ofExcept (env.data.schemaOf key.property)) v
    | .assignBy c property p q r s value =>
      match value with
      | none => fail (.missingField "Eval")
      | some value =>
        if !property.isValid then fail (.missingField "Prop")
        else do
          let v ← ofExcept (← evalIn allowance f env value).storable
          let h ← seeing f (collection env c .write)
          let schema ← ofExcept (env.data.schemaBy property)
          let env := env.holding (· == h)
          let k ← keyWith schema (evalParamIn allowance f env schema 0 p)
            (evalParamIn allowance f env schema 1 q) (evalParamIn allowance f env schema 2 r)
            (evalParamIn allowance f env schema 3 s)
          record h k schema v
    | .has c key => seeing f (Eval.has env c key)
    | .load c key => seeing f (Eval.load env c key)
    | .loadFrom c property param => seeing f (Eval.loadFrom env c property param)
    | .loadBy c property p q r s =>
      if !property.isValid then fail (.missingField "Prop")
      else do
        let h ← seeing f (collection env c .read)
        let schema ← ofExcept (env.data.schemaBy property)
        let env := env.holding (· == h)
        let k ← keyWith schema (evalParamIn allowance f env schema 0 p)
          (evalParamIn allowance f env schema 1 q) (evalParamIn allowance f env schema 2 r)
          (evalParamIn allowance f env schema 3 s)
        retrieve env h k schema
    -- predicates of the game
    | .tierInRange c min max =>
      seeing f do return .bool (← ofExcept (env.tierInRange (← get) c min max))
    | .missionActive c mission =>
      seeing f do return .bool (← ofExcept (env.missionActive (← get) c mission))
    | .missionComplete c mission =>
      seeing f do return .bool (← ofExcept (env.missionComplete (← get) c mission))
    | .hasInInventory c entity label =>
      seeing f do return .bool (← ofExcept (env.hasInInventory (← get) c entity label))
    | .dynamicCombatLevel => pure (.bool true)
    | .exportError => fail .exportError
    -- reserved
    | .reserved call =>
      match env.settings.reserved with
      | .fail => fail (.notYetSupported call.operator)
      | .abort => throw (.abort (call.operator.name ++ " is not yet supported: " ++ e.text))
termination_by structural e

/-- The value of a required child. -/
def evalChildIn (allowance : Nat) (f : Frames) (env : Env) (field : String)
    (child : Option Expr) : Eval Value :=
  match child with
  | none => fail (.missingField field)
  | some e => evalIn allowance f env e
termination_by structural child

/-- The number that a required child is. -/
def evalNumberIn (allowance : Nat) (f : Frames) (env : Env) (field : String)
    (child : Option Expr) : Eval Number :=
  match child with
  | none => fail (.missingField field)
  | some e => do ofExcept (Number.ofValue field (← evalIn allowance f env e))
termination_by structural child

/-- The value of a child, or `absent` if there is none. -/
def evalOptionalIn (allowance : Nat) (f : Frames) (env : Env) (absent : Value)
    (child : Option Expr) : Eval Value :=
  match child with
  | none => pure absent
  | some e => evalIn allowance f env e
termination_by structural child

/-- The decision of a gate; a missing gate lets pass. -/
def evalGateIn (allowance : Nat) (f : Frames) (env : Env) (gate : Option Expr) : Eval Gate :=
  match gate with
  | none => pure .pass
  | some e => do return .ofValue (← evalIn allowance f env e)
termination_by structural gate

/-- Parameter `i` of a key, or the default. -/
def evalParamIn (allowance : Nat) (f : Frames) (env : Env) (schema : Schema) (i : Nat)
    (child : Option Expr) : Eval Param :=
  match child with
  | none => pure (schema.defaultParam i)
  | some e =>
    if schema.params.length ≤ i then
      pure (schema.defaultParam i)
    else if schema.paramType i = .invalid then
      fail (.custom s!"unknown param type for param {i} of {schema.name}")
    else do
      match ← attempt (evalIn allowance f env e) with
      | .ok v => pure ((schema.encodeParam i v).getD (schema.defaultParam i))
      | .error _ => pure (schema.defaultParam i)
termination_by structural child

/-- Statements one after another up to the first that fails. -/
def evalBodyIn (allowance : Nat) (f : Frames) (env : Env) (body : List Expr) (last : Value) :
    Eval Value :=
  match body with
  | [] => pure last
  | e :: es => do
    let v ← evalIn allowance f env e
    evalBodyIn allowance f env es v
termination_by structural body

/-- Statements one after another, past those that fail. -/
def evalStatementsIn (allowance : Nat) (f : Frames) (env : Env) (body : List Expr) (last : Value)
    (first : Option Failure) : Eval Value :=
  match body with
  | [] =>
    match first with
    | some f => throw (.failure f)
    | none => pure last
  | e :: es => do
    match ← attempt (evalIn allowance f env e) with
    | .ok v => evalStatementsIn allowance f env es v first
    | .error g => evalStatementsIn allowance f env es last (first <|> some g)
termination_by structural body

end

/-- Run a rule with the frames `f`. -/
def Env.tryRunIn (allowance : Nat) (f : Frames) (env : Env) (rule : Option Expr) : Eval Value :=
  match rule with
  | none => fail (.missingField "Eval")
  | some e => evalIn allowance f env e

end Rulebook
