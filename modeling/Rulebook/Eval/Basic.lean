/-
Rulebook/Eval/Basic.lean

Evaluation of rules.  `eval` recurses on the expression; what an operator
does with the values of its children is in the modules before this one.  The
only loop that the expression itself does not bound is the counted one, so
evaluation takes an `allowance`: the number of turns that one execution of a
counted loop may begin before the run is `exhausted`.

`evalWith` leaves open what is done around every expression, and `eval`, which
is what rules are run by, locates the failures there and does nothing else.

Children are evaluated from left to right.  Where a required child is
missing, some operators notice before they evaluate anything and others only
when they come to it; each case below says which by its order.

There are three ways to run a rule.  `tryRun` keeps its failure, `run` turns it
into the value `error`, and `runAs` extracts a payload from the value of `run`.
A rule that is absent altogether fails like one with an empty field.  An abort
is none of these answers and passes through all of them.
-/
import Rulebook.Eval.Loop
import Rulebook.Eval.Number
import Rulebook.Eval.Predicate
import Rulebook.Eval.Property

namespace Rulebook

open Eval

variable (around : Around)

mutual

/-- The value of an expression, with something done around the evaluation of
the expression and of every expression in it. -/
def evalWith (allowance : Nat) (env : Env) (e : Expr) : Eval Value :=
  around env e <|
    match e with
    -- literals and loads
    | .int v => pure (.int v)
    | .float v => pure (.float v)
    | .bool v => pure (.bool v)
    | .asset id => pure (.asset id)
    | .prototype id => pure (.prototype id)
    | .contextInt c => contextInt c
    | .contextPrototype c => contextPrototype c
    | .isNull c => isNull env c
    | .curve id index =>
      if !id.isValid then fail (.unknownCurve id)
      else
        -- both fields are looked at before the index is evaluated
        match index, env.data.curves.get? id with
        | none, _ => fail (.missingField "Index")
        | some _, none => fail (.unknownCurve id)
        | some index, some curve => do
          let i ← ofExcept (← evalWith allowance env index).position
          match curve.get? (curve.clamp i) with
          | some v => pure (.float v)
          | none => fail (.unknownCurve id)
    -- arithmetic
    | .arith op a b => do
      let x ← evalNumber allowance env "Arg1" a
      let y ← evalNumber allowance env "Arg2" b
      return (← ofExcept (op.apply x y)).toValue
    | .power base exponent => do
      let x ← evalNumber allowance env "BaseArg" base
      let y ← evalNumber allowance env "ExpArg" exponent
      return (x.power y).toValue
    -- comparison and logic
    | .equals a b epsilon => do
      let x ← evalChild allowance env "Arg1" a
      let y ← evalChild allowance env "Arg2" b
      return .bool (← ofExcept (x.equalWithin epsilon y))
    | .compare op a b => do
      let x ← evalNumber allowance env "Arg1" a
      let y ← evalNumber allowance env "Arg2" b
      return .bool (op.holds x y)
    | .logic op a b =>
      -- the second operand has to be there even where the first one decides
      match b with
      | none => fail (.missingField "Arg2")
      | some b => do
        let x ← ofExcept ((← evalChild allowance env "Arg1" a).truth "Arg1")
        if x = op.deciding then return .bool x
        return .bool (← ofExcept ((← evalWith allowance env b).truth "Arg2"))
    | .not a => do
      return .bool (!(← ofExcept ((← evalChild allowance env "Arg" a).truth "Arg")))
    -- control flow
    | .ifElse conditional onTrue onFalse =>
      match conditional, onTrue with
      | none, _ => fail (.missingField "Conditional")
      | some _, none => fail (.missingField "EvalIf")
      | some conditional, some onTrue => do
        if ← ofExcept (← evalWith allowance env conditional).branch then
          evalWith allowance env onTrue
        else
          evalOptional allowance env .undefined onFalse
    | .scope body =>
      if body.isEmpty then fail (.missingField "Scope")
      else inScope fun _ _ => evalStatements allowance env body .undefined none
    | .forLoop before init condition advance body after =>
      match init, advance, condition with
      | none, _, _ => fail (.missingField "LoopVarInit")
      | some _, none, _ => fail (.missingField "LoopAdvance")
      | some _, some _, none => fail (.missingField "LoopCondition")
      | some init, some advance, some condition =>
        if body.isEmpty then fail (.missingField "ScopeLoopBody")
        else
          forLoop env allowance (evalOptional allowance env .undefined before)
            (evalWith allowance env init) (evalWith allowance env condition)
            (evalWith allowance env advance) (evalBody allowance env body .undefined)
            fun last => evalOptional allowance env last after
    | .forEachCondition c before gate body endGate after =>
      if body.isEmpty then fail (.missingField "ScopeLoopBody")
      else
        forEachCondition env c (evalOptional allowance env .undefined before)
          (fun env => evalGate allowance env gate)
          (fun env => evalBody allowance env body .undefined)
          (fun env => evalGate allowance env endGate)
          fun env last => evalOptional allowance env last after
    | .forEachPrototype c before gate body after =>
      if body.isEmpty then fail (.missingField "ScopeLoopBody")
      else
        forEachPrototype env c (evalOptional allowance env .undefined before)
          (evalGate allowance env gate) (evalBody allowance env body .undefined)
          fun last => evalOptional allowance env last after
    -- properties
    | .assign c key value =>
      match value with
      | none => fail (.missingField "Eval")
      | some value =>
        if !key.isValid then fail (.missingField "Prop")
        else do
          -- the value comes first, so the target is that of the state it leaves
          let v ← ofExcept (← evalWith allowance env value).storable
          let h ← collection env c .write
          record h key (← ofExcept (env.data.schemaOf key.property)) v
    | .assignBy c property p q r s value =>
      match value with
      | none => fail (.missingField "Eval")
      | some value =>
        if !property.isValid then fail (.missingField "Prop")
        else do
          let v ← ofExcept (← evalWith allowance env value).storable
          let h ← collection env c .write
          let schema ← ofExcept (env.data.schemaBy property)
          -- the target stays alive, whatever the parameters do to the slots
          let env := env.holding (· == h)
          let k ← keyWith schema (evalParam allowance env schema 0 p)
            (evalParam allowance env schema 1 q) (evalParam allowance env schema 2 r)
            (evalParam allowance env schema 3 s)
          record h k schema v
    | .has c key => Eval.has env c key
    | .load c key => Eval.load env c key
    | .loadFrom c property param => Eval.loadFrom env c property param
    | .loadBy c property p q r s =>
      if !property.isValid then fail (.missingField "Prop")
      else do
        let h ← collection env c .read
        let schema ← ofExcept (env.data.schemaBy property)
        let env := env.holding (· == h)
        let k ← keyWith schema (evalParam allowance env schema 0 p)
          (evalParam allowance env schema 1 q) (evalParam allowance env schema 2 r)
          (evalParam allowance env schema 3 s)
        retrieve env h k schema
    -- predicates of the game
    | .tierInRange c min max => do
      return .bool (← ofExcept (env.tierInRange (← get) c min max))
    | .missionActive c mission => do
      return .bool (← ofExcept (env.missionActive (← get) c mission))
    | .missionComplete c mission => do
      return .bool (← ofExcept (env.missionComplete (← get) c mission))
    | .hasInInventory c entity label => do
      return .bool (← ofExcept (env.hasInInventory (← get) c entity label))
    | .dynamicCombatLevel => pure (.bool true)
    | .exportError => fail .exportError
    -- reserved
    | .reserved call =>
      match env.settings.reserved with
      | .fail => fail (.notYetSupported call.operator)
      | .abort => throw (.abort (call.operator.name ++ " is not yet supported: " ++ e.text))
termination_by structural e

/-- The value of a required child. -/
def evalChild (allowance : Nat) (env : Env) (field : String) (child : Option Expr) :
    Eval Value :=
  match child with
  | none => fail (.missingField field)
  | some e => evalWith allowance env e
termination_by structural child

/-- The number that a required child is. -/
def evalNumber (allowance : Nat) (env : Env) (field : String) (child : Option Expr) :
    Eval Number :=
  match child with
  | none => fail (.missingField field)
  | some e => do ofExcept (Number.ofValue field (← evalWith allowance env e))
termination_by structural child

/-- The value of a child, or `absent` if there is none. -/
def evalOptional (allowance : Nat) (env : Env) (absent : Value) (child : Option Expr) :
    Eval Value :=
  match child with
  | none => pure absent
  | some e => evalWith allowance env e
termination_by structural child

/-- The decision of a gate; a missing gate lets pass. -/
def evalGate (allowance : Nat) (env : Env) (gate : Option Expr) : Eval Gate :=
  match gate with
  | none => pure .pass
  | some e => do return .ofValue (← evalWith allowance env e)
termination_by structural gate

/-- Parameter `i` of a key: what the child evaluates to, or the default if
there is no child, or the child fails, or its value is no parameter. -/
def evalParam (allowance : Nat) (env : Env) (schema : Schema) (i : Nat) (child : Option Expr) :
    Eval Param :=
  match child with
  | none => pure (schema.defaultParam i)
  | some e =>
    if schema.params.length ≤ i then
      pure (schema.defaultParam i)
    else if schema.paramType i = .invalid then
      fail (.custom s!"unknown param type for param {i} of {schema.name}")
    else do
      -- an abort is no failure, so it is not absorbed
      match ← attempt (evalWith allowance env e) with
      | .ok v => pure ((schema.encodeParam i v).getD (schema.defaultParam i))
      | .error _ => pure (schema.defaultParam i)
termination_by structural child

/-- Statements one after another up to the first that fails, after the value
`last`; the value is that of the last one. -/
def evalBody (allowance : Nat) (env : Env) (body : List Expr) (last : Value) : Eval Value :=
  match body with
  | [] => pure last
  | e :: es => do
    let v ← evalWith allowance env e
    evalBody allowance env es v
termination_by structural body

/-- Statements one after another, past those that fail, after the value
`last` and the failure `first`. The first failure is that of all of them. -/
def evalStatements (allowance : Nat) (env : Env) (body : List Expr) (last : Value)
    (first : Option Failure) : Eval Value :=
  match body with
  | [] =>
    match first with
    | some f => throw (.failure f)
    | none => pure last
  | e :: es => do
    match ← attempt (evalWith allowance env e) with
    | .ok v => evalStatements allowance env es v first
    | .error f => evalStatements allowance env es last (first <|> some f)
termination_by structural body

end

/-- The value of an expression. -/
def eval (allowance : Nat) (env : Env) (e : Expr) : Eval Value := evalWith located allowance env e

/-! ### Ways to run a rule -/

namespace Env

variable {α : Type}

/-- Run a rule. -/
def tryRun (allowance : Nat) (env : Env) (rule : Option Expr) : Eval Value :=
  match rule with
  | none => Eval.fail (.missingField "Eval")
  | some e => eval allowance env e

/-- Run a rule; a failure is the value `error`. -/
def run (allowance : Nat) (env : Env) (rule : Option Expr) : Eval Value := do
  match ← Eval.attempt (env.tryRun allowance rule) with
  | .ok v => pure v
  | .error _ => pure .error

/-- Run a rule for a payload of a certain sort. -/
def runAs (allowance : Nat) (env : Env) (payload? : Value → Option α) (rule : Option Expr) :
    Eval (Option α) :=
  return payload? (← env.run allowance rule)

end Env

end Rulebook
