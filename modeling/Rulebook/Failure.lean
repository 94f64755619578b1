/-
Rulebook/Failure.lean

Failures of rules.  A `Cause` says what went wrong and `Cause.message` words
it; a `Failure` has a cause, the message for a reader, and the expression
that raised it, by its operator and its text.  The message is worded once,
when the failure is made.  A failure is located once, at the innermost
expression that raised it (`Failure.locate`): an expression around it passes
it on as it is.
-/
import Rulebook.Expr.Text
import Rulebook.Value

namespace Rulebook

/-! ### Causes -/

/-- Why a rule fails. -/
inductive Cause where
  | divisionByZero
  | moduloByZero
  /-- An operand is of the wrong kind. -/
  | typeMismatch (operand expected : String) (got : Kind)
  /-- A required field of the authored data is empty. -/
  | missingField (field : String)
  /-- The context is no slot where a slot is required. -/
  | invalidContext (context : Context)
  | readOnlyContext (context : Context)
  | nullContext (context : Context)
  /-- There are no global properties. -/
  | globalsUnavailable
  /-- The property has no schema. -/
  | unknownProperty (property : Property)
  /-- The prototype is no property prototype of a schema. -/
  | unknownPropertyPrototype (prototype : PrototypeId)
  /-- The value cannot be stored as a datum of the declared type. -/
  | propertyConversion (property : String) (target : DataType) (got : Kind)
  | unknownCurve (curve : CurveId)
  | unknownMission (mission : PrototypeId)
  /-- The context is set, but to the wrong sort of thing. -/
  | invalidContextObject (reason : String)
  | noGameBound
  /-- The authored data could not be exported. -/
  | exportError
  /-- The operator has no meaning yet. -/
  | notYetSupported (op : Operator)
  /-- A loop began more turns than the settings admit. -/
  | loopLimitExceeded (limit : UInt32)
  | custom (message : String)
deriving DecidableEq

/-- Wording of a cause. -/
def Cause.message : Cause → String
  | .divisionByZero => "division by zero"
  | .moduloByZero => "modulo by zero"
  | .typeMismatch operand expected got => s!"{operand}: expected {expected}, got {got.name}"
  | .missingField field => s!"required field {field} is not set"
  | .invalidContext context => s!"invalid context {context.name}"
  | .readOnlyContext context => s!"context {context.name} is read-only"
  | .nullContext context => s!"context {context.name} holds a null reference"
  | .globalsUnavailable => "globals property collection is not set"
  | .unknownProperty property => s!"unknown property {property.describe}"
  | .unknownPropertyPrototype prototype => s!"unknown property {prototype.describe}"
  | .propertyConversion property target got =>
    s!"cannot convert {got.name} to {target.name} for property {property}"
  | .unknownCurve curve => s!"unknown curve {curve.describe}"
  | .unknownMission mission => s!"unknown mission {mission.describe}"
  | .invalidContextObject reason => s!"invalid context object: {reason}"
  | .noGameBound => "no game is bound to the context"
  | .exportError => "export error"
  | .notYetSupported op => s!"{op.name} is not yet supported"
  | .loopLimitExceeded limit => s!"loop exceeded {limit} iterations"
  | .custom message => message

/-! ### Failures -/

/-- A cause and a message, with the operator and the text of the expression that
raised it once these are known. -/
structure Failure where
  cause : Cause
  /-- What a reader is told. A failure that is made from its cause has the wording
  of the cause. -/
  message : String := cause.message
  operator : Option Operator := none
  node : Option String := none
deriving DecidableEq

namespace Failure

/-- Locate a failure at an expression, unless it is located already. -/
def locate (f : Failure) (e : Expr) : Failure :=
  match f.operator with
  | some _ => f
  | none => { f with operator := some e.operator, node := some e.text }

/-- A failure as it is shown to a reader. -/
def text (f : Failure) : String :=
  let message :=
    match f.operator with
    | some op => s!"{op.name}: {f.message}"
    | none => f.message
  match f.node with
  | some node => message ++ " in `" ++ node ++ "`"
  | none => message

end Failure

end Rulebook
