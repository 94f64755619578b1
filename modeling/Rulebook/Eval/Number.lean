/-
Rulebook/Eval/Number.lean

Numbers in rules.  An operand is an integer or a float.  Two integers stay
integers and wrap around at 64 bits; as soon as one operand is a float, both
are.  Division always gives a float.  Division and remainder by zero are
failures and not infinities; the remainder of two integers is Euclidean, so
it is never negative.
-/
import Rulebook.Failure

namespace Rulebook

/-! ### Operands -/

/-- A numeric operand. -/
inductive Number where
  | int (v : Int64)
  | float (v : Float32)

namespace Number

/-- The number that an operand is. -/
def ofValue (operand : String) : Value → Except Cause Number
  | .int v => .ok (.int v)
  | .float v => .ok (.float v)
  | v => .error (.typeMismatch operand "Int or Float" v.kind)

/-- The value of a number. -/
def toValue : Number → Value
  | .int v => .int v
  | .float v => .float v

/-- A number in floating point, rounded once. -/
def toFloat : Number → Float32
  | .int v => v.toFloat32
  | .float v => v

/-- Whether a number is zero; both float zeros are. -/
def isZero : Number → Bool
  | .int v => v == 0
  | .float v => v == 0

end Number

/-! ### Arithmetic -/

/-- An operator on two integers; division has no integer result. -/
def ArithOp.onInts : ArithOp → Int64 → Int64 → Option Int64
  | .add, a, b => some (a + b)
  | .sub, a, b => some (a - b)
  | .mult, a, b => some (a * b)
  | .div, _, _ => none
  -- the least integer modulo minus one is zero, and no overflow
  | .modulus, a, b => some (Int64.ofInt (a.toInt.emod b.toInt))
  | .max, a, b => some (if a < b then b else a)
  | .min, a, b => some (if b < a then b else a)

/-- An operator on two floats. -/
def ArithOp.onFloats : ArithOp → Float32 → Float32 → Float32
  | .add, a, b => a + b
  | .sub, a, b => a - b
  | .mult, a, b => a * b
  | .div, a, b => a / b
  | .modulus, a, b => Binary32.modulo a b
  | .max, a, b => Binary32.max a b
  | .min, a, b => Binary32.min a b

/-- The cause for which an operator refuses zero as its second operand. -/
def ArithOp.zeroCause? : ArithOp → Option Cause
  | .div => some .divisionByZero
  | .modulus => some .moduloByZero
  | _ => none

/-- An arithmetic operator on two numbers. -/
def ArithOp.apply (op : ArithOp) (a b : Number) : Except Cause Number :=
  match op.zeroCause?, b.isZero with
  | some cause, true => .error cause
  | _, _ =>
    match a, b with
    | .int x, .int y =>
      match op.onInts x y with
      | some v => .ok (.int v)
      | none => .ok (.float (op.onFloats a.toFloat b.toFloat))
    | _, _ => .ok (.float (op.onFloats a.toFloat b.toFloat))

/-- The first number raised to the power of the second. -/
def Number.power (a b : Number) : Number := .float (a.toFloat.pow b.toFloat)

/-! ### Comparison -/

/-- A comparison of two numbers. -/
def CompareOp.holds (op : CompareOp) (a b : Number) : Bool :=
  match op, a, b with
  | .greater, .int x, .int y => y < x
  | .less, .int x, .int y => x < y
  | .greater, a, b => b.toFloat < a.toFloat
  | .less, a, b => a.toFloat < b.toFloat

/-- Whether two floats differ by no more than `epsilon`. -/
def withinEpsilon (epsilon a b : Float32) : Bool := (a - b).abs ≤ epsilon

/-- The kinds that a value can be equal to, in words. -/
def Value.comparableKinds : Value → String
  | .int _ | .float _ => "Int or Float"
  | .prototype _ => "ProtoRef"
  | .asset _ => "AssetRef"
  | .bool _ => "Bool"
  | _ => "a comparable kind"

/-- Equality of two operands: integers, references and truth values exactly,
and numbers of which one is a float up to `epsilon`. Other operands cannot
be compared. -/
def Value.equalWithin (epsilon : Float32) : Value → Value → Except Cause Bool
  | .int a, .int b => .ok (a == b)
  | .int a, .float b => .ok (withinEpsilon epsilon a.toFloat32 b)
  | .float a, .int b => .ok (withinEpsilon epsilon a b.toFloat32)
  | .float a, .float b => .ok (withinEpsilon epsilon a b)
  | .prototype a, .prototype b => .ok (a == b)
  | .asset a, .asset b => .ok (a == b)
  | .bool a, .bool b => .ok (a == b)
  | a, b => .error (.typeMismatch "Arg2" a.comparableKinds b.kind)

/-! ### Truth values -/

/-- The truth value that an operand is; numbers do not pass for one. -/
def Value.truth (operand : String) : Value → Except Cause Bool
  | .bool b => .ok b
  | v => .error (.typeMismatch operand "Bool" v.kind)

/-- The branch that a condition chooses; here a number passes for its being
positive. -/
def Value.branch : Value → Except Cause Bool
  | .bool b => .ok b
  | .int v => .ok (0 < v)
  | .float v => .ok (0 < v)
  | v => .error (.typeMismatch "Conditional" "Bool, Int or Float" v.kind)

/-- The first operand of a connective that decides its result. -/
def LogicOp.deciding : LogicOp → Bool
  | .and => false
  | .or => true

/-- The position on a curve that an index means: an integer loses its high
bits, a float is cut toward zero and kept within bounds. -/
def Value.position : Value → Except Cause Int32
  | .int v => .ok v.toInt32
  | .float v => .ok v.toInt32
  | v => .error (.typeMismatch "Index" "Int or Float" v.kind)

end Rulebook
