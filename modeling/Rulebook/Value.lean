/-
Rulebook/Value.lean

Runtime values.  Every rule evaluates to a `Value`.  Numbers, truth values
and references are values themselves; the pointer kinds refer to things that
are kept elsewhere, and each of them may be null.  `error` stands in slots
that were never set and for a rule that failed, `undefined` is the value of
a statement.

The views (`toInt64?`, `toBool?`, …) are the coercions of the language: the
two numeric kinds pass for each other, a truth value can be had from a
number, and every other kind is only ever itself.
-/
import Rulebook.Store

namespace Rulebook

/-! ### Conditions -/

/-- A condition: the collection of its properties, and its keywords. -/
structure Condition where
  properties : Handle
  keywords : List PrototypeId
deriving DecidableEq

/-- The conditions of something, in order. -/
structure ConditionList where
  /-- Tells lists apart that hold the same conditions. -/
  identity : Nat
  conditions : List Condition

/-- Whether a condition of the list has the collection `h`. -/
def ConditionList.refersTo (l : ConditionList) (h : Handle) : Bool :=
  l.conditions.any (·.properties == h)

/-! ### Values -/

/-- A runtime value. -/
inductive Value where
  | error
  | undefined
  | int (v : Int64)
  | float (v : Float32)
  | bool (v : Bool)
  | asset (id : AssetId)
  | prototype (id : PrototypeId)
  | key (k : PropertyKey)
  | entityId (id : EntityId)
  | entity (id : Option EntityId)
  | guid (id : DbGuid)
  | collection (h : Option Handle)
  | conditions (l : Option ConditionList)
  | prototypeList (l : Option (List PrototypeId))
  | prototypeVector (l : Option (List PrototypeId))

instance : Inhabited Value := ⟨.error⟩

/-- Kind of a runtime value. -/
inductive Kind where
  | error
  | undefined
  | int
  | float
  | bool
  | asset
  | prototype
  | key
  | entityId
  | entity
  | guid
  | collection
  | conditions
  | prototypeList
  | prototypeVector
deriving DecidableEq

/-- Name of a kind. -/
def Kind.name : Kind → String
  | .error => "Error"
  | .undefined => "Undefined"
  | .int => "Int"
  | .float => "Float"
  | .bool => "Bool"
  | .asset => "AssetRef"
  | .prototype => "ProtoRef"
  | .key => "PropertyId"
  | .entityId => "EntityId"
  | .entity => "EntityPtr"
  | .guid => "EntityGuid"
  | .collection => "PropertyCollectionPtr"
  | .conditions => "ConditionCollectionPtr"
  | .prototypeList => "ProtoRefListPtr"
  | .prototypeVector => "ProtoRefVectorPtr"

namespace Value

/-- Kind of a value. -/
def kind : Value → Kind
  | .error => .error
  | .undefined => .undefined
  | .int _ => .int
  | .float _ => .float
  | .bool _ => .bool
  | .asset _ => .asset
  | .prototype _ => .prototype
  | .key _ => .key
  | .entityId _ => .entityId
  | .entity _ => .entity
  | .guid _ => .guid
  | .collection _ => .collection
  | .conditions _ => .conditions
  | .prototypeList _ => .prototypeList
  | .prototypeVector _ => .prototypeVector

/-- Whether a value is a number. -/
def isNumeric : Value → Bool
  | .int _ | .float _ => true
  | _ => false

/-- Whether a value stands for a failure. -/
def isError : Value → Bool
  | .error => true
  | _ => false

/-- Whether a value is a pointer to nothing. -/
def isNull : Value → Bool
  | .entity none | .collection none | .conditions none | .prototypeList none
  | .prototypeVector none => true
  | _ => false

/-! ### Coercions -/

/-- A number as a 32-bit integer: an integer loses its high bits, a float is
cut toward zero and kept within bounds. -/
def toInt32? : Value → Option Int32
  | .int v => some v.toInt32
  | .float v => some v.toInt32
  | _ => none

/-- A number as an integer; a float is cut toward zero and kept within
bounds. -/
def toInt64? : Value → Option Int64
  | .int v => some v
  | .float v => some v.toInt64
  | _ => none

/-- A number as a float, rounded once. -/
def toFloat? : Value → Option Float32
  | .int v => some v.toFloat32
  | .float v => some v
  | _ => none

/-- A truth value; a number is true when it is positive, and a statement is
false. -/
def toBool? : Value → Option Bool
  | .int v => some (0 < v)
  | .float v => some (0 < v)
  | .bool v => some v
  | .undefined => some false
  | _ => none

/-- The entity that a value names. -/
def entityId? : Value → Option EntityId
  | .entityId id => some id
  | _ => none

/-- The prototype that a value names. -/
def prototype? : Value → Option PrototypeId
  | .prototype id => some id
  | _ => none

/-- The asset that a value names. -/
def asset? : Value → Option AssetId
  | .asset id => some id
  | _ => none

/-- The property key that a value is. -/
def key? : Value → Option PropertyKey
  | .key k => some k
  | _ => none

/-- The entity that a value points at. -/
def entity? : Value → Option EntityId
  | .entity id => id
  | _ => none

/-- The conditions that a value points at. -/
def conditions? : Value → Option ConditionList
  | .conditions l => l
  | _ => none

/-- The prototype list that a value points at. -/
def prototypeList? : Value → Option (List PrototypeId)
  | .prototypeList l => l
  | _ => none

/-- The prototype vector that a value points at. -/
def prototypeVector? : Value → Option (List PrototypeId)
  | .prototypeVector l => l
  | _ => none

/-! ### Equality -/

/-- Equality of values: the same kind, and the same payload. Collections are
equal when they are the same collection, lists when they hold the same
elements, and floats as numbers, so that a NaN differs from itself. -/
protected def beq : Value → Value → Bool
  | .error, .error => true
  | .undefined, .undefined => true
  | .int a, .int b => a == b
  | .float a, .float b => a == b
  | .bool a, .bool b => a == b
  | .asset a, .asset b => a == b
  | .prototype a, .prototype b => a == b
  | .key a, .key b => a == b
  | .entityId a, .entityId b => a == b
  | .entity a, .entity b => a == b
  | .guid a, .guid b => a == b
  | .collection a, .collection b => a == b
  | .conditions a, .conditions b =>
    a.map ConditionList.conditions == b.map ConditionList.conditions
  | .prototypeList a, .prototypeList b => a == b
  | .prototypeVector a, .prototypeVector b => a == b
  | _, _ => false

instance : BEq Value := ⟨Value.beq⟩

/-! ### References to collections -/

/-- Whether a value refers to a collection. -/
def refersTo (v : Value) (h : Handle) : Bool :=
  match v with
  | .collection (some c) => c == h
  | .conditions (some l) => l.refersTo h
  | _ => false

end Value

end Rulebook
