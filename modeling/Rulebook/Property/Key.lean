/-
Rulebook/Property/Key.lean

Properties and their keys.  A `Property` is a fact that can be recorded about
something, and is named by a number; three numbers have a fixed meaning, since
rule evaluation reads and writes these properties itself.  A `PropertyKey`
addresses one record of a property: the property and four parameters below
4096, packed into one 64-bit word,

    | property: 16 | param 0: 12 | param 1: 12 | param 2: 12 | param 3: 12 |

with the property in the highest bits, so that the order of the words is the
lexicographic order of property and parameters.  As a number the word is one in
mixed radix, and it fits (`PropertyKey.toNat_raw_ofParams`).

A `PropertyFault` says why a parameter is no parameter, a schema is not
registered, a domain is not extended or a collection is not attached.  A fault
is its cause; `PropertyFault.message` words it.
-/
import Rulebook.Property.Datum
import Std.Data.TreeMap.Basic

namespace Rulebook

/-! ### Properties -/

/-- A fact that can be recorded, named by its number; `0` names none. -/
structure Property where
  raw : UInt16
deriving DecidableEq

namespace Property

/-- Element of the current turn of a loop over prototypes. -/
def loopElement : Property := ⟨1⟩

/-- Difficulty tier of a region or of a place where things spawn. -/
def difficultyTier : Property := ⟨2⟩

/-- State of a mission for an avatar; its parameter is the mission. -/
def avatarMissionState : Property := ⟨3⟩

/-- Whether the number names a property at all. -/
def isValid (p : Property) : Bool := p.raw != 0

/-- A property in messages. -/
def text (p : Property) : String := "property #" ++ toString p.raw

/-- A property in diagnostics. -/
def describe (p : Property) : String := "PropertyEnum(" ++ toString p.raw ++ ")"

instance : Ord Property := ⟨fun a b => compare a.raw b.raw⟩

instance : Std.TransOrd Property :=
  inferInstanceAs (Std.TransCmp (compareOn Property.raw))

instance : Std.LawfulEqOrd Property where
  eq_of_compare {a b} h := by
    cases a
    cases b
    exact congrArg Property.mk (Std.LawfulEqOrd.eq_of_compare h)

end Property

/-! ### Faults -/

/-- Why an operation on properties is refused. -/
inductive PropertyFault where
  /-- The integer is no parameter of a key. -/
  | paramOutOfRange (value : Int)
  /-- The property has no parameter of the wanted sort at the index. -/
  | paramIndexOutOfRange (property : Property) (index count : Nat)
  /-- A key has room for four parameters. -/
  | tooManyParams (property : Property) (count : Nat)
  /-- The property is registered, or has no valid number. -/
  | duplicateProperty (property : Property)
  | unknownProperty (property : Property)
  /-- The default of a schema is not of the declared type. -/
  | defaultTypeMismatch (property : Property) (expected found : DataType)
  /-- The collection is its would-be parent or one of that parent's ancestors. -/
  | parentCycle
deriving DecidableEq

/-- Wording of a fault. -/
def PropertyFault.message : PropertyFault → String
  | .paramOutOfRange value => s!"property param {value} does not fit in 12 bits"
  | .paramIndexOutOfRange property index count =>
    s!"param index {index} is out of range for {property.text} ({count} params)"
  | .tooManyParams property count =>
    s!"{property.text} declares {count} params, at most 4 are supported"
  | .duplicateProperty property => s!"{property.text} is already registered"
  | .unknownProperty property => s!"{property.text} is not registered"
  | .defaultTypeMismatch property expected found =>
    s!"default value of {property.text} is {found.name}, expected {expected.name}"
  | .parentCycle => "attaching this collection to the parent would create a cycle"

/-! ### Parameters -/

/-- One parameter of a property key. -/
abbrev Param := Fin 4096

/-- The parameter zero, which is what a key has where nothing else is said. -/
def Param.zero : Param := ⟨0, by decide⟩

/-- A parameter from an integer, if it is small enough. -/
def Param.ofInt (v : Int) : Except PropertyFault Param :=
  if h : 0 ≤ v ∧ v < 4096 then .ok ⟨v.toNat, by omega⟩
  else .error (.paramOutOfRange v)

/-! ### Keys -/

/-- Address of one record: a property with four parameters in one word. -/
structure PropertyKey where
  raw : UInt64
deriving DecidableEq

namespace PropertyKey

/-- Place value of the property in the word of a key. -/
def propertyUnit : Nat := Nat.pow 2 48

/-- Place value of parameter `i` in the word of a key. -/
def paramUnit (i : Fin 4) : Nat := Nat.pow 2 (36 - 12 * i.val)

/-- The key of a property with four parameters. -/
def ofParams (p : Property) (params : Vector Param 4) : PropertyKey :=
  ⟨UInt64.ofNat (p.raw.toNat * propertyUnit + params[0].val * paramUnit 0 +
    params[1].val * paramUnit 1 + params[2].val * paramUnit 2 + params[3].val * paramUnit 3)⟩

/-- The key of a property whose only parameter other than zero is the first. -/
def ofParam (p : Property) (param : Param) : PropertyKey :=
  ofParams p #v[param, .zero, .zero, .zero]

/-- The key of a property whose parameters are zero. -/
def ofProperty (p : Property) : PropertyKey := ofParam p .zero

/-- The property of a key. -/
def property (k : PropertyKey) : Property := ⟨UInt16.ofNat (k.raw.toNat / propertyUnit)⟩

/-- Parameter `i` of a key. -/
def param (k : PropertyKey) (i : Fin 4) : Param := Fin.ofNat 4096 (k.raw.toNat / paramUnit i)

/-- The parameters of a key, in order. -/
def params (k : PropertyKey) : Vector Param 4 := Vector.ofFn k.param

/-- The key with the word `0` addresses nothing. -/
def isValid (k : PropertyKey) : Bool := k.raw != 0

/-- Text of a key in diagnostics. -/
def describe (k : PropertyKey) : String :=
  if k.isValid then
    "PropertyId(" ++ toString k.property.raw ++ ", [" ++
      ", ".intercalate (k.params.toList.map fun p => toString p.val) ++ "])"
  else
    "PropertyId::INVALID"

instance : Ord PropertyKey := ⟨fun a b => compare a.raw b.raw⟩

instance : Std.TransOrd PropertyKey :=
  inferInstanceAs (Std.TransCmp (compareOn PropertyKey.raw))

instance : Std.LawfulEqOrd PropertyKey where
  eq_of_compare {a b} h := by
    cases a
    cases b
    exact congrArg PropertyKey.mk (Std.LawfulEqOrd.eq_of_compare h)

/-! ### Words -/

/-- The place values as numerals. -/
theorem units_eq :
    propertyUnit = 281474976710656 ∧ paramUnit 0 = 68719476736 ∧ paramUnit 1 = 16777216 ∧
      paramUnit 2 = 4096 ∧ paramUnit 3 = 1 :=
  ⟨rfl, rfl, rfl, rfl, rfl⟩

theorem paramsWord_lt (params : Vector Param 4) :
    (params.get 0).val * paramUnit 0 + (params.get 1).val * paramUnit 1 +
      (params.get 2).val * paramUnit 2 + (params.get 3).val * paramUnit 3 < propertyUnit := by
  obtain ⟨e, e0, e1, e2, e3⟩ := units_eq
  rw [e, e0, e1, e2, e3]
  omega

/-- The word of a key as a number: nothing is lost to the width of the word. -/
theorem toNat_raw_ofParams (p : Property) (params : Vector Param 4) :
    (ofParams p params).raw.toNat =
      p.raw.toNat * propertyUnit +
        ((params.get 0).val * paramUnit 0 + (params.get 1).val * paramUnit 1 +
          (params.get 2).val * paramUnit 2 + (params.get 3).val * paramUnit 3) := by
  have hp : p.raw.toNat < 65536 := p.raw.toNat_lt
  have hw := paramsWord_lt params
  have e := units_eq.1
  show (UInt64.ofNat (p.raw.toNat * propertyUnit + (params.get 0).val * paramUnit 0 +
    (params.get 1).val * paramUnit 1 + (params.get 2).val * paramUnit 2 +
    (params.get 3).val * paramUnit 3)).toNat = _
  rw [UInt64.toNat_ofNat', Nat.mod_eq_of_lt]
  · omega
  · rw [e] at hw ⊢
    omega

/-- The property of a key is the one that the key was built for. -/
@[simp] theorem property_ofParams (p : Property) (params : Vector Param 4) :
    (ofParams p params).property = p := by
  rw [property, toNat_raw_ofParams, Nat.mul_comm, Nat.mul_add_div (by decide),
    Nat.div_eq_of_lt (paramsWord_lt params), Nat.add_zero, UInt16.ofNat_toNat]

@[simp] theorem property_ofProperty (p : Property) : (ofProperty p).property = p :=
  property_ofParams ..

end PropertyKey

end Rulebook
