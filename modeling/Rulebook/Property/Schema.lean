/-
Rulebook/Property/Schema.lean

Schemas.  The schema of a property fixes its storage type, the value it has
before anything is recorded, and what each of its parameters refers to.

An integer parameter is the integer itself.  A parameter that refers to
assets or prototypes is a place in an enumerated `domain`: `0` stands for no
reference and `n + 1` for the reference at place `n` (`ParamSchema.encode`,
`ParamSchema.decode`).
-/
import Rulebook.Property.Key

namespace Rulebook

/-! ### Parameters -/

/-- What a parameter refers to. -/
inductive ParamType where
  | invalid
  | integer
  | asset
  | prototype
deriving DecidableEq

/-- Name of a sort of parameters. -/
def ParamType.name : ParamType → String
  | .invalid => "Invalid"
  | .integer => "Integer"
  | .asset => "Asset"
  | .prototype => "Prototype"

/-- Schema of one parameter. -/
structure ParamSchema where
  type : ParamType
  default : Param := .zero
  /-- Words of the enumerated references, in the order of their places. -/
  domain : Array UInt64 := #[]

namespace ParamSchema

/-- The parameter that stands for the reference with the word `raw`. -/
def encode (s : ParamSchema) (raw : UInt64) : Option Param :=
  if raw = 0 then some .zero
  else
    match s.domain.idxOf? raw with
    | some place => if h : place + 1 < 4096 then some ⟨place + 1, h⟩ else none
    | none => none

/-- The word of the reference that a parameter stands for. -/
def decode (s : ParamSchema) (p : Param) : Option UInt64 :=
  if p.val = 0 then some 0 else s.domain[p.val - 1]?

/-- Enumerate more references; those that have a place keep it. -/
def extend (s : ParamSchema) (raws : List UInt64) : ParamSchema :=
  { s with domain := raws.foldl (fun d raw => if d.contains raw then d else d.push raw) s.domain }

end ParamSchema

/-! ### Schemas -/

/-- Schema of a property. -/
structure Schema where
  property : Property
  name : String
  dataType : DataType
  /-- Value of the property before anything is recorded. -/
  default : Datum := .zero dataType
  /-- The property prototype that names the property in rules, if valid. -/
  prototype : PrototypeId := .null
  params : List ParamSchema := []

namespace Schema

/-- What parameter `i` refers to; parameters past the declared are `invalid`. -/
def paramType (s : Schema) (i : Nat) : ParamType :=
  match s.params[i]? with
  | some p => p.type
  | none => .invalid

/-- Default of parameter `i`, zero past the declared ones. -/
def defaultParam (s : Schema) (i : Nat) : Param :=
  match s.params[i]? with
  | some p => p.default
  | none => .zero

/-- Default of each parameter of a key. -/
def defaultParams (s : Schema) : Vector Param 4 := Vector.ofFn fun i => s.defaultParam i.val

/-- The default parameters with `p` as the first one instead. -/
def defaultParamsWith (s : Schema) (p : Param) : Vector Param 4 :=
  Vector.ofFn fun i => if i.val = 0 then p else s.defaultParam i.val

/-- Schema of parameter `i`, if the parameter is of the given sort. -/
def paramOf? (s : Schema) (type : ParamType) (i : Nat) : Option ParamSchema :=
  s.params[i]?.filter (·.type = type)

/-- The value of parameter `i` that stands for a prototype. -/
def paramOfPrototype (s : Schema) (i : Nat) (r : PrototypeId) : Option Param :=
  s.paramOf? .prototype i >>= (·.encode r.raw)

/-- The value of parameter `i` that stands for an asset. -/
def paramOfAsset (s : Schema) (i : Nat) (r : AssetId) : Option Param :=
  s.paramOf? .asset i >>= (·.encode r.raw)

/-- The prototype that a value of parameter `i` stands for. -/
def prototypeOfParam (s : Schema) (i : Nat) (p : Param) : Option PrototypeId :=
  (s.paramOf? .prototype i >>= (·.decode p)).map Ref.mk

/-- The asset that a value of parameter `i` stands for. -/
def assetOfParam (s : Schema) (i : Nat) (p : Param) : Option AssetId :=
  (s.paramOf? .asset i >>= (·.decode p)).map Ref.mk

/-- Enumerate more prototypes in the domain of parameter `i`. -/
def extendParam (s : Schema) (i : Nat) (rs : List PrototypeId) : Schema :=
  { s with params := s.params.modify i (·.extend (rs.map (·.raw))) }

end Schema

end Rulebook
