/-
Rulebook/Property/Registry.lean

The registry of schemas.  A property is used only when its schema is
registered, and a schema is registered once.  Rules may also name a property
by its property prototype, so the registry keeps the properties by
prototype as well; of two schemas with one prototype the later one has it.

`register` and `extendDomain` give no registry at all when they refuse, so a
refusal changes nothing.
-/
import Rulebook.Property.Schema

namespace Rulebook

/-- The registered schemas, by property and by property prototype. -/
structure Registry where
  schemas : Std.TreeMap Property Schema := ∅
  byPrototype : Std.TreeMap PrototypeId Property := ∅

namespace Registry

/-- Schema of a property. -/
def lookup (r : Registry) (p : Property) : Option Schema := r.schemas[p]?

/-- The property that a property prototype names. -/
def ofPrototype? (r : Registry) (id : PrototypeId) : Option Property := r.byPrototype[id]?

/-- Number of schemas. -/
def size (r : Registry) : Nat := r.schemas.size

/-- Register a schema. -/
def register (r : Registry) (s : Schema) : Except PropertyFault Registry :=
  if !s.property.isValid || r.schemas.contains s.property then
    .error (.duplicateProperty s.property)
  else if 4 < s.params.length then
    .error (.tooManyParams s.property s.params.length)
  else if s.default.dataType ≠ s.dataType then
    .error (.defaultTypeMismatch s.property s.dataType s.default.dataType)
  else
    .ok {
      schemas := r.schemas.insert s.property s
      -- a prototype that names a property already names this one from now on
      byPrototype :=
        if s.prototype.isValid then r.byPrototype.insert s.prototype s.property
        else r.byPrototype }

/-- Enumerate more prototypes in the domain of a parameter that refers to
prototypes. -/
def extendDomain (r : Registry) (p : Property) (i : Nat) (ids : List PrototypeId) :
    Except PropertyFault Registry :=
  match r.lookup p with
  | none => .error (.unknownProperty p)
  | some s =>
    match s.paramOf? .prototype i with
    | none => .error (.paramIndexOutOfRange p i s.params.length)
    | some _ => .ok { r with schemas := r.schemas.insert p (s.extendParam i ids) }

/-! ### Properties of rule evaluation -/

/-- Schemas of the properties that rule evaluation reads and writes itself. -/
def builtinSchemas : List Schema :=
  [{ property := .loopElement, name := "EvalLoopVarProtoRef", dataType := .prototype,
     params := [{ type := .integer }] },
   { property := .difficultyTier, name := "DifficultyTier", dataType := .prototype },
   { property := .avatarMissionState, name := "AvatarMissionState", dataType := .integer,
     params := [{ type := .prototype }] }]

/-- The registry of those schemas alone. -/
def builtins : Registry :=
  builtinSchemas.foldl (fun r s => (r.register s).toOption.getD r) {}

end Registry

end Rulebook
