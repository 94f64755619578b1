/-
Rulebook/Ref.lean

References.  Every authored record and every live thing of a game is named
by a 64-bit word, and the word `0` names nothing.  One structure `Ref kind`
serves them all; the kind is a phantom tag, so that a curve can never be
passed where a prototype is wanted, while order, equality and text are
defined once.

References are compared by their words (`instTransOrd`, `instLawfulEqOrd`),
which makes them keys of ordered maps.
-/
import Std.Data.TreeMap.Basic

namespace Rulebook

/-- What a reference points at. -/
inductive RefKind where
  | prototype
  | asset
  | curve
  | blueprint
  | entity
  | region
  | guid
deriving DecidableEq

/-- Name of the references of a kind, as it is written in diagnostics. -/
def RefKind.label : RefKind → String
  | .prototype => "PrototypeId"
  | .asset => "AssetId"
  | .curve => "CurveId"
  | .blueprint => "BlueprintId"
  | .entity => "EntityId"
  | .region => "RegionId"
  | .guid => "DbGuid"

/-- All kinds of references. -/
def RefKind.all : List RefKind :=
  [.prototype, .asset, .curve, .blueprint, .entity, .region, .guid]

/-- A reference to a thing of kind `k`. -/
structure Ref (k : RefKind) where
  /-- The word that names the thing; `0` names nothing. -/
  raw : UInt64
deriving DecidableEq

/-- An authored record of the game's data. -/
abbrev PrototypeId := Ref .prototype
/-- An authored asset: art, sound, a localized name, an enumerated value. -/
abbrev AssetId := Ref .asset
/-- A numeric curve. -/
abbrev CurveId := Ref .curve
/-- A blueprint, the type that prototypes are made from. -/
abbrev BlueprintId := Ref .blueprint
/-- An entity of one running game. -/
abbrev EntityId := Ref .entity
/-- A region of one running game. -/
abbrev RegionId := Ref .region
/-- The durable name of an entity, stable across sessions. -/
abbrev DbGuid := Ref .guid

namespace Ref

variable {k : RefKind}

/-- The reference to nothing. -/
def null : Ref k := ⟨0⟩

/-- Whether a reference names anything at all. -/
def isValid (r : Ref k) : Bool := r.raw != 0

instance : Inhabited (Ref k) := ⟨null⟩

/-! ### Order -/

instance : Ord (Ref k) := ⟨fun a b => compare a.raw b.raw⟩

instance : Std.TransOrd (Ref k) :=
  inferInstanceAs (Std.TransCmp (compareOn Ref.raw))

instance : Std.LawfulEqOrd (Ref k) where
  eq_of_compare {a b} h := by
    cases a
    cases b
    exact congrArg Ref.mk (Std.LawfulEqOrd.eq_of_compare h)

/-! ### Text -/

/-- Text of a reference in diagnostics: its kind and its word. -/
def describe (r : Ref k) : String :=
  if r.isValid then k.label ++ "(" ++ toString r.raw ++ ")" else k.label ++ "::INVALID"

@[simp] theorem isValid_null : (null : Ref k).isValid = false := rfl

theorem isValid_eq_false_iff (r : Ref k) : r.isValid = false ↔ r = null := by
  cases r
  simp [isValid, null]

end Ref

end Rulebook
