/-
Rulebook/InventoryLabel.lean

Labels of inventories.  An entity holds its items in inventories, each of
which is named by a label of a fixed vocabulary.  The label `unset` stands
in data that forgot to choose one; no question is ever answered for it.
-/
import Std.Data.TreeMap.Basic

namespace Rulebook

/-- Named category of an entity's inventory. -/
inductive InventoryLabel where
  | unset
  | avatarLibrary
  | costume
  | general
  | crafting
  | consumables
  | deliveryBox
  | errorRecovery
  | pvp
  | summoned
  | controlled
  | teamUpLibrary
  | teamUpGeneral
  | uiItems
deriving DecidableEq, Inhabited

namespace InventoryLabel

/-- All labels. -/
def all : List InventoryLabel :=
  [.unset, .avatarLibrary, .costume, .general, .crafting, .consumables, .deliveryBox,
    .errorRecovery, .pvp, .summoned, .controlled, .teamUpLibrary, .teamUpGeneral, .uiItems]

/-- Name of a label. -/
def name : InventoryLabel → String
  | .unset => "None"
  | .avatarLibrary => "AvatarLibrary"
  | .costume => "Costume"
  | .general => "General"
  | .crafting => "Crafting"
  | .consumables => "Consumables"
  | .deliveryBox => "DeliveryBox"
  | .errorRecovery => "ErrorRecovery"
  | .pvp => "PvP"
  | .summoned => "Summoned"
  | .controlled => "Controlled"
  | .teamUpLibrary => "TeamUpLibrary"
  | .teamUpGeneral => "TeamUpGeneral"
  | .uiItems => "UIItems"

/-- The label with a given name. -/
def ofName? (s : String) : Option InventoryLabel := all.find? (·.name == s)

/-- Whether the label names a real category. -/
def isSet (l : InventoryLabel) : Bool := l != .unset

/-! ### Order -/

instance : Ord InventoryLabel := ⟨fun a b => compare a.ctorIdx b.ctorIdx⟩

instance : Std.TransOrd InventoryLabel :=
  inferInstanceAs (Std.TransCmp (compareOn InventoryLabel.ctorIdx))

instance : Std.LawfulEqOrd InventoryLabel where
  eq_of_compare {a b} h := by
    have : a.ctorIdx = b.ctorIdx := Std.LawfulEqOrd.eq_of_compare h
    cases a <;> cases b <;> first | rfl | contradiction

end InventoryLabel

end Rulebook
