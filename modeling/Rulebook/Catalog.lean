/-
Rulebook/Catalog.lean

The catalog of authored data: which blueprint a prototype was made from,
which blueprints a blueprint derives from, which prototype is the default
one of a blueprint, how the difficulty tiers are ordered, and which missions
there are.  It is filled while the data loads and then only read.

A blueprint derives from another along parent links of any length, and
nothing keeps the links from running in a circle.  `isA` expands every
registered blueprint at most once, so it follows no more links than there
are, and ends.
-/
import Rulebook.Mission
import Std.Data.TreeSet.Basic

namespace Rulebook

/-- The catalog of authored data. -/
structure Catalog where
  /-- The blueprint that a prototype was made from. -/
  blueprints : Std.TreeMap PrototypeId BlueprintId := ∅
  /-- The direct parents of a blueprint. -/
  parents : Std.TreeMap BlueprintId (List BlueprintId) := ∅
  /-- The default prototype of a blueprint. -/
  defaultOf : Std.TreeMap BlueprintId PrototypeId := ∅
  /-- The prototypes that count as default ones. -/
  defaults : Std.TreeSet PrototypeId := ∅
  /-- The place of a difficulty tier in their order. -/
  tiers : Std.TreeMap PrototypeId UInt32 := ∅
  missions : Std.TreeMap PrototypeId Mission := ∅

namespace Catalog

/-! ### Filling the catalog -/

/-- Enter a blueprint with its direct parents. -/
def addBlueprint (c : Catalog) (b : BlueprintId) (ps : List BlueprintId) : Catalog :=
  { c with parents := c.parents.insert b ps }

/-- Enter a prototype that was made from a blueprint. -/
def addPrototype (c : Catalog) (p : PrototypeId) (b : BlueprintId) : Catalog :=
  { c with blueprints := c.blueprints.insert p b }

/-- Make `p` the default prototype of `b`. The one that `b` had before does
not count as a default prototype any more. -/
def setDefault (c : Catalog) (b : BlueprintId) (p : PrototypeId) : Catalog :=
  let others :=
    match c.defaultOf[b]? with
    | some old => c.defaults.erase old
    | none => c.defaults
  { c with
    defaultOf := c.defaultOf.insert b p
    defaults := others.insert p
    blueprints := c.blueprints.insert p b }

/-- Enter a difficulty tier at a place of the order, lower is easier. -/
def addTier (c : Catalog) (tier : PrototypeId) (place : UInt32) : Catalog :=
  { c with tiers := c.tiers.insert tier place }

/-- Enter a mission. -/
def addMission (c : Catalog) (m : Mission) : Catalog :=
  { c with missions := c.missions.insert m.id m }

/-! ### Prototypes and blueprints -/

/-- Whether a prototype counts as the default prototype of its blueprint. -/
def isDefault (c : Catalog) (p : PrototypeId) : Bool := c.defaults.contains p

/-- The blueprint that a prototype was made from. -/
def blueprintOf? (c : Catalog) (p : PrototypeId) : Option BlueprintId := c.blueprints[p]?

/-- The direct parents of a blueprint; none if it was never entered. -/
def parentsOf (c : Catalog) (b : BlueprintId) : List BlueprintId := (c.parents[b]?).getD []

/-- Number of parent links in the catalog. -/
def linkCount (c : Catalog) : Nat := c.parents.foldl (fun n _ ps => n + ps.length) 0

/-- Whether a search from the `pending` blueprints, past those it has `seen`,
comes to `target`. There is no answer if the search is not over when it has
looked at `n` of them. -/
def reaches? (c : Catalog) (target : BlueprintId) :
    Nat → List BlueprintId → List BlueprintId → Option Bool
  | _, _, [] => some false
  | 0, _, _ :: _ => none
  | n + 1, seen, b :: pending =>
    if b = target then some true
    -- links may run in a circle, so nothing is expanded twice
    else if seen.contains b then c.reaches? target n seen pending
    else c.reaches? target n (b :: seen) ((c.parentsOf b).reverse ++ pending)

/-- Whether a blueprint is `ancestor` or derives from it. -/
def isA (c : Catalog) (b ancestor : BlueprintId) : Bool :=
  (c.reaches? ancestor (c.linkCount + 1) [] [b]).getD false

/-- Whether a prototype was made from a blueprint or from one that derives
from it. -/
def isMadeFrom (c : Catalog) (p : PrototypeId) (b : BlueprintId) : Bool :=
  (c.blueprintOf? p).any (c.isA · b)

/-! ### Tiers and missions -/

/-- Whether a tier lies between two bounds. A bound that is no tier is open,
and what is no tier lies nowhere. -/
def tierInRange (c : Catalog) (tier min max : PrototypeId) : Bool :=
  match c.tiers[tier]? with
  | none => false
  | some place => (c.tiers[min]?).all (· ≤ place) && (c.tiers[max]?).all (place ≤ ·)

/-- The mission `id`. -/
def mission? (c : Catalog) (id : PrototypeId) : Option Mission := c.missions[id]?

end Catalog

end Rulebook
