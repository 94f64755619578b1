/-
Rulebook/Store.lean

Property collections.  A collection maps keys to data and may fall through
to a parent: a key it does not hold itself is looked up in the parent, and
so on up the chain.  Collections are shared, so a collection is a cell of a
`Store` and everything else refers to it by `Handle`.

A parent link does not keep the parent alive.  Whoever refers to collections
knows which of them are alive, and passes that knowledge as a predicate
`live`; a link to a collection that is not alive leads nowhere.  Handles are
never used twice, so a collection that has died stays dead, and nothing has
to be erased.

The chain of a collection (`Store.chain`) is the collection followed by its
live ancestors, and the operations are stated by it: a read takes the first
collection of the chain that holds the key (`Store.get?`), and a collection
is not attached to a parent whose chain it is on (`Store.attach`).

The entries are an extensional map, so two collections with the same entries
and the same parent are equal, whatever was done to them before.
-/
import Rulebook.Property.Key
import Std.Data.ExtTreeMap.Lemmas

namespace Rulebook

/-! ### Collections -/

/-- Name of a collection in a store. -/
structure Handle where
  index : Nat
deriving DecidableEq

/-- A collection: its own entries, in the order of their keys, and the
collection it falls through to. -/
structure Collection where
  entries : Std.ExtTreeMap PropertyKey Datum := ∅
  parent : Option Handle := none

instance : Inhabited Collection := ⟨{}⟩

/-- All collections that were ever created. -/
structure Store where
  cells : Array Collection := #[]

namespace Store

/-- The collection with a given handle. -/
def cell (s : Store) (h : Handle) : Collection := s.cells[h.index]?.getD {}

/-- Create an empty collection. -/
def create (s : Store) : Store × Handle :=
  (⟨s.cells.push {}⟩, ⟨s.cells.size⟩)

/-- Change one collection. -/
def modify (s : Store) (h : Handle) (f : Collection → Collection) : Store :=
  ⟨s.cells.modify h.index f⟩

theorem size_create (s : Store) : s.create.1.cells.size = s.cells.size + 1 :=
  Array.size_push ..

@[simp] theorem size_modify (s : Store) (h : Handle) (f : Collection → Collection) :
    (s.modify h f).cells.size = s.cells.size :=
  Array.size_modify

/-- A collection that was not created yet is as good as an empty one. -/
@[simp] theorem cell_create (s : Store) (h : Handle) : s.create.1.cell h = s.cell h := by
  unfold cell create
  rw [Array.getElem?_push]
  split
  next e => rw [e, Array.getElem?_eq_none (Nat.le_refl _)]; rfl
  next => rfl

theorem cell_modify_self (s : Store) {h : Handle} (f : Collection → Collection)
    (hs : h.index < s.cells.size) : (s.modify h f).cell h = f (s.cell h) := by
  unfold cell modify
  rw [Array.getElem?_modify, if_pos rfl, Array.getElem?_eq_getElem hs]
  rfl

theorem cell_modify_of_ne (s : Store) {h g : Handle} (f : Collection → Collection) (hg : g ≠ h) :
    (s.modify h f).cell g = s.cell g := by
  have : h.index ≠ g.index := fun e => hg (congrArg Handle.mk e.symm)
  unfold cell modify
  rw [Array.getElem?_modify, if_neg this]

theorem cell_modify_of_le (s : Store) {h : Handle} (f : Collection → Collection)
    (hs : s.cells.size ≤ h.index) (g : Handle) : (s.modify h f).cell g = s.cell g := by
  by_cases hg : g = h
  · subst hg
    unfold cell modify
    rw [Array.getElem?_modify, if_pos rfl, Array.getElem?_eq_none hs]
    rfl
  · exact cell_modify_of_ne s f hg

/-- A field that a change of one collection leaves as it was is as it was
everywhere. -/
theorem cell_modify_field {α : Type} (s : Store) (h g : Handle) (f : Collection → Collection)
    (field : Collection → α) (hf : ∀ c, field (f c) = field c) :
    field ((s.modify h f).cell g) = field (s.cell g) := by
  by_cases hs : h.index < s.cells.size
  · by_cases hg : g = h
    · rw [hg, cell_modify_self s f hs, hf]
    · rw [cell_modify_of_ne s f hg]
  · rw [cell_modify_of_le s f (Nat.le_of_not_lt hs)]

/-! ### Local entries -/

/-- What a collection itself holds under a key. -/
def getLocal? (s : Store) (h : Handle) (k : PropertyKey) : Option Datum := (s.cell h).entries[k]?

/-- Record a datum under a key of a collection. -/
def set (s : Store) (h : Handle) (k : PropertyKey) (d : Datum) : Store :=
  s.modify h fun c => { c with entries := c.entries.insert k d }

@[simp] theorem size_set (s : Store) (h : Handle) (k : PropertyKey) (d : Datum) :
    (s.set h k d).cells.size = s.cells.size :=
  size_modify ..

@[simp] theorem parent_set (s : Store) (h g : Handle) (k : PropertyKey) (d : Datum) :
    ((s.set h k d).cell g).parent = (s.cell g).parent :=
  cell_modify_field s h g _ Collection.parent fun _ => rfl

theorem cell_set_of_ne (s : Store) {h g : Handle} (k : PropertyKey) (d : Datum) (hg : g ≠ h) :
    (s.set h k d).cell g = s.cell g :=
  cell_modify_of_ne s _ hg

theorem getLocal?_set_self (s : Store) {h : Handle} (k : PropertyKey) (d : Datum)
    (hs : h.index < s.cells.size) : (s.set h k d).getLocal? h k = some d := by
  rw [getLocal?, set, cell_modify_self s _ hs, Std.ExtTreeMap.getElem?_insert_self]

/-- After a datum is recorded, a key has what it had or, if it is the key of
the datum, has the datum. -/
theorem getLocal?_set_cases (s : Store) (h g : Handle) (k k' : PropertyKey) (d : Datum) :
    (s.set h k d).getLocal? g k' = s.getLocal? g k' ∨
      k' = k ∧ (s.set h k d).getLocal? g k' = some d := by
  by_cases hg : g = h
  · subst hg
    by_cases hs : g.index < s.cells.size
    · by_cases hk : k' = k
      · subst hk
        exact .inr ⟨rfl, getLocal?_set_self s k' d hs⟩
      · left
        unfold getLocal? set
        rw [cell_modify_self s _ hs, Std.ExtTreeMap.getElem?_insert, if_neg]
        exact fun e => hk (Std.LawfulEqOrd.eq_of_compare e).symm
    · left
      unfold getLocal? set
      rw [cell_modify_of_le s _ (Nat.le_of_not_lt hs)]
  · left
    unfold getLocal?
    rw [cell_set_of_ne s k d hg]

/-- Remove what a collection itself holds under a key. -/
def erase (s : Store) (h : Handle) (k : PropertyKey) : Store :=
  s.modify h fun c => { c with entries := c.entries.erase k }

/-- Remove all that a collection itself holds. -/
def clear (s : Store) (h : Handle) : Store :=
  s.modify h fun c => { c with entries := ∅ }

/-- The local entries of a collection, in the order of their keys. -/
def entries (s : Store) (h : Handle) : List (PropertyKey × Datum) := (s.cell h).entries.toList

/-! ### Parents -/

/-- The live parent of a collection. -/
def parent? (live : Handle → Bool) (s : Store) (h : Handle) : Option Handle :=
  (s.cell h).parent.filter live

/-- A collection and its live ancestors, at most `n` collections. -/
def ancestors (live : Handle → Bool) (s : Store) : Nat → Handle → List Handle
  | 0, _ => []
  | n + 1, h =>
    h :: match s.parent? live h with
      | some p => ancestors live s n p
      | none => []

/-- A collection followed by its live ancestors, the nearest first. A chain
without a cycle is no longer than the store. -/
def chain (live : Handle → Bool) (s : Store) (h : Handle) : List Handle :=
  s.ancestors live s.cells.size h

/-- The value of a key for a collection: what the first collection of its
chain that holds the key has there. -/
def get? (live : Handle → Bool) (s : Store) (h : Handle) (k : PropertyKey) : Option Datum :=
  (s.chain live h).findSome? (s.getLocal? · k)

/-- Whether a key has a value for a collection. -/
def has (live : Handle → Bool) (s : Store) (h : Handle) (k : PropertyKey) : Bool :=
  (s.get? live h k).isSome

/-- The prototype under a key; nothing, or a datum of another type, is the
null reference. -/
def getPrototype (live : Handle → Bool) (s : Store) (h : Handle) (k : PropertyKey) : PrototypeId :=
  (s.get? live h k >>= Datum.prototype?).getD .null

/-- The integer under a key; nothing, or a datum of another type, is zero. -/
def getInteger (live : Handle → Bool) (s : Store) (h : Handle) (k : PropertyKey) : Int64 :=
  (s.get? live h k >>= Datum.integer?).getD 0

/-- Let `child` fall through to `parent`, instead of any earlier parent. The
parent must not be `child` itself or fall through to it. -/
def attach (live : Handle → Bool) (s : Store) (child parent : Handle) :
    Except PropertyFault Store :=
  if (s.chain live parent).contains child then .error .parentCycle
  else .ok (s.modify child fun c => { c with parent := some parent })

/-- Cut the parent link of a collection. -/
def detach (s : Store) (h : Handle) : Store :=
  s.modify h fun c => { c with parent := none }

/-- Whether a collection has a parent link, be the parent alive or not. -/
def isAttached (s : Store) (h : Handle) : Bool := (s.cell h).parent.isSome

/-! ### Text -/

/-- A collection in diagnostics: its local entries, and whether it falls
through to another. -/
def describe (live : Handle → Bool) (s : Store) (h : Handle) : String :=
  let entries := (s.entries h).map fun (k, d) => k.describe ++ ": " ++ d.describe
  "PropertyCollectionRef(PropertyCollection \x7b values: \x7b" ++ ", ".intercalate entries ++
    "\x7d, has_parent: " ++ toString (s.parent? live h).isSome ++ " \x7d)"

/-- A collection in diagnostics while it is being changed. -/
def describeBorrowed : String := "PropertyCollectionRef(<borrowed>)"

end Store

end Rulebook
