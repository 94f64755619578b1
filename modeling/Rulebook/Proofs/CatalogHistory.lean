/-
Rulebook/Proofs/CatalogHistory.lean

Histories of catalogs.  A catalog comes about by entries, which are made one
after another (`Catalog.after`).  An entry says what a map of the catalog has
under a key from then on, or says nothing about it.  So the map has under that
key what the latest entry said (`latest?`):

    the parents of a blueprint             `parents_after`
    the blueprint of a prototype           `blueprintOf?_after`
    the default prototype of a blueprint   `defaultOf_after`

The prototypes that count as default ones are a set of their own, which an entry
changes by what the catalog had before.
-/
import Rulebook.Catalog
import Rulebook.Proofs.RegistryHistory

namespace Rulebook

/-! ### What was said last -/

section

variable {α β : Type} {tells : α → Option β}

/-- What the latest of some entries says that says anything. -/
def latest? (tells : α → Option β) (es : List α) : Option β := es.reverse.findSome? tells

theorem latest?_append (es fs : List α) :
    latest? tells (es ++ fs) = (latest? tells fs).or (latest? tells es) := by
  unfold latest?
  rw [List.reverse_append, List.findSome?_append]

theorem latest?_singleton (e : α) : latest? tells [e] = tells e := List.findSome?_singleton

theorem latest?_eq_none_iff {es : List α} :
    latest? tells es = none ↔ ∀ e ∈ es, tells e = none := by
  simp [latest?, List.findSome?_eq_none_iff]

theorem latest?_eq_some_iff {es : List α} {b : β} :
    latest? tells es = some b ↔
      ∃ before e since, es = before ++ [e] ++ since ∧ tells e = some b ∧
        ∀ e' ∈ since, tells e' = none := by
  unfold latest?
  rw [List.findSome?_eq_some_iff]
  -- the first one of the reversed history, seen from the other end
  constructor
  · rintro ⟨since, e, before, split, told, silent⟩
    refine ⟨before.reverse, e, since.reverse, ?_, told, fun e' mem =>
      silent e' (List.mem_reverse.mp mem)⟩
    simpa using congrArg List.reverse split
  · rintro ⟨before, e, since, rfl, told, silent⟩
    exact ⟨since.reverse, e, before.reverse, by simp, told, fun e' mem =>
      silent e' (List.mem_reverse.mp mem)⟩

/-- What is said last is said by an entry. -/
theorem exists_of_latest? {es : List α} {b : β} (h : latest? tells es = some b) :
    ∃ e ∈ es, tells e = some b := by
  obtain ⟨before, e, since, rfl, told, -⟩ := latest?_eq_some_iff.mp h
  exact ⟨e, by simp, told⟩

end

namespace Catalog

/-! ### Entries -/

/-- An entry of a catalog. -/
inductive Entry where
  | blueprint (b : BlueprintId) (parents : List BlueprintId)
  | prototype (p : PrototypeId) (b : BlueprintId)
  | defaultPrototype (b : BlueprintId) (p : PrototypeId)
  | tier (t : PrototypeId) (place : UInt32)
  | mission (m : Mission)

namespace Entry

/-- The parents that an entry gives to a blueprint. -/
def parentsOf? (b : BlueprintId) : Entry → Option (List BlueprintId)
  | .blueprint b' ps => if b' = b then some ps else none
  | _ => none

/-- The blueprint that an entry files a prototype under. -/
def blueprintOf? (p : PrototypeId) : Entry → Option BlueprintId
  | .prototype p' b => if p' = p then some b else none
  | .defaultPrototype b p' => if p' = p then some b else none
  | _ => none

/-- The default prototype that an entry gives to a blueprint. -/
def defaultOf? (b : BlueprintId) : Entry → Option PrototypeId
  | .defaultPrototype b' p => if b' = b then some p else none
  | _ => none

theorem defaultOf?_eq_some_iff {e : Entry} {b : BlueprintId} {p : PrototypeId} :
    e.defaultOf? b = some p ↔ e = .defaultPrototype b p := by
  cases e <;> simp [defaultOf?]

end Entry

/-- The catalog with one more entry. -/
def enter (c : Catalog) : Entry → Catalog
  | .blueprint b ps => c.addBlueprint b ps
  | .prototype p b => c.addPrototype p b
  | .defaultPrototype b p => c.setDefault b p
  | .tier t place => c.addTier t place
  | .mission m => c.addMission m

/-- The catalog after entries were made one after another. -/
def after (c : Catalog) (es : List Entry) : Catalog := es.foldl enter c

theorem after_concat (c : Catalog) (es : List Entry) (e : Entry) :
    c.after (es ++ [e]) = (c.after es).enter e := by
  unfold after
  rw [List.foldl_append, List.foldl_cons, List.foldl_nil]

/-! ### The maps after a history -/

/-- A look-up that every entry overwrites with what it says finds
what was said last. -/
theorem get_after {β : Type} (get : Catalog → Option β) (tells : Entry → Option β)
    (step : ∀ c e, get (c.enter e) = (tells e).or (get c)) (c : Catalog) (es : List Entry) :
    get (c.after es) = (latest? tells es).or (get c) := by
  induction es generalizing c with
  | nil => rfl
  | cons e es ih =>
    -- what the first entry tells counts only if no later one tells anything
    calc get ((c.enter e).after es) = (latest? tells es).or (get (c.enter e)) := ih _
      _ = (latest? tells es).or ((tells e).or (get c)) := by rw [step]
      _ = (latest? tells ([e] ++ es)).or (get c) := by
        rw [latest?_append, latest?_singleton, Option.or_assoc]

/-- An entry under one key, as it is seen under another. -/
theorem getElem?_insert_or {α β : Type} [Ord α] [Std.TransOrd α] [Std.LawfulEqOrd α]
    [DecidableEq α] (m : Std.TreeMap α β) (k k' : α) (v : β) :
    (m.insert k v)[k']? = (if k = k' then some v else none).or m[k']? := by
  rw [Std.TreeMap.getElem?_insert, Registry.ite_compare]
  by_cases same : k = k'
  · rw [if_pos same.symm, if_pos same, Option.some_or]
  · rw [if_neg (Ne.symm same), if_neg same, Option.none_or]

theorem parents_enter (c : Catalog) (e : Entry) (b : BlueprintId) :
    (c.enter e).parents[b]? = (e.parentsOf? b).or c.parents[b]? := by
  cases e with
  | blueprint b' ps => exact getElem?_insert_or ..
  | _ => rfl

theorem blueprintOf?_enter (c : Catalog) (e : Entry) (p : PrototypeId) :
    (c.enter e).blueprintOf? p = (e.blueprintOf? p).or (c.blueprintOf? p) := by
  cases e with
  | prototype p' b => exact getElem?_insert_or ..
  | defaultPrototype b p' => exact getElem?_insert_or ..
  | _ => rfl

theorem defaultOf_enter (c : Catalog) (e : Entry) (b : BlueprintId) :
    (c.enter e).defaultOf[b]? = (e.defaultOf? b).or c.defaultOf[b]? := by
  cases e with
  | defaultPrototype b' p => exact getElem?_insert_or ..
  | _ => rfl

section

variable (es : List Entry)

/-- A blueprint has the parents that it was given last. -/
theorem parents_after (b : BlueprintId) :
    (({} : Catalog).after es).parents[b]? = latest? (·.parentsOf? b) es :=
  (get_after (·.parents[b]?) _ (parents_enter · · b) {} es).trans (Option.or_none ..)

/-- A prototype is of the blueprint that it was filed under last. -/
theorem blueprintOf?_after (p : PrototypeId) :
    (({} : Catalog).after es).blueprintOf? p = latest? (·.blueprintOf? p) es :=
  (get_after (·.blueprintOf? p) _ (blueprintOf?_enter · · p) {} es).trans (Option.or_none ..)

/-- A blueprint has the default prototype that it was given last. -/
theorem defaultOf_after (b : BlueprintId) :
    (({} : Catalog).after es).defaultOf[b]? = latest? (·.defaultOf? b) es :=
  (get_after (·.defaultOf[b]?) _ (defaultOf_enter · · b) {} es).trans (Option.or_none ..)

end

end Catalog

end Rulebook
