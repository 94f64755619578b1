/-
Rulebook/Proofs/Ancestry.lean

Ancestors of blueprints.  `Catalog.isA` searches the parent links from one
blueprint for another.  The links may lead in circles and to blueprints that were
never entered, and a search looks at a limited number of blueprints only; yet it
always has an answer, and the answer is yes exactly for the blueprint itself and
for what a chain of links leads to (`isA_iff`).

* The search is over in time (`exists_reaches?`).  Every link of a blueprint that
  was not expanded yet, and every pending blueprint, costs one look at most, and
  there are no more of them than the links of the catalog and the blueprint that
  the search starts from.
* What it finds is an ancestor (`exists_of_reaches?`).
* Where it finds nothing, it has walked through a set of blueprints that no link
  leads out of (`Avoids`), and what it searched for is not in there
  (`exists_avoids`).
-/
import Mathlib.Algebra.Order.BigOperators.Group.List
import Mathlib.Algebra.Order.Ring.Nat
import Mathlib.Logic.Relation
import Rulebook.Proofs.CatalogHistory

namespace Rulebook.Catalog

open Relation

variable {c : Catalog} {a b : BlueprintId} {n : Nat} {seen pending : List BlueprintId}

/-- Whether `p` is a direct parent of `b`. -/
def IsParent (c : Catalog) (b p : BlueprintId) : Prop := p ∈ c.parentsOf b

theorem isParent_iff {p : BlueprintId} :
    c.IsParent b p ↔ ∃ ps, c.parents[b]? = some ps ∧ p ∈ ps := by
  unfold IsParent parentsOf
  cases c.parents[b]? <;> simp

/-! ### The search is over in time -/

/-- The number of links of a blueprint with its parents, none if it is
among the `seen`. -/
def linksOf (seen : List BlueprintId) (e : BlueprintId × List BlueprintId) : Nat :=
  if e.1 ∈ seen then 0 else e.2.length

/-- The number of links that a search past the blueprints `seen` can still follow. -/
def unseenLinks (c : Catalog) (seen : List BlueprintId) : Nat :=
  (c.parents.toList.map (linksOf seen)).sum

theorem linkCount_eq_unseenLinks (c : Catalog) : c.linkCount = c.unseenLinks [] := by
  -- a fold that adds up from any start
  have count : ∀ (l : List (BlueprintId × List BlueprintId)) (n : Nat),
      l.foldl (fun n e => n + e.2.length) n = n + (l.map (linksOf [])).sum := by
    intro l
    induction l with
    | nil => exact fun _ => rfl
    | cons e l ih =>
      intro n
      rw [List.foldl_cons, ih, List.map_cons, List.sum_cons, Nat.add_assoc]
      rfl
  unfold linkCount unseenLinks
  rw [Std.TreeMap.foldl_eq_foldl_toList, count, Nat.zero_add]

theorem linksOf_cons_le (e : BlueprintId × List BlueprintId) :
    linksOf (b :: seen) e ≤ linksOf seen e := by
  unfold linksOf
  by_cases known : e.1 ∈ seen
  · rw [if_pos (List.mem_cons_of_mem b known), if_pos known]
  · rw [if_neg known]
    split <;> omega

/-- To see a blueprint for the first time is to have its links behind. -/
theorem sum_linksOf_cons_add_le {l : List (BlueprintId × List BlueprintId)}
    {ps : List BlueprintId} (entered : (b, ps) ∈ l) (fresh : b ∉ seen) :
    (l.map (linksOf (b :: seen))).sum + ps.length ≤ (l.map (linksOf seen)).sum := by
  induction l with
  | nil => cases entered
  | cons e l ih =>
    simp only [List.map_cons, List.sum_cons]
    -- the links of the blueprint itself are seen now, all others as before at most
    rcases List.mem_cons.mp entered with rfl | later
    · have rest : (l.map (linksOf (b :: seen))).sum ≤ (l.map (linksOf seen)).sum :=
        List.sum_le_sum fun e _ => linksOf_cons_le e
      have behind : linksOf (b :: seen) (b, ps) = 0 := if_pos List.mem_cons_self
      have ahead : linksOf seen (b, ps) = ps.length := if_neg fresh
      omega
    · have head : linksOf (b :: seen) e ≤ linksOf seen e := linksOf_cons_le e
      have rest := ih later
      omega

theorem unseenLinks_cons_add_le (fresh : b ∉ seen) :
    c.unseenLinks (b :: seen) + (c.parentsOf b).length ≤ c.unseenLinks seen := by
  unfold parentsOf
  rcases entered : c.parents[b]? with - | ps
  · exact List.sum_le_sum fun e _ => linksOf_cons_le e
  · exact sum_linksOf_cons_add_le (Std.TreeMap.mem_toList_iff_getElem?_eq_some.mpr entered) fresh

/-- A search that may look once for every link it can still follow and once for
every pending blueprint has an answer. -/
theorem exists_reaches? (a : BlueprintId) (enough : c.unseenLinks seen + pending.length ≤ n) :
    ∃ r, c.reaches? a n seen pending = some r := by
  fun_induction reaches? c a n seen pending with
  | case1 => exact ⟨false, rfl⟩
  | case2 seen b pending => cases enough
  | case3 n seen pending => exact ⟨true, rfl⟩
  | case4 n seen b pending other known ih =>
    refine ih ?_
    rw [List.length_cons] at enough
    omega
  | case5 n seen b pending other fresh ih =>
    -- the links of `b` are behind now, and the parents they lead to are pending
    refine ih ?_
    have fresh : b ∉ seen := by simpa using fresh
    have spent := c.unseenLinks_cons_add_le fresh
    rw [List.length_cons] at enough
    rw [List.length_append, List.length_reverse]
    omega

/-! ### What is found is an ancestor -/

theorem exists_of_reaches? (found : c.reaches? a n seen pending = some true) :
    ∃ b ∈ pending, ReflTransGen c.IsParent b a := by
  fun_induction reaches? c a n seen pending with
  | case1 => cases found
  | case2 => cases found
  | case3 n seen pending => exact ⟨a, List.mem_cons_self, .refl⟩
  | case4 n seen b pending other known ih =>
    obtain ⟨b', mem, chain⟩ := ih found
    exact ⟨b', List.mem_cons_of_mem b mem, chain⟩
  | case5 n seen b pending other fresh ih =>
    obtain ⟨b', mem, chain⟩ := ih found
    -- found above a parent of the blueprint, or above another one that is pending
    rcases List.mem_append.mp mem with parent | mem
    · exact ⟨b, List.mem_cons_self, .head (List.mem_reverse.mp parent) chain⟩
    · exact ⟨b', List.mem_cons_of_mem b mem, chain⟩

/-! ### What is not found is no ancestor -/

/-- Whether no link leads out of a set of blueprints, and `a` is not in it. -/
structure Avoids (c : Catalog) (a : BlueprintId) (within : BlueprintId → Prop) : Prop where
  closed : ∀ b p, within b → c.IsParent b p → within p
  without : ¬ within a

theorem Avoids.not_reflTransGen {within : BlueprintId → Prop} (h : c.Avoids a within)
    (hb : within b) : ¬ ReflTransGen c.IsParent b a := by
  have stays : ∀ p, ReflTransGen c.IsParent b p → within p := by
    intro p chain
    -- a set that is closed under parents is not left on the way up
    induction chain with
    | refl => exact hb
    | tail _ link ih => exact h.closed _ _ ih link
  exact fun chain => h.without (stays a chain)

/-- Where a search finds nothing, what it has seen and what is pending are in a set
that avoids `a`. It has seen nothing but what is not `a` and has its parents
among the seen and the pending. -/
theorem exists_avoids (missed : c.reaches? a n seen pending = some false)
    (expanded : ∀ b ∈ seen, b ≠ a ∧ ∀ p, c.IsParent b p → p ∈ seen ∨ p ∈ pending) :
    ∃ within, c.Avoids a within ∧ (∀ b ∈ seen, within b) ∧ ∀ b ∈ pending, within b := by
  fun_induction reaches? c a n seen pending with
  | case1 n seen =>
    -- with nothing pending, no link leads out of what was seen
    refine ⟨(· ∈ seen), ⟨fun b p hb link => ?_, fun ha => (expanded a ha).1 rfl⟩,
      fun _ hb => hb, nofun⟩
    exact ((expanded b hb).2 p link).resolve_right List.not_mem_nil
  | case2 => cases missed
  | case3 => cases missed
  | case4 n seen b pending other known ih =>
    -- `b` is dropped: it was expanded before
    have known : b ∈ seen := by simpa using known
    obtain ⟨within, avoids, old, new⟩ := ih missed fun b' hb' => by
      refine ⟨(expanded b' hb').1, fun p link => ?_⟩
      rcases (expanded b' hb').2 p link with mem | mem
      · exact .inl mem
      · rcases List.mem_cons.mp mem with rfl | mem
        · exact .inl known
        · exact .inr mem
    refine ⟨within, avoids, old, fun b' hb' => ?_⟩
    rcases List.mem_cons.mp hb' with rfl | mem
    · exact old _ known
    · exact new _ mem
  | case5 n seen b pending other fresh ih =>
    -- `b` is among the seen from here on, and its parents are pending
    obtain ⟨within, avoids, old, new⟩ := ih missed fun b' hb' => by
      rcases List.mem_cons.mp hb' with rfl | hb'
      · exact ⟨other, fun p link => .inr (List.mem_append_left _ (List.mem_reverse.mpr link))⟩
      · refine ⟨(expanded b' hb').1, fun p link => ?_⟩
        rcases (expanded b' hb').2 p link with mem | mem
        · exact .inl (List.mem_cons_of_mem b mem)
        · rcases List.mem_cons.mp mem with rfl | mem
          · exact .inl List.mem_cons_self
          · exact .inr (List.mem_append_right _ mem)
    refine ⟨within, avoids, fun b' hb' => old b' (List.mem_cons_of_mem b hb'), fun b' hb' => ?_⟩
    rcases List.mem_cons.mp hb' with rfl | mem
    · exact old _ List.mem_cons_self
    · exact new b' (List.mem_append_right _ mem)

/-! ### Ancestors -/

/-- A search that may look at one more blueprint than there are links finds exactly
the ancestors. -/
theorem exists_reaches?_iff (c : Catalog) (b a : BlueprintId) (k : Nat) :
    ∃ r, c.reaches? a (c.linkCount + 1 + k) [] [b] = some r ∧
      (r = true ↔ ReflTransGen c.IsParent b a) := by
  have enough : c.unseenLinks [] + [b].length ≤ c.linkCount + 1 + k := by
    rw [← linkCount_eq_unseenLinks]
    exact Nat.le_add_right _ k
  obtain ⟨r, answer⟩ := exists_reaches? a enough
  refine ⟨r, answer, ?_⟩
  -- found means that there is a chain, not found that a closed set excludes it
  cases r with
  | true =>
    obtain ⟨b', mem, chain⟩ := exists_of_reaches? answer
    obtain rfl := List.mem_singleton.mp mem
    exact ⟨fun _ => chain, fun _ => rfl⟩
  | false =>
    obtain ⟨within, avoids, -, start⟩ := exists_avoids answer nofun
    exact ⟨nofun, fun chain => absurd chain (avoids.not_reflTransGen (start b List.mem_cons_self))⟩

theorem isA_iff : c.isA b a = true ↔ ReflTransGen c.IsParent b a := by
  obtain ⟨r, answer, found⟩ := c.exists_reaches?_iff b a 0
  have same : c.isA b a = r := congrArg (Option.getD · false) answer
  rw [same, found]

/-- The answer does not depend on how many blueprints more the search may look at. -/
theorem reaches?_eq_isA (c : Catalog) (b a : BlueprintId) (k : Nat) :
    c.reaches? a (c.linkCount + 1 + k) [] [b] = some (c.isA b a) := by
  obtain ⟨r, answer, found⟩ := c.exists_reaches?_iff b a k
  rw [answer, Bool.eq_iff_iff.mpr (found.trans isA_iff.symm)]

/-- Whether a history gives a blueprint `b` the direct parent `p`: it is among the
parents that were entered for `b` last. -/
def GivesParent (es : List Entry) (b p : BlueprintId) : Prop :=
  ∃ ps, latest? (·.parentsOf? b) es = some ps ∧ p ∈ ps

theorem isParent_after (es : List Entry) :
    (({} : Catalog).after es).IsParent = GivesParent es := by
  funext b p
  rw [eq_iff_iff, isParent_iff, parents_after]
  rfl

/-- **Ancestry is decided.** Whatever entries a catalog came about by, a search for
an ancestor is over once it has looked at one more blueprint than there are links,
and says yes exactly for the blueprint itself and for what a chain of links leads
to. -/
theorem isA_is_ancestry (es : List Entry) :
    let c := ({} : Catalog).after es
    (∀ b a k, c.reaches? a (c.linkCount + 1 + k) [] [b] = some (c.isA b a)) ∧
      (∀ b a, c.isA b a = true ↔ a = b ∨ TransGen (GivesParent es) b a) ∧
      IsPreorder BlueprintId (c.isA · · = true) := by
  intro c
  refine ⟨c.reaches?_eq_isA, fun b a => ?_, ?_⟩
  · rw [isA_iff, isParent_after, reflTransGen_iff_eq_or_transGen]
  · exact
      { refl := fun b => isA_iff.mpr .refl
        trans := fun a b d above further =>
          isA_iff.mpr ((isA_iff.mp above).trans (isA_iff.mp further)) }

/-- Blueprints that are parents of each other, one of them twice over, and of which
the other has a parent that was never entered. -/
example :
    let c := ({} : Catalog).after
      [.blueprint ⟨1⟩ [⟨7⟩], .blueprint ⟨2⟩ [⟨1⟩, ⟨9⟩], .blueprint ⟨1⟩ [⟨2⟩, ⟨2⟩]]
    c.isA ⟨1⟩ ⟨9⟩ = true ∧ c.isA ⟨1⟩ ⟨7⟩ = false := by
  decide +kernel

end Rulebook.Catalog
