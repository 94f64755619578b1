/-
Rulebook/Proofs/Chain.lean

Chains of parents.  A look-up climbs from a collection to its live parent and
on from there, and nothing in a store keeps it from climbing for ever; what
does is that no collection falls through to itself (`Store.Acyclic`), which is
what `Store.attach` takes care of.  In such a store every climb is over after
as many parents as there are collections (`Acyclic.climb`), so the reads of
`Rulebook.Store`, which look at no more than that, are the reads that climb
until there is no parent left (`Acyclic.finds_get?`).
-/
import Mathlib.Data.Finset.Card
import Mathlib.Logic.Relation
import Rulebook.Store

namespace Rulebook.Store

variable {live : Handle → Bool} {s t : Store}

/-! ### Climbing -/

/-- Whether `p` is the live parent of `h`. -/
def FallsTo (live : Handle → Bool) (s : Store) (h p : Handle) : Prop := s.parent? live h = some p

/-- Whether no collection falls through to itself, at once or by way of others. -/
def Acyclic (live : Handle → Bool) (s : Store) : Prop :=
  ∀ h, ¬ Relation.TransGen (s.FallsTo live) h h

/-- Whether a climb from a collection is over after `n` collections. -/
def endsBy (live : Handle → Bool) (s : Store) : Nat → Handle → Bool
  | 0, _ => false
  | n + 1, h =>
    match s.parent? live h with
    | some p => endsBy live s n p
    | none => true

/-- What a look-up finds that climbs until there is no parent left. -/
inductive Finds (live : Handle → Bool) (s : Store) (k : PropertyKey) : Handle → Option Datum → Prop
  | here {h : Handle} {d : Datum} : s.getLocal? h k = some d → Finds live s k h (some d)
  | above {h p : Handle} {r : Option Datum} :
    s.getLocal? h k = none → s.parent? live h = some p → Finds live s k p r → Finds live s k h r
  | nowhere {h : Handle} :
    s.getLocal? h k = none → s.parent? live h = none → Finds live s k h none

/-- A collection that falls through to another has a link to it, and the other
is alive. -/
theorem fallsTo_iff {h p : Handle} :
    s.FallsTo live h p ↔ (s.cell h).parent = some p ∧ live p = true :=
  Option.filter_eq_some_iff

/-- There is one ending to a climb. -/
theorem Finds.unique {k : PropertyKey} {h : Handle} {r r' : Option Datum}
    (found : Finds live s k h r) (found' : Finds live s k h r') : r = r' := by
  -- the three ways to end a search exclude one another at every step
  induction found with
  | here held =>
    cases found' with
    | here held' => exact held.symm.trans held'
    | above unheld _ _ | nowhere unheld _ => cases held.symm.trans unheld
  | above unheld falls _ ih =>
    cases found' with
    | here held => cases held.symm.trans unheld
    | above _ falls' found' =>
      cases falls.symm.trans falls'
      exact ih found'
    | nowhere _ root => cases falls.symm.trans root
  | nowhere unheld root =>
    cases found' with
    | here held => cases held.symm.trans unheld
    | above _ falls _ => cases falls.symm.trans root
    | nowhere _ _ => rfl

/-! ### Collections that were not created -/

theorem cell_of_le {h : Handle} (hs : s.cells.size ≤ h.index) : s.cell h = {} := by
  rw [cell, Array.getElem?_eq_none hs]
  rfl

theorem getLocal?_of_le {h : Handle} (hs : s.cells.size ≤ h.index) (k : PropertyKey) :
    s.getLocal? h k = none := by
  rw [getLocal?, cell_of_le hs]
  exact Std.ExtTreeMap.getElem?_empty

theorem parent?_of_le {h : Handle} (hs : s.cells.size ≤ h.index) : s.parent? live h = none := by
  rw [parent?, cell_of_le hs]
  rfl

/-- What a collection holds itself is its value of a key, whatever its ancestors
hold. -/
theorem get?_of_getLocal? {h : Handle} {k : PropertyKey} {d : Datum} (live : Handle → Bool)
    (held : s.getLocal? h k = some d) : s.get? live h k = some d := by
  obtain ⟨n, size⟩ : ∃ n, s.cells.size = n + 1 := by
    refine Nat.exists_eq_succ_of_ne_zero fun empty => ?_
    have uncreated : s.cells.size ≤ h.index := by omega
    cases (getLocal?_of_le uncreated k).symm.trans held
  rw [get?, chain, size, ancestors, List.findSome?_cons, held]

/-! ### Stores with the same parents -/

theorem parent?_congr (hp : ∀ h, (t.cell h).parent = (s.cell h).parent) (h : Handle) :
    t.parent? live h = s.parent? live h := by
  rw [parent?, parent?, hp h]

theorem endsBy_congr (hp : ∀ h, (t.cell h).parent = (s.cell h).parent) :
    ∀ (n : Nat) (h : Handle), t.endsBy live n h = s.endsBy live n h
  | 0, _ => rfl
  | n + 1, h => by
    rw [endsBy, endsBy, parent?_congr hp]
    rcases s.parent? live h with - | p
    · rfl
    · exact endsBy_congr hp n p

theorem ancestors_congr (hp : ∀ h, (t.cell h).parent = (s.cell h).parent) (n : Nat)
    (h : Handle) : t.ancestors live n h = s.ancestors live n h := by
  induction n generalizing h with
  | zero => rfl
  | succ n ih =>
    rw [ancestors, ancestors, parent?_congr hp]
    simp only [ih]

/-- To let fewer collections fall through makes no cycle. -/
theorem Acyclic.mono {live' : Handle → Bool} (ha : Acyclic live s)
    (hp : ∀ h p, t.FallsTo live' h p → s.FallsTo live h p) : Acyclic live' t :=
  fun h cycle => ha h (Relation.TransGen.mono hp h h cycle)

theorem Acyclic.congr (ha : Acyclic live s) (hp : ∀ h, (t.cell h).parent = (s.cell h).parent) :
    Acyclic live t :=
  ha.mono fun h _ falls => (parent?_congr hp h).symm.trans falls

theorem endsBy_mono {m n : Nat} (hmn : m ≤ n) {h : Handle} (ended : s.endsBy live m h = true) :
    s.endsBy live n h = true := by
  induction m generalizing n h with
  | zero => cases ended
  | succ m ih =>
    -- a longer climb takes the same step, and ends there or goes on
    obtain ⟨n, rfl⟩ : ∃ k, n = k + 1 := ⟨n - 1, by omega⟩
    rw [endsBy] at ended ⊢
    rcases hp : s.parent? live h with - | p
    · rfl
    · rw [hp] at ended
      exact ih (Nat.le_of_succ_le_succ hmn) ended

/-- With fewer collections alive no climb takes longer. -/
theorem endsBy_of_imp {live' : Handle → Bool} (hl : ∀ h, live' h = true → live h = true) {n : Nat}
    {h : Handle} (ended : s.endsBy live n h = true) : s.endsBy live' n h = true := by
  induction n generalizing h with
  | zero => cases ended
  | succ n ih =>
    rw [endsBy] at ended ⊢
    rcases hp : s.parent? live' h with - | p
    · rfl
    · -- a link that is taken with fewer alive is taken with more
      obtain ⟨link, alive⟩ := fallsTo_iff.mp hp
      have hp' : s.parent? live h = some p := fallsTo_iff.mpr ⟨link, hl p alive⟩
      rw [hp'] at ended
      exact ih ended

/-! ### Collections on a climb -/

/-- A climb passes only what the collection falls through to. -/
theorem mem_ancestors {n : Nat} {h g : Handle} (mem : g ∈ s.ancestors live n h) :
    Relation.ReflTransGen (s.FallsTo live) h g := by
  induction n generalizing h with
  | zero => cases mem
  | succ n ih =>
    rw [ancestors] at mem
    -- `g` is where the climb starts, or above the parent of that
    rcases List.mem_cons.mp mem with rfl | above
    · exact .refl
    · rcases hp : s.parent? live h with - | p
      · rw [hp] at above
        cases above
      · rw [hp] at above
        exact .head hp (ih above)

/-- A collection is attached by its link alone, if a climb from the parent does
not pass it. -/
theorem attach_eq_ok_iff {child parent : Handle} :
    s.attach live child parent = .ok t ↔
      child ∉ s.chain live parent ∧
        (s.modify child fun c => { c with parent := some parent }) = t := by
  simp only [Store.attach, List.contains_iff_mem]
  split <;> simp [*]

theorem attach_eq_error_iff {child parent : Handle} {fault : PropertyFault} :
    s.attach live child parent = .error fault ↔
      child ∈ s.chain live parent ∧ fault = .parentCycle := by
  simp only [Store.attach, List.contains_iff_mem]
  split <;> simp [*, eq_comm]

/-- A link after a collection was attached is one of before or the new one. -/
theorem parent_reparent {child parent g p : Handle}
    (link : ((s.modify child fun c => { c with parent := some parent }).cell g).parent = some p) :
    (s.cell g).parent = some p ∨ g = child ∧ p = parent := by
  -- nothing happens to a collection that was never created
  by_cases created : child.index < s.cells.size
  · by_cases hg : g = child
    · subst hg
      rw [cell_modify_self s _ created] at link
      cases link
      exact .inr ⟨rfl, rfl⟩
    · exact .inl (by rwa [cell_modify_of_ne s _ hg] at link)
  · exact .inl (by rwa [cell_modify_of_le s _ (Nat.le_of_not_lt created)] at link)

/-! ### Climbs are finite -/

namespace Acyclic

/-- A climb passes a collection only once, so one that may still pass those in
`S` passes no more than there are. -/
private theorem climb_within (ha : Acyclic live s) {P : Nat → Handle → Prop}
    (outside : ∀ n h, s.cells.size ≤ h.index → P n h)
    (top : ∀ n h, s.parent? live h = none → P (n + 1) h)
    (step : ∀ n h p, s.parent? live h = some p → P n p → P (n + 1) h) :
    ∀ (n : Nat) (S : Finset Nat) (h : Handle), S.card ≤ n →
      (∀ g, Relation.ReflTransGen (s.FallsTo live) h g → g.index < s.cells.size → g.index ∈ S) →
      P n h := by
  intro n
  induction n with
  | zero =>
    intro S h card within
    refine outside 0 h (Nat.le_of_not_lt fun created => ?_)
    have empty : S = ∅ := Finset.card_eq_zero.mp (Nat.le_zero.mp card)
    have := within h .refl created
    rw [empty] at this
    exact Finset.notMem_empty _ this
  | succ n ih =>
    intro S h card within
    by_cases created : h.index < s.cells.size
    · rcases hp : s.parent? live h with - | p
      · exact top n h hp
      · have own : h.index ∈ S := within h .refl created
        refine step n h p hp (ih (S.erase h.index) p ?_ fun g reach hg => ?_)
        · rw [Finset.card_erase_of_mem own]
          omega
        · refine Finset.mem_erase.mpr ⟨fun same => ?_, within g (.head hp reach) hg⟩
          have back : g = h := congrArg Handle.mk same
          rw [back] at reach
          exact ha h (.head' hp reach)
    · exact outside (n + 1) h (Nat.le_of_not_lt created)

/-- **Induction over climbs.** In a store without a cycle a climb from any
collection passes no more collections than there are. -/
theorem climb (ha : Acyclic live s) {P : Nat → Handle → Prop}
    (outside : ∀ n h, s.cells.size ≤ h.index → P n h)
    (top : ∀ n h, s.parent? live h = none → P (n + 1) h)
    (step : ∀ n h p, s.parent? live h = some p → P n p → P (n + 1) h) (h : Handle) :
    P s.cells.size h :=
  ha.climb_within outside top step s.cells.size (Finset.range s.cells.size) h
    (Finset.card_range _).le fun _ _ hg => Finset.mem_range.mpr hg

theorem endsBy (ha : Acyclic live s) (h : Handle) :
    s.endsBy live (s.cells.size + 1) h = true := by
  refine ha.climb (P := fun n h => s.endsBy live (n + 1) h = true) ?_ ?_ ?_ h
  · intro n h hs
    rw [Store.endsBy, parent?_of_le hs]
  · intro n h hp
    rw [Store.endsBy, hp]
  · intro n h p hp ended
    rw [Store.endsBy, hp]
    exact ended

/-- The value of a key is what a look-up finds that climbs to the end. -/
theorem finds_get? (ha : Acyclic live s) (h : Handle) (k : PropertyKey) :
    Finds live s k h (s.get? live h k) := by
  -- along the climb: outside of the store, at a root, and below a parent
  refine ha.climb (P := fun n h =>
    Finds live s k h ((s.ancestors live n h).findSome? (s.getLocal? · k))) ?_ ?_ ?_ h
  · intro n h hs
    have unheld := getLocal?_of_le hs k
    have root : s.parent? live h = none := parent?_of_le hs
    rcases n with - | n
    · exact .nowhere unheld root
    · rw [ancestors, root, List.findSome?_cons, unheld]
      exact .nowhere unheld root
  · intro n h hp
    rw [ancestors, hp, List.findSome?_cons]
    rcases held : s.getLocal? h k with - | d
    · exact .nowhere held hp
    · exact .here held
  · intro n h p hp found
    rw [ancestors, hp, List.findSome?_cons]
    rcases held : s.getLocal? h k with - | d
    · exact .above held hp found
    · exact .here held

/-- The chain of a created collection is the collection and then the chain of
its parent. -/
theorem chain_eq (ha : Acyclic live s)
    (links : ∀ h p, (s.cell h).parent = some p → p.index < s.cells.size) {h : Handle}
    (created : h.index < s.cells.size) :
    s.chain live h = h :: match s.parent? live h with
      | some p => s.chain live p
      | none => [] := by
  -- a climb of as many steps as there are collections has ended
  have settled : s.ancestors live (s.cells.size + 1) h = s.ancestors live s.cells.size h := by
    refine ha.climb (P := fun n h => h.index < s.cells.size →
      s.ancestors live (n + 1) h = s.ancestors live n h) ?_ ?_ ?_ h created
    · intro n h hs created
      exact absurd created (Nat.not_lt.mpr hs)
    · intro n h hp _
      rw [ancestors, ancestors, hp]
    · intro n h p hp ih _
      rw [ancestors, hp, ancestors, hp]
      exact congrArg (h :: ·) (ih (links h p (fallsTo_iff.mp hp).1))
  rw [chain, ← settled, ancestors]
  rfl

/-- The chain of a collection has every collection that a climb from it passes. -/
theorem mem_chain (ha : Acyclic live s) {h g : Handle}
    (reach : Relation.ReflTransGen (s.FallsTo live) h g) (hg : g.index < s.cells.size) :
    g ∈ s.chain live h := by
  -- what is reached is where the climb starts, or reached from its parent
  refine ha.climb (P := fun n h => Relation.ReflTransGen (s.FallsTo live) h g →
    g ∈ s.ancestors live n h) ?_ ?_ ?_ h reach
  · intro n h hs reach
    rcases reach.cases_head with rfl | ⟨p, hp, -⟩
    · exact absurd hg (Nat.not_lt.mpr hs)
    · cases (parent?_of_le hs).symm.trans hp
  · intro n h top reach
    rw [ancestors]
    rcases reach.cases_head with rfl | ⟨p, hp, -⟩
    · exact List.mem_cons_self
    · cases top.symm.trans hp
  · intro n h p hp ih reach
    rw [ancestors, hp]
    rcases reach.cases_head with rfl | ⟨q, hq, reach⟩
    · exact List.mem_cons_self
    · cases hp.symm.trans hq
      exact List.mem_cons_of_mem h (ih reach)

/-- The chain of a collection has what a climb from it passes, and no more. -/
theorem mem_chain_iff (ha : Acyclic live s) {h g : Handle} (hg : g.index < s.cells.size) :
    g ∈ s.chain live h ↔ Relation.ReflTransGen (s.FallsTo live) h g :=
  ⟨mem_ancestors, fun reach => ha.mem_chain reach hg⟩

/-- A climb comes back to no collection. -/
theorem nodup_ancestors (ha : Acyclic live s) : ∀ (n : Nat) (h : Handle),
    (s.ancestors live n h).Nodup
  | 0, _ => .nil
  | n + 1, h => by
    rw [ancestors]
    rcases hp : s.parent? live h with - | p
    · exact List.nodup_singleton h
    · refine List.nodup_cons.mpr ⟨fun back => ?_, ha.nodup_ancestors n p⟩
      exact ha h (.head' hp (mem_ancestors back))

theorem nodup_chain (ha : Acyclic live s) (h : Handle) : (s.chain live h).Nodup :=
  ha.nodup_ancestors s.cells.size h

/-! ### Stores without a cycle -/

theorem empty (live : Handle → Bool) : Acyclic live {} := by
  intro h cycle
  obtain ⟨p, hp, -⟩ := Relation.TransGen.head'_iff.mp cycle
  cases (parent?_of_le (Nat.zero_le _)).symm.trans hp

theorem create (ha : Acyclic live s) : Acyclic live s.create.1 :=
  ha.congr fun h => by rw [cell_create]

theorem set (ha : Acyclic live s) (h : Handle) (k : PropertyKey) (d : Datum) :
    Acyclic live (s.set h k d) :=
  ha.congr fun g => parent_set s h g k d

private theorem fallsTo_reparent {child parent g p : Handle}
    (falls : (s.modify child fun c => { c with parent := some parent }).FallsTo live g p) :
    s.FallsTo live g p ∨ g = child ∧ p = parent := by
  obtain ⟨link, alive⟩ := fallsTo_iff.mp falls
  exact (parent_reparent link).imp_left fun old => fallsTo_iff.mpr ⟨old, alive⟩

/-- With a new parent for `child`, a climb is one of before, or has come through
`child` and gone on from the parent. -/
private theorem transGen_attach {child parent : Handle}
    (hp : ∀ h p, t.FallsTo live h p → s.FallsTo live h p ∨ h = child ∧ p = parent) {h g : Handle}
    (reach : Relation.TransGen (t.FallsTo live) h g) :
    Relation.TransGen (s.FallsTo live) h g ∨
      Relation.ReflTransGen (s.FallsTo live) h child ∧
        Relation.ReflTransGen (s.FallsTo live) parent g := by
  induction reach with
  | single last =>
    rcases hp _ _ last with old | ⟨rfl, rfl⟩
    · exact .inl (.single old)
    · exact .inr ⟨.refl, .refl⟩
  | tail _ last ih =>
    rcases hp _ _ last with old | ⟨rfl, rfl⟩
    · rcases ih with before | ⟨before, after⟩
      · exact .inl (before.tail old)
      · exact .inr ⟨before, after.tail old⟩
    · rcases ih with before | ⟨before, after⟩
      · exact .inr ⟨before.to_reflTransGen, .refl⟩
      · exact .inr ⟨before, .refl⟩

/-- To attach a collection makes no cycle. -/
theorem attach (ha : Acyclic live s) {child parent : Handle}
    (done : s.attach live child parent = .ok t) : Acyclic live t := by
  obtain ⟨unreached, rfl⟩ := attach_eq_ok_iff.mp done
  by_cases created : child.index < s.cells.size
  · intro h cycle
    -- a new cycle goes through the new link, so the parent would reach the child
    rcases transGen_attach (fun _ _ => fallsTo_reparent) cycle with
      old | ⟨before, after⟩
    · exact ha h old
    · exact unreached (ha.mem_chain (after.trans before) created)
  · refine ha.congr fun h => ?_
    rw [cell_modify_of_le s _ (Nat.le_of_not_lt created)]

end Acyclic

end Rulebook.Store
