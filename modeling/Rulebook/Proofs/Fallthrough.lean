/-
Rulebook/Proofs/Fallthrough.lean

What reads see of writes.  The value of a key is what the first collection of
a chain holds that holds the key, so a write is seen where no nearer collection
hides it, and nowhere else; and where a collection dies, the chains that
pass it end.  `after_falls_through` says so of every heap that a history of
operations can lead to.

A read is a search through the chain (`List.findSome?`).  What a write does to
it is then a fact about searches that differ at one place, and what a death
does to a chain is that it is taken up to the collection that died.
-/
import Mathlib.Data.List.TakeWhile
import Rulebook.Proofs.Heap

namespace Rulebook

/-! ### Searches -/

/-- Searches by functions that differ at `x` only come to the same, unless both
get as far as `x`. -/
private theorem findSome?_differs {α β : Type} [DecidableEq α] {f g : α → Option β} {x : α}
    (off : ∀ y, y ≠ x → g y = f y) {l : List α} (differs : l.findSome? g ≠ l.findSome? f) :
    ∃ nearer farther, l = nearer ++ x :: farther ∧ (∀ y ∈ nearer, f y = none) ∧ g x ≠ f x := by
  -- by induction on what is left to search: both searches go on past every other
  -- place, or are over there with one result
  induction l with
  | nil => exact absurd rfl differs
  | cons y l ih =>
    rw [List.findSome?_cons, List.findSome?_cons] at differs
    by_cases hy : y = x
    · subst hy
      refine ⟨[], l, rfl, nofun, fun same => differs ?_⟩
      have : g = f := funext fun z => if hz : z = y then hz ▸ same else off z hz
      rw [this]
    · rw [off y hy] at differs
      rcases unheld : f y with - | b
      · rw [unheld] at differs
        obtain ⟨nearer, farther, rfl, hidden, changed⟩ := ih differs
        exact ⟨y :: nearer, farther, rfl, List.forall_mem_cons.mpr ⟨unheld, hidden⟩, changed⟩
      · rw [unheld] at differs
        exact absurd rfl differs

/-! ### Writes -/

/-- What an edit makes of what is held under a key. -/
def Edit.entry (k : PropertyKey) (held : Option Datum) : Edit → Option Datum
  | .set k' d => if k = k' then some d else held
  | .remove k' => if k = k' then none else held
  | .clear => none

namespace Store

theorem getLocal?_edit (s : Store) {h : Handle} (created : h.index < s.cells.size) (e : Edit)
    (k : PropertyKey) : (s.edit h e).getLocal? h k = e.entry k (s.getLocal? h k) := by
  cases e with
  | set k' d =>
    rw [getLocal?, edit, set, cell_modify_self s _ created, Std.ExtTreeMap.getElem?_insert]
    simp only [Edit.entry, Std.LawfulEqOrd.compare_eq_iff_eq, @eq_comm _ k', getLocal?]
  | remove k' =>
    rw [getLocal?, edit, erase, cell_modify_self s _ created, Std.ExtTreeMap.getElem?_erase]
    simp only [Edit.entry, Std.LawfulEqOrd.compare_eq_iff_eq, @eq_comm _ k', getLocal?]
  | clear =>
    rw [getLocal?, edit, clear, cell_modify_self s _ created]
    exact Std.ExtTreeMap.getElem?_empty

theorem getLocal?_edit_of_ne (s : Store) {h g : Handle} (e : Edit) (hg : g ≠ h) (k : PropertyKey) :
    (s.edit h e).getLocal? g k = s.getLocal? g k := by
  cases e with
  | set | remove | clear => exact congrArg (·.entries[k]?) (cell_modify_of_ne s _ hg)

/-! ### Chains -/

/-- When a collection dies, a climb that would pass it ends below. -/
theorem ancestors_dead {live live' : Handle → Bool} {s : Store} {x : Handle}
    (dead : live' = fun h => live h && h != x) (n : Nat) {h : Handle} (hx : h ≠ x) :
    s.ancestors live' n h = (s.ancestors live n h).takeWhile (· != x) := by
  induction n generalizing h with
  | zero => rfl
  | succ n ih =>
    have stays : (h != x) = true := bne_iff_ne.mpr hx
    have parent : s.parent? live' h = (s.parent? live h).filter (· != x) := by
      rw [parent?, parent?, Option.filter_filter, dead]
    rw [ancestors, ancestors, List.takeWhile_cons, if_pos stays, parent]
    rcases s.parent? live h with - | p
    · rfl
    · by_cases hp : p = x
      · -- the climb ends here, where the other one goes on with `x`
        have cut : (p != x) = false := bne_eq_false_iff_eq.mpr hp
        rw [Option.filter_some, if_neg (Bool.eq_false_iff.mp cut), hp]
        cases n <;> simp [ancestors]
      · have kept : (p != x) = true := bne_iff_ne.mpr hp
        rw [Option.filter_some, if_pos kept]
        exact congrArg (h :: ·) (ih hp)

end Store

namespace Heap

variable {w w' : Heap}

/-! ### Reads -/

/-- A chain of a sound heap starts with the collection and goes on with the
chain of its live parent. -/
theorem Sound.chain_eq (hw : w.Sound) {c : Handle} (alive : w.live c = true) :
    w.chain c = c :: match w.parent? c with
      | some p => w.chain p
      | none => [] :=
  hw.acyclic.chain_eq hw.links (hw.created c alive)

/-- Whether a collection sees another under a key: the other is on its chain,
and none that is nearer holds the key. -/
def Sees (w : Heap) (c : Handle) (k : PropertyKey) (x : Handle) : Prop :=
  ∃ nearer farther, w.chain c = nearer ++ x :: farther ∧ ∀ y ∈ nearer, w.getLocal? y k = none

theorem get?_eq_some_iff {c : Handle} {k : PropertyKey} {d : Datum} :
    w.get? c k = some d ↔ ∃ x, w.Sees c k x ∧ w.getLocal? x k = some d := by
  rw [get?, Store.get?, List.findSome?_eq_some_iff]
  constructor
  · rintro ⟨nearer, x, farther, chain, held, unheld⟩
    exact ⟨x, ⟨nearer, farther, chain, unheld⟩, held⟩
  · rintro ⟨x, ⟨nearer, farther, chain, unheld⟩, held⟩
    exact ⟨nearer, x, farther, chain, held, unheld⟩

theorem get?_eq_none_iff {c : Handle} {k : PropertyKey} :
    w.get? c k = none ↔ ∀ x ∈ w.chain c, w.getLocal? x k = none :=
  List.findSome?_eq_none_iff

/-! ### Writes -/

theorem step_edit {x : Handle} (alive : w.live x = true) (e : Edit) :
    w.step (.edit x e) = ⟨w.store.edit x e, w.strong⟩ :=
  step_of_ok (List.forall_mem_singleton.mpr alive) rfl

theorem Sound.getLocal?_edit (hw : w.Sound) {x : Handle} (alive : w.live x = true) (e : Edit)
    (k : PropertyKey) : (w.step (.edit x e)).getLocal? x k = e.entry k (w.getLocal? x k) := by
  rw [step_edit alive]
  exact w.store.getLocal?_edit (hw.created x alive) e k

theorem getLocal?_edit_of_ne {x y : Handle} (alive : w.live x = true) (e : Edit) (hy : y ≠ x)
    (k : PropertyKey) : (w.step (.edit x e)).getLocal? y k = w.getLocal? y k := by
  rw [step_edit alive]
  exact w.store.getLocal?_edit_of_ne e hy k

theorem chain_edit {x : Handle} (alive : w.live x = true) (e : Edit) (c : Handle) :
    (w.step (.edit x e)).chain c = w.chain c := by
  rw [step_edit alive, chain, Store.chain, Store.size_edit]
  exact Store.ancestors_congr (fun h => w.store.parent_edit x h e) _ c

/-- A write to a collection is read by those that see it, if it changes what the
collection holds. -/
theorem get?_edit {x : Handle} (alive : w.live x = true) (e : Edit) (c : Handle)
    (k : PropertyKey) : (w.step (.edit x e)).get? c k = w.get? c k ∨
      w.Sees c k x ∧ (w.step (.edit x e)).getLocal? x k ≠ w.getLocal? x k := by
  refine or_iff_not_imp_left.mpr fun differs => ?_
  have search : (w.step (.edit x e)).get? c k =
      (w.chain c).findSome? ((w.step (.edit x e)).getLocal? · k) := by
    rw [← chain_edit alive e c]
    rfl
  -- two searches on one chain that differ do so at the first holder of either
  rw [search] at differs
  obtain ⟨nearer, farther, chain, hidden, changed⟩ :=
    findSome?_differs (fun y hy => getLocal?_edit_of_ne alive e hy k) differs
  exact ⟨⟨nearer, farther, chain, hidden⟩, changed⟩

/-! ### Deaths -/

theorem step_drop {x : Handle} (alive : w.live x = true) :
    w.step (.drop x) = ⟨w.store, w.strong.erase x⟩ :=
  step_of_ok (List.forall_mem_singleton.mpr alive) rfl

/-- A collection is alive as long as there is a strong handle to it. -/
theorem live_iff {h : Handle} : w.live h = true ↔ 0 < w.strong.count h := by
  rw [live, List.contains_iff_mem, List.count_pos_iff]

/-- With its last strong handle a collection dies, and no other. -/
theorem live_drop_last {x : Handle} (last : w.strong.count x = 1) :
    (⟨w.store, w.strong.erase x⟩ : Heap).live = fun h => w.live h && h != x := by
  funext h
  rw [Bool.eq_iff_iff, Bool.and_eq_true, bne_iff_ne, live_iff, live_iff]
  by_cases hx : h = x
  · subst hx
    simp [List.count_erase_self, last]
  · simp [List.count_erase_of_ne hx, hx]

/-- With a strong handle that is not the last one no collection dies. -/
theorem live_drop_other {x : Handle} (others : 1 < w.strong.count x) :
    (⟨w.store, w.strong.erase x⟩ : Heap).live = w.live := by
  funext h
  rw [Bool.eq_iff_iff, live_iff, live_iff]
  by_cases hx : h = x
  · subst hx
    rw [List.count_erase_self]
    omega
  · rw [List.count_erase_of_ne hx]

/-- When a collection dies, what is left of a chain is what was below it. -/
theorem chain_drop_last {x c : Handle} (last : w.strong.count x = 1) (hc : c ≠ x) :
    (⟨w.store, w.strong.erase x⟩ : Heap).chain c = (w.chain c).takeWhile (· != x) :=
  Store.ancestors_dead (live_drop_last last) w.store.cells.size hc

/-- On a chain of a sound heap a collection is met once. -/
theorem Sound.takeWhile_chain (hw : w.Sound) {x c : Handle} {below above : List Handle}
    (through : w.chain c = below ++ x :: above) : (w.chain c).takeWhile (· != x) = below := by
  have nodup : (below ++ x :: above).Nodup := through ▸ hw.acyclic.nodup_chain c
  have unmet : ∀ y ∈ below, (y != x) = true := fun y hy =>
    bne_iff_ne.mpr ((List.nodup_append.mp nodup).2.2 y hy x List.mem_cons_self)
  rw [through, List.takeWhile_append_of_pos unmet, List.takeWhile_cons]
  simp

/-! ### Histories -/

/-- **Reads fall through, writes stay local, and deaths cut chains.** In every
heap that a history leads to, a read takes what is held by the nearest
collection of the chain that holds the key.  A write to a collection is read by
those who see the collection, and only if it changes the entry; all else reads
as it did.  And when the last strong handle to a collection is dropped, the
chains that pass it end just below it, and the others are as they were. -/
theorem after_falls_through (ops : List Operation) :
    let w := after ops
    (∀ c, w.live c = true →
      (w.chain c = c :: match w.parent? c with
        | some p => w.chain p
        | none => []) ∧
      ∀ k, (∀ d, w.get? c k = some d ↔ ∃ x, w.Sees c k x ∧ w.getLocal? x k = some d) ∧
        (w.get? c k = none ↔ ∀ x ∈ w.chain c, w.getLocal? x k = none) ∧
        w.has c k = (w.get? c k).isSome) ∧
    (∀ x e, w.live x = true →
      let w' := w.step (.edit x e)
      (∀ k, w'.getLocal? x k = e.entry k (w.getLocal? x k)) ∧
      (∀ y k, y ≠ x → w'.getLocal? y k = w.getLocal? y k) ∧
      (∀ c, w'.chain c = w.chain c) ∧
      ∀ c k, w'.get? c k = w.get? c k ∧ w'.has c k = w.has c k ∨
        w.Sees c k x ∧ w'.getLocal? x k ≠ w.getLocal? x k) ∧
    ∀ x, w.live x = true →
      let w' := w.step (.drop x)
      w'.store = w.store ∧
      (1 < w.strong.count x → ∀ c, w'.live c = w.live c ∧ w'.chain c = w.chain c) ∧
      (w.strong.count x = 1 → ∀ c, w'.live c = (w.live c && c != x) ∧
        (c ≠ x → (x ∉ w.chain c → w'.chain c = w.chain c) ∧
          ∀ below above, w.chain c = below ++ x :: above → w'.chain c = below)) := by
  intro w
  have sound : w.Sound := after_sound ops
  -- what is read, what an edit does, and what the death of a reference does
  refine ⟨fun c alive => ⟨sound.chain_eq alive, fun k => ?_⟩, fun x e alive => ?_,
    fun x alive => ?_⟩
  · exact ⟨fun d => get?_eq_some_iff, get?_eq_none_iff, rfl⟩
  · refine ⟨sound.getLocal?_edit alive e, fun y k hy => getLocal?_edit_of_ne alive e hy k,
      chain_edit alive e, fun c k => ?_⟩
    exact (get?_edit alive e c k).imp_left fun same => ⟨same, congrArg Option.isSome same⟩
  · intro w'
    have dropped : w' = ⟨w.store, w.strong.erase x⟩ := step_drop alive
    rw [dropped]
    -- a reference that is not the last one makes no difference
    refine ⟨rfl, fun others c => ?_, fun last c => ⟨congrFun (live_drop_last last) c, fun hc => ?_⟩⟩
    · have live := live_drop_other others
      exact ⟨congrFun live c, congrArg (w.store.chain · c) live⟩
    · rw [chain_drop_last last hc]
      refine ⟨fun missed => ?_, fun below above through => sound.takeWhile_chain through⟩
      exact List.takeWhile_eq_self_iff.mpr fun y hy =>
        bne_iff_ne.mpr fun same => missed (same ▸ hy)

/-- Three collections in a line: the last one reads what the first one holds, a
write to the second one stays there, and when that dies the last one falls
through to nothing. -/
theorem line_falls_through :
    let line : List Operation :=
      [.create, .create, .create, .attach ⟨1⟩ ⟨0⟩, .attach ⟨2⟩ ⟨1⟩,
        .edit ⟨0⟩ (.set (.ofProperty .loopElement) (.boolean true))]
    let w := after line
    let k := PropertyKey.ofProperty .loopElement
    let hidden := w.step (.edit ⟨1⟩ (.set k (.boolean false)))
    w.get? ⟨2⟩ k = some (.boolean true) ∧ hidden.getLocal? ⟨1⟩ k = some (.boolean false) ∧
      hidden.getLocal? ⟨0⟩ k = some (.boolean true) ∧ (w.step (.drop ⟨1⟩)).chain ⟨2⟩ = [⟨2⟩] := by
  intro line w k hidden
  have alive : w.live ⟨1⟩ = true ∧ w.live ⟨2⟩ = true := by decide
  have chain : w.chain ⟨2⟩ = [⟨2⟩, ⟨1⟩, ⟨0⟩] := by decide
  have unheld : ∀ y ∈ [(⟨2⟩ : Handle), ⟨1⟩], w.getLocal? y k = none := by decide
  have held : w.getLocal? ⟨0⟩ k = some (.boolean true) := rfl
  -- the first collection is seen from the third, as the second holds nothing
  obtain ⟨reads, writes, deaths⟩ := after_falls_through line
  obtain ⟨own, others, -⟩ := writes ⟨1⟩ (.set k (.boolean false)) alive.1
  obtain ⟨-, -, last⟩ := deaths ⟨1⟩ alive.1
  refine ⟨?_, (own k).trans rfl, (others ⟨0⟩ k (by decide)).trans held, ?_⟩
  · exact (((reads ⟨2⟩ alive.2).2 k).1 _).mpr ⟨⟨0⟩, ⟨_, [], chain, unheld⟩, held⟩
  · exact ((last (by decide) ⟨2⟩).2 (by decide)).2 [⟨2⟩] [⟨0⟩] chain

end Heap

end Rulebook
