/-
Rulebook/Proofs/Heap.lean

Heaps of collections.  Whoever refers to a collection holds a strong handle to
it, of which there may be several, and a collection is alive as long as there
is one.  A link to a parent is no strong handle.  So a `Heap` is a store with
the strong handles that are held, and `Heap.after` is what a history of
operations makes of it; an operation takes handles that are held, and
attaching may be refused.

`Store.attach` looks for a cycle along live links only, while parents may die
and links may be replaced between one check and the next.  A dead link could
become one of a cycle if what it leads to came alive again.  Nothing does,
because what is created is new, and `Heap.Sound` says of every heap what this
takes: links lead to what was created before.  `after_acyclic` is what comes of it.
-/
import Rulebook.Proofs.Chain

namespace Rulebook

/-! ### Edits -/

/-- A change of the entries of a collection. -/
inductive Edit where
  | set (k : PropertyKey) (d : Datum)
  | remove (k : PropertyKey)
  | clear

/-- Change the entries of one collection. -/
def Store.edit (s : Store) (h : Handle) : Edit → Store
  | .set k d => s.set h k d
  | .remove k => s.erase h k
  | .clear => s.clear h

namespace Store

/-- To change entries creates nothing. -/
@[simp] theorem size_edit (s : Store) (h : Handle) (e : Edit) :
    (s.edit h e).cells.size = s.cells.size := by
  cases e with
  | set | remove | clear => exact size_modify ..

/-- To change entries changes no link. -/
@[simp] theorem parent_edit (s : Store) (h g : Handle) (e : Edit) :
    ((s.edit h e).cell g).parent = (s.cell g).parent := by
  cases e with
  | set | remove | clear => exact cell_modify_field s h g _ Collection.parent fun _ => rfl

/-- To cut a link makes none. -/
theorem parent_detach {s : Store} {h g p : Handle} (link : ((s.detach h).cell g).parent = some p) :
    (s.cell g).parent = some p := by
  by_cases created : h.index < s.cells.size
  · by_cases hg : g = h
    · subst hg
      rw [detach, cell_modify_self s _ created] at link
      cases link
    · rwa [detach, cell_modify_of_ne s _ hg] at link
  · rwa [detach, cell_modify_of_le s _ (Nat.le_of_not_lt created)] at link

end Store

/-! ### Heaps and their histories -/

/-- A store, and the strong handles to its collections. -/
structure Heap where
  store : Store := {}
  /-- A collection is here as often as there are strong handles to it. -/
  strong : List Handle := []

namespace Heap

/-- Whether a collection is alive. -/
def live (w : Heap) (h : Handle) : Bool := w.strong.contains h

/-- What a collection itself holds under a key. -/
def getLocal? (w : Heap) (h : Handle) (k : PropertyKey) : Option Datum := w.store.getLocal? h k

/-- The live parent of a collection. -/
def parent? (w : Heap) (h : Handle) : Option Handle := w.store.parent? w.live h

/-- A collection followed by its live ancestors. -/
def chain (w : Heap) (h : Handle) : List Handle := w.store.chain w.live h

/-- The value of a key for a collection. -/
def get? (w : Heap) (h : Handle) (k : PropertyKey) : Option Datum := w.store.get? w.live h k

/-- Whether a key has a value for a collection. -/
def has (w : Heap) (h : Handle) (k : PropertyKey) : Bool := w.store.has w.live h k

/-- What is done to a heap. -/
inductive Operation where
  | create
  | clone (h : Handle)
  | drop (h : Handle)
  | edit (h : Handle) (e : Edit)
  | attach (child parent : Handle)
  | detach (h : Handle)

/-- The collections to which an operation takes a strong handle. -/
def Operation.operands : Operation → List Handle
  | .create => []
  | .clone h | .drop h | .edit h _ | .detach h => [h]
  | .attach child parent => [child, parent]

/-- What an operation makes of a heap, unless it is refused. -/
def perform (w : Heap) : Operation → Except PropertyFault Heap
  | .create =>
    let (store, h) := w.store.create
    .ok ⟨store, h :: w.strong⟩
  | .clone h => .ok { w with strong := h :: w.strong }
  | .drop h => .ok { w with strong := w.strong.erase h }
  | .edit h e => .ok { w with store := w.store.edit h e }
  | .attach child parent => do
    return { w with store := ← w.store.attach w.live child parent }
  | .detach h => .ok { w with store := w.store.detach h }

/-- The heap after an operation was tried, if its operands are alive. -/
def step (w : Heap) (op : Operation) : Heap :=
  if op.operands.all w.live then (w.perform op).toOption.getD w else w

/-- The heap after operations were tried one after another. -/
def after (ops : List Operation) : Heap := ops.foldl step {}

variable {w w' : Heap}

theorem step_of_ok {op : Operation} (alive : ∀ h ∈ op.operands, w.live h = true)
    (done : w.perform op = .ok w') : w.step op = w' := by
  rw [step, if_pos (List.all_eq_true.mpr alive), done]
  rfl

theorem step_of_error {op : Operation} {fault : PropertyFault}
    (refused : w.perform op = .error fault) : w.step op = w := by
  rw [step, refused]
  exact ite_self w

/-- What every operation keeps on operands that are alive is kept by a history. -/
theorem after_induction {P : Heap → Prop} (empty : P {})
    (h : ∀ w op w', P w → (∀ h ∈ op.operands, w.live h = true) → w.perform op = .ok w' → P w')
    (ops : List Operation) : P (after ops) := by
  -- from whatever heap the rest of the history starts
  suffices ∀ w, P w → P (ops.foldl step w) from this {} empty
  induction ops with
  | nil => exact fun w hw => hw
  | cons op ops ih =>
    refine fun w hw => ih (w.step op) ?_
    by_cases alive : op.operands.all w.live
    · rcases e : w.perform op with fault | w'
      · rwa [step_of_error e]
      · have alive := List.all_eq_true.mp alive
        rw [step_of_ok alive e]
        exact h w op w' hw alive e
    · rwa [step, if_neg alive]

/-! ### Attaching -/

theorem perform_attach_eq_ok_iff {child parent : Handle} :
    w.perform (.attach child parent) = .ok w' ↔
      child ∉ w.chain parent ∧
        ⟨w.store.modify child fun c => { c with parent := some parent }, w.strong⟩ = w' := by
  rcases e : w.store.attach w.live child parent with fault | t
  · have refused : child ∈ w.chain parent := (Store.attach_eq_error_iff.mp e).1
    simp [perform, e, refused]
  · obtain ⟨unreached, rfl⟩ := Store.attach_eq_ok_iff.mp e
    have unreached : child ∉ w.chain parent := unreached
    simp [perform, e, unreached]

theorem perform_attach_eq_error_iff {child parent : Handle} {fault : PropertyFault} :
    w.perform (.attach child parent) = .error fault ↔
      child ∈ w.chain parent ∧ fault = .parentCycle := by
  rw [chain, ← Store.attach_eq_error_iff]
  rcases e : w.store.attach w.live child parent <;> simp [perform, e]

/-! ### Sound heaps -/

/-- What is alive was created, what a link leads to was created, and no
collection falls through to itself. -/
structure Sound (w : Heap) : Prop where
  created : ∀ h, w.live h = true → h.index < w.store.cells.size
  links : ∀ h p, (w.store.cell h).parent = some p → p.index < w.store.cells.size
  acyclic : w.store.Acyclic w.live

/-- Nothing is lost when links are cut and handles are dropped. -/
theorem Sound.shrink (hw : w.Sound) (size : w'.store.cells.size = w.store.cells.size)
    (alive : ∀ h, w'.live h = true → w.live h = true)
    (links : ∀ h p, (w'.store.cell h).parent = some p → (w.store.cell h).parent = some p) :
    w'.Sound where
  created h live := size ▸ hw.created h (alive h live)
  links h p link := size ▸ hw.links h p (links h p link)
  acyclic := hw.acyclic.mono fun h p falls =>
    have ⟨link, live⟩ := Store.fallsTo_iff.mp falls
    Store.fallsTo_iff.mpr ⟨links h p link, alive p live⟩

/-- No link leads to a collection that is yet to be created. -/
theorem Sound.create (hw : w.Sound) :
    (⟨w.store.create.1, w.store.create.2 :: w.strong⟩ : Heap).Sound where
  created h live := by
    rw [Store.size_create]
    rcases List.mem_cons.mp (List.contains_iff_mem.mp live) with rfl | old
    · exact Nat.lt_succ_self _
    · exact Nat.lt_succ_of_lt (hw.created h (List.contains_iff_mem.mpr old))
  links h p link := by
    rw [Store.cell_create] at link
    rw [Store.size_create]
    exact Nat.lt_succ_of_lt (hw.links h p link)
  acyclic := hw.acyclic.mono fun h p falls => by
    obtain ⟨link, live⟩ := Store.fallsTo_iff.mp falls
    rw [Store.cell_create] at link
    rcases List.mem_cons.mp (List.contains_iff_mem.mp live) with rfl | old
    · -- a link that was dead could only come alive with what is new, and none leads there
      exact absurd (hw.links h _ link) (Nat.lt_irrefl _)
    · exact Store.fallsTo_iff.mpr ⟨link, List.contains_iff_mem.mpr old⟩

theorem Sound.attach (hw : w.Sound) {child parent : Handle} (alive : w.live parent = true)
    (unreached : child ∉ w.chain parent) :
    (⟨w.store.modify child fun c => { c with parent := some parent }, w.strong⟩ : Heap).Sound where
  created h live := by
    rw [Store.size_modify]
    exact hw.created h live
  links h p link := by
    rw [Store.size_modify]
    rcases Store.parent_reparent link with old | ⟨rfl, rfl⟩
    · exact hw.links h p old
    · exact hw.created p alive
  acyclic := hw.acyclic.attach (Store.attach_eq_ok_iff.mpr ⟨unreached, rfl⟩)

/-- Every operation on collections that are alive keeps a heap sound. -/
theorem Sound.perform (hw : w.Sound) {op : Operation}
    (alive : ∀ h ∈ op.operands, w.live h = true) (done : w.perform op = .ok w') : w'.Sound := by
  -- only a creation and an attachment add to the heap, the others shrink it
  cases op with
  | create =>
    cases done
    exact hw.create
  | clone h =>
    cases done
    refine hw.shrink rfl (fun g live => ?_) fun _ _ link => link
    rcases List.mem_cons.mp (List.contains_iff_mem.mp live) with rfl | old
    · exact alive g List.mem_cons_self
    · exact List.contains_iff_mem.mpr old
  | drop h =>
    cases done
    refine hw.shrink rfl (fun g live => ?_) fun _ _ link => link
    exact List.contains_iff_mem.mpr (List.mem_of_mem_erase (List.contains_iff_mem.mp live))
  | edit h e =>
    cases done
    refine hw.shrink (w.store.size_edit h e) (fun _ live => live) fun g p link => ?_
    rwa [Store.parent_edit] at link
  | attach child parent =>
    obtain ⟨unreached, rfl⟩ := perform_attach_eq_ok_iff.mp done
    exact hw.attach (alive parent (List.mem_cons_of_mem _ List.mem_cons_self)) unreached
  | detach h =>
    cases done
    exact hw.shrink (Store.size_modify ..) (fun _ live => live) fun _ _ link =>
      Store.parent_detach link

/-- **Every heap is sound**, whatever its history. -/
theorem after_sound (ops : List Operation) : (after ops).Sound := by
  refine after_induction ?_ (fun w op w' hw alive done => hw.perform alive done) ops
  refine ⟨nofun, fun h p link => ?_, .empty _⟩
  rw [Store.cell_of_le (Nat.zero_le _)] at link
  cases link

/-! ### No cycles -/

/-- **Parents make no cycle.** Whatever was done to a heap, no collection falls
through to itself; so a climb from any collection comes to its end, and what a
climb finds is the value of a key.  A collection is refused as a child exactly
if it is the parent or the parent falls through to it, by way of what is alive,
and a refusal changes nothing.  Else one link is changed, whatever it was. -/
theorem after_acyclic (ops : List Operation) :
    let w := after ops
    w.store.Acyclic w.live ∧
      (∀ h, w.store.endsBy w.live (w.store.cells.size + 1) h = true) ∧
      (∀ h k r, Store.Finds w.live w.store k h r ↔ w.get? h k = r) ∧
      (∀ h k, w.has h k = true ↔ ∃ d, Store.Finds w.live w.store k h (some d)) ∧
      ∀ child parent, w.live child = true → w.live parent = true →
        (w.perform (.attach child parent) = .error .parentCycle ↔
          Relation.ReflTransGen (w.store.FallsTo w.live) parent child) ∧
        (∀ fault, w.perform (.attach child parent) = .error fault →
          fault = .parentCycle ∧ w.step (.attach child parent) = w) ∧
        ∀ w', w.perform (.attach child parent) = .ok w' →
          w.step (.attach child parent) = w' ∧ w'.strong = w.strong ∧
            w'.store.cells.size = w.store.cells.size ∧
            w'.store.cell child = { w.store.cell child with parent := some parent } ∧
            ∀ h, h ≠ child → w'.store.cell h = w.store.cell h := by
  intro w
  have sound : w.Sound := after_sound ops
  -- a search has one answer at most, and the look-up gives one
  have finds : ∀ h k r, Store.Finds w.live w.store k h r ↔ w.get? h k = r := fun h k r =>
    ⟨(sound.acyclic.finds_get? h k).unique, fun e => e ▸ sound.acyclic.finds_get? h k⟩
  refine ⟨sound.acyclic, sound.acyclic.endsBy, finds, fun h k => ?_,
    fun child parent childAlive parentAlive => ⟨?_, ?_, ?_⟩⟩
  · simp only [finds]
    exact Option.isSome_iff_exists
  · rw [perform_attach_eq_error_iff, and_iff_left rfl]
    exact sound.acyclic.mem_chain_iff (sound.created child childAlive)
  · intro fault refused
    exact ⟨(perform_attach_eq_error_iff.mp refused).2, step_of_error refused⟩
  · intro w' done
    have alive : ∀ h ∈ (Operation.attach child parent).operands, w.live h = true := by
      simp [Operation.operands, childAlive, parentAlive]
    refine ⟨step_of_ok alive done, ?_⟩
    obtain ⟨-, rfl⟩ := perform_attach_eq_ok_iff.mp done
    refine ⟨rfl, Store.size_modify .., ?_, fun h hh => Store.cell_modify_of_ne _ _ hh⟩
    exact Store.cell_modify_self _ _ (sound.created child childAlive)

/-- A collection that was attached to another is no parent for it. -/
theorem attached_refused_as_parent :
    let w := after [.create, .create, .attach ⟨1⟩ ⟨0⟩]
    w.live ⟨0⟩ = true ∧ w.live ⟨1⟩ = true ∧
      w.perform (.attach ⟨0⟩ ⟨1⟩) = .error .parentCycle ∧ w.step (.attach ⟨0⟩ ⟨1⟩) = w := by
  intro w
  have alive : w.live ⟨0⟩ = true ∧ w.live ⟨1⟩ = true := by decide
  have falls : w.store.FallsTo w.live ⟨1⟩ ⟨0⟩ := by
    unfold Store.FallsTo
    decide
  obtain ⟨-, -, -, -, attaching⟩ := after_acyclic [.create, .create, .attach ⟨1⟩ ⟨0⟩]
  obtain ⟨refused, unchanged, -⟩ := attaching ⟨0⟩ ⟨1⟩ alive.1 alive.2
  have cycle := refused.mpr (.single falls)
  exact ⟨alive.1, alive.2, cycle, (unchanged _ cycle).2⟩

end Heap

end Rulebook
