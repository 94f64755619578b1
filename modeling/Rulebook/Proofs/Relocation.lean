/-
Rulebook/Proofs/Relocation.lean

States that differ in the place of what a run creates.  A collection is named
by the number of those before it, so a run that starts with more collections
gives other names to its frames, and nothing else depends on that.

A `Relocation` is where two runs start: they share the collections below
`base`, and in the second `gap` more follow, to which nothing refers.
`Relocation.place` gives the name in the second run of a collection of the
first, and `Relocation.Related` says that two states are the same up to these
names.  Such states correspond (`Relocation.correspondence`), so runs follow
relocations, whatever the rule and whatever the ending: no operator asks for
the name of a collection.

A look-up climbs no more collections than there are, which is another number
in the second run; so it takes a store without cycles for it to end the same.
-/
import Rulebook.Proofs.Chain
import Rulebook.Proofs.Result
import Rulebook.Proofs.Scoping

namespace Rulebook

open Eval

/-! ### Renaming -/

/-- An activation with other names for the scratch collections. -/
def Activation.rename (f : Handle → Handle) (a : Activation) : Activation :=
  { a with callerStack := a.callerStack.map f, localStack := a.localStack.map f }

/-- An activation is the same if the stacks keep their names. -/
theorem Activation.rename_eq_self {f : Handle → Handle} {a : Activation}
    (h : ∀ g, a.stacksReferTo g = true → f g = g) : a.rename f = a := by
  have stack (o : Option Handle) (refers : ∀ g, o = some g → a.stacksReferTo g = true) :
      o.map f = o := by
    rcases o with - | g
    · rfl
    · exact congrArg some (h g (refers g rfl))
  -- a renaming that fixes both stacks changes nothing
  have caller : a.callerStack.map f = a.callerStack :=
    stack _ fun g set => Bool.or_eq_true_iff.mpr (.inl (beq_iff_eq.mpr set))
  have here : a.localStack.map f = a.localStack :=
    stack _ fun g set => Bool.or_eq_true_iff.mpr (.inr (beq_iff_eq.mpr set))
  rw [rename, caller, here]

/-- A look-up finds nothing more by climbing further than there are collections. -/
theorem Store.Acyclic.findSome?_ancestors {live : Handle → Bool} {s : Store}
    (acyclic : s.Acyclic live) (h : Handle) (k : PropertyKey) {m : Nat} (far : s.cells.size ≤ m) :
    (s.ancestors live m h).findSome? (s.getLocal? · k) = s.get? live h k := by
  -- along the climb: outside of the store, at a root, and below a parent
  refine acyclic.climb (P := fun n h => ∀ m ≥ n,
    (s.ancestors live m h).findSome? (s.getLocal? · k) =
      (s.ancestors live n h).findSome? (s.getLocal? · k)) ?_ ?_ ?_ h m far
  · intro n h uncreated m _
    have nothing (n : Nat) : (s.ancestors live n h).findSome? (s.getLocal? · k) = none := by
      rcases n with - | n
      · rfl
      · rw [ancestors, parent?_of_le uncreated, List.findSome?_cons, getLocal?_of_le uncreated]
        rfl
    rw [nothing, nothing]
  · intro n h top m hm
    obtain ⟨m, rfl⟩ : ∃ j, m = j + 1 := ⟨m - 1, by omega⟩
    rw [ancestors, ancestors, top]
  · intro n h p falls ih m hm
    obtain ⟨m, rfl⟩ : ∃ j, m = j + 1 := ⟨m - 1, by omega⟩
    rw [ancestors, ancestors, falls, List.findSome?_cons, List.findSome?_cons,
      ih m (Nat.le_of_succ_le_succ hm)]

/-! ### Relocations -/

/-- Where two runs start: of the collections below `base` some are alive, among
them all that the data and the game refer to; in the second run `gap` more
collections follow. -/
structure Relocation (data : StaticData) (game : Option Game) where
  live : Handle → Bool
  base : Nat
  gap : Nat
  created : ∀ h, live h = true → h.index < base
  globals : ∀ h, data.globals = some h → live h = true
  properties : ∀ g, game = some g → ∀ e h, g.properties? e = some h → live h = true

namespace Relocation

variable {data : StaticData} {game : Option Game} (M : Relocation data game)

/-- The name in the second run of a collection of the first. -/
def place (h : Handle) : Handle := if h.index < M.base then h else ⟨h.index + M.gap⟩

variable {M}

theorem place_of_lt {h : Handle} (old : h.index < M.base) : M.place h = h := if_pos old

theorem place_of_live {h : Handle} (alive : M.live h = true) : M.place h = h :=
  place_of_lt (M.created h alive)

theorem place_of_le {h : Handle} (new : M.base ≤ h.index) : M.place h = ⟨h.index + M.gap⟩ :=
  if_neg (Nat.not_lt.mpr new)

theorem place_injective {g h : Handle} (same : M.place g = M.place h) : g = h := by
  have index (x : Handle) : (M.place x).index =
      if x.index < M.base then x.index else x.index + M.gap := by
    rw [place]
    split <;> rfl
  -- old handles stay below the base, new ones are moved by the gap
  have places := congrArg Handle.index same
  rw [index, index] at places
  apply Handle.mk.injEq .. |>.mpr
  split at places <;> split at places <;> omega

theorem place_beq (g h : Handle) : (M.place g == M.place h) = (g == h) := by
  rw [Bool.eq_iff_iff, beq_iff_eq, beq_iff_eq]
  exact ⟨place_injective, congrArg M.place⟩

variable (M)

/-- Two states that are the same up to the names of what was created. -/
structure Related (s s' : State) : Prop where
  size : s'.store.cells.size = s.store.cells.size + M.gap
  base : M.base ≤ s.store.cells.size
  cell : ∀ h, s'.store.cell (M.place h) = s.store.cell h
  links : ∀ h p, (s.store.cell h).parent = some p → p.index < M.base
  acyclic : s.store.Acyclic M.live
  activation : s'.activation = s.activation.rename M.place
  slots : ∀ h, s.activation.slotsReferTo h = true → M.live h = true
  scratch : ∀ h, s.activation.stacksReferTo h = true → h.index < M.base → M.live h = true

/-- What is kept alive in the two runs is the same up to names, and of what
there was at the start only what was alive. -/
structure Holds (held held' : Handle → Bool) : Prop where
  place : ∀ h, held' (M.place h) = held h
  live : ∀ h, held h = true → h.index < M.base → M.live h = true

/-- Whether `h'` is the name in the second run of `h`, which is alive or was not
there at the start. -/
structure Placed (h h' : Handle) : Prop where
  name : h' = M.place h
  live : h.index < M.base → M.live h = true

variable {M}

theorem Placed.of_live {h : Handle} (alive : M.live h = true) : M.Placed h h :=
  ⟨(place_of_live alive).symm, fun _ => alive⟩

theorem Placed.map {o : Option Handle}
    (fits : ∀ h, o = some h → h.index < M.base → M.live h = true) :
    Option.Rel M.Placed o (o.map M.place) := by
  rcases o with - | h
  · exact .none
  · exact .some ⟨rfl, fits h rfl⟩

/-! ### What is kept alive -/

namespace Holds

variable {held held' : Handle → Bool}

/-- To keep another collection alive. -/
theorem holding (holds : M.Holds held held') {g g' : Handle} (placed : M.Placed g g') :
    M.Holds (fun h => held h || h == g) (fun h => held' h || h == g') where
  place h := by rw [holds.place, placed.name, place_beq]
  live h kept old := by
    rcases Bool.or_eq_true_iff.mp kept with kept | same
    · exact holds.live h kept old
    · rw [beq_iff_eq.mp same] at old ⊢
      exact placed.live old

/-- To keep the collections of conditions alive. -/
theorem holdingConditions (holds : M.Holds held held') {l : ConditionList}
    (alive : ∀ h, l.refersTo h = true → M.live h = true) :
    M.Holds (fun h => held h || l.refersTo h) (fun h => held' h || l.refersTo h) where
  place h := by
    -- what is new in the first run has a name that is new in the second
    have same : l.refersTo (M.place h) = l.refersTo h := by
      by_cases old : h.index < M.base
      · rw [place_of_lt old]
      · have new : ¬ (M.place h).index < M.base := by
          rw [place_of_le (Nat.le_of_not_lt old)]
          show ¬ h.index + M.gap < M.base
          omega
        rw [Bool.eq_false_iff.mpr fun refers => old (M.created h (alive h refers)),
          Bool.eq_false_iff.mpr fun refers => new (M.created _ (alive _ refers))]
    rw [holds.place, same]
  live h kept old := by
    rcases Bool.or_eq_true_iff.mp kept with kept | refers
    · exact holds.live h kept old
    · exact alive h refers

end Holds

/-! ### Changes of both states -/

namespace Related

variable {s s' t t' : State}

theorem place_frame (hs : M.Related s s') : M.place s.frame = s'.frame := by
  have new : M.base ≤ s.frame.index := hs.base
  rw [place_of_le new]
  exact congrArg Handle.mk hs.size.symm

/-- The place of a collection is in the second store if the collection is in the
first. -/
theorem place_lt_size_iff (hs : M.Related s s') (g : Handle) :
    (M.place g).index < s'.store.cells.size ↔ g.index < s.store.cells.size := by
  have size := hs.size
  have base := hs.base
  by_cases old : g.index < M.base
  · rw [place_of_lt old]
    omega
  · rw [place_of_le (Nat.le_of_not_lt old)]
    show g.index + M.gap < _ ↔ _
    omega

theorem record (hs : M.Related s s') (h : Handle) (k : PropertyKey) (d : Datum) :
    M.Related (s.record h k d) (s'.record (M.place h) k d) where
  size := by
    show (s'.store.set _ k d).cells.size = (s.store.set h k d).cells.size + M.gap
    rw [Store.size_set, Store.size_set, hs.size]
  base := by
    show M.base ≤ (s.store.set h k d).cells.size
    rw [Store.size_set]
    exact hs.base
  cell g := by
    show (s'.store.set (M.place h) k d).cell (M.place g) = (s.store.set h k d).cell g
    -- only the cell that is written changes, in both stores
    by_cases same : g = h
    · subst same
      have created := hs.place_lt_size_iff g
      by_cases exists' : g.index < s.store.cells.size
      · rw [Store.set, Store.set, Store.cell_modify_self _ _ exists',
          Store.cell_modify_self _ _ (created.mpr exists'), hs.cell]
      · rw [Store.set, Store.set, Store.cell_modify_of_le _ _ (Nat.le_of_not_lt exists'),
          Store.cell_modify_of_le _ _ (Nat.le_of_not_lt (mt created.mp exists')), hs.cell]
    · rw [Store.cell_set_of_ne _ k d fun e => same (place_injective e),
        Store.cell_set_of_ne _ k d same, hs.cell]
  links g p link := by
    rw [State.record, Store.parent_set] at link
    exact hs.links g p link
  acyclic := hs.acyclic.set h k d
  activation := hs.activation
  slots := hs.slots
  scratch := hs.scratch

theorem enter (hs : M.Related s s') : M.Related s.enter s'.enter where
  size := by
    show (s'.store.cells.push {}).size = (s.store.cells.push {}).size + M.gap
    rw [Array.size_push, Array.size_push, hs.size]
    omega
  base := by
    show M.base ≤ (s.store.cells.push {}).size
    rw [Array.size_push]
    exact Nat.le_succ_of_le hs.base
  cell g := by
    show s'.store.create.1.cell _ = s.store.create.1.cell g
    rw [Store.cell_create, Store.cell_create, hs.cell]
  links g p link := by
    rw [State.enter, Store.cell_create] at link
    exact hs.links g p link
  acyclic := hs.acyclic.create
  activation := by
    show Activation.mk _ _ _ = Activation.mk _ _ _
    rw [hs.activation, ← hs.place_frame]
    rfl
  slots := hs.slots
  scratch h refers old := by
    rcases Bool.or_eq_true_iff.mp refers with caller | here
    · exact hs.scratch h (Bool.or_eq_true_iff.mpr (.inr caller)) old
    · -- the new frame is not among what there was at the start
      obtain rfl : s.frame = h := Option.some.inj (beq_iff_eq.mp here)
      exact absurd old (Nat.not_lt.mpr hs.base)

/-- The contexts of related states can be exchanged for others that are the same up
to names. -/
theorem withActivation (hs : M.Related s s') {a a' : Activation} (same : a' = a.rename M.place)
    (slots : ∀ h, a.slotsReferTo h = true → M.live h = true)
    (scratch : ∀ h, a.stacksReferTo h = true → h.index < M.base → M.live h = true) :
    M.Related (s.withActivation a) (s'.withActivation a') where
  size := hs.size
  base := hs.base
  cell := hs.cell
  links := hs.links
  acyclic := hs.acyclic
  activation := same
  slots := slots
  scratch := scratch

theorem leave (hs : M.Related s s') (ht : M.Related t t') :
    M.Related (s.leave t) (s'.leave t') := by
  refine ht.withActivation ?_ ht.slots hs.scratch
  show Activation.mk _ _ _ = Activation.mk _ _ _
  rw [ht.activation, hs.activation]
  rfl

theorem rebind (hs : M.Related s s') (ht : M.Related t t') :
    M.Related (t.withCaller s.activation.callerStack)
      (t'.withCaller s'.activation.callerStack) := by
  refine ht.withActivation ?_ ht.slots fun h refers old => ?_
  · show Activation.mk _ _ _ = Activation.mk _ _ _
    rw [ht.activation, hs.activation]
    rfl
  · -- the caller is that of before, the local stack that of after
    rcases Bool.or_eq_true_iff.mp refers with caller | here
    · exact hs.scratch h (Bool.or_eq_true_iff.mpr (.inl caller)) old
    · exact ht.scratch h (Bool.or_eq_true_iff.mpr (.inr here)) old

theorem bindCondition (hs : M.Related s s') {c : Condition} (alive : M.live c.properties = true) :
    M.Related (s.withActivation (s.activation.bindCondition c))
      (s'.withActivation (s'.activation.bindCondition c)) := by
  refine hs.withActivation ?_ (fun h refers => ?_) hs.scratch
  · show s'.activation.bindCondition c = _
    rw [hs.activation]
    rfl
  · obtain ⟨slot, refers⟩ := Activation.slotsReferTo_iff.mp refers
    -- a slot as it was, the slot of the condition, or that of its keywords
    rcases s.activation.binding_bindCondition_cases c slot with same | bound | bound
    · refine hs.slots h (Activation.slotsReferTo_iff.mpr ⟨slot, ?_⟩)
      rw [← same]
      exact refers
    · change ((s.activation.bindCondition c).binding slot).value.refersTo h = true at refers
      rw [bound] at refers
      rwa [← beq_iff_eq.mp refers]
    · change ((s.activation.bindCondition c).binding slot).value.refersTo h = true at refers
      rw [bound] at refers
      cases refers

theorem clearCondition (hs : M.Related s s') :
    M.Related (s.withActivation s.activation.clearCondition)
      (s'.withActivation s'.activation.clearCondition) := by
  refine hs.withActivation ?_ (fun h refers => ?_) hs.scratch
  · show s'.activation.clearCondition = _
    rw [hs.activation]
    rfl
  · obtain ⟨slot, refers⟩ := Activation.slotsReferTo_iff.mp refers
    -- a cleared slot refers to nothing
    exact hs.slots h (Activation.slotsReferTo_iff.mpr
      ⟨slot, Activation.refersTo_clearCondition refers⟩)

/-! ### Look-ups -/

section

variable {held held' : Handle → Bool} (hs : M.Related s s') (holds : M.Holds held held')

include hs holds

/-- What was there at the start is alive in both runs or in neither. -/
theorem alive_eq {p : Handle} (old : p.index < M.base) : s'.alive held' p = s.alive held p := by
  have kept : held' p = held p := by rw [← holds.place p, place_of_lt old]
  rw [State.alive, State.alive, kept, hs.activation]
  rfl

theorem live_of_alive {p : Handle} (old : p.index < M.base) (alive : s.alive held p = true) :
    M.live p = true := by
  rcases Bool.or_eq_true_iff.mp alive with kept | refers
  · exact holds.live p kept old
  · exact hs.slots p refers

theorem parent?_place (h : Handle) :
    s'.store.parent? (s'.alive held') (M.place h) = s.store.parent? (s.alive held) h := by
  rw [Store.parent?, Store.parent?, hs.cell]
  rcases link : (s.store.cell h).parent with - | p
  · rfl
  · simp only [Option.filter_some, hs.alive_eq holds (hs.links h p link)]

theorem ancestors_place (n : Nat) (h : Handle) :
    s'.store.ancestors (s'.alive held') n (M.place h) =
      (s.store.ancestors (s.alive held) n h).map M.place := by
  induction n generalizing h with
  | zero => rfl
  | succ n ih =>
    rw [Store.ancestors, Store.ancestors, hs.parent?_place holds, List.map_cons]
    rcases falls : s.store.parent? (s.alive held) h with - | p
    · rfl
    · -- parents were there at the start and keep their names
      have old : p.index < M.base := hs.links h p (Store.fallsTo_iff.mp falls).1
      have above := ih p
      rw [place_of_lt old] at above
      exact congrArg (M.place h :: ·) above

/-- A look-up finds the same. -/
theorem get?_place (h : Handle) (k : PropertyKey) :
    s'.store.get? (s'.alive held') (M.place h) k = s.store.get? (s.alive held) h k := by
  -- the second store is larger, so it climbs longer: as there are no cycles,
  -- a longer climb finds the same
  have acyclic : s.store.Acyclic (s.alive held) := by
    refine hs.acyclic.mono fun g p falls => ?_
    obtain ⟨link, alive⟩ := Store.fallsTo_iff.mp falls
    exact Store.fallsTo_iff.mpr ⟨link, hs.live_of_alive holds (hs.links g p link) alive⟩
  have found (g : Handle) : s'.store.getLocal? (M.place g) k = s.store.getLocal? g k :=
    congrArg (·.entries[k]?) (hs.cell g)
  rw [← acyclic.findSome?_ancestors h k (Nat.le_add_right _ M.gap), ← hs.size, Store.get?,
    Store.chain, hs.ancestors_place holds, List.findSome?_map]
  simp only [Function.comp_def, found]

end

/-! ### Contexts -/

theorem binding_eq (hs : M.Related s s') (slot : Slot) :
    s'.activation.binding slot = s.activation.binding slot := by
  rw [hs.activation]
  rfl

/-- A context stands for what it stands for, under the name in the other run. -/
theorem value (hs : M.Related s s') (c : Context) : Matched Eq
    (fun b b' => b'.readOnly = b.readOnly ∧
      b.value.Corresponds game M.Placed
        (fun l => ∀ h, l.refersTo h = true → M.live h = true) False b'.value)
    (s.activation.value data.globals c) (s'.activation.value data.globals c) := by
  cases c with
  -- what a slot refers to is live, so it is in the same place
  | slot slot =>
    have alive (h : Handle) (refers : (s.activation.binding slot).value.refersTo h = true) :
        M.live h = true :=
      hs.slots h (Activation.slotsReferTo_iff.mpr ⟨slot, refers⟩)
    rw [Activation.value, Activation.value, hs.binding_eq]
    refine .ok ⟨rfl, .of_self (fun h same => .of_live (alive h ?_))
      fun l same h refers => alive h ?_⟩
    · rw [same]
      exact beq_self_eq_true h
    · rw [same]
      exact refers
  -- a stack may be a scratch collection, whose place is another
  | callerStack =>
    rw [Activation.value, Activation.value, hs.activation]
    refine .ok ⟨rfl, .collection (Placed.map fun h caller => hs.scratch h ?_)⟩
    exact Bool.or_eq_true_iff.mpr (.inl (beq_iff_eq.mpr caller))
  | localStack =>
    rw [Activation.value, Activation.value, hs.activation]
    refine .ok ⟨rfl, .collection (Placed.map fun h here => hs.scratch h ?_)⟩
    exact Bool.or_eq_true_iff.mpr (.inr (beq_iff_eq.mpr here))
  | globals =>
    rcases global : data.globals with - | h
    · exact .error rfl
    · exact .ok ⟨rfl, .collection (.some (.of_live (M.globals h global)))⟩

end Related

/-! ### Runs -/

variable (M)

/-- States that are the same up to names correspond. -/
def correspondence (K : Coupling) : Correspondence K data game :=
  { Correspondence.self K data game with
    states := M.Related
    places := M.Placed
    lists := fun l => ∀ h, l.refersTo h = true → M.live h = true
    held := M.Holds
    context := fun hs => hs.value
    lookup := fun hs holds placed k => by rw [placed.name, hs.get?_place holds]
    properties := fun g bound e h own => .of_live (M.properties g bound e h own)
    frame := fun hs => ⟨hs.place_frame.symm, fun old => absurd old (Nat.not_lt.mpr hs.base)⟩
    enter := Related.enter
    leave := Related.leave
    rebind := Related.rebind
    record := fun hs placed k d => by
      rw [placed.name]
      exact hs.record _ k d
    bind := fun hs alive member => by
      refine hs.bindCondition (alive _ ?_)
      exact List.any_eq_true.mpr ⟨_, member, beq_self_eq_true _⟩
    clear := Related.clearCondition
    holding := fun holds placed => holds.holding placed
    holdingList := fun holds alive => holds.holdingConditions alive }

variable {M}

/-- **Runs follow relocations**: from states that are the same up to the names of
what was created, evaluation ends alike and leaves such states again. -/
theorem eval_tied {settings : Settings} {held held' : Handle → Bool} (holds : M.Holds held held')
    (n : Nat) (e : Expr) : Coupling.same.Tied M.Related M.Related Eq
      (eval n ⟨data, game, settings, held⟩ e) (eval n ⟨data, game, settings, held'⟩ e) :=
  (M.correspondence Coupling.same).evalWith_tied holds
    (Coupling.same.serves_self (fun _ => trivial) settings n) e
    (fun _ named => named.elim) fun _ _ _ _ => .inr ⟨rfl, trivial⟩

end Relocation

end Rulebook
