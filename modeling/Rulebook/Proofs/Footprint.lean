/-
Rulebook/Proofs/Footprint.lean

Footprints of runs.  What a run can write is known from the activation it
starts with (`Activation.Footprint`): what slots stand for that are not
read-only, the stacks, and the properties of conditions that some slot has,
since a loop over conditions binds these for writing.  A run leaves the
entries of every other collection as they were, and it leaves all parent
links alone (`tryRun_writes_footprint`).

The set of collections that can be reached for writing changes all along a
run.  What does not change is that it is confined to the footprint and to
the collections that the run has created itself (`Activation.Confined`).
-/
import Rulebook.Proofs.Preservation

namespace Rulebook

open Eval

namespace Activation

/-! ### What can be written -/

/-- Whether a collection is the properties of a condition in some slot, at a
place that a loop over the conditions can come to. -/
def LoopsOver (a : Activation) (settings : Settings) (h : Handle) : Prop :=
  ∃ slot l i condition, (a.binding slot).value = .conditions (some l) ∧
    l.conditions[i]? = some condition ∧ settings.admits (i + 1) = true ∧ condition.properties = h

/-- Whether a collection is what a slot that can be written stands for, one of
the stacks, or the properties of a condition in some slot. -/
def Footprint (a : Activation) (game : Option Game) (h : Handle) : Prop :=
  (∃ slot, (a.binding slot).readOnly = false ∧
      (a.binding slot).value.collectionIn? game = some h) ∨
    a.callerStack = some h ∨ a.localStack = some h ∨
    ∃ slot l, (a.binding slot).value = .conditions (some l) ∧
      ∃ condition ∈ l.conditions, condition.properties = h

/-! ### Confinement -/

/-- Whether everything that can be written through an activation is in `W`. -/
structure Confined (a : Activation) (game : Option Game) (settings : Settings)
    (W : Handle → Prop) : Prop where
  slots : ∀ slot h, (a.binding slot).readOnly = false →
    (a.binding slot).value.collectionIn? game = some h → W h
  callerStack : ∀ h, a.callerStack = some h → W h
  localStack : ∀ h, a.localStack = some h → W h
  conditions : ∀ h, a.LoopsOver settings h → W h

theorem confined_footprint (a : Activation) (game : Option Game) (settings : Settings) :
    a.Confined game settings (a.Footprint game) where
  slots slot _ free found := .inl ⟨slot, free, found⟩
  callerStack _ found := .inr (.inl found)
  localStack _ found := .inr (.inr (.inl found))
  conditions _ := by
    rintro ⟨slot, l, i, condition, value, place, -, rfl⟩
    exact .inr (.inr (.inr ⟨slot, l, value, condition, List.mem_of_getElem? place, rfl⟩))

namespace Confined

variable {a b : Activation} {game : Option Game} {settings : Settings} {W : Handle → Prop}

theorem mono {W' : Handle → Prop} (h : a.Confined game settings W) (hW : ∀ g, W g → W' g) :
    a.Confined game settings W' where
  slots slot g free found := hW g (h.slots slot g free found)
  callerStack g found := hW g (h.callerStack g found)
  localStack g found := hW g (h.localStack g found)
  conditions g found := hW g (h.conditions g found)

/-- What a context stands for is confined if it can be written. -/
theorem of_resolve (ha : a.Confined game settings W) {globals : Option Handle} {c : Context}
    {v : Value} {h : Handle} (hv : a.resolve globals c .write = .ok v)
    (hh : v.collectionIn? game = some h) : W h := by
  obtain ⟨b, hb, rfl, free, -⟩ := resolve_eq_ok_iff.mp hv
  have free := free rfl
  cases c with
  | slot slot =>
    cases hb
    exact ha.slots slot h free hh
  | callerStack =>
    cases hb
    exact ha.callerStack h hh
  | localStack =>
    cases hb
    exact ha.localStack h hh
  | globals =>
    -- the global properties are always read-only
    rcases globals with - | g
    · cases hb
    · cases hb
      cases free

/-- The conditions that a context stands for are those of a slot. -/
theorem of_conditions (ha : a.Confined game settings W) {globals : Option Handle} {c : Context}
    {v : Value} {l : ConditionList} {i : Nat} {condition : Condition}
    (hv : a.resolve globals c .read = .ok v) (hl : v.conditions? = some l)
    (hi : l.conditions[i]? = some condition) (admitted : settings.admits (i + 1) = true) :
    W condition.properties := by
  obtain ⟨b, hb, rfl, -⟩ := resolve_eq_ok_iff.mp hv
  -- only a slot can hold a list of conditions
  cases c with
  | slot slot =>
    cases hb
    refine ha.conditions _ ⟨slot, l, i, condition, ?_, hi, admitted, rfl⟩
    rcases hs : (a.binding slot).value <;> rw [hs] at hl <;> cases hl
    rfl
  | callerStack | localStack =>
    cases hb
    cases hl
  | globals =>
    rcases globals with - | g
    · cases hb
    · cases hb
      cases hl

/-- Slots with nothing new in them stay confined, whatever the stacks are. -/
theorem of_slots (ha : a.Confined game settings W)
    (hs : ∀ slot, b.binding slot = a.binding slot ∨
      (∀ h, (b.binding slot).readOnly = false →
        (b.binding slot).value.collectionIn? game = some h → W h) ∧
      ∀ l, (b.binding slot).value ≠ .conditions (some l))
    (hc : ∀ h, b.callerStack = some h → W h) (hl : ∀ h, b.localStack = some h → W h) :
    b.Confined game settings W where
  slots slot h free found := by
    rcases hs slot with same | ⟨confined, -⟩
    · rw [same] at free found
      exact ha.slots slot h free found
    · exact confined h free found
  callerStack := hc
  localStack := hl
  conditions h := by
    rintro ⟨slot, l, i, condition, value, place, admitted, rfl⟩
    -- a slot is as it was, or holds what is confined and no list
    rcases hs slot with same | ⟨-, other⟩
    · rw [same] at value
      exact ha.conditions _ ⟨slot, l, i, condition, value, place, admitted, rfl⟩
    · exact absurd value (other l)

theorem bindCondition (ha : a.Confined game settings W) {condition : Condition}
    (hc : W condition.properties) : (a.bindCondition condition).Confined game settings W := by
  refine ha.of_slots (fun slot => ?_) ha.callerStack ha.localStack
  -- a slot as it was, the slot of the condition, or that of its keywords
  rcases a.binding_bindCondition_cases condition slot with same | bound | bound
  · exact .inl same
  · rw [bound]
    refine .inr ⟨?_, nofun⟩
    rintro h - ⟨⟩
    exact hc
  · rw [bound]
    exact .inr ⟨nofun, nofun⟩

theorem clearCondition (ha : a.Confined game settings W) :
    a.clearCondition.Confined game settings W := by
  refine ha.of_slots (fun slot => ?_) ha.callerStack ha.localStack
  rcases a.binding_clearCondition_cases slot with same | bound | bound
  · exact .inl same
  · rw [bound]
    exact .inr ⟨nofun, nofun⟩
  · rw [bound]
    exact .inr ⟨nofun, nofun⟩

end Confined

end Activation

/-! ### What stays the same in the store -/

/-- Whether a store has all collections of an earlier one, with the same parent
links everywhere and with the same entries outside of `W`. -/
structure Store.SameOff (W : Handle → Prop) (s t : Store) : Prop where
  size : s.cells.size ≤ t.cells.size
  entries : ∀ h, ¬ W h → (t.cell h).entries = (s.cell h).entries
  parent : ∀ h, (t.cell h).parent = (s.cell h).parent

namespace Store.SameOff

variable {W : Handle → Prop} {s t : Store}

theorem refl (W : Handle → Prop) (s : Store) : SameOff W s s :=
  ⟨Nat.le_refl _, fun _ _ => rfl, fun _ => rfl⟩

theorem create (h : SameOff W s t) : SameOff W s t.create.1 where
  size := by
    rw [size_create]
    exact Nat.le_succ_of_le h.size
  entries g hg := by rw [cell_create, h.entries g hg]
  parent g := by rw [cell_create, h.parent g]

theorem set (h : SameOff W s t) {g : Handle} (k : PropertyKey) (d : Datum) (hg : W g) :
    SameOff W s (t.set g k d) where
  size := by
    rw [size_set]
    exact h.size
  entries h' hh' := by
    have hne : h' ≠ g := by
      rintro rfl
      exact hh' hg
    rw [cell_set_of_ne t k d hne, h.entries h' hh']
  parent h' := by rw [parent_set, h.parent h']

end Store.SameOff

/-! ### The discipline -/

variable {data : StaticData} {game : Option Game} {settings : Settings}

variable (data game settings) in
/-- Runs write nothing but `W`, which has all collections that are created
after `origin`. -/
def confining (W : Handle → Prop) (origin : Store)
    (fresh : ∀ h : Handle, origin.cells.size ≤ h.index → W h) :
    Discipline data game settings where
  inv s := s.activation.Confined game settings W ∧ origin.SameOff W s.store
  writable := W
  writable_of_resolve _ h := h.1.of_resolve
  writable_of_conditions _ h := h.1.of_conditions
  writable_frame h := fresh _ h.2.size
  record h hh _ := ⟨⟨h.1, h.2.set _ _ hh⟩, trivial⟩
  enter {s} h := by
    refine ⟨h.1.of_slots (fun _ => .inl rfl) h.1.localStack ?_, h.2.create⟩
    rintro g ⟨⟩
    exact fresh s.frame h.2.size
  leave h h' _ :=
    ⟨⟨h'.1.of_slots (fun _ => .inl rfl) h.1.callerStack h.1.localStack, h'.2⟩, trivial⟩
  rebind h h' :=
    ⟨⟨h'.1.of_slots (fun _ => .inl rfl) h.1.callerStack h'.1.localStack, h'.2⟩, trivial⟩
  bind _ h hc := ⟨⟨h.1.bindCondition hc, h.2⟩, trivial⟩
  clear _ h _ := ⟨⟨h.1.clearCondition, h.2⟩, trivial⟩

/-- A run from an activation that is confined to `W` changes nothing outside
of `W` but what it creates. -/
theorem tryRun_sameOff (allowance : Nat) (env : Env) (rule : Option Expr) (s : State)
    {W : Handle → Prop} (hW : s.activation.Confined env.game env.settings W) :
    s.store.SameOff (fun h => W h ∨ s.store.cells.size ≤ h.index)
      (exec (env.tryRun allowance rule) s).2.store :=
  let D := confining env.data env.game env.settings
    (fun h => W h ∨ s.store.cells.size ≤ h.index) s.store fun _ => .inr
  (D.tryRun_keeps allowance rule ⟨hW.mono fun _ => .inl, .refl _ _⟩).1.2

/-- **A run writes its footprint only.** However a run ends, the collections
that were there before it and are not in the footprint of its activation have
the same entries as before, and no collection has another parent. -/
theorem tryRun_writes_footprint (allowance : Nat) (env : Env) (rule : Option Expr) (s : State) :
    let after := (exec (env.tryRun allowance rule) s).2.store
    (∀ h, h.index < s.store.cells.size → ¬ s.activation.Footprint env.game h →
      (after.cell h).entries = (s.store.cell h).entries) ∧
    ∀ h, (after.cell h).parent = (s.store.cell h).parent := by
  intro after
  have same := tryRun_sameOff allowance env rule s
    (s.activation.confined_footprint env.game env.settings)
  refine ⟨fun h old outside => same.entries h ?_, same.parent⟩
  -- a collection that is not in the footprint may be written only if it is new
  rintro (inside | new)
  · exact outside inside
  · exact Nat.not_le_of_lt old new

end Rulebook
