/-
Rulebook/Activation.lean

Activations: what the contexts of a rule stand for while it is evaluated.
An `Activation` holds a binding for each slot, a value and whether it may be
written through, and the two scratch collections.  Every operator gets at a
context through `resolve`, which makes all the checks in one place: a null
pointer is refused unless the value itself is looked at, and a read-only
binding is refused for writing.
-/
import Rulebook.Failure

namespace Rulebook

/-- The value of a slot. -/
structure Binding where
  value : Value := .error
  /-- Whether what the value points at must not be changed. -/
  readOnly : Bool := false

instance : Inhabited Binding := ⟨{}⟩

/-- What the contexts of a rule stand for. -/
structure Activation where
  slots : Vector Binding 11 := .replicate 11 {}
  callerStack : Option Handle := none
  localStack : Option Handle := none

namespace Activation

/-! ### Slots -/

/-- The binding of a slot. -/
def binding (a : Activation) (s : Slot) : Binding := a.slots[s.index.val]

/-- Bind a slot. -/
def bind (a : Activation) (s : Slot) (b : Binding) : Activation :=
  { a with slots := a.slots.set s.index.val b }

@[simp] theorem binding_bind_self (a : Activation) (s : Slot) (b : Binding) :
    (a.bind s b).binding s = b := by
  simp [binding, bind]

theorem binding_bind_of_ne (a : Activation) {s t : Slot} (b : Binding) (h : s ≠ t) :
    (a.bind s b).binding t = a.binding t := by
  have : s.index.val ≠ t.index.val := fun e => h (Slot.index_injective (Fin.ext e))
  simp [binding, bind, Vector.getElem_set_ne, this]

/-- The binding of a context, if it is a slot. -/
def binding? (a : Activation) (c : Context) : Option Binding := c.slot?.map a.binding

/-- Bind a context, which has to be a slot. -/
def bindContext (a : Activation) (c : Context) (b : Binding) : Except Cause Activation :=
  match c with
  | .slot s => .ok (a.bind s b)
  | c => .error (.invalidContext c)

/-! ### Contexts -/

/-- The value of a context and whether it is read-only. The scratch
collections can be written, the global properties can not. -/
def value (a : Activation) (globals : Option Handle) : Context → Except Cause Binding
  | .slot s => .ok (a.binding s)
  | .callerStack => .ok ⟨.collection a.callerStack, false⟩
  | .localStack => .ok ⟨.collection a.localStack, false⟩
  | .globals =>
    match globals with
    | some h => .ok ⟨.collection (some h), true⟩
    | none => .error .globalsUnavailable

/-- The value of a context for a use of it. -/
def resolve (a : Activation) (globals : Option Handle) (c : Context) (access : Access) :
    Except Cause Value := do
  let b ← a.value globals c
  if access = .write && b.readOnly then
    .error (.readOnlyContext c)
  else if access ≠ .inspect && b.value.isNull then
    .error (.nullContext c)
  else
    .ok b.value

/-- A use of a context comes to the value that the context stands for, unless
one of the two checks is in the way. -/
theorem resolve_eq_ok_iff {a : Activation} {globals : Option Handle} {c : Context}
    {access : Access} {v : Value} :
    a.resolve globals c access = .ok v ↔
      ∃ b, a.value globals c = .ok b ∧ b.value = v ∧ (access = .write → b.readOnly = false) ∧
        (access ≠ .inspect → b.value.isNull = false) := by
  unfold resolve
  rcases a.value globals c with cause | b
  · exact ⟨nofun, fun ⟨_, h, _⟩ => nomatch h⟩
  · simp only [Bind.bind, Except.bind, Except.ok.injEq, exists_eq_left']
    cases access <;> cases b.readOnly <;> cases b.value.isNull <;> simp

/-! ### Conditions -/

/-- Bind the two slots of a condition: its properties can be written, its
keywords can not. -/
def bindCondition (a : Activation) (c : Condition) : Activation :=
  (a.bind .condition ⟨.collection (some c.properties), false⟩).bind .conditionKeywords
    ⟨.prototypeVector (some c.keywords), true⟩

/-- Bind the two slots of a condition to null pointers. -/
def clearCondition (a : Activation) : Activation :=
  (a.bind .condition ⟨.collection none, false⟩).bind .conditionKeywords
    ⟨.prototypeVector none, false⟩

theorem binding_bindCondition_of_ne (a : Activation) (c : Condition) {slot : Slot}
    (h : slot ≠ .condition) (h' : slot ≠ .conditionKeywords) :
    (a.bindCondition c).binding slot = a.binding slot := by
  rw [bindCondition, binding_bind_of_ne _ _ h'.symm, binding_bind_of_ne _ _ h.symm]

@[simp] theorem binding_bindCondition_condition (a : Activation) (c : Condition) :
    (a.bindCondition c).binding .condition = ⟨.collection (some c.properties), false⟩ := by
  rw [bindCondition, binding_bind_of_ne _ _ (by decide), binding_bind_self]

@[simp] theorem binding_bindCondition_conditionKeywords (a : Activation) (c : Condition) :
    (a.bindCondition c).binding .conditionKeywords =
      ⟨.prototypeVector (some c.keywords), true⟩ :=
  binding_bind_self ..

/-- A slot is as it was after a condition is bound, or is one of the condition. -/
theorem binding_bindCondition_cases (a : Activation) (c : Condition) (slot : Slot) :
    (a.bindCondition c).binding slot = a.binding slot ∨
      (a.bindCondition c).binding slot = ⟨.collection (some c.properties), false⟩ ∨
      (a.bindCondition c).binding slot = ⟨.prototypeVector (some c.keywords), true⟩ := by
  by_cases h : slot = .condition
  · subst h
    exact .inr (.inl (a.binding_bindCondition_condition c))
  · by_cases h' : slot = .conditionKeywords
    · subst h'
      exact .inr (.inr (a.binding_bindCondition_conditionKeywords c))
    · exact .inl (a.binding_bindCondition_of_ne c h h')

theorem binding_clearCondition_of_ne (a : Activation) {slot : Slot}
    (h : slot ≠ .condition) (h' : slot ≠ .conditionKeywords) :
    a.clearCondition.binding slot = a.binding slot := by
  rw [clearCondition, binding_bind_of_ne _ _ h'.symm, binding_bind_of_ne _ _ h.symm]

@[simp] theorem binding_clearCondition_condition (a : Activation) :
    a.clearCondition.binding .condition = ⟨.collection none, false⟩ := by
  rw [clearCondition, binding_bind_of_ne _ _ (by decide), binding_bind_self]

@[simp] theorem binding_clearCondition_conditionKeywords (a : Activation) :
    a.clearCondition.binding .conditionKeywords = ⟨.prototypeVector none, false⟩ :=
  binding_bind_self ..

/-- A slot is as it was after the condition is cleared, or is a null pointer. -/
theorem binding_clearCondition_cases (a : Activation) (slot : Slot) :
    a.clearCondition.binding slot = a.binding slot ∨
      a.clearCondition.binding slot = ⟨.collection none, false⟩ ∨
      a.clearCondition.binding slot = ⟨.prototypeVector none, false⟩ := by
  by_cases h : slot = .condition
  · subst h
    exact .inr (.inl a.binding_clearCondition_condition)
  · by_cases h' : slot = .conditionKeywords
    · subst h'
      exact .inr (.inr a.binding_clearCondition_conditionKeywords)
    · exact .inl (a.binding_clearCondition_of_ne h h')

/-! ### References to collections -/

/-- Whether one of the scratch collections is `h`. -/
def stacksReferTo (a : Activation) (h : Handle) : Bool :=
  a.callerStack == some h || a.localStack == some h

/-- Whether a slot refers to `h`. -/
def slotsReferTo (a : Activation) (h : Handle) : Bool := a.slots.any (·.value.refersTo h)

end Activation

end Rulebook
