/-
Rulebook/Proofs/Restore.lean

Contexts after a run.  A run swaps the stacks at every scope and loop and
binds the slots of a condition in every turn over conditions, and it can end
at any of these points.  Nothing of this is left behind: the stacks are what
they were, and so are all slots but the two of a condition, which are as they
were or cleared (`tryRun_restores_context`).

The discipline for it has no invariant, only relations.  Up to the stacks, an
activation afterwards `Resembles` the one before; a turn over conditions
keeps less, the slots that are not the condition's, which is enough because
the loop around it clears those.
-/
import Rulebook.Proofs.Preservation

namespace Rulebook

open Eval

namespace Activation

/-! ### Likeness -/

/-- Whether two activations have the same slots, those of a condition apart. -/
def AgreeOff (a b : Activation) : Prop :=
  ∀ slot, slot ≠ .condition → slot ≠ .conditionKeywords → b.binding slot = a.binding slot

/-- What the slots of a condition held is forgotten when they are cleared. -/
theorem AgreeOff.clearCondition {a b : Activation} (h : AgreeOff a b) (slot : Slot) :
    b.clearCondition.binding slot = a.clearCondition.binding slot := by
  by_cases hc : slot = .condition
  · rw [hc, binding_clearCondition_condition, binding_clearCondition_condition]
  · by_cases hk : slot = .conditionKeywords
    · rw [hk, binding_clearCondition_conditionKeywords, binding_clearCondition_conditionKeywords]
    · rw [binding_clearCondition_of_ne b hc hk, binding_clearCondition_of_ne a hc hk, h slot hc hk]

/-- Whether the slots of `b` are those of `a`, or those of `a` with the slots of
the condition cleared. -/
def Resembles (a b : Activation) : Prop :=
  (∀ slot, b.binding slot = a.binding slot) ∨ ∀ slot, b.binding slot = a.clearCondition.binding slot

theorem Resembles.agreeOff {a b : Activation} (h : Resembles a b) : AgreeOff a b := by
  intro slot hc hk
  rcases h with h | h
  · exact h slot
  · rw [h slot, binding_clearCondition_of_ne a hc hk]

theorem Resembles.trans {a b c : Activation} (h : Resembles a b) (h' : Resembles b c) :
    Resembles a c := by
  rcases h' with h' | h'
  · rcases h with h | h
    · exact .inl fun slot => (h' slot).trans (h slot)
    · exact .inr fun slot => (h' slot).trans (h slot)
  · exact .inr fun slot => (h' slot).trans (h.agreeOff.clearCondition slot)

end Activation

/-! ### The discipline -/

/-- Runs put the activation back. -/
def restoring (data : StaticData) (game : Option Game) (settings : Settings) :
    Discipline data game settings where
  whole s t :=
    t.activation.callerStack = s.activation.callerStack ∧
      t.activation.localStack = s.activation.localStack ∧ s.activation.Resembles t.activation
  inside s t := s.activation.Resembles t.activation
  turn s t := s.activation.AgreeOff t.activation
  whole_refl _ := ⟨rfl, rfl, .inl fun _ => rfl⟩
  whole_trans h h' := ⟨h'.1.trans h.1, h'.2.1.trans h.2.1, h.2.2.trans h'.2.2⟩
  inside_trans h h' := h.trans h'
  turn_trans h h' slot hc hk := (h' slot hc hk).trans (h slot hc hk)
  inside_of_whole _ _ h := h.2.2
  turn_of_whole _ _ h := h.2.2.agreeOff
  record _ _ _ := ⟨trivial, rfl, rfl, .inl fun _ => rfl⟩
  enter _ := trivial
  leave _ _ h := ⟨trivial, rfl, rfl, h⟩
  rebind _ _ := ⟨trivial, .inl fun _ => rfl⟩
  bind _ _ _ :=
    ⟨trivial, fun _ hc hk => Activation.binding_bindCondition_of_ne _ _ hc hk⟩
  clear _ _ h := ⟨trivial, .inr h.clearCondition⟩

/-- An expression puts the activation back. -/
theorem eval_restores (n : Nat) (env : Env) (e : Expr) (s : State) :
    (exec (eval n env e) s).2.activation.callerStack = s.activation.callerStack ∧
      (exec (eval n env e) s).2.activation.localStack = s.activation.localStack ∧
      s.activation.Resembles (exec (eval n env e) s).2.activation :=
  ((restoring env.data env.game env.settings).eval_keeps e.within_true trivial).2

/-- **A run restores its context.** However a run ends, with a value, a failure
or an abort, both stacks are what they were before it, and so is every slot but
the two of a condition; these two are both what they were or both cleared. -/
theorem tryRun_restores_context (allowance : Nat) (env : Env) (rule : Option Expr) (s : State) :
    let before := s.activation
    let after := (exec (env.tryRun allowance rule) s).2.activation
    after.callerStack = before.callerStack ∧ after.localStack = before.localStack ∧
      (∀ slot, slot ≠ .condition → slot ≠ .conditionKeywords →
        after.binding slot = before.binding slot) ∧
      (after.binding .condition = before.binding .condition ∧
          after.binding .conditionKeywords = before.binding .conditionKeywords ∨
        after.binding .condition = ⟨.collection none, false⟩ ∧
          after.binding .conditionKeywords = ⟨.prototypeVector none, false⟩) := by
  intro before after
  obtain ⟨-, caller, here, slots⟩ :=
    (restoring env.data env.game env.settings).tryRun_keeps allowance rule (s := s) trivial
  refine ⟨caller, here, slots.agreeOff, ?_⟩
  -- either no slot has changed, or a condition loop has cleared its two
  rcases slots with same | cleared
  · exact .inl ⟨same .condition, same .conditionKeywords⟩
  · have condition : after.binding .condition = _ := cleared .condition
    have keywords : after.binding .conditionKeywords = _ := cleared .conditionKeywords
    rw [Activation.binding_clearCondition_condition] at condition
    rw [Activation.binding_clearCondition_conditionKeywords] at keywords
    exact .inr ⟨condition, keywords⟩

end Rulebook
