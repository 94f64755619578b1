/-
Rulebook/Proofs/Result.lean

What a run gives away.  The value of a rule is a number, a truth value, a
reference, the identity of an entity, or nothing.  It is never a pointer, and
never `error`, so the value `error` of `run` says that the rule has failed.

The collections of frames are not given away by the context either: no slot
and no stack refers to a collection afterwards that it did not refer to
before (`tryRun_gives_away_no_scratch`).
-/
import Rulebook.Proofs.Provenance
import Rulebook.Proofs.Restore

namespace Rulebook

open Eval

/-! ### References of contexts -/

/-- Every number of a slot is the number of a slot. -/
theorem Slot.exists_index (i : Fin 11) : ∃ slot : Slot, slot.index = i := by
  have found : ∃ slot ∈ Slot.all, slot.index = i := by
    revert i
    decide
  obtain ⟨slot, -, same⟩ := found
  exact ⟨slot, same⟩

namespace Activation

/-- Whether a slot or a stack refers to a collection. -/
def refersTo (a : Activation) (h : Handle) : Bool := a.slotsReferTo h || a.stacksReferTo h

theorem slotsReferTo_iff {a : Activation} {h : Handle} :
    a.slotsReferTo h = true ↔ ∃ slot, (a.binding slot).value.refersTo h = true := by
  rw [slotsReferTo, Vector.any_eq_true]
  constructor
  · rintro ⟨i, hi, refers⟩
    -- every place of the vector is the place of a slot
    obtain ⟨slot, same⟩ := Slot.exists_index ⟨i, hi⟩
    refine ⟨slot, ?_⟩
    have place : slot.index.val = i := congrArg Fin.val same
    simpa only [binding, place] using refers
  · rintro ⟨slot, refers⟩
    exact ⟨slot.index.val, slot.index.isLt, refers⟩

/-- To clear the slots of a condition adds no reference. -/
theorem refersTo_clearCondition {a : Activation} {slot : Slot} {h : Handle}
    (refers : (a.clearCondition.binding slot).value.refersTo h = true) :
    (a.binding slot).value.refersTo h = true := by
  rcases a.binding_clearCondition_cases slot with same | cleared | cleared
  · rwa [same] at refers
  · rw [cleared] at refers
    cases refers
  · rw [cleared] at refers
    cases refers

theorem Resembles.slotsReferTo {a b : Activation} (like : Resembles a b) {h : Handle}
    (refers : b.slotsReferTo h = true) : a.slotsReferTo h = true := by
  rw [slotsReferTo_iff] at refers ⊢
  obtain ⟨slot, refers⟩ := refers
  refine ⟨slot, ?_⟩
  -- slots that are cleared refer to nothing, all others are the same
  rcases like with same | cleared
  · rwa [same slot] at refers
  · rw [cleared slot] at refers
    exact refersTo_clearCondition refers

end Activation

/-- Whether the collections that slots and stacks refer to exist. -/
def State.Closed (s : State) : Prop :=
  ∀ h, s.activation.refersTo h = true → h.index < s.store.cells.size

/-! ### Runs -/

variable {n : Nat} {env : Env} {rule : Option Expr} {s : State}

theorem tryRun_isResult {v : Value} (h : (exec (env.tryRun n rule) s).1 = .ok v) : v.IsResult := by
  rcases rule with - | e
  · cases h
  · have ends : exec (env.tryRun n (some e)) s = exec (eval n env e) s := rfl
    rw [ends] at h
    -- a run ends with a result unless it stops
    rcases eval_ends n env e s with ⟨stop, t, run, -⟩ | ⟨w, t, run, result⟩
    · rw [run] at h
      cases h
    · rw [run] at h
      cases h
      exact result

/-- The value `error` of a run says that the rule has failed. -/
theorem run_eq_error_iff : (exec (env.run n rule) s).1 = .ok .error ↔
    ∃ f, (exec (env.tryRun n rule) s).1 = .error (.failure f) := by
  rw [Env.run, exec_bind, exec_attempt]
  rcases run : exec (env.tryRun n rule) s with ⟨stop | v, t⟩
  · cases stop with
    | failure f => exact ⟨fun _ => ⟨f, rfl⟩, fun _ => rfl⟩
    | abort message => exact ⟨by rintro ⟨⟩, by rintro ⟨f, ⟨⟩⟩⟩
    | exhausted => exact ⟨by rintro ⟨⟩, by rintro ⟨f, ⟨⟩⟩⟩
  · refine ⟨fun same => ?_, by rintro ⟨f, ⟨⟩⟩⟩
    -- the value would have to be the one that is no result
    cases same
    cases tryRun_isResult (congrArg Prod.fst run)

/-- What slots and stacks refer to after a run they referred to before it. -/
theorem refersTo_of_tryRun {h : Handle}
    (refers : (exec (env.tryRun n rule) s).2.activation.refersTo h = true) :
    s.activation.refersTo h = true := by
  obtain ⟨-, caller, here, slots⟩ :=
    (restoring env.data env.game env.settings).tryRun_keeps n rule (s := s) trivial
  -- the slots resemble those of before, and the two stacks are put back
  rcases Bool.or_eq_true_iff.mp refers with slot | stack
  · exact Bool.or_eq_true_iff.mpr (.inl (slots.slotsReferTo slot))
  · refine Bool.or_eq_true_iff.mpr (.inr ?_)
    rwa [Activation.stacksReferTo, caller, here] at stack

/-- **A run gives away results and no scratch collections.** Its value is of one
of the kinds that results have; so the value of `run` is `error` if and only if
the rule fails. However it ends, slots and stacks refer to no collection that
they did not refer to before, and thus to none that the run has created, if all
that they referred to existed. -/
theorem tryRun_gives_away_no_scratch (n : Nat) (env : Env) (rule : Option Expr) (s : State) :
    let outcome := exec (env.tryRun n rule) s
    (∀ v, outcome.1 = .ok v → v.kind.isResult = true) ∧
      ((exec (env.run n rule) s).1 = .ok .error ↔ ∃ f, outcome.1 = .error (.failure f)) ∧
      (∀ h, outcome.2.activation.refersTo h = true → s.activation.refersTo h = true) ∧
      (s.Closed → ∀ h, s.store.cells.size ≤ h.index →
        outcome.2.activation.refersTo h = false) := by
  intro outcome
  refine ⟨fun v => tryRun_isResult, run_eq_error_iff, fun h => refersTo_of_tryRun, ?_⟩
  intro closed h created
  refine Bool.eq_false_iff.mpr fun refers => ?_
  -- what is referred to was referred to before, so it existed before
  have existed : h.index < s.store.cells.size := closed h (refersTo_of_tryRun refers)
  exact Nat.not_lt.mpr created existed

end Rulebook
