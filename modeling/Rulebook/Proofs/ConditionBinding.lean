/-
Rulebook/Proofs/ConditionBinding.lean

What the slots of a condition hold during a turn.  A loop over conditions
binds them at the start of every turn and clears them when it ends, and a
loop inside of the turn is no exception: where it ends, the slots of the turn
around it are cleared too.  So the gates and the statements of a turn start
with the slots bound to the condition of the turn, or, if a loop over
conditions occurs in one of those before, perhaps with null pointers
(`Activation.InTurn`).

That this holds wherever a part of a turn starts is said by a loop that is
watched.  Before each part something is done that does nothing as long as it
holds; and whatever it would do otherwise, the loop is the same
(`watchedLoop_eq_eval`).
-/
import Rulebook.Proofs.Restore

namespace Rulebook

open Eval

/-! ### The slots of a condition -/

namespace Activation

/-- Whether the slots of a condition are bound to `c`: its properties can be
written, its keywords can not. -/
def HoldsCondition (a : Activation) (c : Condition) : Prop :=
  a.binding .condition = ⟨.collection (some c.properties), false⟩ ∧
    a.binding .conditionKeywords = ⟨.prototypeVector (some c.keywords), true⟩

/-- Whether the slots of a condition are cleared. -/
def HoldsNoCondition (a : Activation) : Prop :=
  a.binding .condition = ⟨.collection none, false⟩ ∧
    a.binding .conditionKeywords = ⟨.prototypeVector none, false⟩

/-- What holds in a turn for the condition `c` once some of its parts have been
evaluated: the slots are bound to the condition, or they are cleared and a loop
over conditions occurs in one of those parts. -/
def InTurn (a : Activation) (c : Condition) (earlier : List Expr) : Prop :=
  a.HoldsCondition c ∨
    a.HoldsNoCondition ∧ ∃ e ∈ earlier, ∃ x : Expr, x.Occurs e ∧ x.LoopsConditions

variable {a b : Activation} {c : Condition} {earlier later : List Expr}

theorem holdsCondition_bindCondition (a : Activation) (c : Condition) :
    (a.bindCondition c).HoldsCondition c :=
  ⟨a.binding_bindCondition_condition c, a.binding_bindCondition_conditionKeywords c⟩

theorem holdsNoCondition_of_cleared (h : ∀ slot, b.binding slot = a.clearCondition.binding slot) :
    b.HoldsNoCondition :=
  ⟨(h .condition).trans a.binding_clearCondition_condition,
    (h .conditionKeywords).trans a.binding_clearCondition_conditionKeywords⟩

/-- A turn goes on as long as the slots are what they were. -/
theorem InTurn.mono (h : a.InTurn c earlier) (same : ∀ slot, b.binding slot = a.binding slot)
    (sub : earlier ⊆ later) : b.InTurn c later := by
  rcases h with ⟨condition, keywords⟩ | ⟨⟨condition, keywords⟩, e, he, loop⟩
  · exact .inl ⟨(same _).trans condition, (same _).trans keywords⟩
  · exact .inr ⟨⟨(same _).trans condition, (same _).trans keywords⟩, e, sub he, loop⟩

end Activation

/-! ### Rules without loops over conditions -/

/-- Rules without loops over conditions leave every slot as it was. -/
def steady (data : StaticData) (game : Option Game) (settings : Settings) :
    Conduct data game settings True False where
  whole s t := ∀ slot, t.activation.binding slot = s.activation.binding slot
  inside s t := ∀ slot, t.activation.binding slot = s.activation.binding slot
  whole_refl _ _ := rfl
  whole_trans h h' slot := (h' slot).trans (h slot)
  inside_trans h h' slot := (h' slot).trans (h slot)
  inside_of_whole _ _ h := h
  record _ _ _ := ⟨trivial, fun _ => rfl⟩
  enter _ := trivial
  leave _ _ h := ⟨trivial, h⟩
  rebind _ _ := ⟨trivial, fun _ => rfl⟩
  bind never := never.elim
  clear never := never.elim

theorem eval_keeps_slots (n : Nat) (env : Env) {e : Expr}
    (loopless : ∀ x : Expr, x.Occurs e → ¬ x.LoopsConditions) (s : State) (slot : Slot) :
    (exec (eval n env e) s).2.activation.binding slot = s.activation.binding slot :=
  ((steady env.data env.game env.settings).eval_keeps
    ⟨fun _ _ _ => trivial, loopless⟩ (s := s) trivial).2 slot

/-! ### Parts of a turn -/

variable {n : Nat} {env : Env} {c : Condition} {s : State} {earlier : List Expr}

/-- **A part of a turn leaves a turn behind.** -/
theorem Activation.InTurn.eval (h : s.activation.InTurn c earlier) (n : Nat) (env : Env)
    (e : Expr) : (exec (eval n env e) s).2.activation.InTurn c (earlier ++ [e]) := by
  obtain ⟨-, -, slots⟩ := eval_restores n env e s
  -- of any expression it is known that it restores the slots or clears them, but
  -- not which of the two; a loop in it excuses the turn from then on
  by_cases loop : ∃ x : Expr, x.Occurs e ∧ x.LoopsConditions
  · rcases slots with same | cleared
    · exact h.mono same (List.subset_append_left _ _)
    · refine .inr ⟨Activation.holdsNoCondition_of_cleared cleared, e, ?_, loop⟩
      exact List.mem_append_right _ List.mem_cons_self
  · have loopless : ∀ x : Expr, x.Occurs e → ¬ x.LoopsConditions :=
      fun x hx hloop => loop ⟨x, hx, hloop⟩
    exact h.mono (eval_keeps_slots n env loopless s) (List.subset_append_left _ _)

namespace Eval

/-! ### Watched loops -/

section

variable (n : Nat) (env : Env)

/-- A gate before which something is done. -/
def watchedGate (watch : Eval Unit) : Option Expr → Eval Gate
  | none => pure .pass
  | some e => do
    watch
    return .ofValue (← eval n env e)

/-- Statements before each of which something is done, given those before it. -/
def watchedBody (watch : List Expr → Eval Unit) : List Expr → List Expr → Value → Eval Value
  | _, [], last => pure last
  | earlier, e :: es, _ => do
    watch earlier
    let v ← eval n env e
    watchedBody watch (earlier ++ [e]) es v

variable (watch : Condition → List Expr → Eval Unit) (gate : Option Expr) (body : List Expr)
variable (endGate : Option Expr)

/-- A turn for a condition that is watched: before each gate and each statement
something is done, given the condition and what comes before in the turn. -/
def watchedTurn (condition : Condition) : Eval Turn :=
  conditionTurn (watchedGate n env (watch condition []) gate)
    (watchedBody n env (watch condition) gate.toList body .undefined)
    (watchedGate n env (watch condition (gate.toList ++ body)) endGate) condition

/-- A loop over conditions whose turns are watched. -/
def watchedLoop (c : Context) (before after : Option Expr) : Eval Value :=
  locating (.forEachCondition c before gate body endGate after) <|
    if body.isEmpty then fail (.missingField "ScopeLoopBody")
    else
      inScope fun _ _ => do
        let first ← evalOptional located n env .undefined before
        let list ← conditionsOf env c
        let env := env.holding list.refersTo
        let turn := watchedTurn n env watch gate body endGate
        let bound := !list.conditions.isEmpty && env.settings.admits 1
        concluding (closing bound (forEach env turn list.conditions 0 first)) fun last =>
          evalOptional located n env last after

end

/-! ### What is watched does not matter -/

section

variable {watch : Condition → List Expr → Eval Unit}
variable (neutral : ∀ condition earlier s, s.activation.InTurn condition earlier →
  exec (watch condition earlier) s = (.ok (), s))
variable (n env)

include neutral

/-- A watched gate is the gate, and after it the turn goes on. -/
theorem watchedGate_eq (gate : Option Expr) (h : s.activation.InTurn c earlier) :
    exec (watchedGate n env (watch c earlier) gate) s = exec (evalGate located n env gate) s ∧
      (exec (evalGate located n env gate) s).2.activation.InTurn c (earlier ++ gate.toList) := by
  rcases gate with - | e
  · refine ⟨rfl, ?_⟩
    rw [Option.toList_none, List.append_nil]
    exact h
  · have start := neutral c earlier s h
    refine ⟨exec_bind_ok start, ?_⟩
    -- a gate leaves the state that its expression leaves
    have left : (exec (evalGate located n env (some e)) s).2 = (exec (eval n env e) s).2 := by
      show (exec (eval n env e >>= fun v => pure (Gate.ofValue v)) s).2 = _
      rw [exec_bind]
      rcases exec (eval n env e) s with ⟨stop | v, t⟩ <;> rfl
    rw [left]
    exact h.eval n env e

/-- A watched body is the body, and after it the turn goes on. -/
theorem watchedBody_eq (body : List Expr) : ∀ {earlier : List Expr} {s : State} (last : Value),
      s.activation.InTurn c earlier →
      exec (watchedBody n env (watch c) earlier body last) s =
          exec (evalBody located n env body last) s ∧
        (exec (evalBody located n env body last) s).2.activation.InTurn c (earlier ++ body) := by
  induction body with
  | nil =>
    intro earlier s last h
    refine ⟨rfl, ?_⟩
    rw [List.append_nil]
    exact h
  | cons e es ih =>
    intro earlier s last h
    have start := neutral c earlier s h
    have next := h.eval n env e
    have parts : earlier ++ e :: es = earlier ++ [e] ++ es := by simp
    rw [watchedBody, exec_bind_ok start, evalBody, parts]
    show exec (eval n env e >>= fun v => _) s = exec (eval n env e >>= fun v => _) s ∧
      (exec (eval n env e >>= fun v => _) s).2.activation.InTurn c _
    rcases run : exec (eval n env e) s with ⟨stop | v, t⟩
    · -- the statements after a stop are not evaluated
      rw [run] at next
      rw [exec_bind_error run, exec_bind_error run]
      exact ⟨rfl, next.mono (fun _ => rfl) (List.subset_append_left _ _)⟩
    · rw [run] at next
      rw [exec_bind_ok run, exec_bind_ok run]
      exact ih v next

/-- A watched turn is the turn. -/
theorem watchedTurn_eq (gate : Option Expr) (body : List Expr) (endGate : Option Expr) :
    watchedTurn n env watch gate body endGate =
      conditionTurn (evalGate located n env gate) (evalBody located n env body .undefined)
        (evalGate located n env endGate) := by
  funext condition s
  -- the turn starts by binding the slots, whatever they held
  let start := s.withActivation (s.activation.bindCondition condition)
  have bound : start.activation.InTurn condition [] :=
    .inl (s.activation.holdsCondition_bindCondition condition)
  obtain ⟨gateEq, gateKept⟩ := watchedGate_eq n env neutral gate bound
  refine exec_bind_congr rfl fun u t begun => ?_
  cases begun
  refine exec_bind_congr gateEq fun decision t passed => ?_
  replace passed : exec (evalGate located n env gate) start = (.ok decision, t) := passed
  rw [passed] at gateKept
  cases decision with
  | stop => rfl
  | leave v => rfl
  | pass =>
    obtain ⟨bodyEq, bodyKept⟩ := watchedBody_eq n env neutral body .undefined gateKept
    refine exec_bind_congr bodyEq fun last u done => ?_
    rw [done] at bodyKept
    exact exec_bind_congr (watchedGate_eq n env neutral endGate bodyKept).1 fun _ _ _ => rfl

end

end Eval

/-- **A condition is bound throughout its turn, up to loops over conditions in it.**
Let something be done before each gate and each statement of each turn of a
loop over conditions, and let it do nothing as long as the slots are bound to
the condition of the turn, or are cleared and a loop over conditions occurs in
what was evaluated before in the turn.  Then the loop is the same as without
it. -/
theorem watchedLoop_eq_eval (n : Nat) (env : Env) (c : Context) (before gate : Option Expr)
    (body : List Expr) (endGate after : Option Expr) (watch : Condition → List Expr → Eval Unit)
    (neutral : ∀ condition earlier s, s.activation.InTurn condition earlier →
      exec (watch condition earlier) s = (.ok (), s)) :
    watchedLoop n env watch gate body endGate c before after =
      eval n env (.forEachCondition c before gate body endGate after) := by
  -- the loops differ in their turns only
  have turn := fun env => watchedTurn_eq n env neutral gate body endGate
  rw [watchedLoop, eval, evalWith]
  simp only [turn]
  rfl

/-- A loop over the conditions in a slot, and then a look at the slot of the
condition. -/
def nestedBody : List Expr :=
  [.forEachCondition (.slot .var1) none none [.int 1] none none, .isNull (.slot .condition)]

/-- A state with one condition, in a list in a slot. -/
def oneCondition : State where
  store := ⟨#[{}]⟩
  activation := ({} : Activation).bind .var1 ⟨.conditions (some ⟨0, [⟨⟨0⟩, []⟩]⟩), false⟩

/-- Go on if a slot refers to the properties of a condition, or if it is a null
pointer and something was evaluated before. -/
def expectCondition (condition : Condition) (earlier : List Expr) : Value → Eval Unit
  | .collection (some h) => if h = condition.properties then pure () else throw .exhausted
  | .collection none => if earlier.isEmpty then throw .exhausted else pure ()
  | _ => throw .exhausted

/-- A loop around another one, with a check of the slot before each statement. -/
theorem nestedBody_watched :
    let env : Env := ⟨{}, none, {}, fun _ => false⟩
    let watch : Condition → List Expr → Eval Unit := fun condition earlier => do
      expectCondition condition earlier ((← get).activation.binding .condition).value
    (∀ condition earlier s, s.activation.InTurn condition earlier →
      exec (watch condition earlier) s = (.ok (), s)) ∧
    (exec (watchedLoop 0 env watch none nestedBody none (.slot .var1) none none)
      oneCondition).1 = .ok (.bool true) := by
  intro env watch
  have neutral : ∀ condition earlier s, s.activation.InTurn condition earlier →
      exec (watch condition earlier) s = (.ok (), s) := by
    intro condition earlier s h
    show exec (expectCondition condition earlier (s.activation.binding .condition).value) s = _
    -- bound, or cleared by an expression that has run before
    rcases h with ⟨held, -⟩ | ⟨⟨cleared, -⟩, e, he, -⟩
    · rw [held, expectCondition, if_pos rfl, exec_pure]
    · have begun : ¬ earlier.isEmpty = true := by
        rw [List.isEmpty_iff]
        exact List.ne_nil_of_mem he
      rw [cleared, expectCondition, if_neg begun, exec_pure]
  have run : (exec (eval 0 env (.forEachCondition (.slot .var1) none none nestedBody none none))
      oneCondition).1 = .ok (.bool true) := rfl
  refine ⟨neutral, ?_⟩
  rw [watchedLoop_eq_eval 0 env (.slot .var1) none none nestedBody none none watch neutral, run]

/-- The slots are not always bound: behind a loop inside of the turn they can
be cleared, so what is done where they are not bound may matter. -/
theorem condition_not_always_bound :
    let env : Env := ⟨{}, none, {}, fun _ => false⟩
    ¬ ∀ watch : Condition → List Expr → Eval Unit,
      (∀ condition earlier s, s.activation.HoldsCondition condition →
        exec (watch condition earlier) s = (.ok (), s)) →
      exec (watchedLoop 0 env watch none nestedBody none (.slot .var1) none none) oneCondition =
        exec (eval 0 env (.forEachCondition (.slot .var1) none none nestedBody none none))
          oneCondition := by
  intro env same
  -- a watch that is neutral while the slot holds, and gives up once it is cleared
  let watch : Condition → List Expr → Eval Unit := fun _ _ => do
    if ((← get).activation.binding .condition).value.isNull then throw .exhausted
  have neutral : ∀ condition earlier s, s.activation.HoldsCondition condition →
      exec (watch condition earlier) s = (.ok (), s) := by
    intro condition earlier s held
    show exec (if (s.activation.binding .condition).value.isNull then throw .exhausted
      else pure ()) s = _
    rw [held.1]
    rfl
  have stopped : (exec (watchedLoop 0 env watch none nestedBody none (.slot .var1) none none)
      oneCondition).1 = .error .exhausted := rfl
  rw [same watch neutral] at stopped
  cases stopped

end Rulebook
