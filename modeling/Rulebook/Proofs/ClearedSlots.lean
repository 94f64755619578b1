/-
Rulebook/Proofs/ClearedSlots.lean

The slots of a condition after a loop over conditions.  A loop clears them when
its turns are over, and also when it stops on the way, but then only if it has
bound them.  A loop that stops before its first turn has not: one that has no
body, where what comes before it fails, where the context has no conditions, or
where no turn is admitted at all.  Such a loop leaves in the slots what it found
there, of the host of the run or of a loop around it.

`ReachesConditions` says which loops come as far as their turns.  The others end
without a value and with the slots as what comes before the loop has left them
(`loop_clears_iff_reached`).  A loop over no conditions is one of the former,
though it binds none.
-/
import Rulebook.Proofs.ConditionBinding
import Rulebook.Proofs.LoopLimit
import Rulebook.Proofs.Query

namespace Rulebook

open Eval

/-! ### Slots that stay cleared -/

section

variable {a b : Activation}

/-- What puts the slots back or clears them leaves cleared ones cleared. -/
theorem Activation.HoldsNoCondition.of_resembles (h : a.HoldsNoCondition) (like : a.Resembles b) :
    b.HoldsNoCondition := by
  rcases like with same | cleared
  · exact ⟨(same .condition).trans h.1, (same .conditionKeywords).trans h.2⟩
  · exact holdsNoCondition_of_cleared cleared

theorem Activation.holdsNoCondition_congr (same : ∀ slot, b.binding slot = a.binding slot) :
    b.HoldsNoCondition ↔ a.HoldsNoCondition := by
  rw [HoldsNoCondition, HoldsNoCondition, same, same]

theorem Activation.holdsNoCondition_clearCondition (a : Activation) :
    a.clearCondition.HoldsNoCondition :=
  holdsNoCondition_of_cleared fun _ => rfl

theorem Activation.HoldsNoCondition.evalOptional {s : State} (h : s.activation.HoldsNoCondition)
    (n : Nat) (env : Env) (absent : Value) (child : Option Expr) :
    (exec (evalOptional located n env absent child) s).2.activation.HoldsNoCondition := by
  rcases child with - | e
  · exact h
  · obtain ⟨-, -, slots⟩ := eval_restores n env e s
    exact h.of_resembles slots

end

/-! ### Loops that come to their turns -/

namespace Eval

theorem exec_locating_error {α : Type} {m : Eval α} {s t : State} {stop : Stop} (e : Expr)
    (h : exec m s = (.error stop, t)) : ∃ stop', exec (locating e m) s = (.error stop', t) := by
  rw [exec_locating, h]
  cases stop with
  | failure f => exact ⟨.failure (f.locate e), rfl⟩
  | abort message => exact ⟨.abort message, rfl⟩
  | exhausted => exact ⟨.exhausted, rfl⟩

variable {env : Env} {c : Context} {before : Eval Value} {s : State}

/-- Whether a loop comes to its turns: what comes before it succeeds, the context has
conditions, and unless these are none, a first turn is admitted. -/
def ComesToTurns (env : Env) (c : Context) (before : Eval Value) (s : State) : Prop :=
  ∃ first t list, exec before s.enter = (.ok first, t) ∧
    (exec (conditionsOf env c) t).1 = .ok list ∧
    (list.conditions = [] ∨ env.settings.admits 1 = true)

/-- Turns that a loop comes to leave the slots cleared, however they end. -/
theorem holdsNoCondition_closing (env inner : Env) (turn : Condition → Eval Turn)
    {cs : List Condition} (first : Value) (reached : cs = [] ∨ env.settings.admits 1 = true)
    (t : State) :
    (exec (closing (!cs.isEmpty && env.settings.admits 1) (forEach inner turn cs 0 first))
      t).2.activation.HoldsNoCondition := by
  rw [exec_closing]
  rcases run : exec (forEach inner turn cs 0 first) t with ⟨stop | last, u⟩
  · -- a loop over no conditions has a value, so there was one, and it was bound
    cases cs with
    | nil => cases run
    | cons x xs =>
      have admitted : env.settings.admits 1 = true := reached.resolve_left (List.cons_ne_nil x xs)
      simp only [List.isEmpty_cons, Bool.not_false, Bool.true_and, admitted, if_true]
      exact u.activation.holdsNoCondition_clearCondition
  · exact u.activation.holdsNoCondition_clearCondition

/-- Turns of which the first is refused leave everything as it was. -/
theorem exec_closing_refused (env inner : Env) (same : inner.settings = env.settings)
    (turn : Condition → Eval Turn) {cs : List Condition} (first : Value) (nonempty : cs ≠ [])
    (refused : ¬ env.settings.admits 1 = true) (t : State) :
    exec (closing (!cs.isEmpty && env.settings.admits 1) (forEach inner turn cs 0 first)) t =
      (.error (.failure { cause := .loopLimitExceeded (env.settings.loopLimit.getD 0) }), t) := by
  obtain ⟨x, xs, rfl⟩ := List.exists_cons_of_ne_nil nonempty
  -- the first turn is refused, so nothing has been bound that needs clearing
  have stops : exec (forEach inner turn (x :: xs) 0 first) t =
      (.error (.failure { cause := .loopLimitExceeded (env.settings.loopLimit.getD 0) }), t) := by
    rw [forEach, beginTurn_of_not_admits (by rwa [same]), same]
    rfl
  rw [exec_closing, stops]
  simp only [List.isEmpty_cons, Bool.not_false, Bool.true_and, refused, Bool.false_eq_true,
    if_false]

section

variable (gate : Env → Eval Gate) (body : Env → Eval Value) (endGate : Env → Eval Gate)
variable (after : Env → Value → Eval Value)

/-- A loop that comes to its turns leaves the slots cleared, if what comes after
it does not bind them. -/
theorem holdsNoCondition_forEachCondition (reached : ComesToTurns env c before s)
    (hafter : ∀ inner last t, t.activation.HoldsNoCondition →
      (exec (after inner last) t).2.activation.HoldsNoCondition) :
    (exec (forEachCondition env c before gate body endGate after)
      s).2.activation.HoldsNoCondition := by
  obtain ⟨first, t, list, begun, resolved, turns⟩ := reached
  have found := (Query.conditionsOf env c).exec_eq resolved
  let inner := env.holding list.refersTo
  have closed := holdsNoCondition_closing env inner
    (conditionTurn (gate inner) (body inner) (endGate inner)) first turns t
  rw [forEachCondition, exec_inScope, exec_bind_ok begun, exec_bind_ok found]
  -- to leave the scope changes the stacks only
  show (exec (concluding (closing (!list.conditions.isEmpty && env.settings.admits 1)
    (forEach inner _ list.conditions 0 first)) (after inner)) t).2.activation.HoldsNoCondition
  rw [concluding, exec_bind]
  rcases run : exec (closing (!list.conditions.isEmpty && env.settings.admits 1) (forEach inner
    (conditionTurn (gate inner) (body inner) (endGate inner)) list.conditions 0 first)) t with
    ⟨stop | last | v, u⟩
  · rwa [run] at closed
  · rw [run] at closed
    exact hafter inner last u closed
  · rwa [run] at closed

/-- A loop that does not come to its turns ends without a value, in the state that
what comes before it has left. -/
theorem exec_forEachCondition_unreached (unreached : ¬ ComesToTurns env c before s) :
    ∃ stop, exec (forEachCondition env c before gate body endGate after) s =
      (.error stop, s.leave (exec before s.enter).2) := by
  rw [forEachCondition, exec_inScope]
  rcases begun : exec before s.enter with ⟨stop | first, t⟩
  · exact ⟨stop, by rw [exec_bind_error begun]⟩
  rw [exec_bind_ok begun]
  rcases resolved : (exec (conditionsOf env c) t).1 with stop | list
  · have refused := (Query.conditionsOf env c).exec_eq resolved
    exact ⟨stop, by rw [exec_bind_error refused]⟩
  have found := (Query.conditionsOf env c).exec_eq resolved
  -- there are conditions, and the first turn is refused before it binds one
  have unadmitted : ¬ (list.conditions = [] ∨ env.settings.admits 1 = true) := fun turns =>
    unreached ⟨first, t, list, begun, resolved, turns⟩
  obtain ⟨nonempty, refused⟩ := not_or.mp unadmitted
  let inner := env.holding list.refersTo
  have refusal := exec_closing_refused env inner rfl
    (conditionTurn (gate inner) (body inner) (endGate inner)) first nonempty refused t
  have loop : exec (concluding (closing (!list.conditions.isEmpty && env.settings.admits 1)
      (forEach inner (conditionTurn (gate inner) (body inner) (endGate inner)) list.conditions 0
        first)) (after inner)) t = _ := exec_bind_error refusal
  rw [exec_bind_ok found]
  exact ⟨_, congrArg (fun r : Except Stop Value × State => (r.1, s.leave r.2)) loop⟩

end

end Eval

/-! ### Loops of the language -/

section

variable (n : Nat) (env : Env) (c : Context) (before : Option Expr) (body : List Expr) (s : State)

/-- Whether a loop over conditions of the language comes to its turns. -/
def ReachesConditions : Prop :=
  body ≠ [] ∧ ComesToTurns env c (evalOptional located n env .undefined before) s

/-- The state in which a loop over conditions of the language waits for its turns:
what comes before it has been evaluated, unless the loop has no body. -/
def beforeConditions : State :=
  if body.isEmpty then s else (exec (evalOptional located n env .undefined before) s.enter).2

end

section

variable {n : Nat} {env : Env} {c : Context} {before gate : Option Expr} {body : List Expr}
variable {endGate after : Option Expr} {s : State}

theorem ReachesConditions.cleared (reached : ReachesConditions n env c before body s) :
    (exec (eval n env (.forEachCondition c before gate body endGate after))
      s).2.activation.HoldsNoCondition := by
  obtain ⟨hb, turns⟩ := reached
  rw [eval_forEachCondition hb, exec_locating_state]
  refine holdsNoCondition_forEachCondition _ _ _ _ turns fun inner last t cleared => ?_
  exact cleared.evalOptional n inner last after

theorem exec_eval_unreached (unreached : ¬ ReachesConditions n env c before body s) :
    ∃ stop t, exec (eval n env (.forEachCondition c before gate body endGate after)) s =
        (.error stop, t) ∧
      ∀ slot, t.activation.binding slot =
        (beforeConditions n env before body s).activation.binding slot := by
  by_cases hb : body = []
  · -- without a body the loop fails before it evaluates anything
    subst hb
    exact ⟨_, s, rfl, fun slot => rfl⟩
  · have turns : ¬ ComesToTurns env c (evalOptional located n env .undefined before) s :=
      fun turns => unreached ⟨hb, turns⟩
    obtain ⟨stop, ended⟩ := exec_forEachCondition_unreached
      (fun env => evalGate located n env gate) (fun env => evalBody located n env body .undefined)
      (fun env => evalGate located n env endGate)
      (fun env last => evalOptional located n env last after) turns
    obtain ⟨stop', ended'⟩ := exec_locating_error
      (.forEachCondition c before gate body endGate after) ended
    rw [← eval_forEachCondition hb] at ended'
    refine ⟨stop', _, ended', fun slot => ?_⟩
    rw [beforeConditions, if_neg (by rwa [List.isEmpty_iff])]
    rfl

end

/-- **A loop over conditions clears the slots if it comes to its turns.** One that
does, leaves null pointers in both slots of the condition, however it ends. One
that does not, ends without a value, and leaves in every slot what was there
before the turns. So the slots are cleared after a loop if it comes to its turns,
or if they were cleared before these, and not otherwise. -/
theorem loop_clears_iff_reached (n : Nat) (env : Env) (c : Context) (before gate : Option Expr)
    (body : List Expr) (endGate after : Option Expr) (s : State) :
    let run := exec (eval n env (.forEachCondition c before gate body endGate after)) s
    let waiting := beforeConditions n env before body s
    (ReachesConditions n env c before body s → run.2.activation.HoldsNoCondition) ∧
    (¬ ReachesConditions n env c before body s → (∃ stop, run.1 = .error stop) ∧
      ∀ slot, run.2.activation.binding slot = waiting.activation.binding slot) ∧
    (run.2.activation.HoldsNoCondition ↔
      ReachesConditions n env c before body s ∨ waiting.activation.HoldsNoCondition) := by
  intro run waiting
  have unreached : ¬ ReachesConditions n env c before body s → (∃ stop, run.1 = .error stop) ∧
      ∀ slot, run.2.activation.binding slot = waiting.activation.binding slot := by
    intro hr
    obtain ⟨stop, t, ended, same⟩ := exec_eval_unreached hr
    replace ended : run = (.error stop, t) := ended
    exact ⟨⟨stop, by rw [ended]⟩, by rwa [ended]⟩
  refine ⟨ReachesConditions.cleared, unreached, ?_⟩
  -- reached, the loop clears; not reached, it leaves the slots as they waited
  by_cases hr : ReachesConditions n env c before body s
  · exact iff_of_true hr.cleared (.inl hr)
  · refine (Activation.holdsNoCondition_congr (unreached hr).2).trans ?_
    exact (or_iff_right hr).symm

/-- A loop before which there is a division by zero leaves a condition in the slot
that the host of the run has put there. A loop over no conditions clears it. -/
theorem bound_slot_not_cleared :
    let env : Env := ⟨{}, none, {}, fun _ => false⟩
    let condition : Binding := ⟨.collection (some ⟨0⟩), false⟩
    let slots := ({} : Activation).bind .condition condition
    let s : State := ⟨⟨#[{}]⟩, slots.bind .var1 ⟨.conditions (some ⟨0, []⟩), false⟩⟩
    let quotient : Option Expr := some (.arith .div (some (.int 1)) (some (.int 0)))
    let run (before : Option Expr) :=
      exec (eval 0 env (.forEachCondition (.slot .var1) before none [.int 1] none none)) s
    (∃ stop, (run quotient).1 = .error stop) ∧
      (run quotient).2.activation.binding .condition = condition ∧
      ¬ (run quotient).2.activation.HoldsNoCondition ∧
      (run none).2.activation.HoldsNoCondition := by
  intro env condition slots s quotient run
  -- the division by zero comes before the conditions
  have unreached : ¬ ReachesConditions 0 env (.slot .var1) quotient [.int 1] s := by
    rintro ⟨-, first, t, list, begun, -⟩
    cases begun
  have reached : ReachesConditions 0 env (.slot .var1) none [.int 1] s :=
    ⟨List.cons_ne_nil _ _, .undefined, s.enter, ⟨0, []⟩, rfl, rfl, .inl rfl⟩
  obtain ⟨-, fails, clears⟩ :=
    loop_clears_iff_reached 0 env (.slot .var1) quotient none [.int 1] none none s
  obtain ⟨stops, same⟩ := fails unreached
  refine ⟨stops, same .condition, fun cleared => ?_, ?_⟩
  · cases ((clears.mp cleared).resolve_left unreached).1
  · exact (loop_clears_iff_reached 0 env (.slot .var1) none none [.int 1] none none s).1 reached

end Rulebook
