/-
Rulebook/Proofs/Query.lean

Questions.  A step that evaluates no child and records nothing is a question
about the state: it leaves the state as it is, and it ends with an answer or
with a failure, never with another stop (`Eval.Query`).  All loads, all
predicates of the game and all look-ups of contexts are of this sort.  An
expression that only asks ends with the answer or with the cause located at it
(`Expr.ending`).
-/
import Rulebook.Proofs.Outcome

namespace Rulebook.Eval

variable {α β : Type}

/-- Whether a step leaves every state as it is, and has an answer or fails. -/
def Query (m : Eval α) : Prop :=
  ∀ s, ∃ x : Except Cause α, exec m s = (x.mapError fun c => .failure { cause := c }, s)

namespace Query

/-! ### Rules -/

theorem pure (a : α) : Query (Pure.pure a : Eval α) := fun _ => ⟨.ok a, rfl⟩

theorem fail (c : Cause) : Query (Eval.fail c : Eval α) := fun _ => ⟨.error c, rfl⟩

theorem get : Query (MonadState.get : Eval State) := fun s => ⟨.ok s, rfl⟩

theorem ofExcept (x : Except Cause α) : Query (Eval.ofExcept x) := fun s => ⟨x, exec_ofExcept x s⟩

theorem bind {m : Eval α} {f : α → Eval β} (hm : Query m) (hf : ∀ a, Query (f a)) :
    Query (m >>= f) := by
  intro s
  obtain ⟨c | a, h⟩ := hm s
  · exact ⟨.error c, exec_bind_error h⟩
  · obtain ⟨y, h'⟩ := hf a s
    exact ⟨y, (exec_bind_ok h).trans h'⟩

/-- What would come after a failure does not matter. -/
theorem failBind (c : Cause) (f : α → Eval β) : Query (Eval.fail c >>= f) :=
  fun _ => ⟨.error c, rfl⟩

theorem resolve (env : Env) (c : Context) (access : Access) : Query (Eval.resolve env c access) :=
  get.bind fun _ => ofExcept _

/-- A question does not change the state. -/
theorem exec_state {m : Eval α} (hm : Query m) (s : State) : (exec m s).2 = s := by
  obtain ⟨x, h⟩ := hm s
  rw [h]

theorem exec_eq {m : Eval α} (hm : Query m) {s : State} {r : Except Stop α}
    (h : (exec m s).1 = r) : exec m s = (r, s) :=
  Prod.ext h (hm.exec_state s)

/-! ### Questions of the language -/

variable (env : Env)

theorem collection (c : Context) (access : Access) : Query (Eval.collection env c access) := by
  refine (resolve env c access).bind fun v => ?_
  split
  · exact pure _
  · exact fail _

theorem conditionsOf (c : Context) : Query (Eval.conditionsOf env c) := by
  refine (resolve env c .read).bind fun v => ?_
  split
  · exact pure _
  · exact fail _

theorem elementsOf (c : Context) : Query (Eval.elementsOf env c) := by
  refine (resolve env c .read).bind fun v => ?_
  split
  · exact pure _
  · exact fail _

theorem contextInt (c : Context) : Query (Eval.contextInt c) := by
  refine get.bind fun s => ?_
  split
  · exact fail _
  · split
    · exact pure _
    · exact fail _

theorem contextPrototype (c : Context) : Query (Eval.contextPrototype c) := by
  refine get.bind fun s => ?_
  split
  · exact fail _
  · exact pure _

theorem isNull (c : Context) : Query (Eval.isNull env c) := by
  refine (resolve env c .inspect).bind fun v => ?_
  split
  case h_6 =>
    -- an error value is null in a variable, and no reference anywhere else
    split
    · exact pure _
    · exact fail _
  case h_7 => exact fail _
  all_goals exact pure _

theorem retrieve (h : Handle) (k : PropertyKey) (schema : Schema) :
    Query (Eval.retrieve env h k schema) :=
  get.bind fun _ => pure _

theorem has (c : Context) (k : PropertyKey) : Query (Eval.has env c k) := by
  unfold Eval.has Eval.hasKey
  split
  · exact failBind _ _
  · exact (collection env c .read).bind fun _ => (get.bind fun _ => pure _).bind fun _ => pure _

theorem load (c : Context) (k : PropertyKey) : Query (Eval.load env c k) := by
  unfold Eval.load
  split
  · exact failBind _ _
  · exact (collection env c .read).bind fun _ => (ofExcept _).bind fun _ => retrieve env _ _ _

theorem loadFrom (c : Context) (property : PrototypeId) (param : Context) :
    Query (Eval.loadFrom env c property param) := by
  unfold Eval.loadFrom
  split
  · exact failBind _ _
  · refine (collection env c .read).bind fun h => (ofExcept _).bind fun schema => ?_
    split
    · exact retrieve env _ _ _
    · refine (resolve env param .read).bind fun v => ?_
      split
      · exact retrieve env _ _ _
      · exact fail _

/-- A predicate of the game is a question. -/
theorem predicate (f : State → Except Cause Bool) :
    Query (do return .bool (← Eval.ofExcept (f (← MonadState.get))) : Eval Value) :=
  get.bind fun _ => (ofExcept _).bind fun _ => pure _

end Query

end Rulebook.Eval

namespace Rulebook

open Eval

/-! ### Answers -/

/-- How an expression ends that has an answer, or a cause to fail, of its own. -/
def Expr.ending (e : Expr) (answer : Except Cause Value) : Except Stop Value :=
  answer.mapError fun c => .failure (Failure.locate { cause := c } e)

theorem exec_locating_answer {e : Expr} {m : Eval Value} {s t : State} {answer : Except Cause Value}
    (h : exec m s = (answer.mapError fun c => .failure { cause := c }, t)) :
    exec (locating e m) s = (e.ending answer, t) := by
  rw [exec_locating, h]
  cases answer <;> rfl

/-- A predicate of the game ends with the answer to the question it asks, and
changes nothing. -/
theorem exec_predicate (e : Expr) (ask : State → Except Cause Bool) (s : State) :
    exec (locating e do return Value.bool (← ofExcept (ask (← MonadState.get)))) s =
      (e.ending ((ask s).map .bool), s) := by
  refine exec_locating_answer ?_
  rw [exec_bind_ok (exec_get s)]
  rcases answer : ask s with c | b
  · rfl
  · rfl

namespace Env

variable {env : Env} {g : Game}

theorem boundGame_eq_ok_iff : env.boundGame = .ok g ↔ env.game = some g := by
  unfold boundGame
  split
  next g' bound => simp [bound]
  next bound => simp [bound]

section

variable {α β : Type} {x : Except Cause α} {f : α → Except Cause β}

theorem bind_ok {a : α} (h : x = .ok a) : (x >>= f) = f a := by rw [h]; rfl

theorem bind_error {c : Cause} (h : x = .error c) : (x >>= f) = .error c := by rw [h]; rfl

/-- A chain of look-ups has an answer if each of them has. -/
theorem bind_eq_ok_iff {b : β} : (x >>= f) = .ok b ↔ ∃ a, x = .ok a ∧ f a = .ok b := by
  cases x <;> simp [Bind.bind, Except.bind]

end

end Env

end Rulebook
