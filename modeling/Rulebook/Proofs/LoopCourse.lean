/-
Rulebook/Proofs/LoopCourse.lean

Courses of loops over elements.  The two loops of this sort place their gates
differently: the loop over conditions binds its slots, and has one gate before
the body and one behind it; the loop over prototypes has one gate, behind which
it exposes the element.  Both are one turn with five parts (`Parts.turn`), some
of which do nothing.

A run of such a loop is a row of complete turns (`Parts.Through`) and then at
most one more turn that is refused or in which a part does not let pass
(`Parts.Course`).  The elements on which the body ran to completion are those
of the complete turns, and one more if it is the gate behind the body that
does not let pass.  How the course ends decides about the rest of the loop
(`Exit.result`), and no other part of it is evaluated
(`loops_run_first_elements`).
-/
import Rulebook.Proofs.LoopLimit
import Rulebook.Proofs.Query

namespace Rulebook

open Eval

/-! ### Located failures -/

theorem Failure.operator_locate (f : Failure) (e : Expr) : (f.locate e).operator ≠ none := by
  rw [locate]
  rcases operator : f.operator with - | op
  · exact Option.some_ne_none e.operator
  · rw [operator]
    exact Option.some_ne_none op

theorem Failure.locate_of_located {f : Failure} (h : f.operator ≠ none) (e : Expr) :
    f.locate e = f := by
  obtain ⟨op, operator⟩ := Option.ne_none_iff_exists'.mp h
  rw [locate, operator]

namespace Eval

variable {α β : Type}

/-- Whether the failures of a step are located. -/
def Located (m : Eval α) : Prop :=
  ∀ s f t, exec m s = (.error (.failure f), t) → f.operator ≠ none

theorem Located.pure (a : α) : Located (pure a : Eval α) := by
  intro s f t failed
  rw [exec_pure] at failed
  cases failed

theorem Located.bind {m : Eval α} {f : α → Eval β} (hm : Located m) (hf : ∀ a, Located (f a)) :
    Located (m >>= f) := by
  intro s g t failed
  rcases run : exec m s with ⟨stop | a, u⟩
  · cases (exec_bind_error run).symm.trans failed
    exact hm s g t run
  · exact hf a u g t ((exec_bind_ok run).symm.trans failed)

theorem Located.inScope {body : Activation → Handle → Eval α} (h : ∀ a g, Located (body a g)) :
    Located (inScope body) := by
  intro s f t failed
  rw [exec_inScope] at failed
  have ended : (exec (body s.activation s.frame) s.enter).1 = .error (.failure f) :=
    congrArg Prod.fst failed
  exact h s.activation s.frame s.enter f _ (Prod.ext ended rfl)

theorem located_locating (e : Expr) (m : Eval α) : Located (locating e m) := by
  intro s f t failed
  rw [exec_locating] at failed
  rcases run : exec m s with ⟨stop | a, u⟩
  · rw [run] at failed
    cases stop with
    | failure g =>
      cases failed
      exact g.operator_locate e
    | abort message => cases failed
    | exhausted => cases failed
  · rw [run] at failed
    cases failed

theorem located_eval (n : Nat) (env : Env) (e : Expr) : Located (eval n env e) := by
  unfold eval evalWith
  exact located_locating e _

theorem located_evalOptional (n : Nat) (env : Env) (absent : Value) (child : Option Expr) :
    Located (evalOptional located n env absent child) := by
  rcases child with - | e
  · exact .pure absent
  · exact located_eval n env e

theorem located_evalGate (n : Nat) (env : Env) (gate : Option Expr) :
    Located (evalGate located n env gate) := by
  rcases gate with - | e
  · exact .pure Gate.pass
  · exact (located_eval n env e).bind fun v => .pure (Gate.ofValue v)

theorem located_evalBody (n : Nat) (env : Env) (body : List Expr) (last : Value) :
    Located (evalBody located n env body last) := by
  induction body generalizing last with
  | nil => exact .pure last
  | cons e es ih => exact (located_eval n env e).bind ih

end Eval

/-! ### Parts of a turn -/

/-- The parts of a turn for an element, in their order: what is bound for the
element, a gate, what is exposed behind it, the body, and another gate. -/
structure Parts (α : Type) where
  bind : α → State → State
  gate : Eval Gate
  expose : α → State → State
  body : Eval Value
  endGate : Eval Gate

namespace Parts

variable {α : Type}

/-- A turn behind its first gate. -/
def behindGate (P : Parts α) (x : α) : Eval Turn := do
  modify (P.expose x)
  let last ← P.body
  gated P.endGate (pure (.next last))

/-- A turn. -/
def turn (P : Parts α) (x : α) : Eval Turn := do
  modify (P.bind x)
  gated P.gate (P.behindGate x)

/-- A turn for a condition. -/
def ofCondition (gate : Eval Gate) (body : Eval Value) (endGate : Eval Gate) : Parts Condition where
  bind c s := s.withActivation (s.activation.bindCondition c)
  gate := gate
  expose _ s := s
  body := body
  endGate := endGate

/-- A turn for a prototype. -/
def ofElement (frame : Handle) (gate : Eval Gate) (body : Eval Value) : Parts PrototypeId where
  bind _ s := s
  gate := gate
  expose p s := s.record frame (.ofProperty .loopElement) (.prototype p)
  body := body
  endGate := pure .pass

theorem turn_ofCondition (gate : Eval Gate) (body : Eval Value) (endGate : Eval Gate) :
    (ofCondition gate body endGate).turn = conditionTurn gate body endGate := by
  funext c s
  rfl

theorem turn_ofElement (frame : Handle) (gate : Eval Gate) (body : Eval Value) :
    (ofElement frame gate body).turn = elementTurn frame gate body := by
  funext p s
  rfl

/-- Whether the failures of all parts are located. -/
structure Located (P : Parts α) : Prop where
  gate : Eval.Located P.gate
  body : Eval.Located P.body
  endGate : Eval.Located P.endGate

end Parts

/-! ### Ends of a loop -/

/-- What ends a loop over elements. -/
inductive Exit where
  /-- There is no element left. -/
  | exhausted (last : Value)
  /-- A gate was false. -/
  | stopped
  /-- A gate was no truth value. -/
  | left (v : Value)
  /-- A part had no value, or a turn was refused. -/
  | failed (stop : Stop)

namespace Exit

/-- The end that a gate makes, unless it lets pass. -/
def ofGate? : Except Stop Gate → Option Exit
  | .ok .pass => none
  | .ok .stop => some .stopped
  | .ok (.leave v) => some (.left v)
  | .error stop => some (.failed stop)

theorem pass_of_ofGate? {r : Except Stop Gate} (h : ofGate? r = none) : r = .ok .pass := by
  rcases r with stop | decision
  · cases h
  · cases decision <;> cases h
    rfl

/-- The same end as the ending of a loop. -/
def ending : Exit → Except Stop Ending
  | exhausted last => .ok (.finished last)
  | stopped => .ok (.finished (.bool false))
  | left v => .ok (.left v)
  | failed stop => .error stop

/-- The value of a loop that has nothing after it. -/
def value : Exit → Except Stop Value
  | exhausted last => .ok last
  | stopped => .ok (.bool false)
  | left v => .ok v
  | failed stop => .error stop

/-- How a loop ends whose turns ended in `t`: what comes after it is evaluated
when no element is left, or a gate was false. -/
def result (after : Value → Eval Value) (exit : Exit) (t : State) : Except Stop Value × State :=
  match exit with
  | exhausted last => exec (after last) t
  | stopped => exec (after (.bool false)) t
  | left v => (.ok v, t)
  | failed stop => (.error stop, t)

/-- The slots of a condition are cleared, unless a loop fails that
has `bound` none. -/
def settled (bound : Bool) (exit : Exit) (t : State) : State :=
  match exit with
  | failed _ => if bound then t.withActivation t.activation.clearCondition else t
  | _ => t.withActivation t.activation.clearCondition

/-- The same end with its failure located. -/
def locate (e : Expr) : Exit → Exit
  | failed (.failure f) => failed (.failure (f.locate e))
  | exit => exit

theorem locate_failed {α : Type} {m : Eval α} (hm : Located m) {s t : State} {stop : Stop}
    (run : exec m s = (.error stop, t)) (e : Expr) : (failed stop).locate e = failed stop := by
  cases stop with
  | failure f => rw [locate, Failure.locate_of_located (hm s f t run)]
  | abort message => rfl
  | exhausted => rfl

theorem locate_ofGate? {gate : Eval Gate} (hgate : Located gate) {s t : State}
    {r : Except Stop Gate} (run : exec gate s = (r, t)) {exit : Exit}
    (ends : ofGate? r = some exit) (e : Expr) : exit.locate e = exit := by
  rcases r with stop | decision
  · cases ends
    exact locate_failed hgate run e
  · cases decision <;> cases ends <;> rfl

theorem settled_locate (bound : Bool) (e : Expr) (exit : Exit) (t : State) :
    (exit.locate e).settled bound t = exit.settled bound t := by
  cases exit with
  | failed stop => cases stop <;> rfl
  | _ => rfl

theorem result_pure (exit : Exit) (t : State) :
    exit.result (fun last => pure last) t = (exit.value, t) := by
  cases exit <;> rfl

theorem exec_concluding {loop : Eval Ending} {s t : State} {exit : Exit}
    (h : exec loop s = (exit.ending, t)) (after : Value → Eval Value) :
    exec (concluding loop after) s = exit.result after t := by
  rw [concluding, exec_bind, h]
  cases exit <;> rfl

theorem exec_closing {loop : Eval Ending} {s t : State} {exit : Exit}
    (h : exec loop s = (exit.ending, t)) (bound : Bool) :
    exec (closing bound loop) s = (exit.ending, exit.settled bound t) := by
  rw [Eval.exec_closing, h]
  cases exit <;> rfl

/-- To locate the failures of a loop is to locate that of its turns. -/
theorem exec_locating_leave {m : Eval Value} {s s₀ t : State} {exit : Exit}
    {after : Value → Eval Value} (hafter : ∀ last, Located (after last))
    (h : exec m s = ((exit.result after t).1, s₀.leave (exit.result after t).2)) (e : Expr) :
    exec (locating e m) s =
      (((exit.locate e).result after t).1, s₀.leave ((exit.locate e).result after t).2) := by
  -- what comes after has located its own failures, so they are passed on
  have kept : ∀ last, exec m s = ((exec (after last) t).1, s₀.leave (exec (after last) t).2) →
      exec (locating e m) s = ((exec (after last) t).1, s₀.leave (exec (after last) t).2) := by
    intro last h
    rw [exec_locating, h]
    rcases run : exec (after last) t with ⟨stop | v, u⟩
    · cases stop with
      | failure f =>
        exact congrArg (fun g => (Except.error (Stop.failure g), s₀.leave u))
          (Failure.locate_of_located (hafter last t f u run) e)
      | abort message => rfl
      | exhausted => rfl
    · rfl
  cases exit with
  | exhausted last => exact kept last h
  | stopped => exact kept (.bool false) h
  -- the exits with nothing after them are located here
  | left v =>
    rw [exec_locating, h]
    rfl
  | failed stop =>
    rw [exec_locating, h]
    cases stop <;> rfl

end Exit

/-! ### Courses -/

namespace Parts

variable {α : Type}

/-- Whether the body runs to completion in a turn for `x` from `s`, with the value
`v`, which leaves `u`. -/
inductive Completes (P : Parts α) (x : α) (s : State) (v : Value) (u : State) : Prop
  | intro {t : State} (gate : exec P.gate (P.bind x s) = (.ok .pass, t))
    (body : exec P.body (P.expose x t) = (.ok v, u))

/-- Whether complete turns, one for each element in order, lead from `s`, with `n`
turns before and the value `first`, to `t` with the value `last`. -/
inductive Through (P : Parts α) (env : Env) :
    List α → Nat → Value → State → Value → State → Prop
  | nil {n : Nat} {last : Value} {s : State} : Through P env [] n last s last s
  | cons {x : α} {xs : List α} {n : Nat} {first v last : Value} {s u w t : State}
    (admitted : env.settings.admits (n + 1) = true) (completes : P.Completes x s v u)
    (endGate : exec P.endGate u = (.ok .pass, w)) (more : Through P env xs (n + 1) v w last t) :
    Through P env (x :: xs) n first s last t

/-- The courses of a loop over elements, after `n` turns with the value `first`
from `s`: the elements, those on which the body ran to completion, what ended the
loop and the state that is left. Behind complete turns for the elements that are
`done`, there is no element left, or the next turn is refused, or its gate, its
body or the gate behind its body ends the loop. -/
inductive Course (P : Parts α) (env : Env) (refusal : Failure) (n : Nat) (first : Value)
    (s : State) : List α → List α → Exit → State → Prop
  | exhausted {xs : List α} {last : Value} {t : State}
    (through : P.Through env xs n first s last t) :
    Course P env refusal n first s xs xs (.exhausted last) t
  | refused (done rest : List α) {x : α} {last : Value} {t : State}
    (through : P.Through env done n first s last t)
    (refused : ¬ env.settings.admits (n + done.length + 1) = true) :
    Course P env refusal n first s (done ++ x :: rest) done (.failed (.failure refusal)) t
  | gate (done rest : List α) {x : α} {last : Value} {t u : State} {r : Except Stop Gate}
    {exit : Exit} (through : P.Through env done n first s last t)
    (admitted : env.settings.admits (n + done.length + 1) = true)
    (gate : exec P.gate (P.bind x t) = (r, u)) (ends : Exit.ofGate? r = some exit) :
    Course P env refusal n first s (done ++ x :: rest) done exit u
  | body (done rest : List α) {x : α} {last : Value} {t u w : State} {stop : Stop}
    (through : P.Through env done n first s last t)
    (admitted : env.settings.admits (n + done.length + 1) = true)
    (gate : exec P.gate (P.bind x t) = (.ok .pass, u))
    (body : exec P.body (P.expose x u) = (.error stop, w)) :
    Course P env refusal n first s (done ++ x :: rest) done (.failed stop) w
  | endGate (done rest : List α) {x : α} {last v : Value} {t u w : State}
    {r : Except Stop Gate} {exit : Exit} (through : P.Through env done n first s last t)
    (admitted : env.settings.admits (n + done.length + 1) = true)
    (completes : P.Completes x t v u) (endGate : exec P.endGate u = (r, w))
    (ends : Exit.ofGate? r = some exit) :
    Course P env refusal n first s (done ++ x :: rest) (done ++ [x]) exit w

variable {P : Parts α} {env : Env} {refusal : Failure} {n : Nat} {first v : Value}
variable {s t u w : State} {x : α} {xs completed : List α} {exit : Exit} {β : Type}

/-- The body runs to completion on the first few elements. -/
theorem Course.completed_initial (course : P.Course env refusal n first s xs completed exit t) :
    completed <+: xs := by
  cases course with
  | exhausted => exact List.prefix_refl xs
  | refused | gate | body => exact List.prefix_append _ _
  | endGate done rest =>
    refine ⟨rest, ?_⟩
    rw [List.append_assoc, List.singleton_append]

/-- A complete turn in front of a course. -/
theorem Course.cons (admitted : env.settings.admits (n + 1) = true)
    (completes : P.Completes x s v u) (endGate : exec P.endGate u = (.ok .pass, w))
    (course : P.Course env refusal (n + 1) v w xs completed exit t) :
    P.Course env refusal n first s (x :: xs) (x :: completed) exit t := by
  have count : ∀ done : List α, n + 1 + done.length + 1 = n + (x :: done).length + 1 := by
    intro done
    rw [List.length_cons]
    omega
  -- one more complete turn in front, and the same end
  cases course with
  | exhausted through => exact .exhausted (.cons admitted completes endGate through)
  | refused _ rest through refused =>
    rw [count] at refused
    exact .refused (x :: completed) rest (.cons admitted completes endGate through) refused
  | gate _ rest through admits gate ends =>
    rw [count] at admits
    exact .gate (x :: completed) rest (.cons admitted completes endGate through) admits gate ends
  | body _ rest through admits gate body =>
    rw [count] at admits
    exact .body (x :: completed) rest (.cons admitted completes endGate through) admits gate body
  | endGate done rest through admits completes' endGate' ends =>
    rw [count] at admits
    exact .endGate (x :: done) rest (.cons admitted completes endGate through) admits completes'
      endGate' ends

theorem Course.locate (hP : P.Located) (e : Expr)
    (course : P.Course env refusal n first s xs completed exit t) :
    P.Course env (refusal.locate e) n first s xs completed (exit.locate e) t := by
  -- the failures of the parts are located, so only that of a refused turn changes
  cases course with
  | exhausted through => exact .exhausted through
  | refused _ rest through refused => exact .refused completed rest through refused
  | gate _ rest through admitted run ends =>
    rw [Exit.locate_ofGate? hP.gate run ends]
    exact .gate completed rest through admitted run ends
  | body _ rest through admitted run stops =>
    rw [Exit.locate_failed hP.body stops]
    exact .body completed rest through admitted run stops
  | endGate done rest through admitted completes run ends =>
    rw [Exit.locate_ofGate? hP.endGate run ends]
    exact .endGate done rest through admitted completes run ends

/-! ### Runs -/

theorem exec_continuing_bind {m : Eval β} {a : β} (run : exec m s = (.ok a, t))
    (f : β → Eval Turn) (next : Value → Eval Ending) :
    exec (continuing (m >>= f) next) s = exec (continuing (f a) next) t := by
  rw [continuing, continuing, exec_bind, exec_bind_ok run, exec_bind]

/-- A gate that does not let pass ends the loop. -/
theorem exec_continuing_gated {gate : Eval Gate} {r : Except Stop Gate}
    (run : exec gate s = (r, t)) (ends : Exit.ofGate? r = some exit) (rest : Eval Turn)
    (next : Value → Eval Ending) :
    exec (continuing (gated gate rest) next) s = (exit.ending, t) := by
  rcases r with stop | decision
  · cases ends
    exact exec_bind_error (exec_bind_error run)
  · rw [gated, exec_continuing_bind run]
    cases decision <;> cases ends <;> rfl

theorem exec_continuing_gated_pass {gate : Eval Gate} (run : exec gate s = (.ok .pass, t))
    (rest : Eval Turn) (next : Value → Eval Ending) :
    exec (continuing (gated gate rest) next) s = exec (continuing rest next) t :=
  exec_continuing_bind run _ next

theorem exec_forEach_cons (admitted : env.settings.admits (n + 1) = true) (P : Parts α) (x : α)
    (xs : List α) (first : Value) (s : State) :
    exec (forEach env P.turn (x :: xs) n first) s =
      exec (continuing (gated P.gate (P.behindGate x))
        fun last => forEach env P.turn xs (n + 1) last) (P.bind x s) := by
  rw [forEach, beginTurn_of_admits admitted, pure_bind]
  rfl

/-- A loop takes a course. -/
theorem exists_course (P : Parts α) (env : Env) (xs : List α) (n : Nat) (first : Value)
    (s : State) :
    ∃ completed exit t, P.Course env { cause := .loopLimitExceeded (env.settings.loopLimit.getD 0) }
        n first s xs completed exit t ∧
      exec (forEach env P.turn xs n first) s = (exit.ending, t) := by
  induction xs generalizing n first s with
  | nil => exact ⟨[], .exhausted first, s, .exhausted .nil, rfl⟩
  | cons x xs ih =>
    by_cases admitted : env.settings.admits (n + 1) = true
    · rw [exec_forEach_cons admitted]
      rcases gate : exec P.gate (P.bind x s) with ⟨r, t⟩
      rcases ends : Exit.ofGate? r with - | exit
      · -- the first gate lets pass, so the body is run
        cases Exit.pass_of_ofGate? ends
        rw [exec_continuing_gated_pass gate, behindGate,
          exec_continuing_bind (exec_modify (P.expose x) t)]
        rcases body : exec P.body (P.expose x t) with ⟨stop | v, u⟩
        · refine ⟨[], _, u, .body [] xs .nil admitted gate body, ?_⟩
          exact exec_bind_error (exec_bind_error body)
        · have completes : P.Completes x s v u := ⟨gate, body⟩
          rw [exec_continuing_bind body]
          rcases endGate : exec P.endGate u with ⟨r, w⟩
          rcases ends : Exit.ofGate? r with - | exit
          · -- the turn is complete, and the course of the other elements follows it
            cases Exit.pass_of_ofGate? ends
            obtain ⟨completed, exit, t', course, run⟩ := ih (n + 1) v w
            refine ⟨x :: completed, exit, t', course.cons admitted completes endGate, ?_⟩
            rw [exec_continuing_gated_pass endGate]
            exact run
          · refine ⟨[x], exit, w, .endGate [] xs .nil admitted completes endGate ends, ?_⟩
            exact exec_continuing_gated endGate ends _ _
      · refine ⟨[], exit, t, .gate [] xs .nil admitted gate ends, ?_⟩
        exact exec_continuing_gated gate ends _ _
    · refine ⟨[], _, s, .refused [] xs .nil admitted, ?_⟩
      rw [forEach, beginTurn_of_not_admits admitted]
      rfl

end Parts

namespace Eval

section

variable {env : Env} {c : Context} {before : Eval Value} {s s₁ : State} {first : Value}

theorem exec_forEachCondition (gate : Env → Eval Gate) (body : Env → Eval Value)
    (endGate : Env → Eval Gate) (after : Env → Value → Eval Value) {list : ConditionList}
    (begun : exec before s.enter = (.ok first, s₁))
    (resolved : exec (conditionsOf env c) s₁ = (.ok list, s₁)) :
    let inner := env.holding list.refersTo
    let bound := !list.conditions.isEmpty && env.settings.admits 1
    ∃ completed exit t, (Parts.ofCondition (gate inner) (body inner) (endGate inner)).Course inner
        { cause := .loopLimitExceeded (env.settings.loopLimit.getD 0) } 0 first s₁ list.conditions
        completed exit t ∧
      exec (forEachCondition env c before gate body endGate after) s =
        ((exit.result (after inner) (exit.settled bound t)).1,
          s.leave (exit.result (after inner) (exit.settled bound t)).2) := by
  intro inner bound
  -- the turns take a course, and the slots are cleared behind it
  obtain ⟨completed, exit, t, course, run⟩ :=
    (Parts.ofCondition (gate inner) (body inner) (endGate inner)).exists_course inner
      list.conditions 0 first s₁
  rw [Parts.turn_ofCondition] at run
  refine ⟨completed, exit, t, course, ?_⟩
  have concluded := Exit.exec_concluding (Exit.exec_closing run bound) (after inner)
  rw [forEachCondition, exec_inScope, exec_bind_ok begun, exec_bind_ok resolved, ← concluded]
  rfl

theorem exec_forEachPrototype (gate : Eval Gate) (body : Eval Value) (after : Value → Eval Value)
    {xs : List PrototypeId} (begun : exec before s.enter = (.ok first, s₁))
    (resolved : exec (elementsOf env c) s₁ = (.ok xs, s₁)) :
    ∃ completed exit t, (Parts.ofElement s.frame gate body).Course env
        { cause := .loopLimitExceeded (env.settings.loopLimit.getD 0) } 0 first s₁ xs
        completed exit t ∧
      exec (forEachPrototype env c before gate body after) s =
        ((exit.result after t).1, s.leave (exit.result after t).2) := by
  obtain ⟨completed, exit, t, course, run⟩ :=
    (Parts.ofElement s.frame gate body).exists_course env xs 0 first s₁
  rw [Parts.turn_ofElement] at run
  refine ⟨completed, exit, t, course, ?_⟩
  rw [forEachPrototype, exec_inScope, exec_bind_ok begun, exec_bind_ok resolved,
    Exit.exec_concluding run]

end

end Eval

/-! ### Loops of the language -/

namespace Parts

variable (n : Nat) (env : Env) (gate : Option Expr) (body : List Expr) (endGate : Option Expr)

/-- A turn for a condition with gates and a body of the language. -/
def evalCondition : Parts Condition :=
  ofCondition (evalGate located n env gate) (evalBody located n env body .undefined)
    (evalGate located n env endGate)

/-- A turn for a prototype with a gate and a body of the language. -/
def evalElement (frame : Handle) : Parts PrototypeId :=
  ofElement frame (evalGate located n env gate) (evalBody located n env body .undefined)

theorem located_evalCondition : (evalCondition n env gate body endGate).Located where
  gate := located_evalGate n env gate
  body := located_evalBody n env body .undefined
  endGate := located_evalGate n env endGate

theorem located_evalElement (frame : Handle) : (evalElement n env gate body frame).Located where
  gate := located_evalGate n env gate
  body := located_evalBody n env body .undefined
  endGate := .pure Gate.pass

end Parts

/-- The failure of a loop at a turn that is refused. -/
def Env.refusal (env : Env) (loop : Expr) : Failure :=
  Failure.locate { cause := .loopLimitExceeded (env.settings.loopLimit.getD 0) } loop

/-- **Loops run their bodies on the first few of their elements.** Once the part
before a loop has succeeded and the elements are resolved, the loop takes a
course: it runs its body to completion on the first few elements, once on each and
in order, and is ended by the first gate that does not let pass, the first part
that has no value, the first turn that is refused, or the end of the elements.
What comes after the loop is evaluated in the state that the course has left, if
it is ended by a gate that is false or by the end of the elements, and is given
the value of the loop so far; any other end is the end of the loop. With nothing
after it the loop has the value of its end. -/
theorem loops_run_first_elements (n : Nat) (env : Env) (c : Context) (before gate : Option Expr)
    {body : List Expr} (endGate after : Option Expr) (hb : body ≠ []) {s s₁ : State}
    {first : Value}
    (begun : exec (evalOptional located n env .undefined before) s.enter = (.ok first, s₁)) :
    (∀ list, (exec (conditionsOf env c) s₁).1 = .ok list →
      let loop : Expr := .forEachCondition c before gate body endGate after
      let inner := env.holding list.refersTo
      let bound := !list.conditions.isEmpty && env.settings.admits 1
      ∃ completed exit t, (Parts.evalCondition n inner gate body endGate).Course inner
          (env.refusal loop) 0 first s₁ list.conditions completed exit t ∧
        completed <+: list.conditions ∧
        (let rest := exit.result (fun last => evalOptional located n inner last after)
          (exit.settled bound t)
        exec (eval n env loop) s = (rest.1, s.leave rest.2)) ∧
        (after = none → (exec (eval n env loop) s).1 = exit.value)) ∧
    ∀ xs, (exec (elementsOf env c) s₁).1 = .ok xs →
      let loop : Expr := .forEachPrototype c before gate body after
      ∃ completed exit t, (Parts.evalElement n env gate body s.frame).Course env
          (env.refusal loop) 0 first s₁ xs completed exit t ∧
        completed <+: xs ∧
        (let rest := exit.result (fun last => evalOptional located n env last after) t
        exec (eval n env loop) s = (rest.1, s.leave rest.2)) ∧
        (after = none → (exec (eval n env loop) s).1 = exit.value) := by
  -- with nothing after a loop its value is that of the exit
  have absent : ∀ (exit : Exit) (inner : Env) (t : State) (run : Except Stop Value × State),
      run = ((exit.result (fun last => evalOptional located n inner last after) t).1,
        s.leave (exit.result (fun last => evalOptional located n inner last after) t).2) →
      after = none → run.1 = exit.value := by
    rintro exit inner t _ rfl rfl
    exact congrArg Prod.fst (exit.result_pure t)
  constructor
  · intro list resolved loop inner bound
    have found := (Query.conditionsOf env c).exec_eq resolved
    obtain ⟨completed, exit, t, course, run⟩ := exec_forEachCondition
      (fun env => evalGate located n env gate) (fun env => evalBody located n env body .undefined)
      (fun env => evalGate located n env endGate)
      (fun env last => evalOptional located n env last after) begun found
    -- the course is that of parts whose failures are located
    replace run := Exit.exec_locating_leave (fun last => located_evalOptional n inner last after)
      run loop
    rw [← eval_forEachCondition hb, ← Exit.settled_locate bound loop] at run
    have located := course.locate (Parts.located_evalCondition n inner gate body endGate) loop
    exact ⟨completed, exit.locate loop, t, located, course.completed_initial, run,
      absent _ inner _ _ run⟩
  · intro xs resolved loop
    have found := (Query.elementsOf env c).exec_eq resolved
    obtain ⟨completed, exit, t, course, run⟩ := exec_forEachPrototype
      (evalGate located n env gate) (evalBody located n env body .undefined)
      (fun last => evalOptional located n env last after) begun found
    replace run := Exit.exec_locating_leave (fun last => located_evalOptional n env last after)
      run loop
    rw [← eval_forEachPrototype hb] at run
    have located := course.locate (Parts.located_evalElement n env gate body s.frame) loop
    exact ⟨completed, exit.locate loop, t, located, course.completed_initial, run,
      absent _ env t _ run⟩

/-- A gate that is true until a prototype is exposed lets a loop go through the
first of three prototypes; and a gate behind the body that is false lets a loop go
through the first of two conditions. -/
theorem loops_go_through_one :
    let env : Env := ⟨{}, none, {}, fun _ => false⟩
    let prototypes : List PrototypeId := [⟨1⟩, ⟨2⟩, ⟨3⟩]
    let list : ConditionList := ⟨0, [⟨⟨0⟩, []⟩, ⟨⟨1⟩, []⟩]⟩
    let slots := ({} : Activation).bind .var1 ⟨.prototypeList (some prototypes), false⟩
    let s : State := ⟨⟨#[{}, {}]⟩, slots.bind .var2 ⟨.conditions (some list), false⟩⟩
    let gate : Option Expr := some (.not (some (.has .localStack (.ofProperty .loopElement))))
    let overPrototypes : Expr := .forEachPrototype (.slot .var1) none gate [.int 7] none
    let overConditions : Expr :=
      .forEachCondition (.slot .var2) none none [.int 7] (some (.bool false)) none
    (∃ completed exit t, (Parts.evalElement 0 env gate [.int 7] s.frame).Course env
        (env.refusal overPrototypes) 0 .undefined s.enter prototypes completed exit t ∧
      completed <+: prototypes ∧ exit.value = .ok (.bool false) ∧
      (exec (eval 0 env overPrototypes) s).1 = .ok (.bool false)) ∧
    ∃ completed exit t, (Parts.evalCondition 0 (env.holding list.refersTo) none [.int 7]
        (some (.bool false))).Course (env.holding list.refersTo) (env.refusal overConditions) 0
        .undefined s.enter list.conditions completed exit t ∧
      completed <+: list.conditions ∧ exit.value = .ok (.bool false) ∧
      (exec (eval 0 env overConditions) s).1 = .ok (.bool false) := by
  intro env prototypes list slots s gate overPrototypes overConditions
  have found : (exec (elementsOf env (.slot .var1)) s.enter).1 = .ok prototypes := rfl
  have found' : (exec (conditionsOf env (.slot .var2)) s.enter).1 = .ok list := rfl
  have run : (exec (eval 0 env overPrototypes) s).1 = .ok (.bool false) := rfl
  have run' : (exec (eval 0 env overConditions) s).1 = .ok (.bool false) := rfl
  obtain ⟨completed, exit, t, course, through, -, value⟩ :=
    (loops_run_first_elements 0 env (.slot .var1) none gate none none (List.cons_ne_nil _ _)
      (s := s) rfl).2 prototypes found
  obtain ⟨completed', exit', t', course', through', -, value'⟩ :=
    (loops_run_first_elements 0 env (.slot .var2) none none (some (.bool false)) none
      (List.cons_ne_nil _ _) (s := s) rfl).1 list found'
  exact ⟨⟨completed, exit, t, course, through, (value rfl).symm.trans run, run⟩,
    completed', exit', t', course', through', (value' rfl).symm.trans run', run'⟩

end Rulebook
