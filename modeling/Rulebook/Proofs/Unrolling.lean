/-
Rulebook/Proofs/Unrolling.lean

Unrolled loops.  A loop over prototypes, without gates and without a limit, is
the scope that assigns each prototype to the loop element and has the body
after each of these assignments (`loop_unrolls`).

Two things differ between them.  The loop records its element in its frame, and
the scope assigns it to the local collection by way of the schema of the loop
element; but in a scope the local collection is the frame, whatever statements
were evaluated before, and the schema is one for prototypes, whatever was
registered after the built-in ones.  And a loop ends at the first statement that
fails, where a scope goes on and ends with the first failure nevertheless, if it
ends with a failure at all (`Concur`).
-/
import Rulebook.Proofs.Allowance
import Rulebook.Proofs.LoopCourse
import Rulebook.Proofs.ReadBack
import Rulebook.Proofs.RegistryHistory

namespace Rulebook

open Eval

/-! ### Runs that concur -/

/-- Whether two runs concur: they end with the same value in the same state, or both
without a value, and if both fail then with the same failure. -/
inductive Concur : Except Stop Value × State → Except Stop Value × State → Prop
  | value (v : Value) (t : State) : Concur (.ok v, t) (.ok v, t)
  | stop {a b : Stop} {t u : State} (same : ∀ f g, a = .failure f → b = .failure g → f = g) :
    Concur (.error a, t) (.error b, u)

namespace Concur

variable {r q : Except Stop Value × State} {v : Value} {t u : State} {f g : Failure}

theorem refl (r : Except Stop Value × State) : Concur r r := by
  obtain ⟨stop | v, t⟩ := r
  · refine .stop fun f g hf hg => ?_
    cases hf.symm.trans hg
    rfl
  · exact .value v t

theorem ok_iff (h : Concur r q) : r = (.ok v, t) ↔ q = (.ok v, t) := by
  cases h with
  | value => exact Iff.rfl
  | stop => exact ⟨nofun, nofun⟩

theorem failure_eq (h : Concur r q) (hr : r = (.error (.failure f), t))
    (hq : q = (.error (.failure g), u)) : f = g := by
  cases h with
  | value => cases hr
  | stop same =>
    cases hr
    cases hq
    exact same f g rfl rfl

theorem leave (h : Concur r q) (s : State) :
    Concur (r.1, s.leave r.2) (q.1, s.leave q.2) := by
  cases h with
  | value v t => exact .value v (s.leave t)
  | stop same => exact .stop same

/-- To locate the failures of two runs changes nothing if those of the
first are located. -/
theorem locating {m m' : Eval Value} {s : State} (h : Concur (exec m s) (exec m' s))
    (hm : Located m) (e e' : Expr) :
    Concur (exec (locating e m) s) (exec (locating e' m') s) := by
  rw [exec_locating, exec_locating]
  rcases run : exec m s with ⟨a | v, t⟩
  · rcases run' : exec m' s with ⟨b | w, u⟩
    · rw [run, run'] at h
      -- a failure that both have is located already, so it stays the same
      have same : ∀ f g, a = .failure f → b = .failure g → f.locate e = g.locate e' := by
        rintro f g rfl rfl
        cases h.failure_eq rfl rfl
        rw [Failure.locate_of_located (hm s f t run), Failure.locate_of_located (hm s f t run)]
      cases a <;> cases b <;> refine .stop fun f g hf hg => ?_ <;> cases hf <;> cases hg
      exact same _ _ rfl rfl
    · rw [run, run'] at h
      cases h
  · rcases run' : exec m' s with ⟨b | w, u⟩
    · rw [run, run'] at h
      cases h
    · rw [run, run'] at h
      exact h

end Concur

namespace Eval

variable {n : Nat} {env : Env}

/-! ### Statements of a body and of a scope -/

/-- Statements after one that has failed end with its failure, if with any. -/
theorem exec_evalStatements_failed (n : Nat) (env : Env) (f : Failure) (es : List Expr)
    (last : Value) (s : State) :
    ∃ stop t, exec (evalStatements located n env es last (some f)) s = (.error stop, t) ∧
      ∀ g, stop = .failure g → f = g := by
  induction es generalizing last s with
  | nil =>
    refine ⟨.failure f, s, ?_, fun g h => Stop.failure.inj h⟩
    rw [evalStatements, exec_throw]
  | cons e es ih =>
    rw [evalStatements]
    -- whatever this statement does, `f` stays the first failure
    rcases run : exec (evalWith located n env e) s with ⟨stop | v, t⟩
    · cases stop with
      | failure g =>
        rw [exec_bind_ok (exec_attempt_failure run)]
        exact ih last t
      | abort message =>
        refine ⟨.abort message, t, ?_, by rintro g ⟨⟩⟩
        rw [exec_bind_error (exec_attempt_abort run)]
      | exhausted =>
        refine ⟨.exhausted, t, ?_, by rintro g ⟨⟩⟩
        rw [exec_bind_error (exec_attempt_exhausted run)]
    · rw [exec_bind_ok (exec_attempt_ok run)]
      exact ih v t

/-- What statements come to in a scope concurs with what they come to in a body. -/
theorem concur_evalStatements (es : List Expr) (last : Value) (s : State) :
    Concur (exec (evalBody located n env es last) s)
      (exec (evalStatements located n env es last none) s) := by
  induction es generalizing last s with
  | nil =>
    rw [evalBody, evalStatements]
    exact .refl _
  | cons e es ih =>
    rw [evalBody, evalStatements]
    rcases run : exec (evalWith located n env e) s with ⟨stop | v, t⟩
    · rw [exec_bind_error run]
      cases stop with
      | failure f =>
        rw [exec_bind_ok (exec_attempt_failure run)]
        -- the body stops here, and the statements go on but end with this failure
        obtain ⟨stop, u, later, same⟩ := exec_evalStatements_failed n env f es last t
        show Concur _ (exec (evalStatements located n env es last (some f)) t)
        rw [later]
        refine .stop fun f' g hf hg => ?_
        cases hf
        exact same g hg
      | abort message =>
        rw [exec_bind_error (exec_attempt_abort run)]
        exact .refl _
      | exhausted =>
        rw [exec_bind_error (exec_attempt_exhausted run)]
        exact .refl _
    · rw [exec_bind_ok run, exec_bind_ok (exec_attempt_ok run)]
      exact ih v t

/-! ### Unrolled turns -/

/-- The statements of a turn for a prototype: it is assigned to the loop element, and
then the body. -/
def unrolling (body : List Expr) (p : PrototypeId) : List Expr :=
  .assign .localStack (.ofProperty .loopElement) (some (.prototype p)) :: body

/-- The statements of the turns for some prototypes. -/
def unrolled (body : List Expr) (xs : List PrototypeId) : List Expr := xs.flatMap (unrolling body)

theorem exec_evalBody_append (es fs : List Expr) (last : Value) (s : State) :
    exec (evalBody located n env (es ++ fs) last) s =
      exec (evalBody located n env es last >>= evalBody located n env fs) s := by
  induction es generalizing last s with
  | nil => rfl
  | cons e es ih =>
    rw [List.cons_append, evalBody, evalBody, bind_assoc]
    exact exec_bind_congr rfl fun v t _ => ih v t

/-- A body leaves the local collection in its place. -/
theorem localStack_evalBody (n : Nat) (env : Env) (body : List Expr) (last : Value) (s : State) :
    (exec (evalBody located n env body last) s).2.activation.localStack =
      s.activation.localStack := by
  induction body generalizing last s with
  | nil => rfl
  | cons e es ih =>
    -- each statement puts the stacks back
    obtain ⟨-, first, -⟩ := eval_restores n env e s
    rw [eval] at first
    rw [evalBody, exec_bind]
    rcases run : exec (evalWith located n env e) s with ⟨stop | v, t⟩
    · rwa [run] at first
    · rw [run] at first
      exact (ih v t).trans first

/-- A turn without a gate records its element and runs the body. -/
theorem exec_elementTurn_ungated (frame : Handle) (body : Eval Value) (p : PrototypeId)
    (s : State) :
    exec (elementTurn frame (pure .pass) body p) s =
      exec (body >>= fun v => pure (.next v))
        (s.record frame (.ofProperty .loopElement) (.prototype p)) := rfl

section

variable {frame : Handle} {us : List Registry.Update} {s : State}
variable (registered : env.data.schemas = Registry.builtins.after us)

include registered

/-- An assignment to the loop element records a prototype in the frame. -/
theorem exec_assign_loopElement (here : s.activation.localStack = some frame) (p : PrototypeId) :
    exec (eval n env (.assign .localStack (.ofProperty .loopElement) (some (.prototype p)))) s =
      (.ok .undefined, s.record frame (.ofProperty .loopElement) (.prototype p)) := by
  obtain ⟨schema, found, type⟩ := Registry.lookup_loopElement us
  have declared :
      env.data.schemaOf (PropertyKey.ofProperty .loopElement).property = .ok schema := by
    rw [PropertyKey.property_ofProperty, StaticData.schemaOf, registered, found]
  exact exec_assign (d := .prototype p) (by decide) rfl (Env.target_localStack here) declared
    type.symm

theorem exec_evalBody_unrolled (here : s.activation.localStack = some frame) (body : List Expr)
    (p : PrototypeId) (xs : List PrototypeId) (last : Value) :
    exec (evalBody located n env (unrolled body (p :: xs)) last) s =
      exec (evalBody located n env body .undefined >>= evalBody located n env (unrolled body xs))
        (s.record frame (.ofProperty .loopElement) (.prototype p)) := by
  have assigned := exec_assign_loopElement (n := n) registered here p
  rw [eval] at assigned
  -- the assignment, and then the body and the turns that are left
  rw [unrolled, List.flatMap_cons, unrolling, List.cons_append, evalBody, exec_bind_ok assigned,
    exec_evalBody_append]
  rfl

/-- The turns of a loop over prototypes are its unrolled turns. -/
theorem exec_forEach_element (unlimited : env.settings.loopLimit = none) (body : List Expr)
    (xs : List PrototypeId) (k : Nat) (last : Value) (here : s.activation.localStack = some frame) :
    exec (forEach env (elementTurn frame (pure .pass) (evalBody located n env body .undefined))
        xs k last) s =
      exec (evalBody located n env (unrolled body xs) last >>= fun v => pure (.finished v)) s := by
  induction xs generalizing k last s with
  | nil => rfl
  | cons p xs ih =>
    -- without a limit every turn is admitted
    have admitted : env.settings.admits (k + 1) = true := by
      rw [Settings.admits, unlimited]
    have statements := exec_evalBody_unrolled (n := n) registered here body p xs last
    let t := s.record frame (.ofProperty .loopElement) (.prototype p)
    have kept := localStack_evalBody n env body .undefined t
    rw [forEach, beginTurn_of_admits admitted, pure_bind]
    rcases run : exec (evalBody located n env body .undefined) t with ⟨stop | v, u⟩
    · rw [exec_bind_error run] at statements
      have turn := (exec_elementTurn_ungated frame _ p s).trans (exec_bind_error run)
      rw [exec_bind_error turn, exec_bind_error statements]
    · rw [run] at kept
      rw [exec_bind_ok run] at statements
      have turn := (exec_elementTurn_ungated frame _ p s).trans (exec_bind_ok run)
      rw [exec_pure] at turn
      rw [exec_bind_ok turn, ih (k + 1) v (kept.trans here), exec_bind, exec_bind, statements]

end

/-- The loop without gates, and with nothing before or after it, is
its unrolled turns. -/
theorem exec_forEachPrototype_unrolled {us : List Registry.Update}
    (registered : env.data.schemas = Registry.builtins.after us)
    (unlimited : env.settings.loopLimit = none) {c : Context} {s : State} {xs : List PrototypeId}
    (resolved : exec (elementsOf env c) s.enter = (.ok xs, s.enter)) (body : List Expr) :
    exec (forEachPrototype env c (pure .undefined) (pure .pass)
        (evalBody located n env body .undefined) fun last => pure last) s =
      exec (inScope fun _ _ => evalBody located n env (unrolled body xs) .undefined) s := by
  have here : s.enter.activation.localStack = some s.frame := rfl
  have turns := exec_forEach_element (n := n) registered unlimited body xs 0 .undefined here
  have loop : exec (concluding (forEach env (elementTurn s.frame (pure .pass)
      (evalBody located n env body .undefined)) xs 0 .undefined) fun last => pure last) s.enter =
      exec (evalBody located n env (unrolled body xs) .undefined) s.enter := by
    rw [concluding, exec_bind, turns, exec_bind]
    rcases exec (evalBody located n env (unrolled body xs) .undefined) s.enter with ⟨stop | v, t⟩
    · rfl
    · rfl
  rw [forEachPrototype, exec_inScope, exec_inScope, exec_bind_ok (exec_pure _ _),
    exec_bind_ok resolved, loop]

end Eval

theorem exec_elementsOf {env : Env} {slot : Slot} {s : State} {xs : List PrototypeId}
    (bound : (s.activation.binding slot).value = .prototypeList (some xs) ∨
      (s.activation.binding slot).value = .prototypeVector (some xs)) :
    exec (elementsOf env (.slot slot)) s = (.ok xs, s) := by
  have read : ∀ v : Value, v.isNull = false → (s.activation.binding slot).value = v →
      exec (resolve env (.slot slot) .read) s = (.ok v, s) := by
    intro v nonnull holds
    have found : s.activation.resolve env.data.globals (.slot slot) .read = .ok v :=
      Activation.resolve_eq_ok_iff.mpr ⟨_, rfl, holds, nofun, fun _ => by rwa [holds]⟩
    rw [exec_resolve, found]
    rfl
  -- a list and a vector are read alike
  rcases bound with list | vector
  · rw [elementsOf, exec_bind_ok (read _ rfl list)]
    rfl
  · rw [elementsOf, exec_bind_ok (read _ rfl vector)]
    rfl

/-- **Loops over prototypes unroll.** Without a limit, a loop over the prototypes
of a slot that has a body, and no gate and nothing before or after it, is the
scope that assigns the prototypes to the loop element, one after another, and has
the body after each of these assignments. The one has a value exactly if the other
has, the same value, and leaves the same state; and if both fail, whatever
allowance they need, they fail with the same cause at the same expression. -/
theorem loop_unrolls (env : Env) (us : List Registry.Update)
    (registered : env.data.schemas = Registry.builtins.after us)
    (unlimited : env.settings.loopLimit = none) (slot : Slot) (s : State) {xs : List PrototypeId}
    (bound : (s.activation.binding slot).value = .prototypeList (some xs) ∨
      (s.activation.binding slot).value = .prototypeVector (some xs))
    (hx : xs ≠ []) {body : List Expr} (hb : body ≠ []) :
    let loop : Expr := .forEachPrototype (.slot slot) none none body none
    let scope : Expr := .scope (unrolled body xs)
    (∀ n v t, exec (eval n env loop) s = (.ok v, t) ↔ exec (eval n env scope) s = (.ok v, t)) ∧
      ∀ m n f g t u, exec (eval m env loop) s = (.error (.failure f), t) →
        exec (eval n env scope) s = (.error (.failure g), u) → f = g := by
  intro loop scope
  have statements : unrolled body xs ≠ [] := by
    obtain ⟨p, ps, rfl⟩ := List.exists_cons_of_ne_nil hx
    exact List.cons_ne_nil _ _
  have alike : ∀ n, Concur (exec (eval n env loop) s) (exec (eval n env scope) s) := by
    intro n
    have turns := exec_forEachPrototype_unrolled (n := n) registered unlimited
      (exec_elementsOf (s := s.enter) bound) body
    have run : exec (eval n env loop) s = exec (locating loop (inScope fun _ _ =>
        evalBody located n env (unrolled body xs) .undefined)) s := by
      rw [eval_forEachPrototype hb, exec_locating, exec_locating, ← turns]
      rfl
    have run' : eval n env scope = locating scope (inScope fun _ _ =>
        evalStatements located n env (unrolled body xs) .undefined none) := by
      rw [eval, evalWith, if_neg (by rwa [List.isEmpty_iff])]
      rfl
    rw [run, run']
    refine Concur.locating ?_ (Located.inScope fun _ _ => located_evalBody n env _ _) loop scope
    rw [exec_inScope, exec_inScope]
    exact (concur_evalStatements _ _ _).leave s
  refine ⟨fun n v t => (alike n).ok_iff, fun m n f g t u hf hg => ?_⟩
  -- a run that fails is not exhausted: it fails so with any greater allowance
  have loop_run := (eval_mono (Nat.le_max_left m n) env loop s).resolve_left
    (by rw [hf]; rintro ⟨⟩)
  have scope_run := (eval_mono (Nat.le_max_right m n) env scope s).resolve_left
    (by rw [hg]; rintro ⟨⟩)
  exact (alike (max m n)).failure_eq (loop_run.trans hf) (scope_run.trans hg)

/-- A loop over two prototypes that loads its element, and one that divides by
zero after a statement that does not fail. -/
theorem loop_unrolls_two :
    let env : Env := ⟨{}, none, {}, fun _ => false⟩
    let xs : List PrototypeId := [⟨5⟩, ⟨6⟩]
    let s : State := ⟨{}, ({} : Activation).bind .var1 ⟨.prototypeVector (some xs), true⟩⟩
    let loop (body : List Expr) : Expr := .forEachPrototype (.slot .var1) none none body none
    let element : Expr := .load .localStack (.ofProperty .loopElement)
    let quotient : Expr := .arith .div (some (.int 1)) (some (.int 0))
    (∃ t, exec (eval 0 env (loop [element])) s = (.ok (.prototype ⟨6⟩), t) ∧
      exec (eval 0 env (.scope (unrolled [element] xs))) s = (.ok (.prototype ⟨6⟩), t)) ∧
    ∃ t u, let f := Failure.locate { cause := .divisionByZero } quotient
      exec (eval 0 env (loop [element, quotient])) s = (.error (.failure f), t) ∧
      exec (eval 0 env (.scope (unrolled [element, quotient] xs))) s = (.error (.failure f), u) := by
  intro env xs s loop element quotient
  have bound : (s.activation.binding .var1).value = .prototypeVector (some xs) := rfl
  have unrolls := fun e es => loop_unrolls env [] rfl rfl .var1 s (.inr bound)
    (List.cons_ne_nil _ _) (List.cons_ne_nil e es)
  constructor
  · have run : (exec (eval 0 env (loop [element])) s).1 = .ok (.prototype ⟨6⟩) := rfl
    obtain ⟨same, -⟩ := unrolls element []
    exact ⟨_, Prod.ext run rfl, (same 0 _ _).mp (Prod.ext run rfl)⟩
  · obtain ⟨-, same⟩ := unrolls element [quotient]
    have run : (exec (eval 0 env (loop [element, quotient])) s).1 =
      .error (.failure (Failure.locate { cause := .divisionByZero } quotient)) := rfl
    obtain ⟨g, run'⟩ : ∃ g, (exec (eval 0 env (.scope (unrolled [element, quotient] xs))) s).1 =
      .error (.failure g) := ⟨_, rfl⟩
    have equal := same 0 0 _ g _ _ (Prod.ext run rfl) (Prod.ext run' rfl)
    refine ⟨_, _, Prod.ext run rfl, Prod.ext ?_ rfl⟩
    rw [equal]
    exact run'

end Rulebook
