/-
Rulebook/Proofs/Assignment.lean

Assignments.  The two operators that record a value differ in how they come to
the key: one has it, the other has a property prototype and evaluates the
parameters.  Otherwise they do the same (`Assignment.program`):

    value,  target,  schema,  key with its parameters,  conversion,  record

Only the value and the parameters are expressions, and only the last step
writes.  So a step before it leaves the state as the first few of these
expressions have left it (`Traces`), and so does an assignment that fails at
any point; one that succeeds changes one entry after that
(`eval_assignment_atomic`).
-/
import Rulebook.Proofs.Footprint
import Rulebook.Proofs.Query
import Rulebook.Proofs.Restore

namespace Rulebook

namespace Eval

variable {α β : Type}

/-! ### Steps in a row -/

/-- The state after steps in a row, however each of them ends. -/
def after : List (Eval Value) → State → State
  | [], s => s
  | m :: ms, s => after ms (exec m s).2

theorem after_append (ms ns : List (Eval Value)) (s : State) :
    after (ms ++ ns) s = after ns (after ms s) := by
  induction ms generalizing s with
  | nil => rfl
  | cons m ms ih => exact ih (exec m s).2

/-- Whether a step leaves every state as the first few of some steps in a row
leave it, and as all of them do if it has a value. -/
def Traces (m : Eval α) (ms : List (Eval Value)) : Prop :=
  ∀ s, ∃ k, (exec m s).2 = after (ms.take k) s ∧ ∀ a, (exec m s).1 = .ok a → ms.length ≤ k

namespace Traces

theorem of_query {m : Eval α} (hm : Query m) : Traces m [] :=
  fun s => ⟨0, hm.exec_state s, fun _ _ => Nat.le_refl 0⟩

theorem attempt (m : Eval Value) : Traces (attempt m) [m] := by
  intro s
  refine ⟨1, ?_, fun _ _ => Nat.le_refl 1⟩
  show _ = (exec m s).2
  rw [exec_attempt]
  rcases exec m s with ⟨stop | a, t⟩
  · cases stop <;> rfl
  · rfl

theorem bind {m : Eval α} {f : α → Eval β} {ms ns : List (Eval Value)} (hm : Traces m ms)
    (hf : ∀ a, Traces (f a) ns) : Traces (m >>= f) (ms ++ ns) := by
  intro s
  obtain ⟨k, left, all⟩ := hm s
  rcases run : exec m s with ⟨stop | a, t⟩
  · -- `m` stops, and nothing of `ns` is evaluated
    rw [run] at left
    refine ⟨min k ms.length, ?_, ?_⟩
    · rw [exec_bind_error run, List.take_append_of_le_length (Nat.min_le_right k ms.length),
        List.take_eq_take_min.symm]
      exact left
    · rw [exec_bind_error run]
      rintro a ⟨⟩
  · -- all of `ms` is evaluated, and then the first `j` of `ns`
    rw [run] at left all
    have long : ms.length ≤ k := all a rfl
    rw [List.take_of_length_le long] at left
    obtain ⟨j, left', all'⟩ := hf a t
    refine ⟨ms.length + j, ?_, ?_⟩
    · rw [exec_bind_ok run, left', List.take_length_add_append, after_append, ← left]
    · rw [exec_bind_ok run, List.length_append]
      exact fun b hb => Nat.add_le_add_left (all' b hb) ms.length

end Traces

end Eval

open Eval

/-! ### Targets -/

/-- The collection that a context stands for when it is written. -/
def Env.target (env : Env) (s : State) (c : Context) : Except Cause Handle :=
  env.behind s c .write

theorem Env.target_localStack {env : Env} {s : State} {frame : Handle}
    (here : s.activation.localStack = some frame) : env.target s .localStack = .ok frame := by
  rw [Env.target, Env.behind, Activation.resolve, Activation.value, here]
  rfl

/-- Whether all that can be written exists. -/
def State.Grounded (env : Env) (s : State) : Prop :=
  ∀ c h, env.target s c = .ok h → h.index < s.store.cells.size

/-- With nothing to write behind its slots and globals, a state is grounded if its
stacks exist. -/
theorem State.Grounded.of_stacks {env : Env} {s : State}
    (slots : ∀ slot h, env.target s (.slot slot) ≠ .ok h)
    (globals : ∀ h, env.target s .globals ≠ .ok h)
    (caller : ∀ h, s.activation.callerStack = some h → h.index < s.store.cells.size)
    (here : ∀ h, s.activation.localStack = some h → h.index < s.store.cells.size) :
    s.Grounded env := by
  intro c h target
  cases c with
  | slot slot => exact absurd target (slots slot h)
  | globals => exact absurd target (globals h)
  | callerStack =>
    rw [Env.target, Env.behind, Activation.resolve, Activation.value] at target
    rcases set : s.activation.callerStack with - | g
    · rw [set] at target
      cases target
    · rw [set] at target
      cases target
      exact caller h set
  | localStack =>
    rcases set : s.activation.localStack with - | g
    · rw [Env.target, Env.behind, Activation.resolve, Activation.value, set] at target
      cases target
    · rw [Env.target_localStack set] at target
      cases target
      exact here h set

/-! ### Assignments -/

/-- How an assignment comes to its key. -/
inductive Address where
  | key (k : PropertyKey)
  | params (property : PrototypeId) (p q r t : Option Expr)

namespace Address

/-- Whether the field of the property is set. -/
def isValid : Address → Bool
  | key k => k.isValid
  | params property .. => property.isValid

/-- The schema of the property. -/
def schema (data : StaticData) : Address → Except Cause Schema
  | key k => data.schemaOf k.property
  | params property .. => data.schemaBy property

/-- The key, for which parameters may have to be evaluated. -/
def keyIn (n : Nat) (env : Env) (schema : Schema) : Address → Eval PropertyKey
  | key k => pure k
  | params _ p q r t =>
    keyWith schema (evalParam located n env schema 0 p) (evalParam located n env schema 1 q)
      (evalParam located n env schema 2 r) (evalParam located n env schema 3 t)

/-- The evaluation of a parameter, if there is one and the schema declares it. -/
def paramSteps (n : Nat) (env : Env) (schema : Schema) (i : Nat) : Option Expr → List (Eval Value)
  | some e => if schema.params.length ≤ i then [] else [eval n env e]
  | none => []

/-- The evaluations of the parameters, the first one first. -/
def steps (n : Nat) (env : Env) (schema : Schema) : Address → List (Eval Value)
  | key _ => []
  | params _ p q r t =>
    paramSteps n env schema 0 p ++ (paramSteps n env schema 1 q ++
      (paramSteps n env schema 2 r ++ (paramSteps n env schema 3 t ++ [])))

theorem evalParam_traces (n : Nat) (env : Env) (schema : Schema) (i : Nat) (child : Option Expr) :
    Traces (evalParam located n env schema i child) (paramSteps n env schema i child) := by
  rcases child with - | e
  · exact Traces.of_query (Query.pure _)
  · rw [evalParam, paramSteps]
    split
    · exact Traces.of_query (Query.pure _)
    · split
      · -- a parameter of an invalid type fails before it is evaluated
        exact fun s => ⟨0, rfl, by rintro a ⟨⟩⟩
      · show Traces _ ([eval n env e] ++ [])
        refine (Traces.attempt (eval n env e)).bind fun r => ?_
        rcases r with f | v
        · exact Traces.of_query (Query.pure _)
        · exact Traces.of_query (Query.pure _)

theorem keyIn_traces (a : Address) (n : Nat) (env : Env) (schema : Schema) :
    Traces (a.keyIn n env schema) (a.steps n env schema) := by
  cases a with
  | key k => exact Traces.of_query (Query.pure k)
  | params property p q r t =>
    have param := evalParam_traces n env schema
    refine (param 0 p).bind fun _ => (param 1 q).bind fun _ => ?_
    refine (param 2 r).bind fun _ => (param 3 t).bind fun _ => ?_
    exact Traces.of_query (Query.pure _)

end Address

/-- An assignment: to a key of the collection behind a context. -/
structure Assignment where
  context : Context
  address : Address
  value : Option Expr

/-- The assignment that an expression is, if it is one. -/
def Expr.assignment? : Expr → Option Assignment
  | .assign c k value => some ⟨c, .key k, value⟩
  | .assignBy c property p q r t value => some ⟨c, .params property p q r t, value⟩
  | _ => none

namespace Assignment

variable {a : Assignment} {n : Nat} {env : Env}

/-- What an assignment does with the value that it has. -/
def finish (a : Assignment) (n : Nat) (env : Env) (v : Value) : Eval Value := do
  let v ← ofExcept v.storable
  let h ← collection env a.context .write
  let schema ← ofExcept (a.address.schema env.data)
  let k ← a.address.keyIn n (env.holding (· == h)) schema
  record h k schema v

/-- What an assignment does. -/
def program (a : Assignment) (n : Nat) (env : Env) : Eval Value :=
  match a.value with
  | none => fail (.missingField "Eval")
  | some value =>
    if !a.address.isValid then fail (.missingField "Prop")
    else do a.finish n env (← eval n env value)

theorem eval_eq_program {e : Expr} (ha : e.assignment? = some a) (n : Nat) (env : Env) :
    eval n env e = locating e (a.program n env) := by
  cases e with
  | assign c k value =>
    cases ha
    rcases value with - | value
    · rfl
    · rfl
  | assignBy c property p q r t value =>
    cases ha
    rcases value with - | value
    · rfl
    · rfl
  | _ => cases ha

/-! ### What is evaluated and what is recorded -/

/-- The evaluations of the parameters, from the state after the value. There are
none without a target and a schema. -/
def laterSteps (a : Assignment) (n : Nat) (env : Env) (t : State) : List (Eval Value) :=
  match env.target t a.context, a.address.schema env.data with
  | .ok h, .ok schema => a.address.steps n (env.holding (· == h)) schema
  | _, _ => []

/-- The evaluations of the children of an assignment, the value first and then
the parameters. -/
def steps (a : Assignment) (n : Nat) (env : Env) (s : State) : List (Eval Value) :=
  match a.value with
  | none => []
  | some value => eval n env value :: a.laterSteps n env (exec (eval n env value) s).2

/-- Whether an assignment that has the value `v` in the state `t` comes to record
`d` under the key `k` of `h`: the target is `h`, the key is `k` when its
parameters are evaluated, and the value converts to `d`. -/
structure Commits (a : Assignment) (n : Nat) (env : Env) (v : Value) (t : State) (h : Handle)
    (k : PropertyKey) (d : Datum) (schema : Schema) : Prop where
  storable : v.storable = .ok v
  target : env.target t a.context = .ok h
  declared : a.address.schema env.data = .ok schema
  key : (exec (a.address.keyIn n (env.holding (· == h)) schema) t).1 = .ok k
  datum : v.toDatum schema = .ok d

/-! ### How it ends -/

theorem storable_eq_ok {v w : Value} (h : v.storable = .ok w) : w = v := by
  cases v <;> cases h <;> rfl

theorem exec_record (h : Handle) (k : PropertyKey) (schema : Schema) (v : Value) (s : State) :
    exec (Eval.record h k schema v) s =
      match v.toDatum schema with
      | .ok d => (.ok .undefined, s.record h k d)
      | .error c => (.error (.failure { cause := c }), s) := by
  rw [Eval.record]
  rcases v.toDatum schema with c | d
  · rfl
  · rfl

/-- With a value, an assignment fails between its parameters or after them, or it
records the value. -/
theorem exec_finish (v : Value) (t : State) :
    (∃ stop j, exec (a.finish n env v) t =
        (.error stop, after ((a.laterSteps n env t).take j) t)) ∨
      ∃ h k d schema, a.Commits n env v t h k d schema ∧ exec (a.finish n env v) t =
        (.ok .undefined, (after (a.laterSteps n env t) t).record h k d) := by
  have traced := fun h schema => a.address.keyIn_traces n (env.holding (· == h)) schema t
  unfold finish laterSteps
  -- up to the key nothing is evaluated, so a failure leaves the state as it is
  rcases storable : v.storable with c | w
  · exact .inl ⟨_, 0, exec_bind_error (exec_fail c t)⟩
  cases storable_eq_ok storable
  have stored : exec (Eval.ofExcept (.ok v)) t = (.ok v, t) := rfl
  rw [exec_bind_ok stored]
  rcases target : env.target t a.context with c | h
  · exact .inl ⟨_, 0, exec_bind_error (exec_collection_error target)⟩
  rw [exec_bind_ok (exec_collection_ok target)]
  rcases declared : a.address.schema env.data with c | schema
  · exact .inl ⟨_, 0, exec_bind_error (exec_fail c t)⟩
  have found : exec (Eval.ofExcept (.ok schema)) t = (.ok schema, t) := rfl
  rw [exec_bind_ok found]
  obtain ⟨j, left, all⟩ := traced h schema
  rcases run : exec (a.address.keyIn n (env.holding (· == h)) schema) t with ⟨stop | k, u⟩
  · rw [run] at left
    exact .inl ⟨stop, j, by rw [exec_bind_error run, ← left]⟩
  · -- the key is built, so all parameters have been evaluated
    rw [run] at left all
    rw [List.take_of_length_le (all k rfl)] at left
    rw [exec_bind_ok run, exec_record, ← left]
    rcases datum : v.toDatum schema with c | d
    · exact .inl ⟨_, _, by rw [List.take_of_length_le (Nat.le_refl _), ← left]⟩
    · exact .inr ⟨h, k, d, schema, ⟨storable, target, declared, by rw [run], datum⟩, rfl⟩

theorem exec_program (a : Assignment) (n : Nat) (env : Env) (s : State) :
    (∃ stop j, exec (a.program n env) s = (.error stop, after ((a.steps n env s).take j) s)) ∨
      ∃ value v t h k d schema, a.value = some value ∧ a.address.isValid = true ∧
        exec (eval n env value) s = (.ok v, t) ∧ a.Commits n env v t h k d schema ∧
        exec (a.program n env) s =
          (.ok .undefined, (after (a.steps n env s) s).record h k d) := by
  unfold program steps
  rcases a.value with - | value
  · exact .inl ⟨_, 0, rfl⟩
  dsimp only
  rcases valid : a.address.isValid with - | -
  · exact .inl ⟨_, 0, rfl⟩
  rw [if_neg (by decide)]
  rcases run : exec (eval n env value) s with ⟨stop | v, t⟩
  · -- the value stops the assignment after one step
    refine .inl ⟨stop, 1, ?_⟩
    rw [exec_bind_error run]
    show (Except.error stop, t) = (.error stop, (exec (eval n env value) s).2)
    rw [run]
  have evaluated : ∀ ms, after (eval n env value :: ms) s = after ms t := by
    intro ms
    rw [after, run]
  rw [exec_bind_ok run]
  rcases exec_finish v t with ⟨stop, j, failed⟩ | ⟨h, k, d, schema, commits, recorded⟩
  · exact .inl ⟨stop, j + 1, by rw [failed, List.take_succ_cons, evaluated]⟩
  · exact .inr ⟨value, v, t, h, k, d, schema, rfl, rfl, run, commits,
      by rw [recorded, evaluated]⟩

/-- What an assignment that comes to record does for its key. -/
theorem Commits.exec_key {v : Value} {t : State} {h : Handle} {k : PropertyKey} {d : Datum}
    {schema : Schema} (hc : a.Commits n env v t h k d schema) :
    exec (a.address.keyIn n (env.holding (· == h)) schema) t =
      (.ok k, after (a.laterSteps n env t) t) := by
  obtain ⟨j, left, all⟩ := a.address.keyIn_traces n (env.holding (· == h)) schema t
  rw [List.take_of_length_le (all k hc.key)] at left
  rw [laterSteps, hc.target, hc.declared]
  exact Prod.ext hc.key left

/-- What an assignment has done that succeeded. -/
theorem eval_eq_ok {e : Expr} (ha : e.assignment? = some a) {s t : State} {w : Value}
    (run : exec (eval n env e) s = (.ok w, t)) :
    w = .undefined ∧ ∃ value v u h k d schema, a.value = some value ∧ a.address.isValid = true ∧
      exec (eval n env value) s = (.ok v, u) ∧ a.Commits n env v u h k d schema ∧
      after (a.steps n env s) s = after (a.laterSteps n env u) u ∧
      t = (after (a.steps n env s) s).record h k d := by
  rw [eval_eq_program ha] at run
  have run := exec_locating_eq_ok run
  rcases a.exec_program n env s with
    ⟨stop, j, failed⟩ | ⟨value, v, u, h, k, d, schema, hvalue, valid, evaluated, commits, done⟩
  · cases failed.symm.trans run
  · cases done.symm.trans run
    refine ⟨rfl, value, v, u, h, k, d, schema, hvalue, valid, evaluated, commits, ?_, rfl⟩
    rw [steps, hvalue]
    show after (a.laterSteps n env (exec (eval n env value) s).2) (exec (eval n env value) s).2 = _
    rw [evaluated]

end Assignment

/-! ### Keys that take no step -/

section

variable {n : Nat} {env : Env} {c : Context} {k : PropertyKey} {schema : Schema} {s t : State}

/-- What an assignment of a value records, and in which collection. -/
def Env.assigned (env : Env) (s : State) (c : Context) (schema : Schema) (v : Value) :
    Except Cause (Handle × Datum) := do
  let v ← v.storable
  let h ← env.target s c
  let d ← v.toDatum schema
  .ok (h, d)

theorem Env.assigned_eq_ok_iff {w : Value} {h : Handle} {d : Datum} :
    env.assigned s c schema w = .ok (h, d) ↔
      w.storable = .ok w ∧ env.target s c = .ok h ∧ w.toDatum schema = .ok d := by
  simp only [Env.assigned, bind_eq_ok_iff, Except.ok.injEq, Prod.mk.injEq]
  constructor
  · rintro ⟨w', storable, h', target, d', datum, rfl, rfl⟩
    obtain rfl := Assignment.storable_eq_ok storable
    exact ⟨storable, target, datum⟩
  · rintro ⟨storable, target, datum⟩
    exact ⟨w, storable, h, target, d, datum, rfl, rfl⟩

/-- How an assignment under the key `k` ends, by what it records. -/
def Expr.recording (e : Expr) (s : State) (k : PropertyKey) :
    Except Cause (Handle × Datum) → Except Stop Value × State
  | .error cause => (e.ending (.error cause), s)
  | .ok (h, d) => (.ok .undefined, s.record h k d)

/-- An assignment whose key takes no step that changes anything. -/
theorem exec_assignment {a : Assignment} {e value : Expr} {w : Value} (ha : e.assignment? = some a)
    (hvalue : a.value = some value) (valid : a.address.isValid = true)
    (evaluated : exec (eval n env value) s = (.ok w, t))
    (declared : a.address.schema env.data = .ok schema)
    (key : ∀ h, exec (a.address.keyIn n (env.holding (· == h)) schema) t = (.ok k, t)) :
    exec (eval n env e) s = e.recording t k (env.assigned t a.context schema w) := by
  have program : a.program n env = (do a.finish n env (← eval n env value)) := by
    rw [Assignment.program, hvalue]
    exact if_neg (by simp [valid])
  rw [a.eval_eq_program ha, program, exec_locating, exec_bind_ok evaluated]
  unfold Assignment.finish Env.assigned
  -- the three look-ups fail in the same order on both sides
  rcases storable : w.storable with cause | w'
  · rfl
  cases Assignment.storable_eq_ok storable
  rw [exec_bind_ok (exec_ofExcept (.ok w) t)]
  rcases target : env.target t a.context with cause | h
  · rw [exec_bind_error (exec_collection_error target)]
    rfl
  rw [exec_bind_ok (exec_collection_ok target), declared,
    exec_bind_ok (exec_ofExcept (.ok schema) t), exec_bind_ok (key h), Assignment.exec_record]
  show _ = e.recording t k (do let d ← w.toDatum schema; Except.ok (h, d))
  rcases w.toDatum schema with cause | d <;> rfl

end

/-! ### What can be written exists -/

theorem size_le_eval (n : Nat) (env : Env) (e : Expr) (s : State) :
    s.store.cells.size ≤ (exec (eval n env e) s).2.store.cells.size :=
  (tryRun_sameOff n env (some e) s (s.activation.confined_footprint env.game env.settings)).size

/-- What can be written through an activation that resembles another, with the same
stacks, could be written through that. -/
theorem Activation.Resembles.resolve_write {a b : Activation} (h : Resembles a b)
    (hc : b.callerStack = a.callerStack) (hl : b.localStack = a.localStack)
    {globals : Option Handle} {c : Context} {v : Value}
    (hv : b.resolve globals c .write = .ok v) : a.resolve globals c .write = .ok v := by
  obtain ⟨bound, hb, rfl, free, nonnull⟩ := resolve_eq_ok_iff.mp hv
  refine resolve_eq_ok_iff.mpr ⟨bound, ?_, rfl, free, nonnull⟩
  cases c with
  | slot slot =>
    cases hb
    rcases h with same | cleared
    · exact congrArg Except.ok (same slot).symm
    · -- a slot that was cleared is null, and null pointers are not written through
      have nonnull := nonnull nofun
      rw [cleared slot] at nonnull ⊢
      rcases a.binding_clearCondition_cases slot with same | null | null
      · exact congrArg Except.ok same.symm
      · rw [null] at nonnull
        cases nonnull
      · rw [null] at nonnull
        cases nonnull
  | callerStack =>
    rw [← hb, value, value, hc]
  | localStack =>
    rw [← hb, value, value, hl]
  | globals => exact hb

theorem State.Grounded.eval {env : Env} {s : State} (hs : s.Grounded env) (n : Nat) (e : Expr) :
    (exec (eval n env e) s).2.Grounded env := by
  intro c h target
  obtain ⟨caller, here, slots⟩ := eval_restores n env e s
  refine Nat.lt_of_lt_of_le (hs c h ?_) (size_le_eval n env e s)
  unfold Env.target Env.behind at target ⊢
  rcases resolved : (exec (Rulebook.eval n env e) s).2.activation.resolve env.data.globals c .write
    with k | v
  · rw [resolved] at target
    cases target
  · rw [slots.resolve_write caller here resolved]
    rwa [resolved] at target

end Rulebook
