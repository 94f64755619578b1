/-
Rulebook/Proofs/ReadBack.lean

What was assigned is read back.  A value crosses into a collection as a datum
and comes back as a value of its own, which is not always the one that was
assigned; but from there on nothing changes any more: the value of a datum
converts to the datum again, for every property of its type
(`Value.toDatum_ofDatum`).

The rest of `assigned_reads_back` is about what could come between.  The target
of an assignment is looked up after its value was evaluated, and it is what a
load finds in the state that the assignment leaves; and the target is the
first collection of its chain, so no parent hides what was recorded.
-/
import Rulebook.Proofs.Assignment
import Rulebook.Proofs.Chain
import Rulebook.Proofs.Typing

namespace Rulebook

open Eval

/-! ### Conversions -/

namespace Value

/-- The value of a datum converts to the datum. -/
theorem toDatum?_ofDatum (d : Datum) : (ofDatum d).toDatum? d.dataType = some d := by
  cases d <;> rfl

/-- The value of a datum converts to the datum for every property of its type. -/
theorem toDatum_ofDatum {d : Datum} {schema : Schema} (typed : d.dataType = schema.dataType) :
    (ofDatum d).toDatum schema = .ok d := by
  rw [toDatum, ← typed, toDatum?_ofDatum]

theorem storable_ofDatum (d : Datum) : (ofDatum d).storable = .ok (ofDatum d) := by
  cases d <;> rfl

end Value

/-! ### Reads of a target -/

/-- What can be written can be read. -/
theorem Activation.resolve_read_of_write {a : Activation} {globals : Option Handle} {c : Context}
    {v : Value} (h : a.resolve globals c .write = .ok v) : a.resolve globals c .read = .ok v := by
  obtain ⟨b, bound, value, -, nonnull⟩ := resolve_eq_ok_iff.mp h
  exact resolve_eq_ok_iff.mpr ⟨b, bound, value, nofun, fun _ => nonnull nofun⟩

theorem Env.behind_read_of_target {env : Env} {c : Context} {s : State} {h : Handle}
    (target : env.target s c = .ok h) : env.behind s c .read = .ok h := by
  rw [Env.target, Env.behind] at target
  -- what may be written may be read as well, and it is the same collection
  rcases resolved : s.activation.resolve env.data.globals c .write with k | v
  · rw [resolved] at target
    cases target
  · rw [resolved] at target
    rw [Env.behind, Activation.resolve_read_of_write resolved]
    exact target

/-! ### Answers about a key -/

/-- The answer of a load: what the collection behind a context has under a key, or
the declared default. -/
def Env.loaded (env : Env) (s : State) (c : Context) (k : PropertyKey) (schema : Schema) :
    Except Cause Value :=
  (env.behind s c .read).map fun h =>
    .ofDatum ((s.store.get? (env.live s) h k).getD schema.default)

section

variable {m : Nat} {env : Env} {c : Context} {k : PropertyKey} {s : State} {h : Handle} {d : Datum}
variable {schema : Schema}

theorem exec_has (valid : k.isValid = true) (target : env.target s c = .ok h)
    (held : s.store.getLocal? h k = some d) :
    exec (eval m env (.has c k)) s = (.ok (.bool true), s) := by
  have found : s.store.has (env.live s) h k = true := by
    rw [Store.has, Store.get?_of_getLocal? _ held]
    rfl
  have run : exec (Eval.has env c k) s = (.ok (.bool true), s) := by
    simp only [Eval.has, valid, Bool.not_true, Bool.false_eq_true, if_false]
    rw [exec_bind_ok (exec_collection_ok (Env.behind_read_of_target target))]
    show (Except.ok (Value.bool (s.store.has (env.live s) h k)), s) = _
    rw [found]
  rw [eval, evalWith, located, exec_locating, run]

/-- A step that goes on from a collection to the record of a key. -/
theorem exec_collection_bind {f : Handle → Eval Value}
    (hf : ∀ h, exec (f h) s =
      (.ok (.ofDatum ((s.store.get? (env.live s) h k).getD schema.default)), s)) :
    exec (collection env c .read >>= f) s =
      ((env.loaded s c k schema).mapError fun c => .failure { cause := c }, s) := by
  rw [Env.loaded, exec_bind, exec_collection]
  -- no collection to read from, or the read itself
  rcases env.behind s c .read with cause | h
  · rfl
  · exact hf h

/-- A load of a declared key. -/
theorem exec_load_declared (valid : k.isValid = true)
    (declared : env.data.schemaOf k.property = .ok schema) :
    exec (eval m env (.load c k)) s = ((Expr.load c k).ending (env.loaded s c k schema), s) := by
  unfold eval evalWith
  rw [located]
  refine exec_locating_answer ?_
  simp only [Eval.load, valid, Bool.not_true, Bool.false_eq_true, if_false, declared]
  exact exec_collection_bind fun h => rfl

/-- What a collection holds itself hides what is above it, and the default. -/
theorem Env.loaded_of_held (target : env.target s c = .ok h)
    (held : s.store.getLocal? h k = some d) (schema : Schema) :
    env.loaded s c k schema = .ok (.ofDatum d) := by
  rw [Env.loaded, Env.behind_read_of_target target]
  show Except.ok (Value.ofDatum ((s.store.get? (env.live s) h k).getD schema.default)) = _
  rw [Store.get?_of_getLocal? _ held]
  rfl

theorem exec_load (valid : k.isValid = true) (target : env.target s c = .ok h)
    (declared : env.data.schemaOf k.property = .ok schema)
    (held : s.store.getLocal? h k = some d) :
    exec (eval m env (.load c k)) s = (.ok (.ofDatum d), s) := by
  rw [exec_load_declared valid declared, Env.loaded_of_held target held]
  rfl

end

/-! ### Assignments to a key -/

section

variable {n : Nat} {env : Env} {c : Context} {k : PropertyKey} {value : Expr} {s t u : State}
variable {v w : Value}

/-- What an assignment to a key has done that succeeded. -/
theorem assign_eq_ok (evaluated : exec (eval n env value) s = (.ok v, u))
    (assigned : exec (eval n env (.assign c k (some value))) s = (.ok w, t)) :
    k.isValid = true ∧ w = .undefined ∧ ∃ h d schema,
      (⟨c, .key k, some value⟩ : Assignment).Commits n env v u h k d schema ∧
        t = u.record h k d := by
  obtain ⟨rfl, _, _, _, h, k', d, schema, hvalue, valid, run, commits, steps, done⟩ :=
    Assignment.eval_eq_ok rfl assigned
  cases hvalue
  cases evaluated.symm.trans run
  cases Except.ok.inj commits.key
  -- the target and the declaration are looked up, and neither changes a thing
  have unchanged : u = after (Assignment.laterSteps ⟨c, .key k, some value⟩ n env u) u :=
    congrArg Prod.snd commits.exec_key
  rw [done, steps, ← unchanged]
  exact ⟨valid, rfl, h, d, schema, commits, rfl⟩

/-- An assignment to a key succeeds if its value was recorded before. -/
theorem exec_assign {h : Handle} {d : Datum} {schema : Schema} (valid : k.isValid = true)
    (evaluated : exec (eval n env value) s = (.ok (.ofDatum d), u))
    (target : env.target u c = .ok h) (declared : env.data.schemaOf k.property = .ok schema)
    (typed : d.dataType = schema.dataType) :
    exec (eval n env (.assign c k (some value))) s = (.ok .undefined, u.record h k d) := by
  -- a key that is written out is not evaluated
  have keyed : ∀ h, exec ((Address.key k).keyIn n (env.holding (· == h)) schema) u = (.ok k, u) :=
    fun _ => exec_pure k u
  have records : env.assigned u c schema (.ofDatum d) = .ok (h, d) :=
    Env.assigned_eq_ok_iff.mpr ⟨Value.storable_ofDatum d, target, Value.toDatum_ofDatum typed⟩
  rw [exec_assignment (a := ⟨c, .key k, some value⟩) rfl rfl valid evaluated declared keyed]
  dsimp only
  rw [records]
  rfl

end

/-- **What was assigned is read back.** If an assignment to a key succeeds, its
value was converted to the type that is declared for the key, and in the state
that is left the key has a value, and a load of it gives what the conversion
came to.  Assigned to any property of that type, what is loaded is recorded as
what was recorded before.  In general, the value of a datum converts to the
datum for every property of its type. -/
theorem assigned_reads_back (n : Nat) (env : Env) {c : Context} {k : PropertyKey} {value : Expr}
    {s t u : State} {v w : Value} (grounded : s.Grounded env)
    (evaluated : exec (eval n env value) s = (.ok v, u))
    (assigned : exec (eval n env (.assign c k (some value))) s = (.ok w, t)) :
    (∃ schema d h, env.data.schemaOf k.property = .ok schema ∧ v.toDatum schema = .ok d ∧
      env.target t c = .ok h ∧ t.store.getLocal? h k = some d ∧
      ∀ m, exec (eval m env (.has c k)) t = (.ok (.bool true), t) ∧
        exec (eval m env (.load c k)) t = (.ok (.ofDatum d), t) ∧
        ∀ c' k' schema' h', k'.isValid = true → env.data.schemaOf k'.property = .ok schema' →
          schema'.dataType = schema.dataType → env.target t c' = .ok h' →
          exec (eval m env (.assign c' k' (some (.load c k)))) t =
            (.ok .undefined, t.record h' k' d) ∧
          (t.record h' k' d).store.getLocal? h' k' = some d) ∧
    ∀ (d : Datum) (schema : Schema), d.dataType = schema.dataType →
      (Value.ofDatum d).toDatum schema = .ok d := by
  refine ⟨?_, fun d schema typed => Value.toDatum_ofDatum typed⟩
  obtain ⟨valid, rfl, h, d, schema, commits, rfl⟩ := assign_eq_ok evaluated assigned
  have typed : d.dataType = schema.dataType := Value.dataType_of_toDatum commits.datum
  have declared : env.data.schemaOf k.property = .ok schema := commits.declared
  -- the target is one of where the value was evaluated, which may have created it
  have hu : u.Grounded env := by
    have := grounded.eval n value
    rwa [evaluated] at this
  have target : env.target (u.record h k d) c = .ok h := commits.target
  have held : (u.record h k d).store.getLocal? h k = some d :=
    Store.getLocal?_set_self u.store k d (hu c h commits.target)
  refine ⟨schema, d, h, declared, commits.datum, target, held, fun m => ?_⟩
  have loaded := exec_load (m := m) valid target declared held
  have present := exec_has (m := m) valid target held
  refine ⟨present, loaded, fun c' k' schema' h' valid' declared' same target' => ?_⟩
  refine ⟨exec_assign valid' loaded target' declared' (typed.trans same.symm), ?_⟩
  refine Store.getLocal?_set_self _ k' d ?_
  rw [State.record, Store.size_set]
  exact hu c' h' target'

/-- An integer that is assigned to a collection is there and is loaded from it. -/
theorem missionState_reads_back :
    let env : Env := ⟨{}, none, {}, fun _ => false⟩
    let s : State := ⟨⟨#[{}]⟩, { callerStack := some ⟨0⟩ }⟩
    let key := PropertyKey.ofProperty .avatarMissionState
    s.Grounded env ∧ ∃ t,
      exec (eval 0 env (.assign .callerStack key (some (.int 7)))) s = (.ok .undefined, t) ∧
      exec (eval 0 env (.has .callerStack key)) t = (.ok (.bool true), t) ∧
      exec (eval 0 env (.load .callerStack key)) t = (.ok (.int 7), t) := by
  intro env s key
  have grounded : s.Grounded env := by
    refine .of_stacks (fun slot h => ?_) nofun (fun h caller => ?_) nofun
    · cases slot <;> nofun
    · cases caller
      exact Nat.zero_lt_one
  obtain ⟨own, found, type⟩ : ∃ own, env.data.schemaOf key.property = .ok own ∧
      own.dataType = .integer := by
    rw [PropertyKey.property_ofProperty]
    exact ⟨_, rfl, rfl⟩
  have assigned : exec (eval 0 env (.assign .callerStack key (some (.int 7)))) s =
      (.ok .undefined, s.record ⟨0⟩ key (.integer 7)) :=
    exec_assign (d := .integer 7) (by decide) rfl rfl found type.symm
  obtain ⟨⟨schema, d, h, declared, datum, -, -, reads⟩, -⟩ :=
    assigned_reads_back 0 env grounded rfl assigned
  obtain ⟨present, loaded, -⟩ := reads 0
  refine ⟨grounded, _, assigned, present, ?_⟩
  -- the schema of the theorem is the built-in one, by which seven is stored as it is
  have own_schema : schema = own := Except.ok.inj (declared.symm.trans found)
  rw [own_schema, Value.toDatum, type] at datum
  have converted : d = .integer 7 := Except.ok.inj (datum.symm.trans rfl)
  rw [loaded, converted]
  rfl

end Rulebook
