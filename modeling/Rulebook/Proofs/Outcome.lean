/-
Rulebook/Proofs/Outcome.lean

Outcomes of runs.  A step of a run is a function of the state; `Eval.exec`
is that function, and the equations of this module say what it does on the
steps that evaluation is built from.  Everything that is proved about runs
goes through these equations and not through the monad.

The two actions of a frame, entering it and leaving it, are named here
(`State.enter`, `State.leave`), and so are the changes that a run makes to
its state otherwise (`State.record`, `State.withActivation`).
-/
import Rulebook.Eval.Basic

namespace Rulebook

/-! ### Changes of the state -/

namespace State

/-- The collection that the next frame gets. -/
def frame (s : State) : Handle := ⟨s.store.cells.size⟩

/-- The state inside of a new frame. -/
def enter (s : State) : State where
  store := s.store.create.1
  activation :=
    { s.activation with callerStack := s.activation.localStack, localStack := some s.frame }

/-- The state after a frame that was entered from `s` and reached `t`. -/
def leave (s t : State) : State where
  store := t.store
  activation :=
    { t.activation with
      callerStack := s.activation.callerStack, localStack := s.activation.localStack }

/-- The state after a datum is recorded. -/
def record (s : State) (h : Handle) (k : PropertyKey) (d : Datum) : State :=
  { s with store := s.store.set h k d }

/-- The state with another activation. -/
def withActivation (s : State) (a : Activation) : State := { s with activation := a }

/-- The state with another caller stack. -/
def withCaller (s : State) (c : Option Handle) : State :=
  s.withActivation { s.activation with callerStack := c }

end State

/-! ### Collections behind contexts -/

/-- The collection that a context stands for in a use of it. -/
def Env.behind (env : Env) (s : State) (c : Context) (access : Access) : Except Cause Handle := do
  let v ← s.activation.resolve env.data.globals c access
  match v.collectionIn? env.game with
  | some h => .ok h
  | none => .error (.typeMismatch "Context" "a property collection" v.kind)

/-! ### Outcomes -/

namespace Eval

variable {α β : Type}

/-- How a step ends from a state, and the state it leaves. -/
def exec (m : Eval α) (s : State) : Except Stop α × State := m.run s

@[simp] theorem exec_pure (a : α) (s : State) : exec (pure a) s = (.ok a, s) := rfl

@[simp] theorem exec_throw (e : Stop) (s : State) :
    exec (throw e : Eval α) s = (.error e, s) := rfl

@[simp] theorem exec_fail (c : Cause) (s : State) :
    exec (fail c : Eval α) s = (.error (.failure { cause := c }), s) := rfl

@[simp] theorem exec_get (s : State) : exec (get : Eval State) s = (.ok s, s) := rfl

@[simp] theorem exec_modify (f : State → State) (s : State) :
    exec (modify f : Eval Unit) s = (.ok (), f s) := rfl

@[simp] theorem exec_modifyActivation (f : Activation → Activation) (s : State) :
    exec (modifyActivation f) s = (.ok (), s.withActivation (f s.activation)) := rfl

theorem exec_bind (m : Eval α) (f : α → Eval β) (s : State) :
    exec (m >>= f) s =
      match exec m s with
      | (.ok a, t) => exec (f a) t
      | (.error e, t) => (.error e, t) := by
  show (ExceptT.bindCont f (exec m s).1) (exec m s).2 = _
  rcases exec m s with ⟨(e | a), t⟩ <;> rfl

theorem exec_bind_ok {m : Eval α} {f : α → Eval β} {s t : State} {a : α}
    (h : exec m s = (.ok a, t)) : exec (m >>= f) s = exec (f a) t := by
  rw [exec_bind, h]

theorem exec_bind_error {m : Eval α} {f : α → Eval β} {s t : State} {e : Stop}
    (h : exec m s = (.error e, t)) : exec (m >>= f) s = (.error e, t) := by
  rw [exec_bind, h]

/-- A step that has a value has come to it by way of a value. -/
theorem exec_bind_eq_ok {m : Eval α} {f : α → Eval β} {s t : State} {b : β}
    (h : exec (m >>= f) s = (.ok b, t)) :
    ∃ a u, exec m s = (.ok a, u) ∧ exec (f a) u = (.ok b, t) := by
  rcases e : exec m s with ⟨stop | a, u⟩
  · cases (exec_bind_error e).symm.trans h
  · exact ⟨a, u, rfl, (exec_bind_ok e).symm.trans h⟩

/-- Steps that come to the same and go on to the same. -/
theorem exec_bind_congr {m m' : Eval α} {f f' : α → Eval β} {s : State}
    (h : exec m s = exec m' s)
    (hf : ∀ a t, exec m' s = (.ok a, t) → exec (f a) t = exec (f' a) t) :
    exec (m >>= f) s = exec (m' >>= f') s := by
  rcases e : exec m' s with ⟨stop | a, t⟩
  · rw [exec_bind_error (h.trans e), exec_bind_error e]
  · rw [exec_bind_ok (h.trans e), exec_bind_ok e, hf a t e]

theorem exec_discard {m : Eval α} {s t : State} {a : α} (h : exec m s = (.ok a, t)) :
    exec (discard m) s = (.ok (), t) :=
  exec_bind_ok h

@[simp] theorem exec_ofExcept (x : Except Cause α) (s : State) :
    exec (ofExcept x) s = (x.mapError fun c => .failure { cause := c }, s) := by
  cases x <;> rfl

theorem exec_ofExcept_eq_ok {x : Except Cause α} {a : α} {s t : State}
    (h : exec (ofExcept x) s = (.ok a, t)) : x = .ok a ∧ t = s := by
  rw [exec_ofExcept] at h
  rcases x with cause | b
  · cases h
  · cases h
    exact ⟨rfl, rfl⟩

theorem exec_resolve (env : Env) (c : Context) (access : Access) (s : State) :
    exec (resolve env c access) s =
      ((s.activation.resolve env.data.globals c access).mapError fun k =>
        .failure { cause := k }, s) := by
  show exec (ofExcept (s.activation.resolve env.data.globals c access)) s = _
  rw [exec_ofExcept]

theorem exec_collection (env : Env) (c : Context) (access : Access) (s : State) :
    exec (collection env c access) s =
      ((env.behind s c access).mapError fun k => .failure { cause := k }, s) := by
  rw [collection, exec_bind, exec_resolve, Env.behind]
  rcases s.activation.resolve env.data.globals c access with k | v
  · rfl
  · show exec (match v.collectionIn? env.game with
      | some h => pure h
      | none => fail _) s = (Except.mapError _ (match v.collectionIn? env.game with
        | some h => .ok h
        | none => .error _), s)
    rcases v.collectionIn? env.game with - | h
    · rfl
    · rfl

theorem exec_collection_ok {env : Env} {c : Context} {access : Access} {s : State} {h : Handle}
    (found : env.behind s c access = .ok h) : exec (collection env c access) s = (.ok h, s) := by
  rw [exec_collection, found]
  rfl

theorem exec_collection_error {env : Env} {c : Context} {access : Access} {s : State} {k : Cause}
    (missed : env.behind s c access = .error k) :
    exec (collection env c access) s = (.error (.failure { cause := k }), s) := by
  rw [exec_collection, missed]
  rfl

theorem exec_collection_eq_ok {env : Env} {c : Context} {access : Access} {s t : State} {h : Handle}
    (found : exec (collection env c access) s = (.ok h, t)) :
    env.behind s c access = .ok h ∧ t = s := by
  rw [exec_collection, ← exec_ofExcept] at found
  exact exec_ofExcept_eq_ok found

theorem exec_contextInt (slot : Slot) (s : State) :
    exec (contextInt (.slot slot)) s =
      (match (s.activation.binding slot).value.toInt64? with
        | some n => .ok (.int n)
        | none =>
          let kind := (s.activation.binding slot).value.kind
          .error (.failure { cause := .typeMismatch "Context" "Int or Float" kind }), s) := by
  show exec (match (s.activation.binding slot).value.toInt64? with
    | some n => pure (Value.int n)
    | none => fail (.typeMismatch "Context" "Int or Float"
        (s.activation.binding slot).value.kind)) s = _
  rcases (s.activation.binding slot).value.toInt64? with - | n <;> rfl

theorem exec_contextPrototype (slot : Slot) (s : State) :
    exec (contextPrototype (.slot slot)) s =
      (.ok (.prototype ((s.activation.binding slot).value.prototype?.getD .null)), s) := rfl

theorem exec_attempt (m : Eval α) (s : State) :
    exec (attempt m) s =
      match exec m s with
      | (.ok a, t) => (.ok (.ok a), t)
      | (.error (.failure f), t) => (.ok (.error f), t)
      | (.error stop, t) => (.error stop, t) := rfl

section

variable {m : Eval α} {s t : State}

theorem exec_attempt_ok {a : α} (h : exec m s = (.ok a, t)) :
    exec (attempt m) s = (.ok (.ok a), t) := by
  rw [exec_attempt, h]

theorem exec_attempt_failure {f : Failure} (h : exec m s = (.error (.failure f), t)) :
    exec (attempt m) s = (.ok (.error f), t) := by
  rw [exec_attempt, h]

/-- An attempt absorbs no abort. -/
theorem exec_attempt_abort {message : String} (h : exec m s = (.error (.abort message), t)) :
    exec (attempt m) s = (.error (.abort message), t) := by
  rw [exec_attempt, h]

theorem exec_attempt_exhausted (h : exec m s = (.error .exhausted, t)) :
    exec (attempt m) s = (.error .exhausted, t) := by
  rw [exec_attempt, h]

end

theorem exec_locating (e : Expr) (m : Eval α) (s : State) :
    exec (locating e m) s =
      match exec m s with
      | (.error (.failure f), t) => (.error (.failure (f.locate e)), t)
      | r => r := rfl

theorem exec_locating_eq_ok {e : Expr} {m : Eval α} {s t : State} {a : α}
    (h : exec (locating e m) s = (.ok a, t)) : exec m s = (.ok a, t) := by
  rw [exec_locating] at h
  rcases run : exec m s with ⟨stop | b, u⟩
  · rw [run] at h
    -- locating turns a stop into a stop, never into a value
    cases stop <;> cases h
  · rw [run] at h
    exact h

/-- To locate a failure changes no state. -/
theorem exec_locating_state (e : Expr) (m : Eval α) (s : State) :
    (exec (locating e m) s).2 = (exec m s).2 := by
  rw [exec_locating]
  rcases exec m s with ⟨stop | a, t⟩
  · cases stop <;> rfl
  · rfl

theorem exec_inScope (body : Activation → Handle → Eval α) (s : State) :
    exec (inScope body) s =
      ((exec (body s.activation s.frame) s.enter).1,
        s.leave (exec (body s.activation s.frame) s.enter).2) := rfl

theorem exec_closing (bound : Bool) (loop : Eval α) (s : State) :
    exec (closing bound loop) s =
      match exec loop s with
      | (.error e, t) =>
        (.error e, if bound then t.withActivation t.activation.clearCondition else t)
      | (r, t) => (r, t.withActivation t.activation.clearCondition) := rfl

/-- To clear the slots of a condition changes no collection. -/
theorem exec_closing_store (bound : Bool) (loop : Eval α) (s : State) :
    (exec (closing bound loop) s).2.store = (exec loop s).2.store := by
  rw [exec_closing]
  rcases exec loop s with ⟨stop | a, t⟩
  · cases bound <;> rfl
  · rfl

theorem exec_concluding_pure_state (loop : Eval Ending) (s : State) :
    (exec (concluding loop fun v => pure v) s).2 = (exec loop s).2 := by
  rw [concluding, exec_bind]
  rcases exec loop s with ⟨stop | last | v, t⟩ <;> rfl

/-! ### Turns -/

variable {env env' : Env} {n : Nat}

theorem beginTurn_of_admits (h : env.settings.admits n = true) : beginTurn env n = pure () := by
  rw [beginTurn, if_pos h]

theorem beginTurn_of_not_admits (h : ¬ env.settings.admits n = true) :
    beginTurn env n = fail (.loopLimitExceeded (env.settings.loopLimit.getD 0)) := by
  rw [beginTurn, if_neg h]

theorem beginTurn_congr (h : env'.settings.loopLimit = env.settings.loopLimit) (n : Nat) :
    beginTurn env' n = beginTurn env n := by
  rw [beginTurn, beginTurn, Settings.admits_congr h, h]

end Eval

end Rulebook
