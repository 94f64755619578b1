/-
Rulebook/Proofs/Coupling.lean

Couplings of two runs.  From states that are related, two steps that are
`Tied` end alike in states that are related again.  What this asks is left
open in three places.

* Relations of states, for those the steps start from and those they come to.
* A relation of values, for steps that do not come to the same value: a step
  that looks at a slot may find one collection in the first run and another in
  the second.
* The `Coupling` itself, for the stops: a stop of the first step may be
  `excused`, and then nothing is asked of the second; other stops have to be
  `admitted`; and failures have to be `like` each other.

So one statement about ties says that two ways of running agree, that one of
them agrees with the other as far as it comes, that certain stops do not
occur, or that two runs find different things in the same places.

As in `Rulebook.Proofs.Guarantee` there is one rule for each thing that
evaluation is built from.  There the two steps start from the same state and
the state before is compared with the state after; here the two states are
compared with each other.
-/
import Rulebook.Proofs.Outcome

namespace Rulebook

open Eval

/-- Whether two results are values in the relation `V`, or errors in the relation
`E`. -/
inductive Matched {ε δ α β : Type} (E : ε → δ → Prop) (V : α → β → Prop) :
    Except ε α → Except δ β → Prop
  | ok {a : α} {b : β} : V a b → Matched E V (.ok a) (.ok b)
  | error {e : ε} {d : δ} : E e d → Matched E V (.error e) (.error d)

theorem Matched.mapError {ε ε' δ δ' α β : Type} {E : ε → δ → Prop} {E' : ε' → δ' → Prop}
    {V : α → β → Prop} {x : Except ε α} {y : Except δ β} {f : ε → ε'} {g : δ → δ'}
    (h : Matched E V x y) (hE : ∀ e d, E e d → E' (f e) (g d)) :
    Matched E' V (x.mapError f) (y.mapError g) := by
  cases h with
  | ok same => exact .ok same
  | error same => exact .error (hE _ _ same)

/-- What is asked of the stops of two runs. Failures are not excused, since
operators may absorb them, and those that are alike stay so where they are
located. -/
structure Coupling where
  excused : Stop → Prop
  admitted : Stop → Prop
  like : Failure → Failure → Prop
  failure_unexcused : ∀ f, ¬ excused (.failure f)
  like_self : ∀ c : Cause, like { cause := c } { cause := c }
  like_locate : ∀ f f' e, like f f' → like (f.locate e) (f'.locate e)

/-- The coupling that asks for the same ending, whatever it is. -/
def Coupling.same : Coupling where
  excused _ := False
  admitted _ := True
  like := Eq
  failure_unexcused _ := id
  like_self _ := rfl
  like_locate := by rintro _ _ _ rfl; rfl

namespace Coupling

/-- Whether a stop of the second run is what is asked for a stop of the first. -/
inductive Answers (K : Coupling) : Stop → Stop → Prop
  | failure {f f' : Failure} : K.like f f' → K.Answers (.failure f) (.failure f')
  | abort {message : String} : K.admitted (.abort message) →
    K.Answers (.abort message) (.abort message)
  | exhausted : K.admitted .exhausted → K.Answers .exhausted .exhausted

variable {α α' β β' : Type} {K : Coupling} {R R' : State → State → Prop}
variable {V : α → α' → Prop} {W : β → β' → Prop}

/-- From states in the relation `R` two steps end in values in the relation `V`, or
in stops that answer to each other, and come to states in the relation `R'`,
unless the stop of the first excuses the second. -/
def Tied (K : Coupling) (R R' : State → State → Prop) (V : α → α' → Prop) (m : Eval α)
    (m' : Eval α') : Prop :=
  ∀ s s', R s s' → (∃ stop t, exec m s = (.error stop, t) ∧ K.excused stop) ∨
    ∃ r r' t t', exec m s = (r, t) ∧ exec m' s' = (r', t') ∧ Matched K.Answers V r r' ∧ R' t t'

theorem Tied.weaken {R'' : State → State → Prop} {m : Eval α} {m' : Eval α'}
    (h : K.Tied R R' V m m') (hR : ∀ s s', R' s s' → R'' s s') : K.Tied R R'' V m m' := by
  intro s s' hs
  rcases h s s' hs with excuse | ⟨r, r', t, t', e, e', ends, rel⟩
  · exact .inl excuse
  · exact .inr ⟨r, r', t, t', e, e', ends, hR t t' rel⟩

/-! ### Rules -/

theorem Tied.pureWith {a : α} {a' : α'} (h : V a a') : K.Tied R R V (pure a) (pure a') :=
  fun s s' hs => .inr ⟨.ok a, .ok a', s, s', rfl, rfl, .ok h, hs⟩

theorem Tied.pure (a : α) : K.Tied R R Eq (pure a) (pure a) := Tied.pureWith rfl

theorem Tied.throw {stop stop' : Stop} (h : K.Answers stop stop') :
    K.Tied R R V (throw stop : Eval α) (throw stop' : Eval α') :=
  fun s s' hs => .inr ⟨.error stop, .error stop', s, s', rfl, rfl, .error h, hs⟩

theorem Tied.excuse {stop : Stop} {m' : Eval α'} (h : K.excused stop) :
    K.Tied R R' V (MonadExcept.throw stop) m' :=
  fun s _ _ => .inl ⟨stop, s, rfl, h⟩

theorem Tied.fail (c : Cause) : K.Tied R R V (fail c : Eval α) (fail c : Eval α') :=
  Tied.throw (.failure (K.like_self c))

theorem Tied.ofExcept (x : Except Cause α) : K.Tied R R Eq (ofExcept x) (ofExcept x) := by
  rcases x with c | a
  · exact Tied.fail c
  · exact Tied.pure a

/-- The last of two steps may lead to a weaker relation, which holds then if the
first stops. -/
theorem Tied.bindTo {m : Eval α} {m' : Eval α'} {f : α → Eval β} {f' : α' → Eval β'}
    (hm : K.Tied R R V m m') (hf : ∀ a a', V a a' → K.Tied R R' W (f a) (f' a'))
    (hR : ∀ s s', R s s' → R' s s') : K.Tied R R' W (m >>= f) (m' >>= f') := by
  intro s s' hs
  rcases hm s s' hs with ⟨stop, t, e, excuse⟩ | ⟨_, _, t, t', e, e', ends, rel⟩
  · exact .inl ⟨stop, t, exec_bind_error e, excuse⟩
  · -- the second parts meet only where the first ones succeed
    cases ends with
    | ok same =>
      have h := hf _ _ same t t' rel
      rwa [← exec_bind_ok e, ← exec_bind_ok e'] at h
    | error answers =>
      exact .inr ⟨_, _, t, t', exec_bind_error e, exec_bind_error e', .error answers, hR t t' rel⟩

theorem Tied.bindWith {m : Eval α} {m' : Eval α'} {f : α → Eval β} {f' : α' → Eval β'}
    (hm : K.Tied R R V m m') (hf : ∀ a a', V a a' → K.Tied R R W (f a) (f' a')) :
    K.Tied R R W (m >>= f) (m' >>= f') :=
  hm.bindTo hf fun _ _ rel => rel

theorem Tied.bind {m m' : Eval α} {f : α → Eval β} {f' : α → Eval β'} (hm : K.Tied R R Eq m m')
    (hf : ∀ a, K.Tied R R W (f a) (f' a)) : K.Tied R R W (m >>= f) (m' >>= f') :=
  hm.bindWith fun a _ same => same ▸ hf a

/-- What would come after a failure does not matter. -/
theorem Tied.failBind (c : Cause) {f : α → Eval β} {f' : α' → Eval β'} :
    K.Tied R R W (Eval.fail c >>= f) (Eval.fail c >>= f') :=
  fun s s' hs => .inr ⟨_, _, s, s', rfl, rfl, .error (.failure (K.like_self c)), hs⟩

theorem Tied.discard {m m' : Eval α} (hm : K.Tied R R Eq m m') :
    K.Tied R R Eq (discard m) (discard m') :=
  hm.bind fun _ => Tied.pure ()

/-- A change of both states that keeps them related. -/
theorem Tied.modify {f f' : State → State} (h : ∀ s s', R s s' → R (f s) (f' s')) :
    K.Tied R R Eq (modify f : Eval Unit) (modify f') :=
  fun s s' hs => .inr ⟨.ok (), .ok (), f s, f' s', rfl, rfl, .ok rfl, h s s' hs⟩

/-- Attempts come to the same value, or to failures that are alike. -/
theorem Tied.attempt {m m' : Eval α} (hm : K.Tied R R Eq m m') :
    K.Tied R R (Matched K.like Eq) (attempt m) (attempt m') := by
  intro s s' hs
  rcases hm s s' hs with ⟨stop, t, e, excuse⟩ | ⟨_, _, t, t', e, e', ends, rel⟩
  · rw [exec_attempt, e]
    -- a failure is never an excuse, so an excused stop goes through
    cases stop with
    | failure f => exact absurd excuse (K.failure_unexcused f)
    | abort message => exact .inl ⟨_, t, rfl, excuse⟩
    | exhausted => exact .inl ⟨_, t, rfl, excuse⟩
  · rw [exec_attempt, exec_attempt, e, e']
    cases ends with
    | ok same => exact .inr ⟨_, _, t, t', rfl, rfl, .ok (.ok same), rel⟩
    | error answers =>
      cases answers with
      | failure like => exact .inr ⟨_, _, t, t', rfl, rfl, .ok (.error like), rel⟩
      | abort admitted =>
        exact .inr ⟨_, _, t, t', rfl, rfl, .error (.abort admitted), rel⟩
      | exhausted admitted =>
        exact .inr ⟨_, _, t, t', rfl, rfl, .error (.exhausted admitted), rel⟩

/-- What comes after an attempt is tied if it is after the same value and after
failures that are alike. -/
theorem Tied.attemptBind {m m' : Eval α} {f : Except Failure α → Eval β}
    {f' : Except Failure α → Eval β'} (hm : K.Tied R R Eq m m')
    (value : ∀ a, K.Tied R R W (f (.ok a)) (f' (.ok a)))
    (failed : ∀ g g' : Failure, K.like g g' → K.Tied R R W (f (.error g)) (f' (.error g'))) :
    K.Tied R R W (Eval.attempt m >>= f) (Eval.attempt m' >>= f') := by
  refine hm.attempt.bindWith fun r r' ends => ?_
  cases ends with
  | ok same => exact same ▸ value _
  | error like => exact failed _ _ like

theorem Tied.locating (e : Expr) {m m' : Eval α} (hm : K.Tied R R' Eq m m') :
    K.Tied R R' Eq (locating e m) (locating e m') := by
  intro s s' hs
  rcases hm s s' hs with ⟨stop, t, h, excuse⟩ | ⟨_, _, t, t', h, h', ends, rel⟩
  · rw [exec_locating, h]
    cases stop with
    | failure f => exact absurd excuse (K.failure_unexcused f)
    | abort message => exact .inl ⟨_, t, rfl, excuse⟩
    | exhausted => exact .inl ⟨_, t, rfl, excuse⟩
  · rw [exec_locating, exec_locating, h, h']
    cases ends with
    | ok same => exact .inr ⟨_, _, t, t', rfl, rfl, .ok same, rel⟩
    | error answers =>
      -- only failures are located; the two other stops pass as they are
      cases answers with
      | failure like =>
        exact .inr ⟨_, _, t, t', rfl, rfl, .error (.failure (K.like_locate _ _ e like)), rel⟩
      | abort admitted =>
        exact .inr ⟨_, _, t, t', rfl, rfl, .error (.abort admitted), rel⟩
      | exhausted admitted =>
        exact .inr ⟨_, _, t, t', rfl, rfl, .error (.exhausted admitted), rel⟩

theorem Tied.keyWith {schema : Schema} {p p' q q' r r' t t' : Eval Param}
    (hp : K.Tied R R Eq p p') (hq : K.Tied R R Eq q q') (hr : K.Tied R R Eq r r')
    (ht : K.Tied R R Eq t t') :
    K.Tied R R Eq (keyWith schema p q r t) (keyWith schema p' q' r' t') :=
  hp.bind fun _ => hq.bind fun _ => hr.bind fun _ => ht.bind fun _ => Tied.pure _

/-! ### Loops -/

variable {env env' : Env}

theorem Tied.beginTurn (h : env'.settings.loopLimit = env.settings.loopLimit) (n : Nat) :
    K.Tied R R Eq (beginTurn env n) (beginTurn env' n) := by
  rw [beginTurn_congr h, Eval.beginTurn]
  split
  · exact Tied.pure ()
  · exact Tied.fail _

/-- Loops over the same list are tied if their turns are. -/
theorem Tied.forEach {turn turn' : α → Eval Turn}
    (h : env'.settings.loopLimit = env.settings.loopLimit) :
    ∀ (xs : List α), (∀ x ∈ xs, K.Tied R R Eq (turn x) (turn' x)) → ∀ (n : Nat) (last : Value),
      K.Tied R R Eq (forEach env turn xs n last) (forEach env' turn' xs n last)
  | [], _, _, _ => Tied.pure _
  | x :: xs, ht, n, _ => by
    unfold Eval.forEach
    -- the count is checked, the turn is taken, and the rest follows or not
    refine (Tied.beginTurn h (n + 1)).bind fun _ => (ht x List.mem_cons_self).bind fun ending => ?_
    cases ending with
    | next v => exact Tied.forEach h xs (fun y hy => ht y (List.mem_cons_of_mem x hy)) (n + 1) v
    | stop => exact Tied.pure _
    | leave v => exact Tied.pure _

/-- A loop whose condition does not hold is over, whatever it would do. -/
theorem repeatWhile_over {v : Value} (hv : v ≠ .bool true) :
    ∃ ending, ∀ env condition turn n k,
      repeatWhile env condition turn n k v = Pure.pure ending := by
  -- false finishes the loop, and any value but a Boolean leaves it
  by_cases hf : v = .bool false
  · refine ⟨.finished (.bool false), fun env condition turn n k => ?_⟩
    rw [hf, repeatWhile]
  · refine ⟨.left v, fun env condition turn n k => ?_⟩
    rw [repeatWhile]
    · exact hf
    · exact fun _ _ h => hv h
    · exact fun _ h => hv h

/-- Loops with a condition are tied if their conditions and their turns are, and
the second has at least the allowance of the first. What becomes of a loop
whose allowance is used up matters only if the settings admit that many turns. -/
theorem Tied.repeatWhile {condition condition' : Eval Value} {turn turn' : Eval Unit}
    (h : env'.settings.loopLimit = env.settings.loopLimit)
    (hc : K.Tied R R Eq condition condition') (ht : K.Tied R R Eq turn turn')
    (n n' : Nat) (hn : n ≤ n') :
    ∀ (k : Nat) (v : Value), env.settings.admits k = true →
      (env.settings.admits (k + n) = true →
        K.excused .exhausted ∨ n = n' ∧ K.admitted .exhausted) →
      K.Tied R R Eq (repeatWhile env condition turn n k v)
        (repeatWhile env' condition' turn' n' k v) := by
  -- by induction on the allowance of the first; `k` turns have been begun
  induction n generalizing n' with
  | zero =>
    intro k v hk out
    by_cases hv : v = .bool true
    · subst hv
      rw [Eval.repeatWhile]
      rcases out hk with excuse | ⟨rfl, admitted⟩
      · exact Tied.excuse excuse
      · exact Tied.throw (.exhausted admitted)
    · obtain ⟨ending, ends⟩ := repeatWhile_over hv
      rw [ends, ends]
      exact Tied.pure ending
  | succ n ih =>
    obtain ⟨m, rfl⟩ : ∃ m, n' = m + 1 := ⟨n' - 1, by omega⟩
    intro k v hk out
    by_cases hv : v = .bool true
    · subst hv
      rw [Eval.repeatWhile, Eval.repeatWhile, beginTurn_congr h]
      by_cases admitted : env.settings.admits (k + 1) = true
      · rw [beginTurn_of_admits admitted]
        refine (Tied.pure ()).bind fun _ => ht.bind fun _ => hc.bind fun w => ?_
        refine ih m (Nat.le_of_succ_le_succ hn) (k + 1) w admitted fun reached => ?_
        rw [show k + 1 + n = k + (n + 1) by omega] at reached
        rcases out reached with excuse | ⟨same, admitted⟩
        · exact .inl excuse
        · exact .inr ⟨Nat.succ.inj same, admitted⟩
      · -- the limit stops both loops before the turn
        rw [beginTurn_of_not_admits admitted]
        exact Tied.failBind _
    · obtain ⟨ending, ends⟩ := repeatWhile_over hv
      rw [ends, ends]
      exact Tied.pure ending

theorem Tied.concludingTo {loop loop' : Eval Ending} {after after' : Value → Eval Value}
    (hl : K.Tied R R Eq loop loop') (ha : ∀ v, K.Tied R R' Eq (after v) (after' v))
    (hR : ∀ s s', R s s' → R' s s') :
    K.Tied R R' Eq (concluding loop after) (concluding loop' after') := by
  refine hl.bindTo (fun ending _ same => ?_) hR
  subst same
  -- the last expression runs only after a loop that has finished
  cases ending with
  | finished last => exact ha last
  | left v => exact (Tied.pure v).weaken hR

theorem Tied.concluding {loop loop' : Eval Ending} {after after' : Value → Eval Value}
    (hl : K.Tied R R Eq loop loop') (ha : ∀ v, K.Tied R R Eq (after v) (after' v)) :
    K.Tied R R Eq (concluding loop after) (concluding loop' after') :=
  hl.concludingTo ha fun _ _ rel => rel

theorem Tied.gated {gate gate' : Eval Gate} {rest rest' : Eval Turn}
    (hg : K.Tied R R Eq gate gate') (hr : K.Tied R R Eq rest rest') :
    K.Tied R R Eq (gated gate rest) (gated gate' rest') := by
  refine hg.bind fun decision => ?_
  cases decision with
  | pass => exact hr
  | stop => exact Tied.pure _
  | leave v => exact Tied.pure _

end Coupling

end Rulebook
