/-
Rulebook/Proofs/LoopLimit.lean

The limit for loops.  Under a limit of `n` below the greatest word a loop is
the same as one with its turns laid out in a list of `n` turns or fewer, gone
through once from the front (`taking`):

    counted loop       n times a turn,         then the failure
    loop over a list   its first n elements,   then the failure, if there are more

The body stands once in every turn, so it is run no more than `n` times.  A
counted loop gets to the end of its list if nothing ends it before; that it
has run its body so many times is said by `Laps`, the complete turns that lead
from one state to another.

The count of the turns stops at the greatest word, which is therefore not a
limit that is ever exceeded (`Settings.admits_greatest`).
-/
import Rulebook.Proofs.Outcome

namespace Rulebook

open Eval

namespace Settings

variable {s : Settings} {limit : UInt32}

theorem admits_iff_of_below (h : s.loopLimit = some limit) (below : limit.toNat < 4294967295)
    (n : Nat) : s.admits n = true ↔ n ≤ limit.toNat := by
  rw [admits, h, decide_eq_true_eq]
  omega

/-- A loop whose limit is the greatest word is a loop without a limit. -/
theorem admits_greatest (h : s.loopLimit = some 4294967295) (n : Nat) : s.admits n = true := by
  rw [admits, h]
  exact decide_eq_true (Nat.min_le_right n 4294967295)

end Settings

/-- The ending of a turn after which a condition has the value. -/
def Turn.ofCondition : Value → Turn
  | .bool true => .next (.bool true)
  | .bool false => .stop
  | v => .leave v

namespace Eval

/-! ### Turns in a list -/

/-- Go on after a turn, unless it ends the loop. -/
def continuing (turn : Eval Turn) (rest : Value → Eval Ending) : Eval Ending := do
  match ← turn with
  | .next last => rest last
  | .stop => pure (.finished (.bool false))
  | .leave v => pure (.left v)

/-- Take the turns of a list, every turn once and in their order, and then do what
is `beyond` them. -/
def taking (beyond : Value → Eval Ending) : List (Eval Turn) → Value → Eval Ending
  | [], last => beyond last
  | turn :: turns, _ => continuing turn (taking beyond turns)

/-- A lap of a counted loop, from one condition to the next. -/
def lap (condition advance body : Eval Value) : Eval Value := do
  discard body
  discard advance
  condition

/-- A turn of a counted loop: a lap, and what the condition makes of it. -/
def countedTurn (condition advance body : Eval Value) : Eval Turn := do
  return .ofCondition (← lap condition advance body)

variable {α : Type} {env : Env} {n : UInt32}

theorem repeatWhile_eq_continuing {condition : Eval Value} {turn : Eval Unit} {v : Value}
    (hv : v ≠ .bool true) (allowance k : Nat) (rest : Value → Eval Ending) :
    repeatWhile env condition turn allowance k v =
      continuing (pure (.ofCondition v)) rest := by
  by_cases hf : v = .bool false
  · subst hf
    rw [repeatWhile]
    rfl
  · have left : Turn.ofCondition v = .leave v := by
      rw [Turn.ofCondition]
      · exact hv
      · exact hf
    rw [left, repeatWhile]
    · rfl
    · exact hf
    · exact fun _ _ h => hv h
    · exact fun _ h => hv h

/-- A counted loop after `k` turns, with a limit that admits `m` more. -/
theorem repeatWhile_eq_taking (limited : env.settings.loopLimit = some n)
    (below : n.toNat < 4294967295) (condition advance body : Eval Value) {m : Nat} :
    ∀ {k allowance : Nat} (v : Value), k + m = n.toNat → m < allowance →
      repeatWhile env condition (do discard body; discard advance) allowance k v =
        continuing (pure (.ofCondition v)) (taking (fun _ => fail (.loopLimitExceeded n))
          (List.replicate m (countedTurn condition advance body))) := by
  induction m with
  | zero =>
    intro k allowance v hk enough
    -- no turn is left: a condition that is true is refused the next one
    by_cases hv : v = .bool true
    · subst hv
      obtain ⟨a, rfl⟩ : ∃ a, allowance = a + 1 := ⟨allowance - 1, by omega⟩
      have refused : ¬ env.settings.admits (k + 1) = true := by
        rw [Settings.admits_iff_of_below limited below]
        omega
      rw [repeatWhile, beginTurn_of_not_admits refused, limited]
      rfl
    · exact repeatWhile_eq_continuing hv _ _ _
  | succ m ih =>
    intro k allowance v hk enough
    -- one turn of the list is the next lap, and the others are left for `rest`
    by_cases hv : v = .bool true
    · subst hv
      obtain ⟨a, rfl⟩ : ∃ a, allowance = a + 1 := ⟨allowance - 1, by omega⟩
      have admitted : env.settings.admits (k + 1) = true := by
        rw [Settings.admits_iff_of_below limited below]
        omega
      have rest := fun v => ih v (show k + 1 + m = n.toNat by omega) (Nat.lt_of_succ_lt_succ enough)
      rw [repeatWhile, beginTurn_of_admits admitted, pure_bind, List.replicate_succ]
      simp only [rest, countedTurn, lap, taking, continuing, Turn.ofCondition, bind_assoc,
        pure_bind]
    · exact repeatWhile_eq_continuing hv _ _ _

/-- A loop over elements after `k` turns, with a limit that admits `m` more. -/
theorem forEach_eq_taking (env : Env) (limited : env.settings.loopLimit = some n)
    (below : n.toNat < 4294967295) (turn : α → Eval Turn) (xs : List α) :
    ∀ {k m : Nat} (last : Value), k + m = n.toNat →
      forEach env turn xs k last =
        taking (fun last => if xs.length ≤ m then pure (.finished last)
          else fail (.loopLimitExceeded n)) ((xs.take m).map turn) last := by
  induction xs with
  | nil =>
    intro k m last hk
    rw [forEach, List.take_nil, List.map_nil, taking, List.length_nil, if_pos (Nat.zero_le m)]
  | cons x xs ih =>
    intro k m last hk
    rcases m with - | m
    · -- no turn is left for `x`
      have refused : ¬ env.settings.admits (k + 1) = true := by
        rw [Settings.admits_iff_of_below limited below]
        omega
      rw [forEach, beginTurn_of_not_admits refused, limited, List.take_zero, List.map_nil, taking,
        List.length_cons, if_neg (Nat.not_succ_le_zero _)]
      rfl
    · -- the next turn is that of `x`, the others are left for `rest`
      have admitted : env.settings.admits (k + 1) = true := by
        rw [Settings.admits_iff_of_below limited below]
        omega
      have step : forEach env turn (x :: xs) k last =
          continuing (turn x) (fun last => forEach env turn xs (k + 1) last) := by
        rw [forEach, beginTurn_of_admits admitted, pure_bind]
        rfl
      have rest := funext fun last => ih (m := m) last (show k + 1 + m = n.toNat by omega)
      rw [step, rest, List.take_succ_cons, List.map_cons, taking]
      simp only [List.length_cons, Nat.add_le_add_iff_right]

/-! ### The loops with their turns laid out -/

/-- The counted loop with `n` turns. -/
def forLoopWithin (n : UInt32) (before init condition advance body : Eval Value)
    (after : Value → Eval Value) : Eval Value :=
  inScope fun outer _ => do
    discard before
    discard init
    let first ← condition
    let turns := List.replicate n.toNat (countedTurn condition advance body)
    concluding (continuing (pure (.ofCondition first))
      (taking (fun _ => fail (.loopLimitExceeded n)) turns)) fun last => do
        modifyActivation fun a => { a with callerStack := outer.callerStack }
        after last

/-- The loop over conditions with a turn for each of the first `n` conditions. -/
def forEachConditionWithin (n : UInt32) (env : Env) (c : Context) (before : Eval Value)
    (gate : Env → Eval Gate) (body : Env → Eval Value) (endGate : Env → Eval Gate)
    (after : Env → Value → Eval Value) : Eval Value :=
  inScope fun _ _ => do
    let first ← before
    let list ← conditionsOf env c
    let env := env.holding list.refersTo
    let turn := conditionTurn (gate env) (body env) (endGate env)
    let bound := !list.conditions.isEmpty && env.settings.admits 1
    concluding (closing bound (taking (fun last =>
      if list.conditions.length ≤ n.toNat then pure (.finished last)
      else fail (.loopLimitExceeded n)) ((list.conditions.take n.toNat).map turn) first))
      (after env)

/-- The loop over prototypes with a turn for each of the first `n` prototypes. -/
def forEachPrototypeWithin (n : UInt32) (env : Env) (c : Context) (before : Eval Value)
    (gate : Eval Gate) (body : Eval Value) (after : Value → Eval Value) : Eval Value :=
  inScope fun _ frame => do
    let first ← before
    let elements ← elementsOf env c
    concluding (taking (fun last =>
      if elements.length ≤ n.toNat then pure (.finished last)
      else fail (.loopLimitExceeded n))
        ((elements.take n.toNat).map (elementTurn frame gate body)) first) after

theorem forLoop_eq_within (limited : env.settings.loopLimit = some n)
    (below : n.toNat < 4294967295) {allowance : Nat} (enough : n.toNat < allowance)
    (before init condition advance body : Eval Value) (after : Value → Eval Value) :
    forLoop env allowance before init condition advance body after =
      forLoopWithin n before init condition advance body after := by
  unfold forLoop forLoopWithin
  have laid := fun v => repeatWhile_eq_taking limited below condition advance body v
    (Nat.zero_add n.toNat) enough
  simp only [laid]

theorem forEachCondition_eq_within (limited : env.settings.loopLimit = some n)
    (below : n.toNat < 4294967295) (c : Context) (before : Eval Value) (gate : Env → Eval Gate)
    (body : Env → Eval Value) (endGate : Env → Eval Gate) (after : Env → Value → Eval Value) :
    forEachCondition env c before gate body endGate after =
      forEachConditionWithin n env c before gate body endGate after := by
  unfold forEachCondition forEachConditionWithin
  have laid := fun (list : ConditionList) turn v =>
    forEach_eq_taking (env.holding list.refersTo) limited below turn list.conditions v
      (Nat.zero_add n.toNat)
  simp only [laid]

theorem forEachPrototype_eq_within (limited : env.settings.loopLimit = some n)
    (below : n.toNat < 4294967295) (c : Context) (before : Eval Value) (gate : Eval Gate)
    (body : Eval Value) (after : Value → Eval Value) :
    forEachPrototype env c before gate body after =
      forEachPrototypeWithin n env c before gate body after := by
  unfold forEachPrototype forEachPrototypeWithin
  have laid := fun (turn : PrototypeId → Eval Turn) elements v =>
    forEach_eq_taking env limited below turn elements v (Nat.zero_add n.toNat)
  simp only [laid]

/-! ### Laps -/

/-- Whether `k` laps lead from `s` to `t`, complete ones after which the condition
holds again. -/
inductive Laps (lap : Eval Value) (s : State) : Nat → State → Prop
  | start : Laps lap s 0 s
  | next {k : Nat} {t u : State} :
    Laps lap s k t → exec lap t = (.ok (.bool true), u) → Laps lap s (k + 1) u

variable {before init condition advance body : Eval Value} {after : Value → Eval Value}
variable {s t : State}

/-- Where there is always another lap there are as many as one likes. -/
theorem Laps.exists_of_always {lap : Eval Value} {m : Nat}
    (always : ∀ k < m, ∀ t, Laps lap s k t → ∃ u, exec lap t = (.ok (.bool true), u)) :
    ∃ t, Laps lap s m t := by
  induction m with
  | zero => exact ⟨s, .start⟩
  | succ m ih =>
    -- the first `m` laps lead to `t`, and from there is one more
    obtain ⟨t, laps⟩ := ih fun k hk => always k (Nat.lt_succ_of_lt hk)
    obtain ⟨u, last⟩ := always m (Nat.lt_succ_self m) t laps
    exact ⟨u, laps.next last⟩

/-- Laps use up the turns of a list, one turn each. -/
theorem Laps.exec_taking {k : Nat} (laps : Laps (lap condition advance body) s k t)
    (beyond : Value → Eval Ending) (m : Nat) :
    exec (taking beyond (List.replicate (k + m) (countedTurn condition advance body))
        (.bool true)) s =
      exec (taking beyond (List.replicate m (countedTurn condition advance body))
        (.bool true)) t := by
  induction laps generalizing m with
  | start => rw [Nat.zero_add]
  | @next k t u laps last ih =>
    -- the last lap is the first of the turns that are left at `t`
    have turn : exec (countedTurn condition advance body) t = (.ok (.next (.bool true)), u) :=
      exec_bind_ok last
    rw [show k + 1 + m = k + (m + 1) by omega, ih, List.replicate_succ, taking, continuing,
      exec_bind_ok turn]

/-- A counted loop that completes as many laps as it has turns fails after them. -/
theorem exec_forLoopWithin_of_laps {x y : Value} {s₁ s₂ s₃ : State}
    (hbefore : exec before s.enter = (.ok x, s₁)) (hinit : exec init s₁ = (.ok y, s₂))
    (hcondition : exec condition s₂ = (.ok (.bool true), s₃))
    (laps : Laps (lap condition advance body) s₃ n.toNat t) :
    exec (forLoopWithin n before init condition advance body after) s =
      (.error (.failure { cause := .loopLimitExceeded n }), s.leave t) := by
  -- after `n` laps there is no turn left, and the condition is true
  have loop := laps.exec_taking (fun _ => fail (.loopLimitExceeded n)) 0
  rw [Nat.add_zero, List.replicate_zero, taking, exec_fail] at loop
  rw [forLoopWithin, exec_inScope, exec_bind_ok (exec_discard hbefore),
    exec_bind_ok (exec_discard hinit), exec_bind_ok hcondition, concluding, exec_bind_error]
  exact loop

theorem exec_locating_exhausted (e : Expr) {m : Eval Value}
    (h : (exec m s).1 = .error .exhausted) :
    (exec (locating e m) s).1 = .error .exhausted := by
  rw [exec_locating]
  rcases run : exec m s with ⟨r, t⟩
  rw [run] at h
  cases h
  rfl

/-- Without a turn that is refused, a loop with always another lap uses up any
allowance. -/
theorem exec_repeatWhile_exhausted (unlimited : ∀ k, env.settings.admits k = true)
    (always : ∀ k t, Laps (lap condition advance body) s k t →
      ∃ u, exec (lap condition advance body) t = (.ok (.bool true), u)) (allowance : Nat) :
    ∀ {k : Nat} {t : State}, Laps (lap condition advance body) s k t →
      (exec (repeatWhile env condition (do discard body; discard advance) allowance k
        (.bool true)) t).1 = .error .exhausted := by
  induction allowance with
  | zero =>
    intro k t laps
    -- nothing of the allowance is left
    rw [repeatWhile]
    rfl
  | succ allowance ih =>
    intro k t laps
    -- another lap is admitted, and it ends with the condition true again
    obtain ⟨u, last⟩ := always k t laps
    have turn : repeatWhile env condition (do discard body; discard advance) (allowance + 1) k
        (.bool true) = (do
          let v ← lap condition advance body
          repeatWhile env condition (do discard body; discard advance) allowance (k + 1) v) := by
      rw [repeatWhile, beginTurn_of_admits (unlimited (k + 1)), pure_bind]
      simp only [lap, bind_assoc]
    rw [turn, exec_bind_ok last]
    exact ih (laps.next last)

theorem exec_forLoop_exhausted (unlimited : ∀ k, env.settings.admits k = true) {x y : Value}
    {s₁ s₂ s₃ : State} (hbefore : exec before s.enter = (.ok x, s₁))
    (hinit : exec init s₁ = (.ok y, s₂)) (hcondition : exec condition s₂ = (.ok (.bool true), s₃))
    (always : ∀ k t, Laps (lap condition advance body) s₃ k t →
      ∃ u, exec (lap condition advance body) t = (.ok (.bool true), u)) (allowance : Nat) :
    (exec (forLoop env allowance before init condition advance body after) s).1 =
      .error .exhausted := by
  have loop := exec_repeatWhile_exhausted unlimited always allowance Laps.start
  rw [forLoop, exec_inScope, exec_bind_ok (exec_discard hbefore),
    exec_bind_ok (exec_discard hinit), exec_bind_ok hcondition, concluding,
    exec_bind_error (Prod.ext loop rfl)]

end Eval

/-! ### Loops of the language -/

/-- A lap of a counted loop of the language. -/
def evalLap (allowance : Nat) (env : Env) (condition advance : Expr) (body : List Expr) :
    Eval Value :=
  lap (eval allowance env condition) (eval allowance env advance)
    (evalBody located allowance env body .undefined)

section

variable {env : Env} {allowance : Nat} {before after gate endGate : Option Expr}
variable {init condition advance : Expr} {body : List Expr}

theorem eval_forLoop (hb : body ≠ []) :
    eval allowance env (.forLoop before (some init) (some condition) (some advance) body after) =
      locating (.forLoop before (some init) (some condition) (some advance) body after)
        (forLoop env allowance (evalOptional located allowance env .undefined before)
          (eval allowance env init) (eval allowance env condition) (eval allowance env advance)
          (evalBody located allowance env body .undefined)
          fun last => evalOptional located allowance env last after) := by
  rw [eval, evalWith, if_neg (by rwa [List.isEmpty_iff])]
  rfl

theorem eval_forEachCondition {c : Context} (hb : body ≠ []) :
    eval allowance env (.forEachCondition c before gate body endGate after) =
      locating (.forEachCondition c before gate body endGate after)
        (forEachCondition env c (evalOptional located allowance env .undefined before)
          (fun env => evalGate located allowance env gate)
          (fun env => evalBody located allowance env body .undefined)
          (fun env => evalGate located allowance env endGate)
          fun env last => evalOptional located allowance env last after) := by
  rw [eval, evalWith, if_neg (by rwa [List.isEmpty_iff])]
  rfl

theorem eval_forEachPrototype {c : Context} (hb : body ≠ []) :
    eval allowance env (.forEachPrototype c before gate body after) =
      locating (.forEachPrototype c before gate body after)
        (forEachPrototype env c (evalOptional located allowance env .undefined before)
          (evalGate located allowance env gate) (evalBody located allowance env body .undefined)
          fun last => evalOptional located allowance env last after) := by
  rw [eval, evalWith, if_neg (by rwa [List.isEmpty_iff])]
  rfl

/-- The greatest word is no limit: a counted loop that always has another lap uses up
any allowance. -/
theorem eval_forLoop_greatest (limited : env.settings.loopLimit = some 4294967295)
    (hb : body ≠ []) (s s₁ s₂ s₃ : State) (x y : Value)
    (hbefore : exec (evalOptional located allowance env .undefined before) s.enter = (.ok x, s₁))
    (hinit : exec (eval allowance env init) s₁ = (.ok y, s₂))
    (hcondition : exec (eval allowance env condition) s₂ = (.ok (.bool true), s₃))
    (always : ∀ k t, Laps (evalLap allowance env condition advance body) s₃ k t →
      ∃ u, exec (evalLap allowance env condition advance body) t = (.ok (.bool true), u)) :
    (exec (eval allowance env
      (.forLoop before (some init) (some condition) (some advance) body after)) s).1 =
        .error .exhausted := by
  rw [eval_forLoop hb]
  refine exec_locating_exhausted _ ?_
  exact exec_forLoop_exhausted (Settings.admits_greatest limited) hbefore hinit hcondition always
    allowance

end

/-- **The limit for loops is kept, and exactly.** Let `n` be the limit, not the
greatest word, and the allowance greater. Then each of the loops is the one that
has its turns laid out, `n` of them at most and each with the body once. And if a
counted loop comes to its first turn, and for each of its first `n` laps the body
and the advance succeed and the condition is true again, then it completes
these `n` laps and fails with the limit. -/
theorem loops_keep_limit (env : Env) (n : UInt32) (limited : env.settings.loopLimit = some n)
    (below : n.toNat < 4294967295) (allowance : Nat) (enough : n.toNat < allowance) :
    (∀ before init condition advance body after, body ≠ [] →
      let loop : Expr := .forLoop before (some init) (some condition) (some advance) body after
      let first := evalOptional located allowance env .undefined before
      let turn := evalLap allowance env condition advance body
      eval allowance env loop = locating loop (forLoopWithin n first (eval allowance env init)
        (eval allowance env condition) (eval allowance env advance)
        (evalBody located allowance env body .undefined)
        fun last => evalOptional located allowance env last after) ∧
      ∀ s s₁ s₂ s₃ x y, exec first s.enter = (.ok x, s₁) →
        exec (eval allowance env init) s₁ = (.ok y, s₂) →
        exec (eval allowance env condition) s₂ = (.ok (.bool true), s₃) →
        (∀ k < n.toNat, ∀ t, Laps turn s₃ k t → ∃ u, exec turn t = (.ok (.bool true), u)) →
        ∃ t, Laps turn s₃ n.toNat t ∧ exec (eval allowance env loop) s =
          (.error (.failure (Failure.locate { cause := .loopLimitExceeded n } loop)),
            s.leave t)) ∧
    (∀ c before gate body endGate after, body ≠ [] →
      eval allowance env (.forEachCondition c before gate body endGate after) =
        locating (.forEachCondition c before gate body endGate after)
          (forEachConditionWithin n env c (evalOptional located allowance env .undefined before)
            (fun env => evalGate located allowance env gate)
            (fun env => evalBody located allowance env body .undefined)
            (fun env => evalGate located allowance env endGate)
            fun env last => evalOptional located allowance env last after)) ∧
    ∀ c before gate body after, body ≠ [] →
      eval allowance env (.forEachPrototype c before gate body after) =
        locating (.forEachPrototype c before gate body after)
          (forEachPrototypeWithin n env c (evalOptional located allowance env .undefined before)
            (evalGate located allowance env gate)
            (evalBody located allowance env body .undefined)
            fun last => evalOptional located allowance env last after) := by
  refine ⟨?_, ?_, ?_⟩
  · intro before init condition advance body after hb loop first turn
    -- the counted loop, and its run through all `n` laps
    have laid : eval allowance env loop = _ := eval_forLoop hb
    rw [forLoop_eq_within limited below enough] at laid
    refine ⟨laid, fun s s₁ s₂ s₃ x y hbefore hinit hcondition always => ?_⟩
    obtain ⟨t, laps⟩ := Laps.exists_of_always always
    refine ⟨t, laps, ?_⟩
    rw [laid, exec_locating, exec_forLoopWithin_of_laps hbefore hinit hcondition laps]
  · intro c before gate body endGate after hb
    -- the loops over elements
    rw [eval_forEachCondition hb, forEachCondition_eq_within limited below]
  · intro c before gate body after hb
    rw [eval_forEachPrototype hb, forEachPrototype_eq_within limited below]

/-- A loop with a limit of three that nothing else ends. -/
theorem loop_keeps_limit_three :
    let env : Env := ⟨{}, none, { loopLimit := some 3 }, fun _ => false⟩
    let s : State := ⟨{}, {}⟩
    let loop : Expr :=
      .forLoop none (some (.int 0)) (some (.bool true)) (some (.int 0)) [.int 7] none
    let turn := evalLap 4 env (.bool true) (.int 0) [.int 7]
    ∃ t, Laps turn s.enter 3 t ∧ exec (eval 4 env loop) s =
      (.error (.failure (Failure.locate { cause := .loopLimitExceeded 3 } loop)), s.leave t) := by
  intro env s loop turn
  have kept := loops_keep_limit env 3 rfl (by decide) 4 (by decide)
  obtain ⟨-, exact'⟩ := kept.1 none (.int 0) (.bool true) (.int 0) [.int 7] none
    (List.cons_ne_nil _ _)
  exact exact' s s.enter s.enter s.enter .undefined (.int 0) rfl rfl rfl fun k _ t _ => ⟨t, rfl⟩

/-- What is not so of every limit and every loop: the part before a loop may fail
first, and a body may be empty; and with the greatest word for a limit a loop
begins as many turns as any allowance lets it. -/
theorem loop_limit_not_always_reached :
    let env (limit : UInt32) : Env := ⟨{}, none, { loopLimit := some limit }, fun _ => false⟩
    let s : State := ⟨{}, {}⟩
    let loop (before : Option Expr) (body : List Expr) : Expr :=
      .forLoop before (some (.int 0)) (some (.bool true)) (some (.int 0)) body none
    let quotient : Expr := .arith .div (some (.int 1)) (some (.int 0))
    (exec (eval 4 (env 3) (loop (some quotient) [.int 0])) s).1 =
        .error (.failure (Failure.locate { cause := .divisionByZero } quotient)) ∧
      (exec (eval 4 (env 3) (loop none [])) s).1 = .error (.failure
        (Failure.locate { cause := .missingField "ScopeLoopBody" } (loop none []))) ∧
      ∀ allowance, (exec (eval allowance (env 4294967295) (loop none [.int 0])) s).1 =
        .error .exhausted := by
  intro env s loop quotient
  refine ⟨rfl, rfl, fun allowance => ?_⟩
  have limited : (env 4294967295).settings.loopLimit = some 4294967295 := rfl
  exact eval_forLoop_greatest limited (List.cons_ne_nil _ _) s s.enter s.enter s.enter .undefined
    (.int 0) rfl rfl rfl fun _ t _ => ⟨t, rfl⟩

end Rulebook
