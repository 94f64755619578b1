/-
Rulebook/Proofs/CountedLoop.lean

Loops that count.  `Expr.countTo` is the counted loop as it is written most
often: an integer of its own frame starts at zero, the loop goes on while it
is below `n`, and every round counts it up.  The body may do what it likes as
long as it succeeds and leaves the counter alone.

A round begins with the counter at the number of the rounds before it
(`State.Counts`).  The state in which it does is its `roundEntry`: that in
which the body before it has ended, with the counter recorded.  The condition
holds there if there is another round to take, and the advance leads to the
next entry (`State.Counts.exec_below`, `State.Counts.exec_countUp`), so the
loop takes `n` rounds and no more (`KeepsCount.exec_repeatWhile`).
-/
import Rulebook.Proofs.IntegerArithmetic
import Rulebook.Proofs.ReadBack
import Rulebook.Proofs.Unrolling

namespace Rulebook

open Eval

/-! ### The loop -/

namespace Expr

variable (i : PropertyKey) (n : Nat)

/-- Start the counter at zero. -/
def startCount : Expr := .assign .localStack i (some (.int 0))

/-- Whether the counter is below `n`. -/
def countBelow : Expr := .compare .less (some (.load .localStack i)) (some (.int (.ofNat n)))

/-- Count up. -/
def countUp : Expr :=
  .assign .localStack i (some (.arith .add (some (.load .localStack i)) (some (.int 1))))

/-- The loop that counts to `n`. -/
def countTo (body : List Expr) (after : Option Expr) : Expr :=
  .forLoop none (some (startCount i)) (some (countBelow i n)) (some (countUp i)) body after

/-- The statements of `k` rounds: the body, and then the advance. -/
def rounds (body : List Expr) (k : Nat) : List Expr :=
  (List.replicate k (body ++ [countUp i])).flatten

theorem rounds_succ (body : List Expr) (k : Nat) :
    rounds i body (k + 1) = rounds i body k ++ (body ++ [countUp i]) := by
  rw [rounds, List.replicate_succ', List.flatten_concat]
  rfl

end Expr

/-! ### The counter -/

/-- Whether a state is inside of a frame in which the counter is `k`. -/
structure State.Counts (s : State) (frame : Handle) (i : PropertyKey) (k : Nat) : Prop where
  here : s.activation.localStack = some frame
  counter : s.store.getLocal? frame i = some (.integer (.ofNat k))

/-- Whether a key is one of integers. -/
structure Env.DeclaresInteger (env : Env) (i : PropertyKey) : Prop where
  valid : i.isValid = true
  declared : ∃ schema, env.data.schemaOf i.property = .ok schema ∧ schema.dataType = .integer

variable {m : Nat} {env : Env} {i : PropertyKey} {s : State} {frame : Handle} {k n : Nat}

theorem exec_compare_of_ints {a b : Expr} {t u : State} {x y : Int64} (op : CompareOp)
    (ha : exec (eval m env a) s = (.ok (.int x), t))
    (hb : exec (eval m env b) t = (.ok (.int y), u)) :
    exec (eval m env (.compare op (some a) (some b))) s =
      (.ok (.bool (op.holds (.int x) (.int y))), u) := by
  rw [eval, evalWith]
  show exec (locating _ _) s = _
  rw [exec_locating, exec_bind_ok (exec_evalNumber_of_int ha),
    exec_bind_ok (exec_evalNumber_of_int hb)]
  rfl

theorem ofNat_lt_ofNat_iff (hk : k < 2 ^ 63) (hn : n < 2 ^ 63) :
    Int64.ofNat k < Int64.ofNat n ↔ k < n := by
  rw [Int64.lt_iff_toInt_lt, Int64.toInt_ofNat_of_lt hk, Int64.toInt_ofNat_of_lt hn]
  exact Int.ofNat_lt

/-- An integer that is assigned to the local collection is recorded there. -/
theorem exec_assign_integer (integer : env.DeclaresInteger i)
    (here : s.activation.localStack = some frame) {value : Expr} {x : Int64}
    (evaluated : exec (eval m env value) s = (.ok (.int x), s)) :
    exec (eval m env (.assign .localStack i (some value))) s =
      (.ok .undefined, s.record frame i (.integer x)) := by
  obtain ⟨schema, declared, type⟩ := integer.declared
  exact exec_assign (d := .integer x) integer.valid evaluated (Env.target_localStack here) declared
    type.symm

namespace State.Counts

variable (counts : s.Counts frame i k)

include counts

theorem inside : frame.index < s.store.cells.size := by
  refine Nat.lt_of_not_le fun outside => ?_
  -- outside of the store nothing is held
  cases counts.counter.symm.trans (Store.getLocal?_of_le outside i)

theorem exec_load (integer : env.DeclaresInteger i) :
    exec (eval m env (.load .localStack i)) s = (.ok (.int (.ofNat k)), s) := by
  obtain ⟨schema, declared, -⟩ := integer.declared
  exact Rulebook.exec_load integer.valid (Env.target_localStack counts.here) declared counts.counter

/-- The condition compares the counter as it is. -/
theorem exec_below (integer : env.DeclaresInteger i) (hk : k < 2 ^ 63) (hn : n < 2 ^ 63) :
    exec (eval m env (.countBelow i n)) s = (.ok (.bool (decide (k < n))), s) := by
  rw [Expr.countBelow, exec_compare_of_ints .less (counts.exec_load integer) (by rfl)]
  show (Except.ok (Value.bool (decide (Int64.ofNat k < Int64.ofNat n))), s) = _
  rw [decide_eq_decide.mpr (ofNat_lt_ofNat_iff hk hn)]

/-- The advance counts up. -/
theorem exec_countUp (integer : env.DeclaresInteger i) :
    exec (eval m env (.countUp i)) s =
      (.ok .undefined, s.record frame i (.integer (.ofNat (k + 1)))) := by
  have sum : exec (eval m env (.arith .add (some (.load .localStack i)) (some (.int 1)))) s =
      (.ok (.int (.ofNat (k + 1))), s) := by
    -- sums wrap around, and so does the conversion of a number to 64 bits
    rw [exec_arith_of_ints .add (counts.exec_load integer) (by rfl)]
    show (Except.ok (Value.int (Int64.ofNat k + 1)), s) = _
    rw [Int64.ofNat_add]
    rfl
  exact exec_assign_integer integer counts.here sum

/-- Recorded in the counter, a number is what it counts. -/
theorem record (k' : Nat) : (s.record frame i (.integer (.ofNat k'))).Counts frame i k' :=
  ⟨counts.here, Store.getLocal?_set_self s.store i _ counts.inside⟩

end State.Counts

/-! ### Rounds -/

/-- The state in which a round of the loop begins that is run from `s`, after `k`
rounds: the state in which the body has ended, with the counter recorded. -/
def roundEntry (m : Nat) (env : Env) (i : PropertyKey) (body : List Expr) (s : State) :
    Nat → State
  | 0 => s.enter.record s.frame i (.integer 0)
  | k + 1 =>
    (exec (evalBody located m env body .undefined) (roundEntry m env i body s k)).2.record
      s.frame i (.integer (.ofNat (k + 1)))

/-- Whether each of the first `n` runs of a body succeeds and leaves the counter
of the loop unchanged. -/
structure KeepsCount (m : Nat) (env : Env) (i : PropertyKey) (body : List Expr) (s : State)
    (n : Nat) : Prop where
  succeeds : ∀ k < n, ∃ v, (exec (evalBody located m env body .undefined)
    (roundEntry m env i body s k)).1 = .ok v
  unchanged : ∀ k < n, (exec (evalBody located m env body .undefined)
    (roundEntry m env i body s k)).2.store.getLocal? s.frame i =
      (roundEntry m env i body s k).store.getLocal? s.frame i

section

variable {body : List Expr} {after : Option Expr}

/-- Statements of which there are some have a value of their own. -/
theorem evalBody_of_ne_nil (nonempty : body ≠ []) (x y : Value) :
    evalBody located m env body x = evalBody located m env body y := by
  rcases body with - | ⟨e, es⟩
  · exact absurd rfl nonempty
  · rfl

/-- The loop begins with the entry of its first round. -/
theorem exec_startCount (integer : env.DeclaresInteger i) :
    exec (eval m env (.startCount i)) s.enter = (.ok .undefined, roundEntry m env i body s 0) :=
  exec_assign_integer integer rfl rfl

theorem counts_roundEntry_zero : (roundEntry m env i body s 0).Counts s.frame i 0 := by
  refine ⟨rfl, Store.getLocal?_set_self _ i _ ?_⟩
  show s.store.cells.size < (s.store.cells.push {}).size
  rw [Array.size_push]
  exact Nat.lt_succ_self _

namespace KeepsCount

variable (keeps : KeepsCount m env i body s n)

include keeps

/-- If the counter is right when a body begins, it is when the body ends. -/
theorem counts_end (hk : k < n) (counts : (roundEntry m env i body s k).Counts s.frame i k) :
    (exec (evalBody located m env body .undefined) (roundEntry m env i body s k)).2.Counts
      s.frame i k where
  here := (localStack_evalBody m env body .undefined _).trans counts.here
  counter := (keeps.unchanged k hk).trans counts.counter

/-- Every round begins with the counter at the number of the rounds before it. -/
theorem counts_entry : ∀ {k : Nat}, k ≤ n → (roundEntry m env i body s k).Counts s.frame i k := by
  intro k
  induction k with
  -- the initialization has set the counter to zero
  | zero => exact fun _ => counts_roundEntry_zero
  | succ k ih =>
    -- the body leaves the counter as it was, and the advance counts up
    intro hk
    exact (keeps.counts_end hk (ih (Nat.le_of_lt hk))).record (k + 1)

/-- A round leads to the entry of the next one. -/
theorem exec_body (hk : k < n) : ∃ v t,
    exec (evalBody located m env body .undefined) (roundEntry m env i body s k) = (.ok v, t) ∧
      t.Counts s.frame i k ∧
      roundEntry m env i body s (k + 1) = t.record s.frame i (.integer (.ofNat (k + 1))) := by
  obtain ⟨v, success⟩ := keeps.succeeds k hk
  have counts := keeps.counts_entry (Nat.le_of_lt hk)
  exact ⟨v, _, Prod.ext success rfl, keeps.counts_end hk counts, rfl⟩

theorem exec_round (integer : env.DeclaresInteger i) (hk : k < n) :
    exec (do discard (evalBody located m env body .undefined); discard (eval m env (.countUp i)))
        (roundEntry m env i body s k) = (.ok (), roundEntry m env i body s (k + 1)) := by
  obtain ⟨v, t, run, counts, next⟩ := keeps.exec_body hk
  rw [exec_bind_ok (exec_discard run), exec_discard (counts.exec_countUp integer), next]

/-- From the entry after `k` rounds the loop takes the rounds that are left, and
its condition is false after the last. -/
theorem exec_repeatWhile (integer : env.DeclaresInteger i) (hn : n < 2 ^ 63)
    (admitted : ∀ k ≤ n, env.settings.admits k = true) :
    ∀ {r k allowance : Nat}, k + r = n → r ≤ allowance →
      exec (repeatWhile env (eval m env (.countBelow i n)) (do
          discard (evalBody located m env body .undefined)
          discard (eval m env (.countUp i))) allowance k (.bool (decide (k < n))))
        (roundEntry m env i body s k) =
          (.ok (.finished (.bool false)), roundEntry m env i body s n) := by
  intro r
  induction r with
  | zero =>
    -- after the last round the condition is false, and the loop is finished
    rintro k allowance rfl -
    rw [Nat.add_zero, decide_eq_false (Nat.lt_irrefl k), repeatWhile]
    rfl
  | succ r ih =>
    -- one round, at whose end the counter is compared again, and the `r` others
    intro k allowance left enough
    obtain ⟨a, rfl⟩ : ∃ a, allowance = a + 1 := ⟨allowance - 1, by omega⟩
    have hk : k < n := by omega
    have below := (keeps.counts_entry hk).exec_below (m := m) integer
      (by omega : k + 1 < 2 ^ 63) hn
    rw [decide_eq_true hk, repeatWhile, beginTurn_of_admits (admitted (k + 1) hk), pure_bind,
      exec_bind_ok (keeps.exec_round integer hk), exec_bind_ok below]
    exact ih (by omega) (by omega)

/-- The rounds are statements that follow one another. -/
theorem exec_rounds (integer : env.DeclaresInteger i) (nonempty : body ≠ []) (last : Value) :
    ∀ {k : Nat}, k ≤ n → ∃ v, exec (evalBody located m env (Expr.rounds i body k) last)
      (roundEntry m env i body s 0) = (.ok v, roundEntry m env i body s k) := by
  intro k
  induction k with
  | zero => exact fun _ => ⟨last, rfl⟩
  | succ k ih =>
    intro hk
    -- the earlier rounds, then the body and the advance of this one
    obtain ⟨x, earlier⟩ := ih (Nat.le_of_lt hk)
    obtain ⟨v, t, run, counts, next⟩ := keeps.exec_body hk
    rw [← evalBody_of_ne_nil nonempty x .undefined] at run
    have advance := counts.exec_countUp (m := m) integer
    rw [eval] at advance
    rw [Expr.rounds_succ, exec_evalBody_append, exec_bind_ok earlier, exec_evalBody_append,
      exec_bind_ok run, evalBody, exec_bind_ok advance, next]
    exact ⟨.undefined, rfl⟩

/-- What comes after the loop sees the counter at `n`, and has the caller of the
loop for its own. -/
theorem exec_countTo (integer : env.DeclaresInteger i) (hn : n < 2 ^ 63) (nonempty : body ≠ [])
    (admitted : ∀ k ≤ n, env.settings.admits k = true) (enough : n ≤ m) :
    exec (eval m env (.countTo i n body after)) s =
      ((exec (evalOptional located m env (.bool false) after)
          ((roundEntry m env i body s n).withCaller s.activation.callerStack)).1,
        s.leave (exec (evalOptional located m env (.bool false) after)
          ((roundEntry m env i body s n).withCaller s.activation.callerStack)).2) := by
  have first := (keeps.counts_entry (Nat.zero_le n)).exec_below (m := m) integer
    (by omega : 0 < 2 ^ 63) hn
  have loop := keeps.exec_repeatWhile integer hn admitted (Nat.zero_add n) enough
  let last := (roundEntry m env i body s n).withCaller s.activation.callerStack
  let ending := evalOptional located m env (.bool false) after
  -- what the loop does before failures are located
  have run : exec (forLoop env m (evalOptional located m env .undefined none)
      (eval m env (.startCount i)) (eval m env (.countBelow i n)) (eval m env (.countUp i))
      (evalBody located m env body .undefined)
      fun last => evalOptional located m env last after) s =
        ((exec ending last).1, s.leave (exec ending last).2) := by
    have before : exec (evalOptional located m env .undefined none) s.enter =
        (.ok .undefined, s.enter) := rfl
    rw [forLoop, exec_inScope, exec_bind_ok (exec_discard before),
      exec_bind_ok (exec_discard (exec_startCount integer)), exec_bind_ok first, concluding,
      exec_bind_ok loop]
    rfl
  rw [Expr.countTo, eval_forLoop nonempty]
  -- the only failure left is that of what comes after, which is located
  refine (exec_locating_of_located fun f t failed => ?_).trans run
  have ended : (exec ending last).1 = .error (.failure f) :=
    congrArg Prod.fst (run.symm.trans failed)
  exact located_evalOptional m env _ after last f (exec ending last).2 (Prod.ext ended rfl)

end KeepsCount

end

/-! ### The loop counts -/

/-- **A loop that counts to `n` runs its body `n` times.** Let the counter be a
key of integers, the limit for loops no less than `n`, and let each of the runs
of the body succeed and leave the counter unchanged. Then each of the runs
begins with the counter at the number of the runs before it, and in the state
that the run before has left but for that; the `n` runs are the statements of
`n` rounds in a row. What comes after the loop begins with the counter at `n`
and has the value of the loop, which without it is that of the last condition. -/
theorem countTo_runs_exactly (n m : Nat) (env : Env) (i : PropertyKey) (body : List Expr)
    (after : Option Expr) (s : State) (integer : env.DeclaresInteger i) (hn : n < 2 ^ 63)
    (nonempty : body ≠ []) (limit : ∀ limit ∈ env.settings.loopLimit, n ≤ limit.toNat)
    (enough : n ≤ m) (keeps : KeepsCount m env i body s n) :
    let entry := roundEntry m env i body s
    let last := (entry n).withCaller s.activation.callerStack
    let loaded (t : State) (k : Nat) : Prop :=
      ∀ m', exec (eval m' env (.load .localStack i)) t = (.ok (.int (.ofNat k)), t)
    (∀ k ≤ n, loaded (entry k) k ∧
      ∃ v, exec (evalBody located m env (.startCount i :: Expr.rounds i body k) .undefined) s.enter =
        (.ok v, entry k)) ∧
    (∀ k < n, ∃ v t, exec (evalBody located m env body .undefined) (entry k) = (.ok v, t) ∧
      entry (k + 1) = t.record s.frame i (.integer (.ofNat (k + 1)))) ∧
    loaded last n ∧
    (∀ e, after = some e → exec (eval m env (.countTo i n body after)) s =
      ((exec (eval m env e) last).1, s.leave (exec (eval m env e) last).2)) ∧
    (after = none →
      exec (eval m env (.countTo i n body after)) s = (.ok (.bool false), s.leave (entry n))) := by
  intro entry last loaded
  have admitted (k : Nat) (hk : k ≤ n) : env.settings.admits k = true := by
    rw [Settings.admits]
    rcases limited : env.settings.loopLimit with - | l
    · rfl
    · have := limit l limited
      exact decide_eq_true (by omega)
  have run : exec (eval m env (.countTo i n body after)) s = _ :=
    keeps.exec_countTo integer hn nonempty admitted enough
  -- the `n` rounds, one round, the counter at the end, and the two endings
  refine ⟨fun k hk => ⟨fun m' => (keeps.counts_entry hk).exec_load integer, ?_⟩, fun k hk => ?_,
    fun m' => ?_, ?_, ?_⟩
  · obtain ⟨v, rounds⟩ := keeps.exec_rounds integer nonempty .undefined hk
    have start : exec (eval m env (.startCount i)) s.enter = (.ok .undefined, entry 0) :=
      exec_startCount integer
    rw [eval] at start
    refine ⟨v, ?_⟩
    rw [evalBody, exec_bind_ok start]
    exact rounds
  · obtain ⟨v, t, run, -, next⟩ := keeps.exec_body hk
    exact ⟨v, t, run, next⟩
  · have counts := keeps.counts_entry (Nat.le_refl n)
    exact State.Counts.exec_load ⟨counts.here, counts.counter⟩ integer
  · rintro e rfl
    exact run
  · rintro rfl
    exact run

/-- A loop that counts to three under a limit of three. -/
theorem countTo_three :
    let env : Env := ⟨{}, none, { loopLimit := some 3 }, fun _ => false⟩
    let s : State := ⟨{}, {}⟩
    let i := PropertyKey.ofProperty .avatarMissionState
    KeepsCount 3 env i [.int 7] s 3 ∧
      exec (eval 3 env (.countTo i 3 [.int 7] none)) s =
        (.ok (.bool false), s.leave (roundEntry 3 env i [.int 7] s 3)) ∧
      (exec (eval 3 env (.countTo i 3 [.int 7] (some (.load .localStack i)))) s).1 =
        .ok (.int 3) := by
  intro env s i
  have integer : env.DeclaresInteger i := by
    refine ⟨by decide, ?_⟩
    rw [PropertyKey.property_ofProperty]
    exact ⟨_, rfl, rfl⟩
  have keeps : KeepsCount 3 env i [.int 7] s 3 :=
    ⟨fun k _ => ⟨.int 7, rfl⟩, fun k _ => rfl⟩
  have limit : ∀ limit ∈ env.settings.loopLimit, 3 ≤ limit.toNat := by
    rintro _ ⟨⟩
    decide
  have counted (after : Option Expr) := countTo_runs_exactly 3 3 env i [.int 7] after s integer
    (by decide) (List.cons_ne_nil _ _) limit (Nat.le_refl 3) keeps
  obtain ⟨-, -, -, -, finished⟩ := counted none
  obtain ⟨-, -, loaded, ended, -⟩ := counted (some (.load .localStack i))
  refine ⟨keeps, finished rfl, ?_⟩
  rw [ended _ rfl, loaded 3]
  rfl

end Rulebook
