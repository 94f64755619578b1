/-
Rulebook/Proofs/IntegerArithmetic.lean

Arithmetic on integers.  An `IntTree` is an expression of integer literals
and of the operators that give an integer for two integers, which are all
but division.  What a tree computes is said twice:

* `IntTree.exact` is its value in the integers, without bounds;
* `IntTree.outcome` is what a run makes of it (`exec_eval_toExpr`).  Every
  operator rounds its exact result to 64 bits (`IntOp.onInts_toArith`), and a
  remainder by zero ends the run.

Rounding is a homomorphism for sums, differences and products, so that a
tree of these is rounded but once (`IntTree.toInt_outcome_of_ring`).  The
other operators look at the size of their operands: for them the two agree as
long as nothing was rounded (`IntTree.toInt_outcome_of_representable`).
-/
import Mathlib.Algebra.Group.Int.Defs
import Mathlib.Algebra.Group.Nat.Defs
import Rulebook.Proofs.Children
import Rulebook.Proofs.LoopCourse

namespace Rulebook

open Eval

/-! ### Operators -/

/-- The operators that give an integer for two integers. -/
inductive IntOp where
  | add | sub | mult | modulus | max | min
deriving DecidableEq

namespace IntOp

/-- The arithmetic operator that an operator on integers is. -/
def toArith : IntOp → ArithOp
  | .add => .add
  | .sub => .sub
  | .mult => .mult
  | .modulus => .modulus
  | .max => .max
  | .min => .min

/-- An operator on unbounded integers. The remainder is Euclidean;
there is none by zero. -/
def exact : IntOp → Int → Int → Int
  | .add, x, y => x + y
  | .sub, x, y => x - y
  | .mult, x, y => x * y
  | .modulus, x, y => x.emod y
  | .max, x, y => Max.max x y
  | .min, x, y => Min.min x y

/-- Division is the one arithmetic operator that is none on integers. -/
theorem exists_toArith_iff {op : ArithOp} : (∃ i : IntOp, i.toArith = op) ↔ op ≠ .div := by
  constructor
  · rintro ⟨i, rfl⟩
    cases i <;> decide
  · intro h
    cases op with
    | add => exact ⟨.add, rfl⟩
    | sub => exact ⟨.sub, rfl⟩
    | mult => exact ⟨.mult, rfl⟩
    | div => exact absurd rfl h
    | modulus => exact ⟨.modulus, rfl⟩
    | max => exact ⟨.max, rfl⟩
    | min => exact ⟨.min, rfl⟩

/-- An operator rounds its exact result to 64 bits. -/
theorem onInts_toArith (op : IntOp) (a b : Int64) :
    op.toArith.onInts a b = some (.ofInt (op.exact a.toInt b.toInt)) := by
  cases op with
  -- sums, differences and products round by themselves
  | add => simp [toArith, ArithOp.onInts, exact, Int64.ofInt_add]
  | sub => simp [toArith, ArithOp.onInts, exact, Int64.ofInt_sub]
  | mult => simp [toArith, ArithOp.onInts, exact, Int64.ofInt_mul]
  | modulus => rfl
  -- the greater and the smaller of two words are words already
  | max =>
    show some (if a < b then b else a) = some (.ofInt (Max.max a.toInt b.toInt))
    by_cases less : a < b
    · have := Int64.lt_iff_toInt_lt.mp less
      rw [if_pos less, Int.max_eq_right (by omega), Int64.ofInt_toInt]
    · have := mt Int64.lt_iff_toInt_lt.mpr less
      rw [if_neg less, Int.max_eq_left (by omega), Int64.ofInt_toInt]
  | min =>
    show some (if b < a then b else a) = some (.ofInt (Min.min a.toInt b.toInt))
    by_cases less : b < a
    · have := Int64.lt_iff_toInt_lt.mp less
      rw [if_pos less, Int.min_eq_right (by omega), Int64.ofInt_toInt]
    · have := mt Int64.lt_iff_toInt_lt.mpr less
      rw [if_neg less, Int.min_eq_left (by omega), Int64.ofInt_toInt]

/-- A remainder by zero is refused, and nothing else. -/
theorem apply_toArith (op : IntOp) (a b : Int64) :
    op.toArith.apply (.int a) (.int b) =
      if op = .modulus ∧ b = 0 then .error .moduloByZero
      else .ok (.int (.ofInt (op.exact a.toInt b.toInt))) := by
  have zero : (Number.int b).isZero = (b == 0) := rfl
  by_cases refused : op = .modulus ∧ b = 0
  · obtain ⟨rfl, rfl⟩ := refused
    rfl
  · -- only the remainder has a cause to refuse zero, and `b` is not zero then
    have accepted : op.toArith.zeroCause? = none ∨ (b == 0) = false := by
      cases op with
      | modulus => exact .inr (by simpa using refused)
      | _ => exact .inl rfl
    rw [if_neg refused, ArithOp.apply, zero]
    rcases accepted with none | nonzero
    · simp only [none, onInts_toArith]
    · rcases op.toArith.zeroCause? with - | cause
      · simp only [onInts_toArith]
      · simp only [nonzero, onInts_toArith]

end IntOp

/-! ### Trees -/

/-- An expression of integer literals and operators on integers,
with all operands. -/
inductive IntTree where
  | lit (v : Int64)
  | node (op : IntOp) (a b : IntTree)

namespace IntTree

/-- The expression that a tree is. -/
def toExpr : IntTree → Expr
  | .lit v => .int v
  | .node op a b => .arith op.toArith (some a.toExpr) (some b.toExpr)

/-- The value of a tree in the unbounded integers. -/
def exact : IntTree → Int
  | .lit v => v.toInt
  | .node op a b => op.exact a.exact b.exact

/-- What a run makes of a tree: its value in 64 bits, or the remainder by zero
at which the run ends. -/
def outcome : IntTree → Except IntTree Int64
  | .lit v => .ok v
  | .node op a b => do
    let x ← a.outcome
    let y ← b.outcome
    if op = .modulus ∧ y = 0 then .error (.node op a b)
    else .ok (.ofInt (op.exact x.toInt y.toInt))

/-- A tree and all that it is made of. -/
def subtrees : IntTree → List IntTree
  | .lit v => [.lit v]
  | .node op a b => .node op a b :: (a.subtrees ++ b.subtrees)

theorem mem_subtrees_self (t : IntTree) : t ∈ t.subtrees := by
  cases t <;> exact List.mem_cons_self

variable {op : IntOp} {t u a b : IntTree}

theorem mem_subtrees_node :
    u ∈ (node op a b).subtrees ↔ u = .node op a b ∨ u ∈ a.subtrees ∨ u ∈ b.subtrees := by
  rw [subtrees, List.mem_cons, List.mem_append]

/-- The trees are the expressions in which nothing occurs but integer literals
and arithmetic operators other than division, with both operands. -/
theorem exists_toExpr_iff {e : Expr} :
    (∃ t : IntTree, t.toExpr = e) ↔
      ∀ x : Expr, x.Occurs e → (∃ v, x = .int v) ∨
        ∃ op c d, x = .arith op (some c) (some d) ∧ op ≠ .div := by
  constructor
  · -- in the expression of a tree, by induction on the tree
    rintro ⟨t, rfl⟩ x occurs
    induction t with
    | lit v => exact .inl ⟨v, occurs.eq_of_leaf rfl⟩
    | node op a b iha ihb =>
      rcases occurs with - | ⟨child, occurs⟩
      · exact .inr ⟨_, _, _, rfl, IntOp.exists_toArith_iff.mp ⟨op, rfl⟩⟩
      · have child : _ ∈ [a.toExpr, b.toExpr] := child
        rcases List.mem_cons.mp child with rfl | child
        · exact iha occurs
        · cases List.mem_singleton.mp child
          exact ihb occurs
  · -- an expression of such parts is one of a tree, by induction on the expression
    intro h
    induction e using Expr.childInduction with
    | step e ih =>
      rcases h e .self with ⟨v, rfl⟩ | ⟨op, c, d, rfl, noDiv⟩
      · exact ⟨.lit v, rfl⟩
      · obtain ⟨i, rfl⟩ := IntOp.exists_toArith_iff.mpr noDiv
        have first : c ∈ (Expr.arith i.toArith (some c) (some d)).children := List.mem_cons_self
        have second : d ∈ (Expr.arith i.toArith (some c) (some d)).children :=
          List.mem_cons_of_mem _ List.mem_cons_self
        obtain ⟨a, rfl⟩ := ih c first fun x hx => h x (.child first hx)
        obtain ⟨b, rfl⟩ := ih d second fun x hx => h x (.child second hx)
        exact ⟨.node i a b, rfl⟩

/-! ### Runs -/

/-- The failure of a remainder by zero. -/
def zeroDivisor (t : IntTree) : Failure := ({ cause := .moduloByZero } : Failure).locate t.toExpr

end IntTree

/-- An operand that is an integer is a number. -/
theorem exec_evalNumber_of_int {n : Nat} {env : Env} {field : String} {a : Expr} {s t : State}
    {x : Int64} (ha : exec (eval n env a) s = (.ok (.int x), t)) :
    exec (evalNumber located n env field (some a)) s = (.ok (.int x), t) := by
  rw [evalNumber]
  exact exec_bind_ok ha

/-- The operands of an arithmetic operator are evaluated one after the other. -/
theorem exec_arith_of_ints {n : Nat} {env : Env} {a b : Expr} {s t u : State} {x y : Int64}
    (op : ArithOp) (ha : exec (eval n env a) s = (.ok (.int x), t))
    (hb : exec (eval n env b) t = (.ok (.int y), u)) :
    exec (eval n env (.arith op (some a) (some b))) s =
      exec (locating (.arith op (some a) (some b)) do
        return (← ofExcept (op.apply (.int x) (.int y))).toValue) u := by
  rw [eval, evalWith]
  show exec (locating _ _) s = _
  rw [exec_locating, exec_locating, exec_bind_ok (exec_evalNumber_of_int ha),
    exec_bind_ok (exec_evalNumber_of_int hb)]

/-- Failures that are located are passed on as they are. -/
theorem exec_locating_of_located {α : Type} {m : Eval α} {e : Expr} {s : State}
    (known : ∀ f t, exec m s = (.error (.failure f), t) → f.operator ≠ none) :
    exec (locating e m) s = exec m s := by
  rw [exec_locating]
  rcases run : exec m s with ⟨stop | a, t⟩
  · cases stop with
    | failure f =>
      show (Except.error (Stop.failure (f.locate e)), t) = _
      rw [Failure.locate_of_located (known f t run)]
    | abort message => rfl
    | exhausted => rfl
  · rfl

/-- The failure of an operand is that of the operator. -/
theorem exec_arith_of_failure {n : Nat} {env : Env} {a b : Expr} {s t : State} {f : Failure}
    (op : ArithOp) (failed : exec (eval n env a) s = (.error (.failure f), t) ∨
      ∃ x u, exec (eval n env a) s = (.ok (.int x), u) ∧
        exec (eval n env b) u = (.error (.failure f), t)) :
    exec (eval n env (.arith op (some a) (some b))) s = (.error (.failure f), t) := by
  -- an operand that fails has no number, and its failure is located already
  have operand {e : Expr} {field : String} {w : State}
      (he : exec (eval n env e) w = (.error (.failure f), t)) :
      exec (evalNumber located n env field (some e)) w = (.error (.failure f), t) := by
    rw [evalNumber]
    exact exec_bind_error he
  have known : f.operator ≠ none := by
    rcases failed with ha | ⟨x, u, ha, hb⟩
    · exact located_eval n env a s f t ha
    · exact located_eval n env b u f t hb
  have run : exec (do
      let x ← evalNumber located n env "Arg1" (some a)
      let y ← evalNumber located n env "Arg2" (some b)
      return (← ofExcept (op.apply x y)).toValue) s = (.error (.failure f), t) := by
    rcases failed with ha | ⟨x, u, ha, hb⟩
    · exact exec_bind_error (operand ha)
    · rw [exec_bind_ok (exec_evalNumber_of_int ha)]
      exact exec_bind_error (operand hb)
  rw [eval, evalWith]
  -- so the operator passes it on as it is
  refine (exec_locating_of_located fun g u h => ?_).trans run
  cases run.symm.trans h
  exact known

namespace IntTree

variable {op : IntOp} {t u a b : IntTree}

/-- A run of a tree changes nothing, and ends as its outcome says. -/
theorem exec_eval_toExpr (n : Nat) (env : Env) (t : IntTree) (s : State) :
    exec (eval n env t.toExpr) s =
      (match t.outcome with
        | .ok v => .ok (.int v)
        | .error u => .error (.failure u.zeroDivisor), s) := by
  induction t with
  | lit v => rfl
  | node op a b iha ihb =>
    -- the run ends at the first operand, at the second, or with the operator
    rcases left : a.outcome with u | x
    · have stopped : (node op a b).outcome = .error u := by rw [outcome, left]; rfl
      rw [left] at iha
      rw [stopped]
      exact exec_arith_of_failure op.toArith (.inl iha)
    rcases right : b.outcome with u | y
    · have stopped : (node op a b).outcome = .error u := by rw [outcome, left, right]; rfl
      rw [left] at iha
      rw [right] at ihb
      rw [stopped]
      exact exec_arith_of_failure op.toArith (.inr ⟨x, s, iha, ihb⟩)
    have computed : (node op a b).outcome =
        if op = .modulus ∧ y = 0 then .error (.node op a b)
        else .ok (.ofInt (op.exact x.toInt y.toInt)) := by
      rw [outcome, left, right]
      rfl
    rw [left] at iha
    rw [right] at ihb
    rw [computed, toExpr, exec_arith_of_ints op.toArith iha ihb, op.apply_toArith]
    split
    · rfl
    · rfl

/-- What ends a run is a remainder by zero. -/
theorem outcome_eq_error (failed : t.outcome = .error u) :
    u ∈ t.subtrees ∧ ∃ a b, u = .node .modulus a b ∧ b.outcome = .ok 0 := by
  induction t with
  | lit v => cases failed
  | node op a b iha ihb =>
    rw [outcome] at failed
    -- the remainder is in the first operand, in the second, or at the root
    rcases left : a.outcome with w | x
    · rw [left] at failed
      cases failed
      obtain ⟨inside, zero⟩ := iha left
      exact ⟨mem_subtrees_node.mpr (.inr (.inl inside)), zero⟩
    rcases right : b.outcome with w | y
    · rw [left, right] at failed
      cases failed
      obtain ⟨inside, zero⟩ := ihb right
      exact ⟨mem_subtrees_node.mpr (.inr (.inr inside)), zero⟩
    rw [left, right] at failed
    change (if op = .modulus ∧ y = 0 then Except.error (node op a b) else _) = _ at failed
    split at failed
    next zero =>
      obtain ⟨rfl, rfl⟩ := zero
      cases failed
      exact ⟨mem_subtrees_self _, a, b, rfl, right⟩
    next => cases failed

/-- Every remainder by zero ends the run of what it is part of. -/
theorem exists_outcome_error (inside : .node .modulus a b ∈ t.subtrees) (zero : b.outcome = .ok 0) :
    ∃ u, t.outcome = .error u := by
  induction t with
  | lit v => cases List.mem_singleton.mp inside
  | node op c d ihc ihd =>
    rw [outcome]
    -- unless an operand ends the run, the remainder can only be the root
    rcases left : c.outcome with u | x
    · exact ⟨u, rfl⟩
    rcases right : d.outcome with u | y
    · exact ⟨u, rfl⟩
    rcases mem_subtrees_node.mp inside with itself | inside | inside
    · cases itself
      cases right.symm.trans zero
      exact ⟨.node .modulus a b, rfl⟩
    · obtain ⟨u, failed⟩ := ihc inside
      cases left.symm.trans failed
    · obtain ⟨u, failed⟩ := ihd inside
      cases right.symm.trans failed

/-! ### Exact and rounded values -/

/-- Whether the exact value of a tree is one of 64 bits, and not a
remainder by zero. -/
structure Representable (t : IntTree) : Prop where
  low : -2 ^ 63 ≤ t.exact
  high : t.exact < 2 ^ 63
  divisor : ∀ a b, t = .node .modulus a b → b.exact ≠ 0

/-- The rounded value of a tree, given those of the operands. -/
theorem toInt_outcome_node {x y : Int64} (ha : a.outcome = .ok x) (hb : b.outcome = .ok y)
    (accepted : ¬ (op = .modulus ∧ y = 0)) :
    ∃ v, (node op a b).outcome = .ok v ∧ v.toInt = (op.exact x.toInt y.toInt).bmod (2 ^ 64) := by
  refine ⟨.ofInt (op.exact x.toInt y.toInt), ?_, Int64.toInt_ofInt⟩
  rw [outcome, ha, hb]
  exact if_neg accepted

/-- Where nothing is rounded, the outcome is the exact value. -/
theorem toInt_outcome_of_representable (h : ∀ u ∈ t.subtrees, u.Representable) :
    ∃ v, t.outcome = .ok v ∧ v.toInt = t.exact := by
  induction t with
  | lit v => exact ⟨v, rfl, rfl⟩
  | node op a b iha ihb =>
    obtain ⟨x, left, hx⟩ := iha fun u hu => h u (mem_subtrees_node.mpr (.inr (.inl hu)))
    obtain ⟨y, right, hy⟩ := ihb fun u hu => h u (mem_subtrees_node.mpr (.inr (.inr hu)))
    have here : (node op a b).Representable := h _ (mem_subtrees_self _)
    -- the divisor is what it is exactly, and exactly it is not zero
    have accepted : ¬ (op = .modulus ∧ y = 0) := by
      rintro ⟨rfl, rfl⟩
      exact here.divisor a b rfl hy.symm
    obtain ⟨v, computed, hv⟩ := toInt_outcome_node left right accepted
    refine ⟨v, computed, ?_⟩
    rw [hv, hx, hy]
    -- rounding changes nothing that fits
    have low : -2 ^ 63 ≤ op.exact a.exact b.exact := here.low
    have high : op.exact a.exact b.exact < 2 ^ 63 := here.high
    exact Int.bmod_eq_of_le (by omega) (by omega)

/-- Rounding once comes to the same as rounding every sum, difference and product. -/
theorem toInt_outcome_of_ring
    (h : ∀ op a b, .node op a b ∈ t.subtrees → op = .add ∨ op = .sub ∨ op = .mult) :
    ∃ v, t.outcome = .ok v ∧ v.toInt = t.exact.bmod (2 ^ 64) := by
  induction t with
  | lit v =>
    refine ⟨v, rfl, ?_⟩
    have low := v.le_toInt
    have high := v.toInt_lt
    exact (Int.bmod_eq_of_le (by omega) (by omega)).symm
  | node op a b iha ihb =>
    obtain ⟨x, left, hx⟩ :=
      iha fun op c d hu => h op c d (mem_subtrees_node.mpr (.inr (.inl hu)))
    obtain ⟨y, right, hy⟩ :=
      ihb fun op c d hu => h op c d (mem_subtrees_node.mpr (.inr (.inr hu)))
    have ring := h op a b (mem_subtrees_self _)
    -- none of the operators of a ring is refused
    have accepted : ¬ (op = .modulus ∧ y = 0) := by
      rintro ⟨rfl, -⟩
      simp at ring
    obtain ⟨v, computed, hv⟩ := toInt_outcome_node left right accepted
    refine ⟨v, computed, ?_⟩
    rw [hv, hx, hy]
    -- modulo 2^64 it does not matter when one rounds
    rcases ring with rfl | rfl | rfl
    · exact (Int.bmod_add_bmod).trans Int.add_bmod_bmod
    · exact (Int.bmod_sub_bmod).trans Int.sub_bmod_bmod
    · exact (Int.bmod_mul_bmod).trans Int.mul_bmod_bmod

end IntTree

/-! ### Integer expressions -/

/-- **Integer expressions are exact or wrap around.** A run of a tree of integers
changes nothing. It ends with an integer, or with the failure of a remainder by
zero in the tree, and the latter exactly if some remainder in the tree has a
divisor that evaluates to zero. Where every part of the tree has an exact value
of 64 bits the run gives the exact value; and a tree of sums, differences and
products gives its exact value modulo 2^64, whatever overflows on the way. -/
theorem integer_arithmetic (n : Nat) (env : Env) (s : State) (t : IntTree) :
    let run (u : IntTree) := exec (eval n env u.toExpr) s
    ((∃ v, run t = (.ok (.int v), s)) ∨
      ∃ a b, .node .modulus a b ∈ t.subtrees ∧
        run t = (.error (.failure (IntTree.node .modulus a b).zeroDivisor), s)) ∧
    ((∃ stop, (run t).1 = .error stop) ↔
      ∃ a b, .node .modulus a b ∈ t.subtrees ∧ (run b).1 = .ok (.int 0)) ∧
    ((∀ u ∈ t.subtrees, u.Representable) →
      ∃ v, run t = (.ok (.int v), s) ∧ v.toInt = t.exact) ∧
    ((∀ op a b, .node op a b ∈ t.subtrees → op = .add ∨ op = .sub ∨ op = .mult) →
      ∃ v, run t = (.ok (.int v), s) ∧ v.toInt = t.exact.bmod (2 ^ 64)) := by
  intro run
  -- runs and outcomes say the same
  have computed {u : IntTree} {v : Int64} (hv : u.outcome = .ok v) :
      run u = (.ok (.int v), s) := by
    show exec (eval n env u.toExpr) s = _
    rw [u.exec_eval_toExpr, hv]
  have stopped {u w : IntTree} (hw : u.outcome = .error w) :
      run u = (.error (.failure w.zeroDivisor), s) := by
    show exec (eval n env u.toExpr) s = _
    rw [u.exec_eval_toExpr, hw]
  have ended {u : IntTree} {v : Int64} : (run u).1 = .ok (.int v) ↔ u.outcome = .ok v := by
    rcases hu : u.outcome with w | x
    · simp [stopped hu]
    · simp [computed hu]
  refine ⟨?_, ⟨?_, ?_⟩, fun fits => ?_, fun ring => ?_⟩
  · rcases ht : t.outcome with u | v
    · obtain ⟨inside, a, b, rfl, -⟩ := IntTree.outcome_eq_error ht
      exact .inr ⟨a, b, inside, stopped ht⟩
    · exact .inl ⟨v, computed ht⟩
  · rintro ⟨stop, failed⟩
    rcases ht : t.outcome with u | v
    · obtain ⟨inside, a, b, rfl, zero⟩ := IntTree.outcome_eq_error ht
      exact ⟨a, b, inside, ended.mpr zero⟩
    · rw [computed ht] at failed
      cases failed
  · rintro ⟨a, b, inside, zero⟩
    obtain ⟨u, failed⟩ := IntTree.exists_outcome_error inside (ended.mp zero)
    exact ⟨_, congrArg Prod.fst (stopped failed)⟩
  · obtain ⟨v, ht, exact⟩ := IntTree.toInt_outcome_of_representable fits
    exact ⟨v, computed ht, exact⟩
  · obtain ⟨v, ht, wraps⟩ := IntTree.toInt_outcome_of_ring ring
    exact ⟨v, computed ht, wraps⟩

/-- A remainder is not negative, the smallest integer has none by minus one but
zero, and the largest integer has the smallest after it. -/
theorem integer_arithmetic_extremes :
    let env : Env := ⟨{}, none, {}, fun _ => false⟩
    let s : State := ⟨{}, {}⟩
    let least : IntTree := .lit (-9223372036854775808)
    let remainders : IntTree :=
      .node .sub (.node .modulus (.lit (-7)) (.lit 3)) (.node .modulus least (.lit (-1)))
    let successor : IntTree := .node .add (.lit 9223372036854775807) (.lit 1)
    (∃ v, exec (eval 0 env remainders.toExpr) s = (.ok (.int v), s) ∧ v.toInt = 2) ∧
      ∃ v, exec (eval 0 env successor.toExpr) s = (.ok (.int v), s) ∧
        v.toInt = -9223372036854775808 := by
  intro env s least remainders successor
  constructor
  · obtain ⟨-, -, exact, -⟩ := integer_arithmetic 0 env s remainders
    apply exact
    intro u hu
    simp only [remainders, least, IntTree.subtrees, List.mem_cons, List.cons_append,
      List.nil_append, List.not_mem_nil, or_false] at hu
    rcases hu with rfl | rfl | rfl | rfl | rfl | rfl | rfl <;>
      exact ⟨by decide, by decide, by rintro a b ⟨⟩ <;> decide⟩
  · obtain ⟨-, -, -, wraps⟩ := integer_arithmetic 0 env s successor
    apply wraps
    intro op a b inside
    rcases IntTree.mem_subtrees_node.mp inside with h | h | h
    · cases h
      exact .inl rfl
    · cases List.mem_singleton.mp h
    · cases List.mem_singleton.mp h

end Rulebook
