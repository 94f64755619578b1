/-
Rulebook/Proofs/IntegerParams.lean

Integer parameters of keys.  A parameter has twelve bits, and an integer that
does not fit leaves the declared default in place (`Schema.taken`).  But an
integer has sixty-four bits, and it is cut to the low thirty-two before it is
looked at.  So what does not fit may be taken for something that does: the
parameter is that of the low bits (`Schema.encodeParam_int`), and keys of
different integers may be one and the same.

The two operators that evaluate parameters build their keys alike, one parameter
after another, each in the state that the one before it has left
(`KeyFrom`).  What is said of a parameter holds of each of the four, for the
operator that records under the key and for the one that reads from it
(`integer_params_wrap`).
-/
import Mathlib.Algebra.Group.Int.Defs
import Mathlib.Algebra.Group.Nat.Defs
import Rulebook.Proofs.KeyOrder
import Rulebook.Proofs.NamedLoads

namespace Rulebook

open Eval

/-! ### Integers that are taken for parameters -/

namespace Schema

variable (s : Schema) (i : Nat)

/-- What parameter `i` is for an integer: the integer if it fits, else the declared
default. -/
def taken (x : Int) : Param := (Param.ofInt x).toOption.getD (s.defaultParam i)

theorem val_taken_of_fits {x : Int} (h : 0 ≤ x ∧ x < 4096) : ((s.taken i x).val : Int) = x := by
  rw [taken, Param.ofInt, dif_pos h]
  show ((x.toNat : Nat) : Int) = x
  omega

theorem taken_of_not_fits {x : Int} (h : ¬ (0 ≤ x ∧ x < 4096)) :
    s.taken i x = s.defaultParam i := by
  rw [taken, Param.ofInt, dif_neg h]
  rfl

theorem taken_eq_default_iff {x : Int} :
    s.taken i x = s.defaultParam i ↔ ¬ (0 ≤ x ∧ x < 4096) ∨ x = (s.defaultParam i).val := by
  by_cases h : 0 ≤ x ∧ x < 4096
  · have value := s.val_taken_of_fits i h
    rw [Fin.ext_iff]
    omega
  · exact iff_of_true (s.taken_of_not_fits i h) (.inl h)

/-- Integers that are taken for the same parameter, not the default, are the same. -/
theorem eq_of_taken_eq {x y : Int} (same : s.taken i x = s.taken i y)
    (other : s.taken i x ≠ s.defaultParam i) : x = y := by
  -- what is not taken as the default fits the twelve bits
  have fits : ∀ {z}, s.taken i z ≠ s.defaultParam i → 0 ≤ z ∧ z < 4096 := by
    intro z h
    by_cases inside : 0 ≤ z ∧ z < 4096
    · exact inside
    · exact absurd (s.taken_of_not_fits i inside) h
  have hx := s.val_taken_of_fits i (fits other)
  have hy := s.val_taken_of_fits i (fits (same ▸ other))
  rw [← hx, ← hy, same]

/-- An integer and its low 32 bits are taken for the same parameter if they are
the same, or if the low bits do not fit or are the default. -/
theorem taken_bmod_iff (x : Int) :
    let low := x.bmod (2 ^ 32)
    s.taken i low = s.taken i x ↔
      low = x ∨ ¬ (0 ≤ low ∧ low < 4096) ∨ low = (s.defaultParam i).val := by
  intro low
  rw [← s.taken_eq_default_iff i]
  constructor
  · intro same
    by_cases other : s.taken i low = s.defaultParam i
    · exact .inr other
    · exact .inl (s.eq_of_taken_eq i same other)
  · rintro (same | cut)
    · rw [same]
    · by_cases fits : 0 ≤ x ∧ x < 4096
      · -- an integer that fits has no more than its low bits
        have whole : low = x := Int.bmod_eq_of_le (by omega) (by omega)
        rw [whole]
      · rw [cut, s.taken_of_not_fits i fits]

/-- An integer is encoded by its low 32 bits. -/
theorem encodeParam_int {s : Schema} {i : Nat} (integer : s.paramType i = .integer) (v : Int64) :
    (s.encodeParam i (.int v)).getD (s.defaultParam i) = s.taken i (v.toInt.bmod (2 ^ 32)) := by
  rw [encodeParam, integer]
  show ((Param.ofInt v.toInt32.toInt).toOption).getD (s.defaultParam i) = _
  rw [Int64.toInt_toInt32, taken]

end Schema

/-! ### Keys that are built of their parameters -/

/-- Whether a key is built of its children, the first one first: each
of the states is the one in which the child for a parameter is
evaluated, or the last one. -/
structure KeyFrom (n : Nat) (env : Env) (schema : Schema) (children : Vector (Option Expr) 4)
    (states : Vector State 5) (k : PropertyKey) : Prop where
  property : k.property = schema.property
  param : ∀ i : Fin 4,
    exec (evalParam located n env schema i (children.get i)) (states.get i.castSucc) =
      (.ok (k.param i), states.get i.succ)

theorem keyFrom_of_keyWith {n : Nat} {env : Env} {schema : Schema} {p q r z : Option Expr}
    {k : PropertyKey} {s t : State}
    (run : exec (keyWith schema (evalParam located n env schema 0 p)
      (evalParam located n env schema 1 q) (evalParam located n env schema 2 r)
      (evalParam located n env schema 3 z)) s = (.ok k, t)) :
    ∃ states : Vector State 5, states.get 0 = s ∧ states.get 4 = t ∧
      KeyFrom n env schema #v[p, q, r, z] states k := by
  have property := property_of_keyWith run
  obtain ⟨p0, s1, h0, run⟩ := exec_bind_eq_ok run
  obtain ⟨p1, s2, h1, run⟩ := exec_bind_eq_ok run
  obtain ⟨p2, s3, h2, run⟩ := exec_bind_eq_ok run
  obtain ⟨p3, s4, h3, run⟩ := exec_bind_eq_ok run
  cases run
  -- the states before and after each of the four parameters
  refine ⟨#v[s, s1, s2, s3, t], rfl, rfl, property, fun i => ?_⟩
  rw [PropertyKey.param_ofParams]
  match i with
  | 0 => exact h0
  | 1 => exact h1
  | 2 => exact h2
  | 3 => exact h3

/-- **Integer parameters are those of the low 32 bits.** An assignment and a load
that evaluate the parameters of their key build it of them, one after another. In
such a key, a parameter that is declared for integers and whose child evaluates to
an integer is what its low 32 bits are taken for. That is what the integer itself
is taken for exactly if the integer is its low bits, or these do not fit or are
the default. And two integers that make the same parameter, not the default, are
the same in their low 32 bits. -/
theorem integer_params_wrap (n : Nat) (env : Env) (c : Context) (id : PrototypeId)
    (p q r z : Option Expr) (s : State) :
    (∀ value w t, exec (eval n env (.assignBy c id p q r z (some value))) s = (.ok w, t) →
      ∃ v u h schema states k d, exec (eval n env value) s = (.ok v, u) ∧
        env.target u c = .ok h ∧ env.data.schemaBy id = .ok schema ∧ v.toDatum schema = .ok d ∧
        KeyFrom n (env.holding (· == h)) schema #v[p, q, r, z] states k ∧
        states.get 0 = u ∧ t = (states.get 4).record h k d) ∧
    (∀ v t, exec (eval n env (.loadBy c id p q r z)) s = (.ok v, t) →
      ∃ h schema states k, env.behind s c .read = .ok h ∧ env.data.schemaBy id = .ok schema ∧
        KeyFrom n (env.holding (· == h)) schema #v[p, q, r, z] states k ∧
        states.get 0 = s ∧ states.get 4 = t ∧
        v = .ofDatum ((t.store.get? (env.live t) h k).getD schema.default)) ∧
    (∀ inner schema children states k, KeyFrom n inner schema children states k →
      ∀ i : Fin 4, schema.paramType i = .integer → ∀ e x t, children.get i = some e →
        exec (eval n inner e) (states.get i.castSucc) = (.ok (.int x), t) →
        k.param i = schema.taken i (x.toInt.bmod (2 ^ 32)) ∧ states.get i.succ = t) ∧
    ∀ (schema : Schema) (i : Nat) (x y : Int64),
      let low (x : Int64) : Int := x.toInt.bmod (2 ^ 32)
      (schema.taken i (low x) = schema.taken i x.toInt ↔
        low x = x.toInt ∨ ¬ (0 ≤ low x ∧ low x < 4096) ∨ low x = (schema.defaultParam i).val) ∧
      (schema.taken i (low x) = schema.taken i (low y) →
        schema.taken i (low x) ≠ schema.defaultParam i → low x = low y) := by
  refine ⟨fun value w t run => ?_, fun v t run => ?_, ?_, ?_⟩
  · obtain ⟨-, _, v, u, h, k, d, schema, ⟨⟩, -, evaluated, commits, steps, rfl⟩ :=
      Assignment.eval_eq_ok rfl run
    obtain ⟨states, first, last, built⟩ := keyFrom_of_keyWith commits.exec_key
    rw [steps, ← last]
    exact ⟨v, u, h, schema, states, k, d, evaluated, commits.target, commits.declared,
      commits.datum, built, first, rfl⟩
  · obtain ⟨h, schema, k, behind, named, key, rfl⟩ := loadBy_eq_ok run
    obtain ⟨states, first, last, built⟩ := keyFrom_of_keyWith key
    refine ⟨h, schema, states, k, behind, named, built, first, last, ?_⟩
    rw [Env.live_holding, Store.get?_holding]
  · intro inner schema children states k key i integer e x t child evaluated
    -- the operand ends with an integer, of which the low half is encoded
    have valid : schema.paramType i ≠ .invalid := by
      rw [integer]
      nofun
    have built := key.param i
    rw [child, exec_evalParam valid evaluated, Schema.encodeParam_int integer] at built
    simp only [Prod.mk.injEq, Except.ok.injEq] at built
    exact ⟨built.1.symm, built.2.symm⟩
  · intro schema i x y low
    exact ⟨schema.taken_bmod_iff i x.toInt, schema.eq_of_taken_eq i⟩

/-- A rank with more than 32 bits is the rank of its low bits, and a load by
it gives what was recorded for that, though the default stands for a rank
that does not fit. -/
theorem gear_rank_wraps :
    let env : Env :=
      ⟨{ schemas := ({} : Registry).after [.register gear] }, none, {}, fun _ => false⟩
    let s : State := State.record ⟨⟨#[{}]⟩, { callerStack := some ⟨0⟩ }⟩ ⟨0⟩
      (.ofParams ⟨10⟩ #v[5, 3, 0, 0]) (.integer 9)
    let rank : Option Expr := some (.int 4294967301)
    exec (eval 0 env (.loadBy .callerStack ⟨5010⟩ rank none none none)) s = (.ok (.int 9), s) ∧
      (∃ states k, KeyFrom 0 (env.holding (· == ⟨0⟩)) gear #v[rank, none, none, none] states k ∧
        k.param 0 = 5) ∧
      gear.taken 0 4294967301 = gear.defaultParam 0 ∧ gear.defaultParam 0 ≠ 5 := by
  intro env s rank
  have run : exec (eval 0 env (.loadBy .callerStack ⟨5010⟩ rank none none none)) s =
    (.ok (.int 9), s) := rfl
  obtain ⟨-, loads, params, -⟩ :=
    integer_params_wrap 0 env .callerStack ⟨5010⟩ rank none none none s
  obtain ⟨h, schema, states, k, behind, named, key, -⟩ := loads (.int 9) s run
  cases behind
  cases named
  obtain ⟨value, -⟩ := params _ gear _ states k key 0 rfl (.int 4294967301) 4294967301 _ rfl rfl
  exact ⟨run, ⟨states, k, key, value⟩, rfl, by decide⟩

end Rulebook
