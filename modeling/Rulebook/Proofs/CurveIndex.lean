/-
Rulebook/Proofs/CurveIndex.lean

Curves at an index.  A rule may read a curve anywhere: a position that the curve
does not cover is moved to the nearest one that it does (`Curve.nearest`), so
there is always a value (`Curve.get?_clamp`).

An index is a position only once it has 32 bits, though, and an integer is cut
to them before it is moved.  So an integer with more bits is read where its low
bits say (`curve_at_integer`), which on a curve of more than one position may be
the other end of it (`Curve.place_above`).
-/
import Mathlib.Algebra.Group.Int.Defs
import Mathlib.Algebra.Group.Nat.Defs
import Rulebook.Proofs.Outcome

namespace Rulebook

open Eval

/-! ### Positions of a curve -/

namespace Curve

variable (c : Curve)

/-- The position of the curve that is nearest to an integer. -/
def nearest (v : Int) : Int := max c.first.toInt (min v c.last.toInt)

theorem toInt_last :
    c.last.toInt = min (c.first.toInt + (c.values.size - 1)) Int32.maxValue.toInt := by
  have first := c.first.le_toInt
  have nonempty := c.nonempty
  have greatest := Int32.toInt_maxValue
  rw [last, Int32.toInt_ofInt_of_le (by omega) (by omega)]

/-- A curve covers the position of its first value. -/
theorem first_le_last : c.first.toInt ≤ c.last.toInt := by
  have first := c.first.toInt_le
  have nonempty := c.nonempty
  rw [toInt_last]
  omega

theorem toInt_clamp (i : Int32) : (c.clamp i).toInt = c.nearest i.toInt := by
  have ends := c.first_le_last
  unfold clamp nearest
  -- below, above, and within: compared as words, computed as integers
  split
  next below =>
    have := Int32.lt_iff_toInt_lt.mp below
    omega
  next inside =>
    have := mt Int32.lt_iff_toInt_lt.mpr inside
    split
    next above =>
      have := Int32.lt_iff_toInt_lt.mp above
      omega
    next within =>
      have := mt Int32.lt_iff_toInt_lt.mpr within
      omega

/-- The place, among the values, of the one at the position nearest to an
integer. -/
def place (v : Int) : Fin c.values.size :=
  ⟨(c.nearest v - c.first.toInt).toNat, by
    have ends := c.first_le_last
    have last := c.toInt_last
    have nonempty := c.nonempty
    unfold nearest
    omega⟩

/-- The value at the position nearest to an integer. -/
def sample (v : Int) : Float32 := c.values[c.place v]

/-- Integers are read at the same place if they are nearest to the same position. -/
theorem place_eq_iff {v w : Int} : c.place w = c.place v ↔ c.nearest w = c.nearest v := by
  simp only [place, Fin.mk.injEq]
  unfold nearest
  omega

theorem covers_clamp (i : Int32) : c.covers (c.clamp i) = true := by
  have ends := c.first_le_last
  simp only [covers, Bool.and_eq_true, decide_eq_true_eq, Int32.le_iff_toInt_le, toInt_clamp]
  unfold nearest
  omega

/-- A curve has a value at every position, once it is moved to the curve. -/
theorem get?_clamp (i : Int32) : c.get? (c.clamp i) = some (c.sample i.toInt) := by
  rw [get?, if_pos (c.covers_clamp i), toInt_clamp]
  exact Array.getElem?_eq_getElem (c.place i.toInt).isLt

/-- An integer and its low 32 bits are nearest to the same position if they are the
same, or on the same side of the curve, or if there is only one position. -/
theorem nearest_bmod_iff (v : Int) :
    c.nearest (v.bmod (2 ^ 32)) = c.nearest v ↔
      v.bmod (2 ^ 32) = v ∨ c.first = c.last ∨
        c.last.toInt < v ∧ c.last.toInt ≤ v.bmod (2 ^ 32) ∨
        v < c.first.toInt ∧ v.bmod (2 ^ 32) ≤ c.first.toInt := by
  have ends := c.first_le_last
  have low := c.first.le_toInt
  have high := c.last.toInt_lt
  rw [← Int32.toInt_inj]
  unfold nearest
  -- integers with the same low bits that differ are not both positions
  have apart : v.bmod (2 ^ 32) = v ∨ v < -2 ^ 31 ∨ 2 ^ 31 ≤ v := by
    by_cases fits : -2 ^ 31 ≤ v ∧ v < 2 ^ 31
    · exact .inl (Int.bmod_eq_of_le (by omega) (by omega))
    · omega
  omega

/-- On a curve of more than one position, an integer above all positions may be read
as the first of them. -/
theorem place_above (several : c.first.toInt < c.last.toInt) :
    let v := Int64.ofInt (c.first.toInt + 2 ^ 32)
    c.last.toInt < v.toInt ∧ (c.place (v.toInt.bmod (2 ^ 32))).val = 0 ∧
      0 < (c.place v.toInt).val := by
  intro v
  have low := c.first.le_toInt
  have high := c.last.toInt_lt
  have above : v.toInt = c.first.toInt + 2 ^ 32 :=
    Int64.toInt_ofInt_of_le (by omega) (by omega)
  -- a full turn above the first index, so the low word is the first index again
  have bits : v.toInt.bmod (2 ^ 32) = c.first.toInt := by
    rw [above]
    show (c.first.toInt + (2 ^ 32 : Nat)).bmod (2 ^ 32) = _
    rw [Int.add_bmod_right, Int.bmod_eq_of_le (by omega) (by omega)]
  refine ⟨by omega, ?_, ?_⟩
  · rw [bits]
    simp only [place, nearest]
    omega
  · rw [above]
    simp only [place, nearest]
    omega

end Curve

/-! ### Reads of a curve -/

variable {n : Nat} {env : Env} {id : CurveId} {curve : Curve} {index : Expr} {s t : State}

/-- A read of a curve has the value at the position that the index means. -/
theorem exec_curve {v : Value} {i : Int32} (valid : id.isValid = true)
    (entered : env.data.curves.get? id = some curve)
    (evaluated : exec (eval n env index) s = (.ok v, t)) (meant : v.position = .ok i) :
    exec (eval n env (.curve id (some index))) s = (.ok (.float (curve.sample i.toInt)), t) := by
  have run : exec (evalWith located n env index) s = (.ok v, t) := evaluated
  unfold eval evalWith
  simp only [located, exec_locating, valid, Bool.not_true, Bool.false_eq_true, if_false, entered]
  rw [exec_bind_ok run, meant, exec_bind_ok (exec_ofExcept (.ok i) t), curve.get?_clamp]
  rfl

/-- **A curve is read at an integer by its low bits.** For every curve and every
index that evaluates to an integer, a rule reads the value at the position nearest
to what the low 32 bits of the integer say. This is the position nearest to the
integer itself if it has no more bits, if the bits that are lost leave it on the
same side of the curve, or if the curve has only one position, and never else. -/
theorem curve_at_integer {v : Int64} (valid : id.isValid = true)
    (entered : env.data.curves.get? id = some curve)
    (evaluated : exec (eval n env index) s = (.ok (.int v), t)) :
    let low := v.toInt.bmod (2 ^ 32)
    exec (eval n env (.curve id (some index))) s = (.ok (.float (curve.sample low)), t) ∧
    (curve.place low = curve.place v.toInt ↔
      low = v.toInt ∨ curve.first = curve.last ∨
        curve.last.toInt < v.toInt ∧ curve.last.toInt ≤ low ∨
        v.toInt < curve.first.toInt ∧ low ≤ curve.first.toInt) := by
  intro low
  refine ⟨?_, curve.place_eq_iff.trans (curve.nearest_bmod_iff v.toInt)⟩
  -- the index is the low word of the integer
  have read := exec_curve valid entered evaluated (i := v.toInt32) rfl
  rwa [Int64.toInt_toInt32] at read

/-- A curve over the positions from 1 to 3. -/
def threeLevels : Curve := ⟨1, #[10, 20, 30], by decide, by decide⟩

/-- The integer `2 ^ 32 + 2` lies above all positions of the curve, but it is read
at the second, not at the last. -/
theorem threeLevels_misread :
    let curves := ({} : CurveTable).insert ⟨7⟩ "Levels" threeLevels
    let env : Env := ⟨{ curves }, none, {}, fun _ => false⟩
    let s : State := ⟨{}, {}⟩
    exec (eval 0 env (.curve ⟨7⟩ (some (.int 4294967298)))) s = (.ok (.float 20), s) ∧
      threeLevels.place 4294967298 = (2 : Fin 3) := by
  intro curves env s
  have entered : env.data.curves.get? ⟨7⟩ = some threeLevels := rfl
  have evaluated : exec (eval 0 env (.int 4294967298)) s = (.ok (.int 4294967298), s) := rfl
  obtain ⟨read, -⟩ := curve_at_integer (by decide) entered evaluated
  exact ⟨read, rfl⟩

end Rulebook
