/-
Rulebook/Proofs/CurveDomain.lean

The positions that a curve covers.  The last position is where the last value
stands, or the greatest position there is if the values would go on beyond it
(`Curve.toInt_last`).  So a curve that starts close to the greatest position
covers fewer positions than it has values, but never none.

Three computations have to agree on this: whether a position is covered, at which
place among the values its own is, and which covered position is nearest to one
that is not.  The place is the distance to the first position, which does not fit
into the 32 bits of a position but is exact in 64 (`Curve.toInt_offset`).  It is a
place among the values if the position is covered (`Curve.offset_lt_size`), so
that there is a value exactly at the covered positions (`Curve.isSome_get?_iff`),
in particular at the nearest one to any.
-/
import Rulebook.Proofs.CurveIndex

namespace Rulebook

open Eval

namespace Curve

variable {c : Curve} {i : Int32}

/-! ### Which curves there are -/

theorem ofValues?_eq_some_iff {first : Int32} {values : Array Float32} :
    ofValues? first values = some c ↔ c.first = first ∧ c.values = values := by
  unfold ofValues?
  constructor
  · split
    next sized =>
      rintro ⟨⟩
      exact ⟨rfl, rfl⟩
    next => nofun
  · rintro ⟨rfl, rfl⟩
    exact dif_pos ⟨c.nonempty, c.size_le⟩

/-! ### Places of positions -/

theorem covers_iff : c.covers i = true ↔ c.first.toInt ≤ i.toInt ∧ i.toInt ≤ c.last.toInt := by
  simp only [covers, Bool.and_eq_true, decide_eq_true_eq, Int32.le_iff_toInt_le]

/-- The distance of two positions is exact in 64 bits. -/
theorem toInt_offset (i j : Int32) : (i.toInt64 - j.toInt64).toInt = i.toInt - j.toInt := by
  -- positions are less than `2 ^ 32` apart, far from where 64 bits wrap around
  have low := i.le_toInt
  have high := i.toInt_lt
  have low' := j.le_toInt
  have high' := j.toInt_lt
  rw [Int64.toInt_sub, Int32.toInt_toInt64, Int32.toInt_toInt64]
  exact Int.bmod_eq_of_le (by omega) (by omega)

/-- The place of a covered position is one among the values. -/
theorem offset_lt_size (covered : c.covers i = true) :
    0 ≤ i.toInt - c.first.toInt ∧ i.toInt - c.first.toInt < c.values.size := by
  obtain ⟨above, below⟩ := covers_iff.mp covered
  rw [toInt_last] at below
  omega

theorem get?_of_covers (covered : c.covers i = true) :
    c.get? i = c.values[(i.toInt - c.first.toInt).toNat]? := by
  rw [get?, if_pos covered]

/-- There is a value exactly at the positions that are covered. -/
theorem isSome_get?_iff : (c.get? i).isSome ↔ c.covers i = true := by
  constructor
  · intro found
    by_cases covered : c.covers i = true
    · exact covered
    · rw [get?, if_neg covered] at found
      cases found
  · intro covered
    -- the distance of a covered index from the first one is a place in the array
    have place := offset_lt_size covered
    rw [get?_of_covers covered, Array.getElem?_eq_getElem (by omega)]
    rfl

theorem isSome_get?_clamp (c : Curve) (i : Int32) : (c.get? (c.clamp i)).isSome :=
  isSome_get?_iff.mpr (c.covers_clamp i)

end Curve

/-- Every number means a position. -/
theorem Value.exists_position {v : Value} (number : v.isNumeric = true) :
    ∃ i, v.position = .ok i := by
  cases v with
  | int v => exact ⟨_, rfl⟩
  | float v => exact ⟨_, rfl⟩
  | _ => cases number

/-- **The domain of a curve.** Of every curve that there is, from whatever
position on and with however many values, the first position is not beyond the
last. There is a value exactly at the positions between the two, and it is the one
at the distance to the first, which is exact in 64 bits. The nearest position to
any other is one of these, so a read of the curve at an index that evaluates to a
number always has a value. -/
theorem curve_domain_consistent (first : Int32) (values : Array Float32) (c : Curve)
    (accepted : Curve.ofValues? first values = some c) :
    c.first = first ∧
    c.last.toInt = min (first.toInt + (values.size - 1)) (2 ^ 31 - 1) ∧
    c.first ≤ c.last ∧
    (∀ i, (c.get? i).isSome ↔ c.covers i = true) ∧
    (∀ i, c.covers i = true →
      let offset := i.toInt64 - first.toInt64
      offset.toInt = i.toInt - first.toInt ∧ 0 ≤ offset.toInt ∧ offset.toInt < values.size ∧
        c.get? i = values[offset.toInt.toNat]?) ∧
    (∀ i, (c.clamp i).toInt = max first.toInt (min i.toInt c.last.toInt) ∧
      c.covers (c.clamp i) = true ∧ (c.get? (c.clamp i)).isSome) ∧
    (∀ n env s t id index v, id.isValid = true → env.data.curves.get? id = some c →
      exec (eval n env index) s = (.ok v, t) → v.isNumeric = true →
      ∃ i x, v.position = .ok i ∧ c.get? (c.clamp i) = some x ∧
        exec (eval n env (.curve id (some index))) s = (.ok (.float x), t)) := by
  obtain ⟨rfl, rfl⟩ := Curve.ofValues?_eq_some_iff.mp accepted
  refine ⟨rfl, c.toInt_last, Int32.le_iff_toInt_le.mpr c.first_le_last,
    fun _ => Curve.isSome_get?_iff, ?_,
    fun i => ⟨c.toInt_clamp i, c.covers_clamp i, c.isSome_get?_clamp i⟩, ?_⟩
  · intro i covered
    have place := Curve.offset_lt_size covered
    have distance := Curve.toInt_offset i c.first
    refine ⟨distance, ?_, ?_, ?_⟩
    · omega
    · omega
    · rw [distance, Curve.get?_of_covers covered]
  · intro n env s t id index v valid entered evaluated number
    obtain ⟨i, meant⟩ := Value.exists_position number
    exact ⟨i, _, meant, c.get?_clamp i, exec_curve valid entered evaluated meant⟩

/-- A curve with more values than there are positions from its first one on. -/
def edgeLevels : Curve := ⟨2147483646, #[10, 20, 30, 40], by decide, by decide⟩

/-- The curve covers the two greatest positions, and no position has the other
two of its values. Of these two the second is read at the greatest position, the
first at the least. -/
theorem edgeLevels_cut :
    let curves := ({} : CurveTable).insert ⟨7⟩ "Levels" edgeLevels
    let env : Env := ⟨{ curves }, none, {}, fun _ => false⟩
    let s : State := ⟨{}, {}⟩
    Curve.ofValues? 2147483646 #[10, 20, 30, 40] = some edgeLevels ∧
      edgeLevels.last = 2147483647 ∧ edgeLevels.first ≤ edgeLevels.last ∧
      edgeLevels.get? 2147483647 = some 20 ∧ edgeLevels.get? (-2147483648) = none ∧
      exec (eval 0 env (.curve ⟨7⟩ (some (.int 2147483647)))) s = (.ok (.float 20), s) ∧
      exec (eval 0 env (.curve ⟨7⟩ (some (.int (-2147483648))))) s = (.ok (.float 10), s) := by
  intro curves env s
  have accepted : Curve.ofValues? 2147483646 #[10, 20, 30, 40] = some edgeLevels := rfl
  obtain ⟨-, last, nonempty, values, inside, -, read⟩ := curve_domain_consistent _ _ _ accepted
  -- every integer is read at the nearest covered index
  have reads (k : Int64) : ∃ x, edgeLevels.get? (edgeLevels.clamp k.toInt32) = some x ∧
      exec (eval 0 env (.curve ⟨7⟩ (some (.int k)))) s = (.ok (.float x), s) := by
    obtain ⟨i, x, meant, found, ran⟩ := read 0 env s s ⟨7⟩ (.int k) (.int k) rfl rfl rfl rfl
    obtain rfl := Except.ok.inj meant
    exact ⟨x, found, ran⟩
  refine ⟨accepted, Int32.toInt_inj.mp last, nonempty, (inside _ rfl).2.2.2, ?_, ?_, ?_⟩
  · exact Option.not_isSome_iff_eq_none.mp fun found => nomatch (values _).mp found
  · obtain ⟨x, found, ran⟩ := reads 2147483647
    obtain rfl := Option.some.inj found
    exact ran
  · obtain ⟨x, found, ran⟩ := reads (-2147483648)
    obtain rfl := Option.some.inj found
    exact ran

end Rulebook
