/-
Rulebook/Proofs/KeyOrder.lean

Fields of property keys.  A key is nothing but its five fields: they can be
taken apart and put together again, in both directions, without loss
(`property_ofParams`, `params_ofParams`, `ofParams_fields`), and they lie side
by side in the word, each shifted to its place (`raw_ofParams_eq_or`).

In mixed radix the digits decide a comparison from the highest on
(`compare_mul_add`).  So to compare two words is to compare the fields of the
keys one after another (`compare_eq_compareFields`).  Collections keep their
entries in the order of the words, which is therefore the lexicographic order
of the fields (`key_is_its_fields`).
-/
import Rulebook.Store

namespace Rulebook

/-! ### Comparison of words and digits -/

theorem compare_word (a b : UInt64) : compare a b = compare a.toNat b.toNat := by
  show compareOfLessAndEq a b = compareOfLessAndEq a.toNat b.toNat
  unfold compareOfLessAndEq
  simp only [UInt64.lt_iff_toNat_lt, ← UInt64.toNat_inj]

theorem compare_property (p q : Property) : compare p q = compare p.raw.toNat q.raw.toNat := by
  show compareOfLessAndEq p.raw q.raw = compareOfLessAndEq p.raw.toNat q.raw.toNat
  unfold compareOfLessAndEq
  simp only [UInt16.lt_iff_toNat_lt, ← UInt16.toNat_inj]

/-- Two numbers with a last digit below `m` are compared by what stands before
that digit, and only where that is the same, by the digit. -/
theorem compare_mul_add {m a b c d : Nat} (hb : b < m) (hd : d < m) :
    compare (a * m + b) (c * m + d) = (compare a c).then (compare b d) := by
  rcases Nat.lt_trichotomy a c with lt | rfl | gt
  · have : (a + 1) * m ≤ c * m := Nat.mul_le_mul_right m lt
    have less : a * m + b < c * m + d := by
      rw [Nat.succ_mul] at this
      omega
    rw [Nat.compare_eq_lt.mpr less, Nat.compare_eq_lt.mpr lt]
    rfl
  · rw [Nat.compare_eq_eq.mpr rfl]
    show compare (a * m + b) (a * m + d) = compare b d
    simp only [Nat.compare_eq_ite_lt, Nat.add_lt_add_iff_left]
  · have : (c + 1) * m ≤ a * m := Nat.mul_le_mul_right m gt
    have more : c * m + d < a * m + b := by
      rw [Nat.succ_mul] at this
      omega
    rw [Nat.compare_eq_gt.mpr more, Nat.compare_eq_gt.mpr gt]
    rfl

namespace PropertyKey

/-! ### Taking keys apart -/

theorem toNat_property (k : PropertyKey) :
    k.property.raw.toNat = k.raw.toNat / propertyUnit := by
  have hk : k.raw.toNat < 18446744073709551616 := k.raw.toNat_lt
  show (UInt16.ofNat (k.raw.toNat / propertyUnit)).toNat = _
  rw [UInt16.toNat_ofNat', Nat.mod_eq_of_lt]
  rw [units_eq.1]
  omega

theorem val_param (k : PropertyKey) (i : Fin 4) :
    (k.param i).val = k.raw.toNat / paramUnit i % 4096 := rfl

@[simp] theorem getElem_params (k : PropertyKey) (i : Fin 4) : k.params[i] = k.param i :=
  Vector.getElem_ofFn i.isLt

/-- The word of any key in mixed radix. -/
theorem toNat_raw (k : PropertyKey) :
    k.raw.toNat =
      (((k.property.raw.toNat * 4096 + (k.param 0).val) * 4096 + (k.param 1).val) * 4096 +
        (k.param 2).val) * 4096 + (k.param 3).val := by
  obtain ⟨e, e0, e1, e2, e3⟩ := units_eq
  simp only [toNat_property, val_param, e, e0, e1, e2, e3]
  omega

@[simp] theorem param_ofParams (p : Property) (params : Vector Param 4) (i : Fin 4) :
    (ofParams p params).param i = params[i] := by
  obtain ⟨e, e0, e1, e2, e3⟩ := units_eq
  have h0 := (params.get 0).isLt
  have h1 := (params.get 1).isLt
  have h2 := (params.get 2).isLt
  have h3 := (params.get 3).isLt
  apply Fin.ext
  show _ = (params.get i).val
  rw [val_param, toNat_raw_ofParams, e, e0, e1, e2, e3]
  match i with
  | 0 => rw [e0]; omega
  | 1 => rw [e1]; omega
  | 2 => rw [e2]; omega
  | 3 => rw [e3]; omega

@[simp] theorem params_ofParams (p : Property) (params : Vector Param 4) :
    (ofParams p params).params = params := by
  apply Vector.ext
  intro i hi
  exact (getElem_params _ ⟨i, hi⟩).trans (param_ofParams p params ⟨i, hi⟩)

/-- A key is made of its fields. -/
@[simp] theorem ofParams_fields (k : PropertyKey) : ofParams k.property k.params = k := by
  have same : (ofParams k.property k.params).raw = k.raw := by
    obtain ⟨e, e0, e1, e2, e3⟩ := units_eq
    have get (i : Fin 4) : k.params.get i = k.param i := getElem_params k i
    apply UInt64.toNat_inj.mp
    rw [toNat_raw_ofParams, toNat_raw k, get, get, get, get, e, e0, e1, e2, e3]
    omega
  exact congrArg PropertyKey.mk same

/-! ### Fields side by side -/

/-- What is shifted past a field below does not meet it. -/
theorem shiftLeft_or_shiftLeft {x d : Nat} (n : Nat) (hd : d < 4096) :
    x <<< (12 + n) ||| d <<< n = (x * 4096 + d) <<< n := by
  rw [Nat.shiftLeft_add, ← Nat.shiftLeft_or_distrib, ← Nat.shiftLeft_add_eq_or_of_lt hd,
    Nat.shiftLeft_eq x]

/-- A field that has room where it is shifted to loses nothing. -/
theorem toNat_shiftLeft {w n : UInt64} {x k : Nat} (hw : w.toNat = x) (hn : n.toNat % 64 = k)
    (hx : x <<< k < 18446744073709551616) : (w <<< n).toNat = x <<< k := by
  rw [UInt64.toNat_shiftLeft, hn, hw, Nat.mod_eq_of_lt hx]

theorem toNat_ofNat_param (d : Param) : (UInt64.ofNat d).toNat = d.val := by
  rw [UInt64.toNat_ofNat', Nat.mod_eq_of_lt]
  omega

/-- The word of a key is its fields, each shifted to its place. -/
theorem raw_ofParams_eq_or (p : Property) (params : Vector Param 4) :
    (ofParams p params).raw =
      p.raw.toUInt64 <<< 48 ||| UInt64.ofNat (params.get 0) <<< 36 |||
        UInt64.ofNat (params.get 1) <<< 24 ||| UInt64.ofNat (params.get 2) <<< 12 |||
        UInt64.ofNat (params.get 3) := by
  have hp : p.raw.toNat < 65536 := p.raw.toNat_lt
  have h0 := (params.get 0).isLt
  have h1 := (params.get 1).isLt
  have h2 := (params.get 2).isLt
  have h3 := (params.get 3).isLt
  -- each field keeps clear of the upper end of the word when it is shifted
  have high : (p.raw.toUInt64 <<< 48).toNat = p.raw.toNat <<< 48 :=
    toNat_shiftLeft p.raw.toNat_toUInt64 rfl (by omega)
  have e0 : (UInt64.ofNat (params.get 0) <<< 36).toNat = (params.get 0).val <<< 36 :=
    toNat_shiftLeft (toNat_ofNat_param _) rfl (by omega)
  have e1 : (UInt64.ofNat (params.get 1) <<< 24).toNat = (params.get 1).val <<< 24 :=
    toNat_shiftLeft (toNat_ofNat_param _) rfl (by omega)
  have e2 : (UInt64.ofNat (params.get 2) <<< 12).toNat = (params.get 2).val <<< 12 :=
    toNat_shiftLeft (toNat_ofNat_param _) rfl (by omega)
  -- in mixed radix, the fields do not overlap, so the sum is a union of bits
  apply UInt64.toNat_inj.mp
  calc (ofParams p params).raw.toNat
      = (((p.raw.toNat * 4096 + (params.get 0).val) * 4096 + (params.get 1).val) * 4096 +
          (params.get 2).val) * 4096 + (params.get 3).val := by
        rw [toNat_raw, property_ofParams]
        simp only [param_ofParams]
        rfl
    _ = p.raw.toNat <<< 48 ||| (params.get 0).val <<< 36 ||| (params.get 1).val <<< 24 |||
          (params.get 2).val <<< 12 ||| (params.get 3).val <<< 0 := by
        rw [shiftLeft_or_shiftLeft 36 h0, shiftLeft_or_shiftLeft 24 h1,
          shiftLeft_or_shiftLeft 12 h2, shiftLeft_or_shiftLeft 0 h3, Nat.shiftLeft_zero]
    _ = _ := by
        simp only [UInt64.toNat_or, high, e0, e1, e2, toNat_ofNat_param, Nat.shiftLeft_zero]

/-- The property is what stands above the parameters. -/
theorem property_eq_shiftRight (k : PropertyKey) :
    k.property.raw = (k.raw >>> 48).toUInt16 := by
  have hk : k.raw.toNat < 18446744073709551616 := k.raw.toNat_lt
  apply UInt16.toNat_inj.mp
  rw [toNat_property, units_eq.1, UInt64.toNat_toUInt16, UInt64.toNat_shiftRight]
  show _ = k.raw.toNat >>> 48 % 65536
  rw [Nat.shiftRight_eq_div_pow]
  omega

/-- A parameter is the 12 bits from its place on. -/
theorem param_eq_and (k : PropertyKey) (i : Fin 4) :
    UInt64.ofNat (k.param i) = k.raw >>> UInt64.ofNat (36 - 12 * i.val) &&& 4095 := by
  have place : (UInt64.ofNat (36 - 12 * i.val)).toNat % 64 = 36 - 12 * i.val := by
    rw [UInt64.toNat_ofNat']
    omega
  apply UInt64.toNat_inj.mp
  rw [toNat_ofNat_param, val_param, UInt64.toNat_and, UInt64.toNat_shiftRight, place,
    Nat.shiftRight_eq_div_pow]
  exact (Nat.and_two_pow_sub_one_eq_mod _ 12).symm

/-! ### Order -/

/-- Comparison of keys by their fields: first by the property, then by the
parameters, which are compared lexicographically. -/
def compareFields : PropertyKey → PropertyKey → Ordering :=
  compareLex (compareOn property) (compareOn params)

theorem compareFields_eq (a b : PropertyKey) :
    compareFields a b = (compare a.property b.property).then
      ((compare (a.param 0) (b.param 0)).then ((compare (a.param 1) (b.param 1)).then
        ((compare (a.param 2) (b.param 2)).then (compare (a.param 3) (b.param 3))))) := by
  have list (k : PropertyKey) :
      k.params.toList = [k.param 0, k.param 1, k.param 2, k.param 3] := rfl
  show (compare a.property b.property).then (compare a.params b.params) = _
  rw [Vector.compare_eq_compare_toList, list a, list b]
  simp only [List.compare_cons_cons, List.compare_nil_nil, Ordering.then_eq]

/-- The order of the words is the lexicographic order of the fields. -/
theorem compare_eq_compareFields (a b : PropertyKey) : compare a b = compareFields a b := by
  have below (k : PropertyKey) (i : Fin 4) : (k.param i).val < 4096 := (k.param i).isLt
  -- the word is a number in mixed radix, whose digits are compared in turn
  calc compare a b
      = compare a.raw.toNat b.raw.toNat := compare_word a.raw b.raw
    _ = ((((compare a.property.raw.toNat b.property.raw.toNat).then
          (compare (a.param 0).val (b.param 0).val)).then
          (compare (a.param 1).val (b.param 1).val)).then
          (compare (a.param 2).val (b.param 2).val)).then
          (compare (a.param 3).val (b.param 3).val) := by
        rw [toNat_raw a, toNat_raw b]
        iterate 4 rw [compare_mul_add (below a _) (below b _)]
    _ = compareFields a b := by
        rw [← compare_property, compareFields_eq]
        simp only [Ordering.then_assoc]
        rfl

/-- The entries of a collection come in the order of their fields. -/
theorem entries_ordered (s : Store) (h : Handle) :
    (s.entries h).Pairwise fun a b => compareFields a.1 b.1 = .lt := by
  refine (Std.ExtTreeMap.ordered_keys_toList (t := (s.cell h).entries)).imp fun {a b} less => ?_
  rw [← compare_eq_compareFields]
  exact less

/-- **A key is its five fields.** They lie side by side in the word and are read
off it by a shift and a mask; keys and fields determine each other; the order
of the words is the lexicographic order of the fields, and so the entries of a
collection come in that order, each of them once. -/
theorem key_is_its_fields :
    (∀ p params, (ofParams p params).raw =
      p.raw.toUInt64 <<< 48 ||| UInt64.ofNat (params.get 0) <<< 36 |||
        UInt64.ofNat (params.get 1) <<< 24 ||| UInt64.ofNat (params.get 2) <<< 12 |||
        UInt64.ofNat (params.get 3)) ∧
    (∀ k : PropertyKey, k.property.raw = (k.raw >>> 48).toUInt16 ∧
      ∀ i : Fin 4, k.params[i] = k.param i ∧
        UInt64.ofNat (k.param i) = k.raw >>> UInt64.ofNat (36 - 12 * i.val) &&& 4095) ∧
    (∀ p params, (ofParams p params).property = p ∧ (ofParams p params).params = params) ∧
    (∀ k : PropertyKey, ofParams k.property k.params = k) ∧
    (∀ a b : PropertyKey, compare a b = compareFields a b ∧
      compareFields a b = (compare a.property b.property).then
        ((compare (a.param 0) (b.param 0)).then ((compare (a.param 1) (b.param 1)).then
          ((compare (a.param 2) (b.param 2)).then (compare (a.param 3) (b.param 3)))))) ∧
    ∀ (s : Store) (h : Handle),
      ((s.entries h).Pairwise fun a b => compareFields a.1 b.1 = .lt) ∧
      ∀ k d, (k, d) ∈ s.entries h ↔ s.getLocal? h k = some d :=
  ⟨raw_ofParams_eq_or,
    fun k => ⟨property_eq_shiftRight k, fun i => ⟨getElem_params k i, param_eq_and k i⟩⟩,
    fun p params => ⟨property_ofParams p params, params_ofParams p params⟩,
    ofParams_fields,
    fun a b => ⟨compare_eq_compareFields a b, compareFields_eq a b⟩,
    fun s h => ⟨entries_ordered s h, fun _ _ => Std.ExtTreeMap.mem_toList_iff_getElem?_eq_some⟩⟩

end PropertyKey

end Rulebook
