/-
Rulebook/Proofs/RegistryHistory.lean

Histories of registries.  A registry comes about by updates, each of which
may be refused; a refused update leaves the registry as it was
(`Registry.step`).  Whatever the updates are, a schema is found under its own
property, has a default of its declared type (`Registry.Sound`), and stays
registered, with more in the domains of its parameters at most
(`Registry.lookup_after`).
-/
import Rulebook.Property.Registry
import Std.Data.TreeMap.Lemmas

namespace Rulebook

namespace Registry

/-! ### Updates -/

/-- An update of a registry. -/
inductive Update where
  | register (schema : Schema)
  | extendDomain (property : Property) (i : Nat) (ids : List PrototypeId)

/-- What an update makes of a registry, unless it is refused. -/
def update (r : Registry) : Update → Except PropertyFault Registry
  | .register schema => r.register schema
  | .extendDomain p i ids => r.extendDomain p i ids

/-- The registry after an update was tried. -/
def step (r : Registry) (u : Update) : Registry := (r.update u).toOption.getD r

/-- The registry after updates were tried one after another. -/
def after (r : Registry) (us : List Update) : Registry := us.foldl step r

/-- What every update keeps unless it is refused is kept by a history. -/
theorem after_induction {P : Registry → Prop} {r : Registry} (hr : P r)
    (h : ∀ r u r', P r → r.update u = .ok r' → P r') (us : List Update) : P (r.after us) := by
  induction us generalizing r with
  | nil => exact hr
  | cons u us ih =>
    refine ih (r := r.step u) ?_
    unfold step
    -- a refused update is passed over, so the registry is as it was
    rcases e : r.update u with fault | r'
    · exact hr
    · exact h r u r' hr e

theorem builtins_eq_after :
    builtins = ({} : Registry).after (builtinSchemas.map .register) := rfl

/-! ### Schemas after an update -/

/-- A map is searched by comparison, but keys that compare equal are equal. -/
theorem ite_compare {α β : Type} [Ord α] [Std.LawfulEqOrd α] [DecidableEq α]
    (k k' : α) (x y : β) :
    (if compare k k' = .eq then x else y) = if k' = k then x else y := by
  by_cases h : k' = k
  · rw [if_pos h, if_pos (Std.LawfulEqOrd.compare_eq_iff_eq.mpr h.symm)]
  · rw [if_neg h, if_neg fun e => h (Std.LawfulEqOrd.eq_of_compare e).symm]

theorem lookup_insert (r : Registry) (p q : Property) (schema : Schema)
    (byPrototype : Std.TreeMap PrototypeId Property) :
    (⟨r.schemas.insert p schema, byPrototype⟩ : Registry).lookup q =
      if q = p then some schema else r.lookup q := by
  unfold lookup
  rw [Std.TreeMap.getElem?_insert, ite_compare]

/-- What it takes to register a schema, and what is found afterwards. -/
theorem register_eq_ok {r r' : Registry} {schema : Schema} (h : r.register schema = .ok r') :
    schema.property.isValid = true ∧ r.lookup schema.property = none ∧ schema.params.length ≤ 4 ∧
      schema.default.dataType = schema.dataType ∧
      ∀ p, r'.lookup p = if p = schema.property then some schema else r.lookup p := by
  unfold register at h
  -- the three refusals in the order of the checks, then the entry
  split at h
  next => cases h
  next fresh =>
    split at h
    next => cases h
    next few =>
      split at h
      next => cases h
      next typed =>
        cases h
        simp only [Bool.or_eq_true, Bool.not_eq_true', not_or, Bool.not_eq_false,
          Bool.not_eq_true] at fresh
        refine ⟨fresh.1, ?_, Nat.le_of_not_lt few, Decidable.not_not.mp typed, fun p => ?_⟩
        · unfold lookup
          rw [Std.TreeMap.getElem?_eq_none_of_contains_eq_false fresh.2]
        · exact lookup_insert ..

/-- To extend a domain changes one schema, and of that the domains only. -/
theorem extendDomain_eq_ok {r r' : Registry} {q : Property} {i : Nat} {ids : List PrototypeId}
    (h : r.extendDomain q i ids = .ok r') :
    ∃ schema, r.lookup q = some schema ∧
      ∀ p, r'.lookup p = if p = q then some (schema.extendParam i ids) else r.lookup p := by
  unfold extendDomain at h
  split at h
  next => cases h
  next schema found =>
    split at h
    next => cases h
    next =>
      cases h
      exact ⟨schema, found, fun p => lookup_insert ..⟩

/-! ### Sound registries -/

/-- Whether a schema may be registered, and for the property `p`. -/
structure Admits (p : Property) (schema : Schema) : Prop where
  property : schema.property = p
  valid : p.isValid = true
  few : schema.params.length ≤ 4
  typed : schema.default.dataType = schema.dataType

theorem Admits.extendParam {p : Property} {schema : Schema} (h : Admits p schema) (i : Nat)
    (ids : List PrototypeId) : Admits p (schema.extendParam i ids) where
  property := h.property
  valid := h.valid
  few := by
    rw [Schema.extendParam, List.length_modify]
    exact h.few
  typed := h.typed

/-- Whether every schema is found where it may be registered. -/
def Sound (r : Registry) : Prop := ∀ p schema, r.lookup p = some schema → Admits p schema

theorem sound_empty : ({} : Registry).Sound := by
  rintro p schema ⟨⟩

theorem Sound.update {r r' : Registry} {u : Update} (hr : r.Sound) (h : r.update u = .ok r') :
    r'.Sound := by
  intro p schema found
  cases u with
  | register new =>
    obtain ⟨valid, -, few, typed, lookup⟩ := register_eq_ok h
    rw [lookup p] at found
    split at found
    -- the property is the one that has just been registered
    next same =>
      cases found
      exact ⟨same.symm, same ▸ valid, few, typed⟩
    next => exact hr p schema found
  | extendDomain q i ids =>
    obtain ⟨old, known, lookup⟩ := extendDomain_eq_ok h
    rw [lookup p] at found
    split at found
    -- the property had a schema, which keeps all but its domains
    next same =>
      cases found
      exact same ▸ (hr q old known).extendParam i ids
    next => exact hr p schema found

/-- A history keeps a registry sound. -/
theorem Sound.after {r : Registry} (hr : r.Sound) (us : List Update) : (r.after us).Sound :=
  after_induction hr (fun _ _ _ h e => h.update e) us

theorem sound_builtins : builtins.Sound := by
  rw [builtins_eq_after]
  exact sound_empty.after _

/-- A registered schema stays registered, and keeps what every extension of a
domain keeps. -/
theorem lookup_induction {P : Schema → Prop} {r : Registry} {p : Property} {schema : Schema}
    (h : r.lookup p = some schema) (hP : P schema)
    (extend : ∀ s i ids, P s → P (s.extendParam i ids)) (us : List Update) :
    ∃ s, (r.after us).lookup p = some s ∧ P s := by
  refine after_induction (P := fun r => ∃ s, r.lookup p = some s ∧ P s) ⟨schema, h, hP⟩ ?_ us
  rintro r (new | ⟨q, i, ids⟩) r' ⟨s, found, hs⟩ e
  · obtain ⟨-, fresh, -, -, lookup⟩ := register_eq_ok e
    -- a property that is declared is not registered again
    have other : p ≠ new.property := by
      rintro rfl
      rw [fresh] at found
      cases found
    exact ⟨s, by rw [lookup p, if_neg other, found], hs⟩
  · obtain ⟨old, known, lookup⟩ := extendDomain_eq_ok e
    -- only an extension of its own domain changes the schema
    by_cases same : p = q
    · subst same
      rw [found] at known
      cases known
      exact ⟨s.extendParam i ids, by rw [lookup p, if_pos rfl], extend s i ids hs⟩
    · exact ⟨s, by rw [lookup p, if_neg same, found], hs⟩

/-- A registered schema stays registered, but for the domains of its parameters. -/
theorem lookup_after {r : Registry} {p : Property} {schema : Schema}
    (h : r.lookup p = some schema) (us : List Update) :
    ∃ params, (r.after us).lookup p = some { schema with params } := by
  obtain ⟨s, found, params, rfl⟩ := lookup_induction
    (P := fun s => ∃ params, s = { schema with params }) h ⟨schema.params, rfl⟩
    (by rintro _ i ids ⟨params, rfl⟩; exact ⟨_, rfl⟩) us
  exact ⟨params, found⟩

/-- The loop element stays registered for prototypes. -/
theorem lookup_loopElement (us : List Update) :
    ∃ schema, (builtins.after us).lookup .loopElement = some schema ∧
      schema.dataType = .prototype := by
  have built : builtins.lookup .loopElement = some builtinSchemas[0] := rfl
  obtain ⟨params, found⟩ := lookup_after built us
  exact ⟨_, found, rfl⟩

end Registry

end Rulebook
