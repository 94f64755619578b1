/-
Rulebook/Proofs/PropertyNames.lean

Names of properties.  A schema is registered under the number of its property
and, if it has one, under a property prototype.  Only the number is looked for
before, so only the number is kept: whatever updates follow, the schema is found
under it, with larger domains at most (`Registry.lookup_remains`).  The property
prototype names the property of the last schema that was registered with it
(`Registry.ofPrototype?_after`).

A rule that goes by a property prototype reads and records under the property
that is named at that time.  So for such rules the property of a schema has been
replaced as soon as another schema with its property prototype is registered
(`Registry.names_after_registration`).
-/
import Rulebook.Proofs.Assignment
import Rulebook.Proofs.ReferenceParams
import Rulebook.Proofs.RegistryConsistency

namespace Rulebook

/-! ### Schemas and their names -/

namespace Schema

/-- Whether `t` is `s`, with larger domains at most. -/
structure Remains (s t : Schema) : Prop where
  same : t = { s with params := t.params }
  grows : s.Grows t

theorem Remains.refl (s : Schema) : s.Remains s := ⟨rfl, .refl s⟩

theorem Remains.extendParam {s t : Schema} (h : s.Remains t) (i : Nat) (ids : List PrototypeId) :
    s.Remains (t.extendParam i ids) where
  same := by
    rw [Schema.extendParam, h.same]
  grows := h.grows.trans (t.grows_extendParam i ids)

theorem Remains.property {s t : Schema} (h : s.Remains t) : t.property = s.property := by
  rw [h.same]

theorem Remains.default {s t : Schema} (h : s.Remains t) : t.default = s.default := by
  rw [h.same]

/-- Whether a property prototype, if valid, is that of a schema. -/
def isNamed (s : Schema) (id : PrototypeId) : Bool := s.prototype.isValid && s.prototype = id

theorem isNamed_iff {s : Schema} {id : PrototypeId} (valid : id.isValid = true) :
    s.isNamed id = true ↔ s.prototype = id := by
  simp only [isNamed, Bool.and_eq_true, decide_eq_true_eq, and_iff_right_iff_imp]
  rintro rfl
  exact valid

end Schema

namespace Registry

/-- The schema that an update registers, if it is a registration and not refused. -/
def accepted? (r : Registry) : Update → Option Schema
  | .register s => if ((Update.register s).refusal? r).isNone then some s else none
  | .extendDomain .. => none

/-- The schemas that updates register, in order. -/
def registered (r : Registry) : List Update → List Schema
  | [] => []
  | u :: us => (r.accepted? u).toList ++ (r.step u).registered us

/-- The schema whose property the property prototype of `s` names after updates that
follow the registration of `s`: the last one that has it. -/
def owner (r : Registry) (s : Schema) (us : List Update) : Schema :=
  ((r.registered us).reverse.find? (·.isNamed s.prototype)).getD s

/-! ### One update -/

/-- An update that is tried registers a schema that was not there, or registers none
and leaves the names alone. -/
theorem step_spec (r : Registry) (u : Update) :
    (∃ s, r.accepted? u = some s ∧ r.lookup s.property = none ∧
      (r.step u).lookup s.property = some s ∧
      ∀ id, (r.step u).ofPrototype? id =
        if s.isNamed id then some s.property else r.ofPrototype? id) ∨
    r.accepted? u = none ∧ ∀ id, (r.step u).ofPrototype? id = r.ofPrototype? id := by
  rcases update_spec r u with ⟨fault, refused, update⟩ | ⟨r', accepted, update, makes⟩
  · have same : r.step u = r := by
      rw [step, update]
      rfl
    refine .inr ⟨?_, fun id => by rw [same]⟩
    cases u with
    | register s => simp only [accepted?, refused, Option.isNone_some, Bool.false_eq_true, if_false]
    | extendDomain p i ids => rfl
  · -- an accepted registration enters the name, an extension leaves names alone
    have made : r.step u = r' := by
      rw [step, update]
      rfl
    rw [made]
    cases u with
    | register s =>
      refine .inl ⟨s, ?_, fresh_of_accepted accepted, ?_, fun id => ?_⟩
      · simp only [accepted?, accepted, Option.isNone_none, if_true]
      · rw [makes.lookup]
        exact if_pos rfl
      · rw [makes.ofPrototype?]
        simp only [Update.ofPrototype?, Schema.isNamed, Bool.and_eq_true, decide_eq_true_eq,
          @eq_comm _ id]
    | extendDomain p i ids => exact .inr ⟨rfl, makes.ofPrototype?⟩

/-! ### Histories -/

/-- A registered schema is found under its property ever after. -/
theorem lookup_remains {r : Registry} {p : Property} {s : Schema} (h : r.lookup p = some s)
    (us : List Update) : ∃ t, (r.after us).lookup p = some t ∧ s.Remains t :=
  lookup_induction h (.refl s) (fun _ i ids remains => remains.extendParam i ids) us

/-- A schema that updates register was not there before. -/
theorem fresh_of_registered {s : Schema} {us : List Update} {r : Registry}
    (h : s ∈ r.registered us) : r.lookup s.property = none := by
  induction us generalizing r with
  | nil => cases h
  | cons u us ih =>
    -- registered by this update, or by a later one that finds it unknown
    rcases List.mem_append.mp h with now | later
    · rcases step_spec r u with ⟨s', accepted, fresh, -⟩ | ⟨accepted, -⟩
      · rw [accepted] at now
        rw [List.mem_singleton.mp now]
        exact fresh
      · rw [accepted] at now
        cases now
    · rcases found : r.lookup s.property with - | t
      · rfl
      · obtain ⟨t', found', -⟩ := lookup_remains found [u]
        cases (ih later).symm.trans found'

/-- A schema that updates register is found under its property afterwards. -/
theorem lookup_of_registered {s : Schema} {us : List Update} {r : Registry}
    (h : s ∈ r.registered us) :
    ∃ t, (r.after us).lookup s.property = some t ∧ s.Remains t := by
  induction us generalizing r with
  | nil => cases h
  | cons u us ih =>
    rcases List.mem_append.mp h with now | later
    · rcases step_spec r u with ⟨s', accepted, -, found, -⟩ | ⟨accepted, -⟩
      · rw [accepted] at now
        rw [List.mem_singleton.mp now]
        exact lookup_remains found us
      · rw [accepted] at now
        cases now
    · exact ih later

/-- **A property prototype names what was registered with it last.** -/
theorem ofPrototype?_after (r : Registry) (us : List Update) (id : PrototypeId) :
    (r.after us).ofPrototype? id =
      (((r.registered us).reverse.find? (·.isNamed id)).map (·.property)).or
        (r.ofPrototype? id) := by
  induction us generalizing r with
  | nil => rfl
  | cons u us ih =>
    refine (ih (r.step u)).trans ?_
    rw [registered, List.reverse_append, List.find?_append, Option.map_or, Option.or_assoc]
    -- the later registrations come first, then this one, then the start
    congr 1
    rcases step_spec r u with ⟨s, accepted, -, -, names⟩ | ⟨accepted, names⟩
    · rw [names, accepted]
      by_cases own : s.isNamed id = true
      · simp [own]
      · simp [own]
    · rw [names, accepted]
      rfl

/-! ### The schema that has a name -/

theorem ofPrototype?_of_register {r r' : Registry} {s : Schema} (accepted : r.register s = .ok r')
    (valid : s.prototype.isValid = true) : r'.ofPrototype? s.prototype = some s.property := by
  have update : r.update (.register s) = .ok r' := accepted
  rcases update_spec r (.register s) with ⟨fault, -, refused⟩ | ⟨r'', -, made, makes⟩
  · cases refused.symm.trans update
  · cases made.symm.trans update
    rw [makes.ofPrototype?]
    exact if_pos ⟨valid, rfl⟩

/-- The property prototype of a schema stays with it, or has gone to a later one. -/
theorem owner_cases (r : Registry) (s : Schema) (us : List Update) :
    (r.owner s us = s ∧ ∀ s' ∈ r.registered us, ¬ s'.isNamed s.prototype = true) ∨
      r.owner s us ∈ r.registered us ∧ (r.owner s us).isNamed s.prototype = true := by
  unfold owner
  -- the last one that bears the name, if any does
  generalize last : (r.registered us).reverse.find? (·.isNamed s.prototype) = found
  rcases found with - | s'
  · refine .inl ⟨rfl, fun s' h => ?_⟩
    exact List.find?_eq_none.mp last s' (List.mem_reverse.mpr h)
  · refine .inr ⟨List.mem_reverse.mp (List.mem_of_find?_eq_some last), ?_⟩
    exact List.find?_some (p := fun s' : Schema => s'.isNamed s.prototype) last

theorem ofPrototype?_owner {r : Registry} {s : Schema}
    (named : r.ofPrototype? s.prototype = some s.property) (us : List Update) :
    (r.after us).ofPrototype? s.prototype = some (r.owner s us).property := by
  rw [ofPrototype?_after, named, owner]
  generalize (r.registered us).reverse.find? (·.isNamed s.prototype) = found
  cases found <;> rfl

theorem lookup_owner {r : Registry} {s : Schema} (found : r.lookup s.property = some s)
    (us : List Update) :
    ∃ t, (r.after us).lookup (r.owner s us).property = some t ∧ (r.owner s us).Remains t := by
  rcases r.owner_cases s us with ⟨own, -⟩ | ⟨later, -⟩
  · rw [own]
    exact lookup_remains found us
  · exact lookup_of_registered later

end Registry

/-! ### Rules that go by a property prototype -/

section

open Eval

variable {n : Nat} {env : Env} {c : Context} {id : PrototypeId} {p q r z : Option Expr}
variable {schema : Schema} {s t : State}

theorem property_of_keyWith {p q r z : Eval Param} {k : PropertyKey}
    (run : exec (keyWith schema p q r z) s = (.ok k, t)) : k.property = schema.property := by
  -- four parameters, whatever they evaluate to
  obtain ⟨p0, _, -, run⟩ := exec_bind_eq_ok run
  obtain ⟨p1, _, -, run⟩ := exec_bind_eq_ok run
  obtain ⟨p2, _, -, run⟩ := exec_bind_eq_ok run
  obtain ⟨p3, _, -, run⟩ := exec_bind_eq_ok run
  cases run
  exact PropertyKey.property_ofParams ..

/-- What a load has done that goes by a property prototype and succeeded. -/
theorem loadBy_eq_ok {v : Value}
    (run : exec (eval n env (.loadBy c id p q r z)) s = (.ok v, t)) :
    ∃ h schema k, env.behind s c .read = .ok h ∧ env.data.schemaBy id = .ok schema ∧
      exec ((Address.params id p q r z).keyIn n (env.holding (· == h)) schema) s = (.ok k, t) ∧
      v = .ofDatum ((t.store.get? ((env.holding (· == h)).live t) h k).getD schema.default) := by
  unfold eval evalWith at run
  have run := exec_locating_eq_ok run
  dsimp only at run
  split at run
  next => cases run
  next =>
    obtain ⟨h, _, target, run⟩ := exec_bind_eq_ok run
    obtain ⟨schema, _, found, run⟩ := exec_bind_eq_ok run
    obtain ⟨k, u, key, read⟩ := exec_bind_eq_ok run
    obtain ⟨behind, rfl⟩ := exec_collection_eq_ok target
    obtain ⟨named, rfl⟩ := exec_ofExcept_eq_ok found
    cases read
    exact ⟨h, schema, k, behind, named, key, rfl⟩

end

namespace Registry

/-- **A registered schema keeps its property, but its property prototype goes to the
last schema with it.** After a schema was registered, whatever updates follow, it
is found under its property, with larger domains at most. Its property prototype
names the property of the last schema that was registered with it, which is the
property of the schema itself only as long as no later one has that property
prototype. Rules that go by the property prototype, to assign or to load, use keys
of the property that is named, and its default. -/
theorem names_after_registration {r r' : Registry} {s : Schema} (accepted : r.register s = .ok r')
    (valid : s.prototype.isValid = true) (us : List Update) :
    let later := r'.after us
    let owner := r'.owner s us
    (∃ t, later.lookup s.property = some t ∧ s.Remains t) ∧
    later.ofPrototype? s.prototype = some owner.property ∧
    (∃ t, later.lookup owner.property = some t ∧ owner.Remains t) ∧
    (owner.property = s.property ↔ ∀ s' ∈ r'.registered us, s'.prototype ≠ s.prototype) ∧
    ∀ n env, env.data.schemas = later → ∀ c p q x y st,
      (∀ value w st',
        Eval.exec (eval n env (.assignBy c s.prototype p q x y value)) st = (.ok w, st') →
        let steps := Assignment.steps ⟨c, .params s.prototype p q x y, value⟩ n env st
        ∃ h k d, k.property = owner.property ∧ st' = (Eval.after steps st).record h k d) ∧
      ∀ v st', Eval.exec (eval n env (.loadBy c s.prototype p q x y)) st = (.ok v, st') →
        ∃ h k, k.property = owner.property ∧ v = .ofDatum
          ((st'.store.get? ((env.holding (· == h)).live st') h k).getD owner.default) := by
  intro later owner
  have found : r'.lookup s.property = some s := by
    rw [(register_eq_ok accepted).2.2.2.2 s.property, if_pos rfl]
  have name := ofPrototype?_owner (ofPrototype?_of_register accepted valid) us
  obtain ⟨t, owned, remains⟩ := lookup_owner found us
  have kept := lookup_remains found us
  refine ⟨kept, name, ⟨t, owned, remains⟩, ⟨fun same s' h own => ?_, ?_⟩, ?_⟩
  · rcases r'.owner_cases s us with ⟨-, none⟩ | ⟨later, -⟩
    · exact none s' h ((Schema.isNamed_iff valid).mpr own)
    · -- what is registered later has another property
      have fresh := fresh_of_registered later
      rw [show (r'.owner s us).property = s.property from same, found] at fresh
      cases fresh
  · intro none
    rcases r'.owner_cases s us with ⟨own, -⟩ | ⟨later, named⟩
    · exact congrArg Schema.property own
    · exact absurd ((Schema.isNamed_iff valid).mp named) (none _ later)
  · intro n env schemas c p q x y st
    -- a rule is given the schema of the property that is named
    have schemaBy : env.data.schemaBy s.prototype = .ok t := by
      rw [StaticData.schemaBy, schemas, name]
      simp only [StaticData.schemaOf, schemas]
      rw [owned]
    refine ⟨fun value w st' run => ?_, fun v st' run => ?_⟩
    · obtain ⟨-, _, _, _, h, k, d, _, -, -, -, commits, -, recorded⟩ :=
        Assignment.eval_eq_ok rfl run
      cases schemaBy.symm.trans commits.declared
      have key := property_of_keyWith commits.exec_key
      exact ⟨h, k, d, key.trans remains.property, recorded⟩
    · obtain ⟨h, schema, k, -, by_name, key, value⟩ := loadBy_eq_ok run
      cases schemaBy.symm.trans by_name
      have key := property_of_keyWith key
      exact ⟨h, k, key.trans remains.property, by rw [value, remains.default]⟩

/-- A schema with the property prototype of another one takes it over. -/
theorem rank_renamed :
    let r := builtins.enter (rank ⟨100⟩)
    let later := r.after [.register (rank ⟨101⟩)]
    builtins.register (rank ⟨100⟩) = .ok r ∧
      (∃ t, later.lookup ⟨100⟩ = some t ∧ (rank ⟨100⟩).Remains t) ∧
      later.ofPrototype? ⟨90⟩ = some ⟨101⟩ := by
  intro r later
  have accepted : builtins.register (rank ⟨100⟩) = .ok r := rfl
  obtain ⟨kept, name, -⟩ :=
    names_after_registration accepted (by decide) [.register (rank ⟨101⟩)]
  exact ⟨accepted, kept, name⟩

end Registry

end Rulebook
