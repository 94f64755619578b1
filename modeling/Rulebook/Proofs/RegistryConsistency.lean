/-
Rulebook/Proofs/RegistryConsistency.lean

Registries that are updated in place.  A registry consists of two maps, and a
host that keeps one registry changes them one after the other: the property
prototype of a schema is entered before the schema is, and a domain is extended
by one prototype after another (`Update.inPlace`).  What is left behind must
then not depend on where such an update stops.

Design.  A registry is asked for the schema of a property, for the property of
a property prototype, and for its size.  What an update does is said once, in
terms of these answers: why it is refused (`Update.refusal?`), and what is
answered after it was not (`Update.Makes`).  The update as a whole and the
update in place both meet that description (`update_spec`, `perform_spec`), so
the same faults are found in both, registries that answer alike go on answering
alike (`Same.performed`), and what is known of the answers of one holds of the
other.  Answers are compared and not the maps themselves, since maps that were
written in different steps need not be the same trees.
-/
import Rulebook.Eval.Property
import Rulebook.Proofs.RegistryHistory

namespace Rulebook

namespace Schema

theorem extendParam_nil (s : Schema) (i : Nat) : s.extendParam i [] = s := by
  show { s with params := s.params.modify i id } = s
  rw [List.modify_id]

/-- To extend a domain is to extend it by one prototype after another. -/
theorem extendParam_cons (s : Schema) (i : Nat) (id : PrototypeId) (ids : List PrototypeId) :
    (s.extendParam i [id]).extendParam i ids = s.extendParam i (id :: ids) := by
  unfold extendParam
  rw [List.modify_modify_eq]
  rfl

end Schema

namespace Registry

/-! ### What a registry answers -/

theorem ofPrototype?_insert (r : Registry) (id id' : PrototypeId) (p : Property)
    (schemas : Std.TreeMap Property Schema) :
    (⟨schemas, r.byPrototype.insert id p⟩ : Registry).ofPrototype? id' =
      if id' = id then some p else r.ofPrototype? id' := by
  unfold ofPrototype?
  rw [Std.TreeMap.getElem?_insert, ite_compare]

theorem size_insert (r : Registry) (p : Property) (s : Schema)
    (byPrototype : Std.TreeMap PrototypeId Property) :
    (⟨r.schemas.insert p s, byPrototype⟩ : Registry).size =
      if (r.lookup p).isSome then r.size else r.size + 1 := by
  unfold size lookup
  rw [Std.TreeMap.size_insert, Std.TreeMap.contains_eq_isSome_getElem?]

theorem contains_eq (r : Registry) (p : Property) :
    r.schemas.contains p = (r.lookup p).isSome :=
  Std.TreeMap.contains_eq_isSome_getElem?

theorem lookup_modify (r : Registry) (p q : Property) (f : Schema → Schema) :
    ({ r with schemas := r.schemas.modify p f } : Registry).lookup q =
      if q = p then (r.lookup p).map f else r.lookup q := by
  unfold lookup
  rw [Std.TreeMap.getElem?_modify, ite_compare]

theorem size_modify (r : Registry) (p : Property) (f : Schema → Schema) :
    ({ r with schemas := r.schemas.modify p f } : Registry).size = r.size :=
  Std.TreeMap.size_modify

/-! ### What an update does -/

namespace Update

/-- Why an update is refused, if it is. -/
def refusal? (r : Registry) : Update → Option PropertyFault
  | .register s =>
    if !s.property.isValid || (r.lookup s.property).isSome then
      some (.duplicateProperty s.property)
    else if 4 < s.params.length then
      some (.tooManyParams s.property s.params.length)
    else if s.default.dataType ≠ s.dataType then
      some (.defaultTypeMismatch s.property s.dataType s.default.dataType)
    else none
  | .extendDomain p i _ =>
    match r.lookup p with
    | none => some (.unknownProperty p)
    | some s =>
      match s.paramOf? .prototype i with
      | none => some (.paramIndexOutOfRange p i s.params.length)
      | some _ => none

/-- The schema of a property after an update. -/
def lookup (u : Update) (r : Registry) (p : Property) : Option Schema :=
  match u with
  | .register s => if p = s.property then some s else r.lookup p
  | .extendDomain q i ids =>
    if p = q then (r.lookup q).map (·.extendParam i ids) else r.lookup p

/-- The property that a property prototype names after an update. -/
def ofPrototype? (u : Update) (r : Registry) (id : PrototypeId) : Option Property :=
  match u with
  | .register s =>
    if s.prototype.isValid ∧ id = s.prototype then some s.property else r.ofPrototype? id
  | .extendDomain .. => r.ofPrototype? id

/-- The number of schemas that an update adds. -/
def added : Update → Nat
  | .register _ => 1
  | .extendDomain .. => 0

/-- Whether `r'` answers as `r` does after an update. -/
structure Makes (u : Update) (r r' : Registry) : Prop where
  lookup : ∀ p, r'.lookup p = u.lookup r p
  ofPrototype? : ∀ id, r'.ofPrototype? id = u.ofPrototype? r id
  size : r'.size = r.size + u.added

end Update

/-- The registry with a schema under its property and, if valid, its property
prototype. -/
def enter (r : Registry) (s : Schema) : Registry where
  schemas := r.schemas.insert s.property s
  byPrototype :=
    if s.prototype.isValid then r.byPrototype.insert s.prototype s.property else r.byPrototype

theorem register_eq (r : Registry) (s : Schema) :
    r.register s =
      match (Update.register s).refusal? r with
      | some fault => .error fault
      | none => .ok (r.enter s) := by
  simp only [register, Update.refusal?, contains_eq, enter]
  split
  next => rfl
  next =>
    split
    next => rfl
    next => split <;> rfl

theorem fresh_of_accepted {r : Registry} {s : Schema}
    (accepted : (Update.register s).refusal? r = none) : r.lookup s.property = none := by
  simp only [Update.refusal?] at accepted
  split at accepted
  next => cases accepted
  next fresh =>
    simp only [Bool.or_eq_true, not_or, Option.not_isSome_iff_eq_none] at fresh
    exact fresh.2

theorem makes_enter {r : Registry} {s : Schema}
    (accepted : (Update.register s).refusal? r = none) :
    (Update.register s).Makes r (r.enter s) where
  lookup p := lookup_insert ..
  ofPrototype? id := by
    -- an invalid prototype is not entered as a name
    show _ = if s.prototype.isValid ∧ id = s.prototype then _ else _
    unfold enter
    by_cases valid : s.prototype.isValid = true
    · rw [if_pos valid, ofPrototype?_insert]
      simp only [valid, true_and]
    · rw [if_neg valid, if_neg fun h => valid h.1]
      rfl
  size := by
    rw [enter, size_insert, fresh_of_accepted accepted]
    rfl

theorem makes_extend {r : Registry} {p : Property} {i : Nat} {ids : List PrototypeId}
    {s : Schema} (known : r.lookup p = some s) :
    (Update.extendDomain p i ids).Makes r
      { r with schemas := r.schemas.insert p (s.extendParam i ids) } where
  lookup q := by
    rw [lookup_insert]
    show _ = if q = p then _ else _
    rw [known, Option.map_some]
  ofPrototype? id := rfl
  size := by
    rw [size_insert, known]
    rfl

/-- An update is refused for its fault, or else is made. -/
theorem update_spec (r : Registry) (u : Update) :
    (∃ fault, u.refusal? r = some fault ∧ r.update u = .error fault) ∨
      ∃ r', u.refusal? r = none ∧ r.update u = .ok r' ∧ u.Makes r r' := by
  cases u with
  | register s =>
    rw [update, register_eq]
    rcases accepted : (Update.register s).refusal? r with - | fault
    · exact .inr ⟨_, rfl, rfl, makes_enter accepted⟩
    · exact .inl ⟨fault, rfl, rfl⟩
  | extendDomain p i ids =>
    -- refused for an unknown property or a parameter without a domain
    simp only [update, extendDomain, Update.refusal?]
    rcases known : r.lookup p with - | s
    · exact .inl ⟨_, rfl, rfl⟩
    · dsimp only
      rcases s.paramOf? .prototype i with - | param
      · exact .inl ⟨_, rfl, rfl⟩
      · exact .inr ⟨_, rfl, rfl, makes_extend known⟩

/-! ### Updates in place -/

/-- A step of an update in place. -/
abbrev InPlace := ExceptT PropertyFault (StateM Registry)

namespace InPlace

/-- Go on unless there is a reason not to. -/
def refuseIf (c : Prop) [Decidable c] (fault : PropertyFault) : InPlace Unit :=
  if c then throw fault else pure ()

/-- Register a schema: its property prototype first, if it has one. -/
def register (s : Schema) : InPlace Unit := do
  let r ← get
  refuseIf (!s.property.isValid || r.schemas.contains s.property) (.duplicateProperty s.property)
  refuseIf (4 < s.params.length) (.tooManyParams s.property s.params.length)
  refuseIf (s.default.dataType ≠ s.dataType)
    (.defaultTypeMismatch s.property s.dataType s.default.dataType)
  if s.prototype.isValid then
    modify fun r => { r with byPrototype := r.byPrototype.insert s.prototype s.property }
  modify fun r => { r with schemas := r.schemas.insert s.property s }

/-- Enumerate one more prototype in the domain of a parameter. -/
def enumerate (p : Property) (i : Nat) (id : PrototypeId) : InPlace Unit :=
  modify fun r => { r with schemas := r.schemas.modify p (·.extendParam i [id]) }

/-- Extend a domain: by one prototype after another. -/
def extendDomain (p : Property) (i : Nat) (ids : List PrototypeId) : InPlace Unit := do
  match (← get).lookup p with
  | none => throw (.unknownProperty p)
  | some s =>
    refuseIf (s.paramOf? .prototype i).isNone (.paramIndexOutOfRange p i s.params.length)
    ids.forM (enumerate p i)

/-- How a step ends, and the registry that it leaves. -/
def exec {α : Type} (m : InPlace α) (r : Registry) : Except PropertyFault α × Registry := m.run r

theorem exec_refuseIf_bind {c : Prop} [Decidable c] {fault : PropertyFault}
    {f : Unit → InPlace Unit} (r : Registry) :
    exec (refuseIf c fault >>= f) r = if c then (.error fault, r) else exec (f ()) r := by
  unfold refuseIf
  split <;> rfl

theorem exec_get_bind {f : Registry → InPlace Unit} (r : Registry) :
    exec (get >>= f) r = exec (f r) r := rfl

theorem exec_register (s : Schema) (r : Registry) :
    exec (register s) r =
      match (Update.register s).refusal? r with
      | some fault => (.error fault, r)
      | none => (.ok (), r.enter s) := by
  simp only [register, exec_get_bind, exec_refuseIf_bind, contains_eq, Update.refusal?]
  split
  next => rfl
  next =>
    split
    next => rfl
    next =>
      split
      -- accepted: the entry of the name depends on the prototype
      next => rfl
      next =>
        by_cases valid : s.prototype.isValid = true
        · simp only [if_pos valid, enter]
          rfl
        · simp only [if_neg valid, enter]
          rfl

/-- One prototype after another makes the same as all at once. -/
theorem exec_enumerate (p : Property) (i : Nat) (ids : List PrototypeId) (r : Registry) :
    ∃ t, exec (ids.forM (enumerate p i)) r = (.ok (), t) ∧
      (Update.extendDomain p i ids).Makes r t := by
  -- each prototype leaves another registry, from which the rest is enumerated
  induction ids generalizing r with
  | nil =>
    refine ⟨r, rfl, fun q => ?_, fun _ => rfl, rfl⟩
    show _ = if q = p then (r.lookup p).map (·.extendParam i []) else _
    simp only [Schema.extendParam_nil, Option.map_id']
    split
    next same => rw [same]
    next => rfl
  | cons id ids ih =>
    obtain ⟨t, run, made⟩ := ih { r with schemas := r.schemas.modify p (·.extendParam i [id]) }
    refine ⟨t, run, fun q => ?_, made.ofPrototype?, ?_⟩
    · rw [made.lookup]
      simp only [Update.lookup, lookup_modify, if_pos, Option.map_map, Function.comp_def,
        Schema.extendParam_cons]
      split <;> rfl
    · rw [made.size, size_modify]
      rfl

theorem exec_extendDomain (p : Property) (i : Nat) (ids : List PrototypeId) (r : Registry) :
    (∃ fault, (Update.extendDomain p i ids).refusal? r = some fault ∧
      exec (extendDomain p i ids) r = (.error fault, r)) ∨
    ∃ t, (Update.extendDomain p i ids).refusal? r = none ∧
      exec (extendDomain p i ids) r = (.ok (), t) ∧ (Update.extendDomain p i ids).Makes r t := by
  simp only [extendDomain, exec_get_bind, Update.refusal?]
  rcases r.lookup p with - | s
  · exact .inl ⟨_, rfl, rfl⟩
  · simp only [exec_refuseIf_bind]
    rcases s.paramOf? .prototype i with - | param
    · exact .inl ⟨_, rfl, rfl⟩
    · -- the loop adds one element after another
      obtain ⟨t, run, made⟩ := exec_enumerate p i ids r
      exact .inr ⟨t, rfl, run, made⟩

end InPlace

/-- An update in place. -/
def Update.inPlace : Update → InPlace Unit
  | .register s => .register s
  | .extendDomain p i ids => .extendDomain p i ids

/-- How an update in place ends, and the registry that it leaves. -/
def perform (r : Registry) (u : Update) : Except PropertyFault Unit × Registry := u.inPlace.exec r

/-- The registry after updates in place were tried one after another. -/
def performed (r : Registry) (us : List Update) : Registry :=
  us.foldl (fun r u => (r.perform u).2) r

/-- An update in place is refused for its fault, before it has changed anything,
or else is made. -/
theorem perform_spec (r : Registry) (u : Update) :
    (∃ fault, u.refusal? r = some fault ∧ r.perform u = (.error fault, r)) ∨
      ∃ t, u.refusal? r = none ∧ r.perform u = (.ok (), t) ∧ u.Makes r t := by
  cases u with
  | register s =>
    show (∃ fault, _ ∧ InPlace.exec (.register s) r = _) ∨
      ∃ t, _ ∧ InPlace.exec (.register s) r = _ ∧ _
    rw [InPlace.exec_register]
    rcases accepted : (Update.register s).refusal? r with - | fault
    · exact .inr ⟨_, rfl, rfl, makes_enter accepted⟩
    · exact .inl ⟨fault, rfl, rfl⟩
  | extendDomain p i ids => exact InPlace.exec_extendDomain p i ids r

/-! ### Registries that answer alike -/

/-- Whether two registries give the same answers. -/
structure Same (r t : Registry) : Prop where
  lookup : ∀ p, t.lookup p = r.lookup p
  ofPrototype? : ∀ id, t.ofPrototype? id = r.ofPrototype? id
  size : t.size = r.size

namespace Same

variable {r r' t t' : Registry} {u : Update}

theorem refl (r : Registry) : r.Same r := ⟨fun _ => rfl, fun _ => rfl, rfl⟩

theorem refusal? (h : r.Same t) (u : Update) : u.refusal? t = u.refusal? r := by
  cases u <;> simp only [Update.refusal?, h.lookup]

/-- What an update makes of registries that answer alike answers alike. -/
theorem makes (h : r.Same t) (hr : u.Makes r r') (ht : u.Makes t t') : r'.Same t' where
  lookup p := by
    rw [hr.lookup, ht.lookup]
    cases u <;> simp only [Update.lookup, h.lookup]
  ofPrototype? id := by
    rw [hr.ofPrototype?, ht.ofPrototype?]
    cases u <;> simp only [Update.ofPrototype?, h.ofPrototype?]
  size := by rw [hr.size, ht.size, h.size]

/-- On registries that answer alike, an update and an update in place are refused
for the same fault, the latter before it has changed anything, or make
registries that answer alike. -/
theorem perform (h : r.Same t) (u : Update) :
    (∃ fault, u.refusal? r = some fault ∧ r.update u = .error fault ∧
      t.perform u = (.error fault, t)) ∨
    ∃ r' t', u.refusal? r = none ∧ r.update u = .ok r' ∧ t.perform u = (.ok (), t') ∧
      u.Makes r r' ∧ r'.Same t' := by
  -- the two give the same verdict, so only one refused and one accepted pair is left
  rcases update_spec r u with ⟨fault, refused, update⟩ | ⟨r', accepted, update, made⟩
  · rcases perform_spec t u with ⟨fault', refused', perform⟩ | ⟨t', accepted', -, -⟩
    · rw [h.refusal?, refused, Option.some.injEq] at refused'
      exact .inl ⟨fault, refused, update, refused' ▸ perform⟩
    · rw [h.refusal?, refused] at accepted'
      cases accepted'
  · rcases perform_spec t u with ⟨fault', refused', -⟩ | ⟨t', -, perform, made'⟩
    · rw [h.refusal?, accepted] at refused'
      cases refused'
    · exact .inr ⟨r', t', accepted, update, perform, made, h.makes made made'⟩

/-- Registries that answer alike do so after the same updates, in place or not. -/
theorem performed (h : r.Same t) (us : List Update) : (r.after us).Same (t.performed us) := by
  induction us generalizing r t with
  | nil => exact h
  | cons u us ih =>
    refine ih (r := r.step u) (t := (t.perform u).2) ?_
    rcases h.perform u with ⟨fault, -, update, perform⟩ | ⟨r', t', -, update, perform, -, same⟩
    · rw [step, update, perform]
      exact h
    · rw [step, update, perform]
      exact same

end Same

/-! ### Property prototypes -/

/-- Whether every property that a property prototype names is registered, with
that property prototype. -/
def Named (r : Registry) : Prop :=
  ∀ id p, r.ofPrototype? id = some p → ∃ s, r.lookup p = some s ∧ s.prototype = id

theorem named_empty : ({} : Registry).Named := by
  rintro id p ⟨⟩

/-- A property prototype that an update names belongs to the schema it registers;
the others stay named, since no schema is replaced but by one with larger domains. -/
theorem Named.update {r r' : Registry} {u : Update} (hr : r.Named) (h : r.update u = .ok r') :
    r'.Named := by
  rcases update_spec r u with ⟨fault, -, refused⟩ | ⟨made, accepted, update, makes⟩
  · rw [refused] at h
    cases h
  rw [update] at h
  cases h
  intro id p name
  rw [makes.ofPrototype?] at name
  rw [makes.lookup]
  cases u with
  | register new =>
    simp only [Update.ofPrototype?] at name
    simp only [Update.lookup]
    split at name
    next own =>
      cases name
      exact ⟨new, if_pos rfl, own.2.symm⟩
    next =>
      obtain ⟨s, found, named⟩ := hr id p name
      -- what was named before is registered, so it is not what is registered now
      have other : p ≠ new.property := by
        rintro rfl
        rw [fresh_of_accepted accepted] at found
        cases found
      exact ⟨s, by rw [if_neg other, found], named⟩
  | extendDomain q i ids =>
    obtain ⟨s, found, named⟩ := hr id p name
    simp only [Update.lookup]
    split
    next same => exact ⟨s.extendParam i ids, by rw [← same, found, Option.map_some], named⟩
    next => exact ⟨s, found, named⟩

/-- A history keeps the names of a registry right. -/
theorem Named.after {r : Registry} (hr : r.Named) (us : List Update) : (r.after us).Named :=
  after_induction hr (fun _ _ _ h e => h.update e) us

theorem named_builtins : builtins.Named := by
  rw [builtins_eq_after]
  exact named_empty.after _

/-- A rule that goes by a property prototype gets the schema registered with it,
or none if nothing is. -/
theorem Named.schemaBy {data : StaticData} (sound : data.schemas.Sound)
    (named : data.schemas.Named) (id : PrototypeId) :
    (∃ s, data.schemaBy id = .ok s ∧ s.prototype = id ∧
      data.schemas.lookup s.property = some s) ∨
    data.schemas.ofPrototype? id = none ∧
      data.schemaBy id = .error (.unknownPropertyPrototype id) := by
  unfold StaticData.schemaBy
  rcases name : data.schemas.ofPrototype? id with - | p
  · exact .inr ⟨rfl, rfl⟩
  · -- a name that is entered leads to a schema that bears it
    obtain ⟨s, found, own⟩ := named id p name
    have property : s.property = p := (sound p s found).property
    refine .inl ⟨s, ?_, own, property ▸ found⟩
    simp only [StaticData.schemaOf, found]

/-! ### Consistency -/

/-- **Registries are consistent, and refusals leave no trace.** Whatever updates
were tried on an empty registry or on that of rule evaluation: a schema is found
under its own, valid property, declares at most four parameters and has a
default of its declared type; a property prototype names a registered schema
with that property prototype, so a rule that goes by it gets that schema or is
told that nothing is named, and is never led to a property that is not
registered. The same updates in place come to a registry that answers alike. A
further update is refused if there is a fault, for that fault and, in place,
without any change; else it is made, and again both answer alike. -/
theorem history_consistent {start : Registry} (hstart : start = {} ∨ start = builtins)
    (us : List Update) :
    let r := start.after us
    let t := start.performed us
    (∀ p s, r.lookup p = some s → s.property = p ∧ p.isValid = true ∧ s.params.length ≤ 4 ∧
      s.default.dataType = s.dataType) ∧
    (∀ id p, r.ofPrototype? id = some p → ∃ s, r.lookup p = some s ∧ s.prototype = id) ∧
    (∀ data : StaticData, data.schemas = r → ∀ id,
      (∃ s, data.schemaBy id = .ok s ∧ s.prototype = id ∧ r.lookup s.property = some s) ∨
      r.ofPrototype? id = none ∧ data.schemaBy id = .error (.unknownPropertyPrototype id)) ∧
    r.Same t ∧
    ∀ u : Update,
      (∃ fault, u.refusal? r = some fault ∧ r.update u = .error fault ∧
        t.perform u = (.error fault, t)) ∨
      ∃ r' t', u.refusal? r = none ∧ r.update u = .ok r' ∧ t.perform u = (.ok (), t') ∧
        u.Makes r r' ∧ r'.Same t' := by
  intro r t
  obtain ⟨sound, named⟩ : start.Sound ∧ start.Named := by
    rcases hstart with rfl | rfl
    · exact ⟨sound_empty, named_empty⟩
    · exact ⟨sound_builtins, named_builtins⟩
  -- the invariants hold at the start, so they hold after the updates
  have sound : r.Sound := sound.after us
  have named : r.Named := named.after us
  have same : r.Same t := (Same.refl start).performed us
  refine ⟨fun p s found => ?_, named, ?_, same, same.perform⟩
  · have admits := sound p s found
    exact ⟨admits.property, admits.valid, admits.few, admits.typed⟩
  · intro data schemas id
    -- a data set that has this registry as its schemas
    have lookup := Named.schemaBy (schemas ▸ sound) (schemas ▸ named) id
    rw [schemas] at lookup
    exact lookup

/-- A schema with a property prototype that another one may have, too. -/
def rank (p : Property) : Schema :=
  { property := p, name := "Rank", dataType := .integer, prototype := ⟨90⟩ }

/-- Of two schemas with one property prototype it names the later one, which is
registered with it; a third attempt is refused and leaves no trace. -/
theorem later_rank_named :
    let us : List Update := [.register (rank ⟨100⟩), .register (rank ⟨101⟩)]
    let r := builtins.after us
    let t := builtins.performed us
    (r.ofPrototype? ⟨90⟩ = some ⟨101⟩ ∧ ∃ s, r.lookup ⟨101⟩ = some s ∧ s.prototype = ⟨90⟩) ∧
      t.perform (.register (rank ⟨100⟩)) = (.error (.duplicateProperty ⟨100⟩), t) := by
  intro us r t
  obtain ⟨-, named, -, -, next⟩ := history_consistent (.inr rfl) us
  have name : r.ofPrototype? ⟨90⟩ = some ⟨101⟩ := rfl
  have refused : r.update (.register (rank ⟨100⟩)) = .error (.duplicateProperty ⟨100⟩) := rfl
  refine ⟨⟨name, named _ _ name⟩, ?_⟩
  rcases next (.register (rank ⟨100⟩)) with ⟨fault, -, update, perform⟩ | ⟨r', t', -, update, -⟩
  · rw [refused, Except.error.injEq] at update
    exact update ▸ perform
  · rw [refused] at update
    cases update

end Registry

end Rulebook
