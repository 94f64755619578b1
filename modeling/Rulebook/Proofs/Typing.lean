/-
Rulebook/Proofs/Typing.lean

Types of what is stored and kinds of what is loaded.  With a registry that
has come about by updates of the built-in one, a run leaves every store well
typed that was well typed before, and every load that has a value, anywhere
in the run, has one of the kind of the declared type
(`tryRun_keeps_types`).

For the latter, loads are watched: evaluation with an alarm around every
expression, which is raised when a load has a value of another kind, is the
same as evaluation, whatever the alarm does (`Eval.watching`).
-/
import Rulebook.Proofs.Preservation
import Rulebook.Proofs.RegistryHistory

namespace Rulebook

open Eval

/-! ### Types and kinds -/

/-- The kind of the values of a storage type. -/
def DataType.kind : DataType → Kind
  | .boolean => .bool
  | .real => .float
  | .integer | .time => .int
  | .prototype => .prototype
  | .asset => .asset
  | .entity | .region => .entityId

namespace Value

@[simp] theorem kind_ofDatum (d : Datum) : (ofDatum d).kind = d.dataType.kind := by
  cases d <;> rfl

/-- A value becomes a datum of the wanted type or none. -/
theorem dataType_of_toDatum? {v : Value} {t : DataType} {d : Datum} (h : v.toDatum? t = some d) :
    d.dataType = t := by
  cases t
  all_goals
    obtain ⟨payload, -, rfl⟩ := Option.map_eq_some_iff.mp h
    rfl

theorem dataType_of_toDatum {v : Value} {schema : Schema} {d : Datum}
    (h : v.toDatum schema = .ok d) : d.dataType = schema.dataType := by
  unfold toDatum at h
  split at h
  next found =>
    cases h
    exact dataType_of_toDatum? found
  next => cases h

end Value

/-! ### Well-typed stores -/

/-- Whether every datum of a store is of the type that is declared for it, if
one is. -/
def Store.WellTyped (s : Store) (schemas : Registry) : Prop :=
  ∀ h k d schema, s.getLocal? h k = some d → schemas.lookup k.property = some schema →
    d.dataType = schema.dataType

namespace Store.WellTyped

variable {s : Store} {schemas : Registry}

theorem empty (schemas : Registry) : WellTyped {} schemas := by
  intro h k d schema found
  cases found

theorem create (hs : s.WellTyped schemas) : s.create.1.WellTyped schemas := by
  intro h k d schema found
  unfold getLocal? at found
  rw [cell_create] at found
  exact hs h k d schema found

theorem set (hs : s.WellTyped schemas) (h : Handle) {k : PropertyKey} {d : Datum}
    (hd : ∀ schema, schemas.lookup k.property = some schema → d.dataType = schema.dataType) :
    (s.set h k d).WellTyped schemas := by
  intro g k' d' schema found declared
  -- the entry that is read is an old one or the new one
  rcases s.getLocal?_set_cases h g k k' d with same | ⟨rfl, new⟩
  · rw [same] at found
    exact hs g k' d' schema found declared
  · rw [new] at found
    cases found
    exact hd schema declared

/-- What is found along a chain is what some collection has itself. -/
theorem get? (hs : s.WellTyped schemas) {live : Handle → Bool} {h : Handle} {k : PropertyKey}
    {d : Datum} {schema : Schema} (found : s.get? live h k = some d)
    (declared : schemas.lookup k.property = some schema) : d.dataType = schema.dataType := by
  obtain ⟨g, -, here⟩ := List.exists_of_findSome?_eq_some found
  exact hs g k d schema here declared

end Store.WellTyped

/-! ### Schemas that rules go by -/

namespace StaticData

variable {data : StaticData}

theorem lookup_of_schemaOf {p : Property} {schema : Schema} (h : data.schemaOf p = .ok schema) :
    data.schemas.lookup p = some schema := by
  unfold schemaOf at h
  split at h
  next found =>
    cases h
    exact found
  next => cases h

/-- In a sound registry, rules go by the schema that is declared for the key. -/
theorem Addresses.lookup (sound : data.schemas.Sound) {k : PropertyKey} {schema : Schema}
    (h : data.Addresses k schema) : data.schemas.lookup k.property = some schema := by
  -- named by its identifier, or by its prototype through the registry
  rcases h with h | ⟨id, params, h, rfl⟩
  · exact lookup_of_schemaOf h
  · unfold schemaBy at h
    split at h
    next p named =>
      have found := lookup_of_schemaOf h
      rw [PropertyKey.property_ofParams, (sound p schema found).property]
      exact found
    next => cases h

/-- Whether a value is right for an expression. Only of a load is anything
asked: it has found a schema, and its value is of the kind of the declared type. -/
def suits (data : StaticData) (e : Expr) (v : Value) : Bool :=
  match data.loadSchema? e with
  | some (.ok schema) => v.kind = schema.dataType.kind
  | some (.error _) => false
  | none => true

end StaticData

/-- Raise an alarm at every value that does not suit its expression. -/
def Eval.watching (alarm : Eval Value) : Around := fun env e m => do
  let v ← locating e m
  if env.data.suits e v then pure v else alarm

/-! ### The discipline -/

variable {data : StaticData} {game : Option Game} {settings : Settings}

variable (game settings) in
/-- Runs keep stores well typed. -/
def typing (sound : data.schemas.Sound) (element : ∃ schema,
    data.schemas.lookup .loopElement = some schema ∧ schema.dataType = .prototype) :
    Discipline data game settings where
  inv s := s.store.WellTyped data.schemas
  storable k d := ∀ schema, data.schemas.lookup k.property = some schema →
    d.dataType = schema.dataType
  answer schema v := v.kind = schema.dataType.kind
  storable_of_schema v hk hd schema declared := by
    rw [hk.lookup sound] at declared
    cases declared
    exact Value.dataType_of_toDatum hd
  storable_element p schema declared := by
    obtain ⟨own, found, type⟩ := element
    rw [PropertyKey.property_ofProperty, found] at declared
    cases declared
    exact type.symm
  answer_of_schema {s k schema} live h hs hk := by
    have declared := hk.lookup sound
    rw [Value.kind_ofDatum]
    rcases found : s.store.get? live h k with - | d
    · rw [Option.getD_none, (sound k.property schema declared).typed]
    · rw [Option.getD_some, hs.get? found declared]
  record hs _ hd := ⟨hs.set _ hd, trivial⟩
  enter hs := hs.create
  leave _ ht _ := ⟨ht, trivial⟩
  rebind _ ht := ⟨ht, trivial⟩
  bind _ hs _ := ⟨hs, trivial⟩
  clear _ ht _ := ⟨ht, trivial⟩

section

variable {sound : data.schemas.Sound} {element : ∃ schema,
  data.schemas.lookup .loopElement = some schema ∧ schema.dataType = .prototype}

theorem suits_of_answers {e : Expr} {v : Value}
    (h : (typing game settings sound element).Answers e v) : data.suits e v = true := by
  unfold StaticData.suits
  -- declared, unknown, and operators whose result has no declared type
  split
  next schema found =>
    obtain ⟨schema', same, kind⟩ := h _ found
    cases same
    exact decide_eq_true kind
  next cause found =>
    obtain ⟨schema', same, -⟩ := h _ found
    cases same
  next => rfl

/-- In a run that keeps stores well typed no alarm is raised. -/
theorem keptAround_watching (alarm : Eval Value) :
    (typing game settings sound element).KeptAround located (watching alarm) := by
  intro held e m m' h s hs
  obtain ⟨r, t, located, located', inv, rel, post⟩ := h.locating s hs
  refine ⟨r, t, located, ?_, inv, rel, post⟩
  -- a value that suits its declaration passes the watch, so no alarm is raised
  unfold watching
  rcases r with stop | v
  · exact exec_bind_error located'
  · rw [exec_bind_ok located', if_pos (suits_of_answers (post v rfl))]
    rfl

end

/-- **Runs keep types.** Let the registry be the built-in one after any updates,
and the store well typed. Then the store is well typed after the run of a rule,
however it ends; the value of an expression suits it, which says of a load that
its kind is that of the declared type; and this holds throughout, since no alarm
at a value that does not suit its expression makes a difference. -/
theorem tryRun_keeps_types (us : List Registry.Update) (allowance : Nat) (env : Env) (s : State)
    (built : env.data.schemas = Registry.builtins.after us)
    (typed : s.store.WellTyped env.data.schemas) :
    (∀ rule, (exec (env.tryRun allowance rule) s).2.store.WellTyped env.data.schemas) ∧
    (∀ e v t, exec (eval allowance env e) s = (.ok v, t) → env.data.suits e v = true) ∧
    ∀ alarm e,
      exec (evalWith (watching alarm) allowance env e) s = exec (eval allowance env e) s := by
  have sound : env.data.schemas.Sound := by
    rw [built]
    exact Registry.sound_builtins.after us
  -- the loops store their element under a built-in property, a prototype
  have element : ∃ schema, env.data.schemas.lookup .loopElement = some schema ∧
      schema.dataType = .prototype := by
    rw [built]
    exact Registry.lookup_loopElement us
  let D := typing env.game env.settings sound element
  refine ⟨fun rule => (D.tryRun_keeps allowance rule typed).1, ?_, ?_⟩
  · intro e v t h
    obtain ⟨r, t', run, -, -, -, post⟩ :=
      D.evalWith_agree (n := allowance) Discipline.keptAround_located e env.held s typed
    have same : (.ok v, t) = (r, t') := h.symm.trans run
    cases same
    exact suits_of_answers (post v rfl)
  · -- the watched run and the plain one are both the run of the discipline
    intro alarm e
    obtain ⟨r, t, run, watched, -⟩ :=
      D.evalWith_agree (n := allowance) (keptAround_watching alarm) e env.held s typed
    exact watched.trans run.symm

/-- A property that can be registered after the built-in ones. -/
def armor : Schema := { property := ⟨7⟩, name := "Armor", dataType := .real }

/-- A rule that adds one to a property, run on a collection that has some of it. -/
theorem armor_stays_typed :
    let env : Env :=
      ⟨{ schemas := Registry.builtins.after [.register armor] }, none, {}, fun _ => false⟩
    let s : State :=
      ⟨Store.set ⟨#[{}]⟩ ⟨0⟩ (.ofProperty ⟨7⟩) (.real 1), { localStack := some ⟨0⟩ }⟩
    let load : Expr := .load .localStack (.ofProperty ⟨7⟩)
    let rule : Expr :=
      .assign .localStack (.ofProperty ⟨7⟩) (some (.arith .add (some load) (some (.int 1))))
    s.store.WellTyped env.data.schemas ∧
      (exec (env.tryRun 0 (some rule)) s).2.store.WellTyped env.data.schemas ∧
      exec (evalWith (watching (throw .exhausted)) 0 env rule) s = exec (eval 0 env rule) s := by
  intro env s load rule
  have found : env.data.schemas.lookup ⟨7⟩ = some armor := rfl
  have empty : Store.WellTyped ⟨#[{}]⟩ env.data.schemas :=
    (Store.WellTyped.empty env.data.schemas).create
  have typed : s.store.WellTyped env.data.schemas := by
    refine empty.set _ fun schema declared => ?_
    rw [PropertyKey.property_ofProperty, found] at declared
    cases declared
    rfl
  obtain ⟨kept, -, watched⟩ := tryRun_keeps_types [.register armor] 0 env s rfl typed
  exact ⟨typed, kept (some rule), watched _ rule⟩

end Rulebook
