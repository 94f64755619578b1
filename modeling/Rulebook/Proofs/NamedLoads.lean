/-
Rulebook/Proofs/NamedLoads.lean

Loads of a named property.  There are three ways to come to the key of a record:
to have it, to take its first parameter from a slot, and to evaluate all its
parameters.  They check different things in different orders and they keep
different collections alive on the way, but where the slot holds the first
parameter and the others are left out, they come to the same key, and to the
same answer or the same cause to fail (`named_loads_agree`).

Two of the differences take an argument.  A load that evaluates parameters keeps
its collection alive, so a climb from there may come back to it; but what it
would find then it has passed before (`Store.get?_holding`).  And a key that is
loaded directly has to be valid, which the key of a registered property is.
-/
import Rulebook.Proofs.PropertyNames
import Rulebook.Proofs.ReadBack

namespace Rulebook

/-! ### Collections that are kept alive -/

namespace Store

variable {live live' : Handle → Bool} {s : Store} {k : PropertyKey}

/-- What a climb finds, one finds that goes further and where more is alive. -/
theorem findSome?_ancestors_mono (more : ∀ g, live g = true → live' g = true) {d : Datum} :
    ∀ {n m : Nat} {g : Handle}, n ≤ m →
      (s.ancestors live n g).findSome? (s.getLocal? · k) = some d →
      (s.ancestors live' m g).findSome? (s.getLocal? · k) = some d
  | 0, _, _, _, found => by cases found
  | n + 1, m, g, long, found => by
    obtain ⟨m, rfl⟩ : ∃ m', m = m' + 1 := ⟨m - 1, by omega⟩
    rw [ancestors, List.findSome?_cons] at found ⊢
    -- found in this collection, or above it by a link that is taken here as well
    rcases held : s.getLocal? g k with - | d'
    · rw [held] at found
      rcases falls : s.parent? live g with - | p
      · rw [falls] at found
        cases found
      · have falls' : s.parent? live' g = some p := by
          obtain ⟨link, alive⟩ := fallsTo_iff.mp falls
          exact fallsTo_iff.mpr ⟨link, more p alive⟩
        rw [falls] at found
        rw [falls']
        exact findSome?_ancestors_mono more (Nat.le_of_succ_le_succ long) found
    · rw [held] at found
      exact found

/-- What a climb finds with `h` alive as well is found without that, if not from
where the climb starts then from `h`. -/
theorem findSome?_ancestors_holding {h : Handle} {d : Datum} : ∀ {n : Nat} {g : Handle},
    (s.ancestors (fun g => live g || g == h) n g).findSome? (s.getLocal? · k) = some d →
      (s.ancestors live n g).findSome? (s.getLocal? · k) = some d ∨
        (s.ancestors live n h).findSome? (s.getLocal? · k) = some d
  | 0, _, found => by cases found
  | n + 1, g, found => by
    rw [ancestors, List.findSome?_cons] at found
    rw [ancestors, List.findSome?_cons]
    rcases held : s.getLocal? g k with - | d'
    · rw [held] at found
      rcases falls : s.parent? (fun g => live g || g == h) g with - | p
      · rw [falls] at found
        cases found
      rw [falls] at found
      obtain ⟨link, alive⟩ := fallsTo_iff.mp falls
      have further {g : Handle} :
          (s.ancestors live n g).findSome? (s.getLocal? · k) = some d →
          (s.ancestors live (n + 1) g).findSome? (s.getLocal? · k) = some d :=
        findSome?_ancestors_mono (fun _ => id) (Nat.le_succ n)
      -- a climb that needs the held collection to be alive passes through it
      rcases findSome?_ancestors_holding (g := p) found with direct | again
      · by_cases same : p = h
        · subst same
          exact .inr (further direct)
        · have falls' : s.parent? live g = some p := by
            refine fallsTo_iff.mpr ⟨link, ?_⟩
            simpa [same] using alive
          rw [falls']
          exact .inl direct
      · exact .inr (further again)
    · rw [held] at found
      exact .inl found

/-- To keep a collection alive changes nothing for what is read from it. -/
theorem get?_holding (live : Handle → Bool) (s : Store) (h : Handle) (k : PropertyKey) :
    s.get? (fun g => live g || g == h) h k = s.get? live h k := by
  refine Option.ext fun d => ⟨fun found => ?_, fun found => ?_⟩
  · exact (findSome?_ancestors_holding found).elim id id
  · have more : ∀ g, live g = true → (live g || g == h) = true := by
      intro g alive
      rw [alive, Bool.true_or]
    exact findSome?_ancestors_mono more (Nat.le_refl _) found

end Store

open Eval

theorem Env.live_holding (env : Env) (s : State) (h : Handle) :
    (env.holding (· == h)).live s = fun g => env.live s g || g == h := by
  funext g
  exact Bool.or_right_comm _ _ _

section

variable {n : Nat} {env : Env} {c : Context} {k : PropertyKey} {schema : Schema} {s t : State}

theorem exec_retrieve_holding (h : Handle) :
    exec (retrieve (env.holding (· == h)) h k schema) s =
      (.ok (.ofDatum ((s.store.get? (env.live s) h k).getD schema.default)), s) := by
  rw [← Store.get?_holding, ← env.live_holding]
  rfl

/-! ### Parameters -/

/-- Whether `source` loads the value `v` of a slot, an integer or a prototype. -/
inductive Slot.Loads (slot : Slot) : Value → Expr → Prop
  | int (v : Int64) : slot.Loads (.int v) (.contextInt (.slot slot))
  | prototype (id : PrototypeId) : slot.Loads (.prototype id) (.contextPrototype (.slot slot))

variable {slot : Slot} {v : Value} {source : Expr} {x : Param}

theorem Slot.Loads.exec (loads : slot.Loads v source)
    (holds : (s.activation.binding slot).value = v) (n : Nat) (env : Env) :
    Eval.exec (eval n env source) s = (.ok v, s) := by
  unfold eval evalWith
  -- the two operators that read an integer or a prototype off a slot
  cases loads with
  | int v =>
    rw [located, exec_locating, exec_contextInt, holds]
    rfl
  | prototype id =>
    rw [located, exec_locating, exec_contextPrototype, holds]
    rfl

theorem Slot.Loads.resolve (loads : slot.Loads v source)
    (holds : (s.activation.binding slot).value = v) (globals : Option Handle) :
    s.activation.resolve globals (.slot slot) .read = .ok v := by
  refine Activation.resolve_eq_ok_iff.mpr ⟨_, rfl, holds, nofun, fun _ => ?_⟩
  rw [holds]
  cases loads <;> rfl

/-- Only declared parameters are of a valid sort. -/
theorem Schema.declared_of_paramType {i : Nat} (valid : schema.paramType i ≠ .invalid) :
    i < schema.params.length := by
  rcases Nat.lt_or_ge i schema.params.length with declared | past
  · exact declared
  · rw [paramType, List.getElem?_eq_none past] at valid
    exact absurd rfl valid

/-- Only parameters of a valid sort are encoded. -/
theorem Schema.paramType_of_encodeParam {i : Nat} (encoded : schema.encodeParam i v = some x) :
    schema.paramType i ≠ .invalid := by
  intro invalid
  rw [encodeParam, invalid] at encoded
  cases encoded

/-- A parameter whose child has a value is what the value is encoded as, if it is. -/
theorem exec_evalParam {i : Nat} {e : Expr} (valid : schema.paramType i ≠ .invalid)
    (evaluated : exec (eval n env e) s = (.ok v, t)) :
    exec (evalParam located n env schema i (some e)) s =
      (.ok ((schema.encodeParam i v).getD (schema.defaultParam i)), t) := by
  have declared := Schema.declared_of_paramType valid
  have run : exec (attempt (evalWith located n env e)) s = (.ok (.ok v), t) :=
    exec_attempt_ok evaluated
  rw [evalParam, if_neg (Nat.not_le.mpr declared), if_neg valid, exec_bind_ok run]
  rfl

/-- The key of a property with `x` as its first parameter and the declared defaults
as the others. -/
def Schema.keyWithFirst (schema : Schema) (x : Param) : PropertyKey :=
  .ofParams schema.property #v[x, schema.defaultParam 1, schema.defaultParam 2,
    schema.defaultParam 3]

theorem exec_keyWith_first (n : Nat) (env : Env) (loads : slot.Loads v source)
    (holds : (s.activation.binding slot).value = v) (encoded : schema.encodeParam 0 v = some x) :
    exec (keyWith schema (evalParam located n env schema 0 (some source))
      (evalParam located n env schema 1 none) (evalParam located n env schema 2 none)
      (evalParam located n env schema 3 none)) s = (.ok (schema.keyWithFirst x), s) := by
  have first := exec_evalParam (Schema.paramType_of_encodeParam encoded) (loads.exec holds n env)
  rw [encoded] at first
  rw [keyWith, exec_bind_ok first]
  rfl

/-! ### Loads -/

/-- Whether a property prototype names a schema that can be used. -/
structure StaticData.Names (data : StaticData) (id : PrototypeId) (schema : Schema) : Prop where
  valid : id.isValid = true
  property : schema.property.isValid = true
  schemaBy : data.schemaBy id = .ok schema
  schemaOf : data.schemaOf schema.property = .ok schema

theorem PropertyKey.isValid_ofParams {p : Property} (valid : p.isValid = true)
    (params : Vector Param 4) : (ofParams p params).isValid = true := by
  have same := property_ofParams p params
  -- an unset key would have zero as its property as well
  by_contra unset
  have zero : (ofParams p params).raw = 0 := by simpa [isValid] using unset
  rw [property, zero] at same
  rw [← same] at valid
  cases valid

variable {id : PrototypeId}

/-- A load that has the key. -/
theorem exec_load_key (names : env.data.Names id schema) :
    exec (eval n env (.load c (schema.keyWithFirst x))) s =
      ((Expr.load c (schema.keyWithFirst x)).ending
        (env.loaded s c (schema.keyWithFirst x) schema), s) := by
  -- a key made of a valid property is valid, and names that property
  have valid : (schema.keyWithFirst x).isValid = true :=
    PropertyKey.isValid_ofParams names.property _
  have property : (schema.keyWithFirst x).property = schema.property :=
    PropertyKey.property_ofParams ..
  have declared : env.data.schemaOf (schema.keyWithFirst x).property = .ok schema := by
    rw [property]
    exact names.schemaOf
  exact exec_load_declared valid declared

/-- A load that takes the first parameter from a slot. -/
theorem exec_loadFrom (names : env.data.Names id schema) (loads : slot.Loads v source)
    (holds : (s.activation.binding slot).value = v) (encoded : schema.encodeParam 0 v = some x) :
    exec (eval n env (.loadFrom c id (.slot slot))) s =
      ((Expr.loadFrom c id (.slot slot)).ending
        (env.loaded s c (schema.keyWithFirst x) schema), s) := by
  have declared := Schema.declared_of_paramType (Schema.paramType_of_encodeParam encoded)
  -- the parameter that is encoded is a declared one
  have some_param : schema.params.isEmpty = false := by
    rw [List.isEmpty_eq_false_iff]
    exact List.ne_nil_of_length_pos declared
  have read : exec (Eval.resolve env (.slot slot) .read) s = (.ok v, s) := by
    rw [exec_resolve, loads.resolve holds]
    rfl
  unfold eval evalWith
  rw [located]
  refine exec_locating_answer ?_
  simp only [Eval.loadFrom, names.valid, Bool.not_true, Bool.false_eq_true, if_false,
    names.schemaBy]
  refine exec_collection_bind fun h => ?_
  rw [exec_bind_ok (exec_ofExcept (.ok schema) s), some_param]
  simp only [Bool.false_eq_true, if_false]
  rw [exec_bind_ok read]
  simp only [encoded]
  rfl

/-- A load that evaluates the first parameter, with its collection kept alive. -/
theorem exec_loadBy (names : env.data.Names id schema) (loads : slot.Loads v source)
    (holds : (s.activation.binding slot).value = v) (encoded : schema.encodeParam 0 v = some x) :
    exec (eval n env (.loadBy c id (some source) none none none)) s =
      ((Expr.loadBy c id (some source) none none none).ending
        (env.loaded s c (schema.keyWithFirst x) schema), s) := by
  unfold eval evalWith
  rw [located]
  refine exec_locating_answer ?_
  simp only [names.valid, Bool.not_true, Bool.false_eq_true, if_false, names.schemaBy]
  refine exec_collection_bind fun h => ?_
  -- the collection is held while the parameter is evaluated
  have key := exec_keyWith_first n (env.holding (· == h)) loads holds encoded
  rw [exec_bind_ok (exec_ofExcept (.ok schema) s)]
  exact (exec_bind_ok key).trans (exec_retrieve_holding h)

/-! ### Assignments -/

/-- What was just recorded is loaded from where it was. -/
theorem Env.loaded_record {h : Handle} {d : Datum} (schema : Schema)
    (target : env.target s c = .ok h) (created : h.index < s.store.cells.size) :
    env.loaded (s.record h k d) c k schema = .ok (.ofDatum d) := by
  have held : (s.record h k d).store.getLocal? h k = some d :=
    Store.getLocal?_set_self s.store k d created
  exact Env.loaded_of_held (s := s.record h k d) target held schema

end

/-- Evaluation puts every slot back, unless it is one of a condition. -/
theorem binding_eval (n : Nat) (env : Env) (e : Expr) (s : State) {slot : Slot}
    (hc : slot ≠ .condition) (hk : slot ≠ .conditionKeywords) :
    (exec (eval n env e) s).2.activation.binding slot = s.activation.binding slot := by
  obtain ⟨-, -, slots⟩ := eval_restores n env e s
  exact slots.agreeOff slot hc hk

/-! ### Names in a history -/

/-- Only valid property prototypes name a property. -/
theorem Registry.valid_of_named {start : Registry} (hstart : start = {} ∨ start = builtins)
    {us : List Update} {id : PrototypeId} {p : Property}
    (named : (start.after us).ofPrototype? id = some p) : id.isValid = true := by
  -- neither start names a property, so the name is due to an update
  have unnamed : start.ofPrototype? id = none := by
    rcases hstart with rfl | rfl
    · rfl
    · rfl
  rw [ofPrototype?_after, unnamed, Option.or_none, Option.map_eq_some_iff] at named
  obtain ⟨s, last, -⟩ := named
  have own : s.isNamed id = true :=
    List.find?_some (p := fun s : Schema => s.isNamed id) last
  rw [Schema.isNamed, Bool.and_eq_true, decide_eq_true_eq] at own
  exact own.2 ▸ own.1

theorem StaticData.names_of_history {data : StaticData} {start : Registry}
    (hstart : start = {} ∨ start = .builtins) {us : List Registry.Update}
    (history : data.schemas = start.after us) {id : PrototypeId} {p : Property} {schema : Schema}
    (named : data.schemas.ofPrototype? id = some p) (found : data.schemas.lookup p = some schema) :
    data.Names id schema ∧ schema.property = p := by
  -- a schema is entered under its own property
  have sound : data.schemas.Sound := by
    rw [history]
    rcases hstart with rfl | rfl
    · exact Registry.sound_empty.after us
    · exact Registry.sound_builtins.after us
  have admits := sound p schema found
  have schemaOf : data.schemaOf p = .ok schema := by rw [StaticData.schemaOf, found]
  refine ⟨⟨Registry.valid_of_named hstart (history ▸ named), ?_, ?_, ?_⟩, admits.property⟩
  · rw [admits.property]
    exact admits.valid
  · rw [StaticData.schemaBy, named]
    exact schemaOf
  · rw [admits.property]
    exact schemaOf

/-! ### Agreement -/

/-- **The loads of a named property agree.** Let a property prototype name a property
with a schema, in any registry that came about by updates, and let a slot hold an
integer or a prototype that is encoded as the first parameter. From every state, a
load that takes that parameter from the slot, a load that evaluates it and has
the other parameters left out, and a load of the key with that parameter and the
declared defaults give the same answer or fail for the same cause, and change
nothing. An assignment that evaluates that parameter, after its value, and an
assignment to that key fail for the same cause as well, or they change one and the
same entry, which is what all three loads then give. What the value leaves in the
slot is what the slot held, unless it is a slot of a condition. -/
theorem named_loads_agree {start : Registry} (hstart : start = {} ∨ start = .builtins)
    {us : List Registry.Update} {env : Env} (history : env.data.schemas = start.after us)
    {id : PrototypeId} {p : Property} {schema : Schema}
    (named : env.data.schemas.ofPrototype? id = some p)
    (found : env.data.schemas.lookup p = some schema) (c : Context) {slot : Slot} {v : Value}
    {source : Expr} (from_slot : slot.Loads v source) {x : Param}
    (encoded : schema.encodeParam 0 v = some x) :
    let key := PropertyKey.ofParams p #v[x, schema.defaultParam 1, schema.defaultParam 2,
      schema.defaultParam 3]
    let loads : List Expr :=
      [.loadFrom c id (.slot slot), .loadBy c id (some source) none none none, .load c key]
    let assignments (value : Expr) : List Expr :=
      [.assignBy c id (some source) none none none (some value), .assign c key (some value)]
    (∀ n s, (s.activation.binding slot).value = v →
      ∀ e ∈ loads, exec (eval n env e) s = (e.ending (env.loaded s c key schema), s)) ∧
    ∀ n s value w t, exec (eval n env value) s = (.ok w, t) →
      (slot ≠ .condition → slot ≠ .conditionKeywords →
        t.activation.binding slot = s.activation.binding slot) ∧
      ((t.activation.binding slot).value = v →
        (∃ cause, ∀ e ∈ assignments value,
          exec (eval n env e) s = (e.ending (.error cause), t)) ∨
        ∃ h d, env.target t c = .ok h ∧ w.toDatum schema = .ok d ∧
          (∀ e ∈ assignments value,
            exec (eval n env e) s = (.ok .undefined, t.record h key d)) ∧
          (s.Grounded env → ∀ m, ∀ e ∈ loads,
            exec (eval m env e) (t.record h key d) = (.ok (.ofDatum d), t.record h key d))) := by
  intro key loads assignments
  obtain ⟨names, rfl⟩ := StaticData.names_of_history hstart history named found
  have agree : ∀ n s, (s.activation.binding slot).value = v →
      ∀ e ∈ loads, exec (eval n env e) s = (e.ending (env.loaded s c key schema), s) := by
    intro n s holds e he
    simp only [loads, List.mem_cons, List.not_mem_nil, or_false] at he
    rcases he with rfl | rfl | rfl
    · exact exec_loadFrom names from_slot holds encoded
    · exact exec_loadBy names from_slot holds encoded
    · exact exec_load_key names
  refine ⟨agree, fun n s value w t evaluated => ⟨fun hc hk => ?_, fun holds => ?_⟩⟩
  · have kept := binding_eval n env value s hc hk
    rwa [evaluated] at kept
  · have alike : ∀ e ∈ assignments value,
        exec (eval n env e) s = e.recording t key (env.assigned t c schema w) := by
      intro e he
      simp only [assignments, List.mem_cons, List.not_mem_nil, or_false] at he
      have property : key.property = schema.property := PropertyKey.property_ofParams ..
      rcases he with rfl | rfl
      · exact exec_assignment (a := ⟨c, .params id (some source) none none none, some value⟩)
          rfl rfl names.valid evaluated names.schemaBy
          fun h => exec_keyWith_first n _ from_slot holds encoded
      · refine exec_assignment (a := ⟨c, .key key, some value⟩) rfl rfl
          (PropertyKey.isValid_ofParams names.property _) evaluated ?_ fun h => rfl
        show env.data.schemaOf key.property = .ok schema
        rw [property, names.schemaOf]
    rcases assigned : env.assigned t c schema w with cause | ⟨h, d⟩
    · rw [assigned] at alike
      exact .inl ⟨cause, alike⟩
    rw [assigned] at alike
    obtain ⟨-, target, datum⟩ := Env.assigned_eq_ok_iff.mp assigned
    refine .inr ⟨h, d, target, datum, alike, fun grounded m e he => ?_⟩
    -- the target was there when the value was evaluated, so the record is kept
    have ht : t.Grounded env := by
      have := grounded.eval n value
      rwa [evaluated] at this
    have loaded := Env.loaded_record (k := key) (d := d) schema target (ht c h target)
    rw [agree m (t.record h key d) holds e he, loaded]
    rfl

/-- A property with a rank and a slot as its parameters, the slot being the third
one if nothing else is said. -/
def gear : Schema :=
  { property := ⟨10⟩, name := "Gear", dataType := .integer, prototype := ⟨5010⟩,
    params := [{ type := .integer }, { type := .integer, default := ⟨3, by decide⟩ }] }

/-- With a rank from a free variable, what is assigned is what all loads give. -/
theorem gear_loads_agree :
    let env : Env :=
      ⟨{ schemas := ({} : Registry).after [.register gear] }, none, {}, fun _ => false⟩
    let slots : Activation := { callerStack := some ⟨0⟩ }
    let s : State := ⟨⟨#[{}]⟩, slots.bind .var1 ⟨.int 7, false⟩⟩
    let key := PropertyKey.ofParams ⟨10⟩ #v[7, 3, 0, 0]
    let rank := Expr.contextInt (.slot .var1)
    s.Grounded env ∧ ∃ t, t.store.getLocal? ⟨0⟩ key = some (.integer 9) ∧
      exec (eval 0 env (.assignBy .callerStack ⟨5010⟩ (some rank) none none none
        (some (.int 9)))) s = (.ok .undefined, t) ∧
      exec (eval 0 env (.loadFrom .callerStack ⟨5010⟩ (.slot .var1))) t = (.ok (.int 9), t) ∧
      exec (eval 0 env (.loadBy .callerStack ⟨5010⟩ (some rank) none none none)) t =
        (.ok (.int 9), t) ∧
      exec (eval 0 env (.load .callerStack key)) t = (.ok (.int 9), t) := by
  intro env slots s key rank
  have grounded : s.Grounded env := by
    refine .of_stacks (fun slot h => ?_) nofun (fun h caller => ?_) nofun
    · cases slot <;> nofun
    · cases caller
      exact Nat.zero_lt_one
  have history : env.data.schemas = ({} : Registry).after [.register gear] := rfl
  have named : env.data.schemas.ofPrototype? ⟨5010⟩ = some ⟨10⟩ := rfl
  have found : env.data.schemas.lookup ⟨10⟩ = some gear := rfl
  have from_slot : Slot.var1.Loads (.int 7) rank := .int 7
  have encoded : gear.encodeParam 0 (.int 7) = some 7 := rfl
  obtain ⟨-, assigned⟩ :=
    named_loads_agree (.inl rfl) history named found .callerStack from_slot encoded
  obtain ⟨-, assigned⟩ := assigned 0 s (.int 9) (.int 9) s rfl
  rcases assigned rfl with ⟨cause, failed⟩ | ⟨h, d, target, datum, done, read⟩
  · cases failed _ List.mem_cons_self
  · cases target
    cases datum
    have loads := read grounded 0
    simp only [List.forall_mem_cons] at done loads
    refine ⟨grounded, s.record ⟨0⟩ key (.integer 9), ?_, ?_, ?_, ?_, ?_⟩
    · exact Store.getLocal?_set_self s.store key (.integer 9) Nat.zero_lt_one
    · exact done.1
    · exact loads.1
    · exact loads.2.1
    · exact loads.2.2.1

end Rulebook
