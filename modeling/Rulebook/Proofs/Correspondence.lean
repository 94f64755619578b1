/-
Rulebook/Proofs/Correspondence.lean

States that answer the same.  Two runs that start from different states do the
same as long as whatever they ask of their states has the same answer.  A
`Correspondence` says which states count as alike, and what in them: the
collections that stand for each other, the lists of conditions that may be
looped over, and the contexts in which one run may find an entity by its
durable name and the other by the pointer to it.

Its laws are about the state alone.  What a run looks up has to be alike,

    a context        the values correspond           (`Correspondence.context`)
    a key            the same datum                  (`Correspondence.lookup`)
    the game         collections in both             (`Correspondence.properties`)

and what a run changes has to keep the states alike.  From these laws it
follows that every step that evaluates no child is tied to itself, whatever
the operator asks for; the operators are dealt with here and in
`Rulebook.Proofs.Simulation`, and nowhere else.
-/
import Rulebook.Proofs.Coupling
import Rulebook.Proofs.Query

namespace Rulebook

open Eval

/-! ### Values -/

/-- Whether a value is neither a collection nor a list of conditions. -/
def Value.IsPlain : Value → Prop
  | .collection _ | .conditions _ => False
  | _ => True

/-- The collection behind a plain value is that of the properties of an entity. -/
theorem Value.IsPlain.exists_properties {game : Option Game} {v : Value} (plain : v.IsPlain)
    {h : Handle} (behind : v.collectionIn? game = some h) :
    ∃ g e, game = some g ∧ g.properties? e = some h := by
  cases v with
  | entity e =>
    rcases e with - | e
    · cases behind
    · obtain ⟨g, bound, own⟩ := Option.bind_eq_some_iff.mp behind
      exact ⟨g, e, bound, own⟩
  | guid id =>
    obtain ⟨g, bound, found⟩ := Option.bind_eq_some_iff.mp behind
    obtain ⟨e, -, own⟩ := Option.bind_eq_some_iff.mp found
    exact ⟨g, e, bound, own⟩
  | collection => exact plain.elim
  | _ => cases behind

/-- What two runs may find in the same place: collections that stand for each
other, a list of conditions that may be looped over, any other value, or an
entity by its durable name in the one and by the pointer to it in the other. -/
inductive Value.Corresponds (game : Option Game) (places : Handle → Handle → Prop)
    (lists : ConditionList → Prop) (named : Prop) : Value → Value → Prop
  | collection {h h' : Option Handle} :
    Option.Rel places h h' → Corresponds game places lists named (.collection h) (.collection h')
  | conditions {l : Option ConditionList} :
    (∀ l' ∈ l, lists l') → Corresponds game places lists named (.conditions l) (.conditions l)
  | plain {v : Value} : v.IsPlain → Corresponds game places lists named v v
  | entity {id : DbGuid} {e : EntityId} :
    named → (∀ g, game = some g → g.byGuid? id = some e) →
      Corresponds game places lists named (.guid id) (.entity (some e))

namespace Value.Corresponds

variable {game : Option Game} {places : Handle → Handle → Prop} {lists : ConditionList → Prop}
variable {named : Prop} {v v' : Value}

/-- A value stands for itself if all that it points at does. -/
theorem of_self (hp : ∀ h, v = .collection (some h) → places h h)
    (hl : ∀ l, v = .conditions (some l) → lists l) : v.Corresponds game places lists named v := by
  cases v with
  | collection h =>
    rcases h with - | h
    · exact .collection .none
    · exact .collection (.some (hp h rfl))
  | conditions l => exact .conditions fun l' set => hl l' (congrArg Value.conditions set)
  | _ => exact .plain trivial

variable (c : v.Corresponds game places lists named v')

include c

theorem isNull : v'.isNull = v.isNull := by
  cases c with
  | collection h => cases h <;> rfl
  | _ => rfl

theorem conditions? : v'.conditions? = v.conditions? := by
  cases c <;> rfl

theorem lists_of_conditions? {l : ConditionList} (h : v.conditions? = some l) : lists l := by
  cases c with
  | conditions hl => exact hl l h
  | @plain v plain =>
    cases v with
    | conditions => exact plain.elim
    | _ => cases h
  | _ => cases h

theorem elements? :
    (v'.prototypeList? <|> v'.prototypeVector?) = (v.prototypeList? <|> v.prototypeVector?) := by
  cases c <;> rfl

theorem toInt64? : v'.toInt64? = v.toInt64? := by
  cases c <;> rfl

theorem prototype? : v'.prototype? = v.prototype? := by
  cases c <;> rfl

/-- Parameters are taken from plain values only, and entities are none. -/
theorem encodeParam (schema : Schema) (i : Nat) :
    schema.encodeParam i v' = schema.encodeParam i v := by
  unfold Schema.encodeParam
  cases c with
  | plain => rfl
  | _ => cases schema.paramType i <;> rfl

theorem entityIn? {g : Game} (bound : game = some g) : v'.entityIn? g = v.entityIn? g := by
  cases c with
  | entity _ known => exact (known g bound).symm
  | _ => rfl

/-- The kinds differ for an entity alone. -/
theorem kind_eq_or : v'.kind = v.kind ∨ named := by
  cases c with
  | entity h => exact .inr h
  | _ => exact .inl rfl

/-- Behind values that correspond are collections that stand for each other. -/
theorem collectionIn? (properties : ∀ g, game = some g → ∀ e h, g.properties? e = some h →
      places h h) :
    Option.Rel places (v.collectionIn? game) (v'.collectionIn? game) := by
  have self {v : Value} (plain : v.IsPlain) :
      Option.Rel places (v.collectionIn? game) (v.collectionIn? game) := by
    rcases behind : v.collectionIn? game with - | h
    · exact .none
    · obtain ⟨g, e, bound, own⟩ := plain.exists_properties behind
      exact .some (properties g bound e h own)
  cases c with
  | collection h => exact h
  | conditions => exact .none
  | plain plain => exact self plain
  | @entity id e _ known =>
    -- the identifier leads to the same entity, so to the same properties
    have same : (Value.entity (some e)).collectionIn? game =
        (Value.guid id).collectionIn? game := by
      rcases bound : game with - | g
      · rfl
      · show g.properties? e = (g.byGuid? id >>= g.properties?)
        rw [known g bound]
        rfl
    rw [same]
    exact self trivial

end Value.Corresponds

/-! ### Correspondences -/

/-- What two runs over the same data and the same game have to share. -/
structure Correspondence (K : Coupling) (data : StaticData) (game : Option Game) where
  /-- The states that are alike. -/
  states : State → State → Prop
  /-- The collections that stand for each other. -/
  places : Handle → Handle → Prop
  /-- The lists of conditions that may be looped over. -/
  lists : ConditionList → Prop
  /-- What the two runs may keep alive, apart from what their slots refer to. -/
  held : (Handle → Bool) → (Handle → Bool) → Prop
  /-- The contexts that may hold an entity by name in one run and by pointer in the
  other. -/
  named : Context → Prop
  /-- Where they do, a failure may report the one kind or the other. -/
  kinds : ∀ c, named c → ∀ operand expected got got',
    K.like { cause := .typeMismatch operand expected got }
      { cause := .typeMismatch operand expected got' }
  -- what a run asks for
  context : ∀ {s s'}, states s s' → ∀ c, Matched Eq
    (fun b b' => b'.readOnly = b.readOnly ∧
      b.value.Corresponds game places lists (named c) b'.value)
    (s.activation.value data.globals c) (s'.activation.value data.globals c)
  lookup : ∀ {s s' H H' h h'}, states s s' → held H H' → places h h' → ∀ k,
    s'.store.get? (s'.alive H') h' k = s.store.get? (s.alive H) h k
  properties : ∀ g, game = some g → ∀ e h, g.properties? e = some h → places h h
  -- what a run changes
  frame : ∀ {s s'}, states s s' → places s.frame s'.frame
  enter : ∀ {s s'}, states s s' → states s.enter s'.enter
  leave : ∀ {s s' t t'}, states s s' → states t t' → states (s.leave t) (s'.leave t')
  rebind : ∀ {s s' t t'}, states s s' → states t t' →
    states (t.withCaller s.activation.callerStack) (t'.withCaller s'.activation.callerStack)
  record : ∀ {s s' h h'}, states s s' → places h h' → ∀ k d,
    states (s.record h k d) (s'.record h' k d)
  bind : ∀ {s s' l c}, states s s' → lists l → c ∈ l.conditions →
    states (s.withActivation (s.activation.bindCondition c))
      (s'.withActivation (s'.activation.bindCondition c))
  clear : ∀ {s s'}, states s s' → states (s.withActivation s.activation.clearCondition)
    (s'.withActivation s'.activation.clearCondition)
  holding : ∀ {H H' h h'}, held H H' → places h h' →
    held (fun g => H g || g == h) (fun g => H' g || g == h')
  holdingList : ∀ {H H' l}, held H H' → lists l →
    held (fun g => H g || l.refersTo g) (fun g => H' g || l.refersTo g)

namespace Correspondence

variable {K : Coupling} {data : StaticData} {game : Option Game} (B : Correspondence K data game)
variable {settings settings' : Settings} {H H' : Handle → Bool}

/-- The values that may be found in a context. -/
abbrev values (c : Context) : Value → Value → Prop :=
  Value.Corresponds game B.places B.lists (B.named c)

/-- From states that are alike, two steps come to values in the relation `V` and to
states that are alike. -/
abbrev Tied {α α' : Type} (V : α → α' → Prop) (m : Eval α) (m' : Eval α') : Prop :=
  K.Tied B.states B.states V m m'

variable {B}

/-! ### Contexts -/

section

variable {s s' : State} (hs : B.states s s')

include hs

theorem binding (slot : Slot) : B.values (.slot slot) (s.activation.binding slot).value
    (s'.activation.binding slot).value := by
  cases B.context hs (.slot slot) with
  | ok found => exact found.2

/-- A use of a context comes to values that correspond, or fails
for the same cause. -/
theorem resolve (c : Context) (access : Access) : Matched Eq (B.values c)
    (s.activation.resolve data.globals c access) (s'.activation.resolve data.globals c access) := by
  unfold Activation.resolve
  have found := B.context hs c
  generalize s.activation.value data.globals c = x at found ⊢
  generalize s'.activation.value data.globals c = x' at found ⊢
  cases found with
  | error same => exact .error same
  | ok same =>
    -- the two checks come out the same
    simp only [Bind.bind, Except.bind, same.1, same.2.isNull]
    split
    · exact .error rfl
    · split
      · exact .error rfl
      · exact .ok same.2

end

variable {α α' : Type} {c : Context} {access : Access}

theorem tied_resolve : B.Tied (B.values c) (Eval.resolve ⟨data, game, settings, H⟩ c access)
    (Eval.resolve ⟨data, game, settings', H'⟩ c access) := by
  intro s s' hs
  refine .inr ⟨_, _, s, s', exec_resolve _ c access s, exec_resolve _ c access s', ?_, hs⟩
  refine (resolve hs c access).mapError fun k k' same => .failure ?_
  exact same ▸ K.like_self k

/-- A failure that reports the kind of what was found in a context. -/
theorem tied_failKind {V : α → α' → Prop} {v v' : Value} (same : B.values c v v')
    (operand expected : String) :
    B.Tied V (fail (.typeMismatch operand expected v.kind))
      (fail (.typeMismatch operand expected v'.kind)) := by
  rcases same.kind_eq_or with kind | named
  · rw [kind]
    exact .fail _
  · exact .throw (.failure (B.kinds c named _ _ _ _))

theorem tied_collection : B.Tied B.places
    (Eval.collection ⟨data, game, settings, H⟩ c access)
    (Eval.collection ⟨data, game, settings', H'⟩ c access) := by
  refine tied_resolve.bindWith fun v v' same => ?_
  -- both values have a collection behind them, in places that match, or none
  have behind := same.collectionIn? B.properties
  generalize v.collectionIn? game = g at behind ⊢
  generalize v'.collectionIn? game = g' at behind ⊢
  cases behind with
  | none => exact tied_failKind same _ _
  | some place => exact .pureWith place

theorem tied_conditionsOf : B.Tied (fun l l' => l = l' ∧ B.lists l)
    (conditionsOf ⟨data, game, settings, H⟩ c) (conditionsOf ⟨data, game, settings', H'⟩ c) := by
  refine tied_resolve.bindWith fun v v' same => ?_
  rw [same.conditions?]
  rcases found : v.conditions? with - | l
  · exact tied_failKind same _ _
  · exact .pureWith ⟨rfl, same.lists_of_conditions? found⟩

theorem tied_elementsOf : B.Tied Eq
    (elementsOf ⟨data, game, settings, H⟩ c) (elementsOf ⟨data, game, settings', H'⟩ c) := by
  refine tied_resolve.bindWith fun v v' same => ?_
  rw [same.elements?]
  rcases v.prototypeList? <|> v.prototypeVector? with - | elements
  · exact tied_failKind same _ _
  · exact .pure _

/-- Whether a pointer is null can be asked of a context that holds no entity by name
in one run and by pointer in the other. -/
theorem tied_isNull (unnamed : ¬ B.named c) : B.Tied Eq
    (Eval.isNull ⟨data, game, settings, H⟩ c) (Eval.isNull ⟨data, game, settings', H'⟩ c) := by
  refine tied_resolve.bindWith fun v v' same => ?_
  -- a null corresponds to a null, except for an entity that is named by its guid
  cases same with
  | collection h => cases h <;> exact .pure _
  | conditions => exact .pure _
  | entity named => exact absurd named unnamed
  | @plain v plain =>
    cases v with
    | prototypeList | prototypeVector | entity => exact .pure _
    | error =>
      dsimp only
      split
      · exact .pure _
      · exact .fail _
    | collection | conditions => exact plain.elim
    | _ => exact .fail _

theorem tied_contextInt : B.Tied Eq (Eval.contextInt c) (Eval.contextInt c) := by
  cases c with
  | slot slot =>
    intro s s' hs
    have same := binding hs slot
    refine .inr ⟨_, _, s, s', exec_contextInt slot s, exec_contextInt slot s', ?_, hs⟩
    rw [same.toInt64?]
    rcases (s.activation.binding slot).value.toInt64? with - | n
    · -- not an integer: the messages agree up to the kind they name
      rcases same.kind_eq_or with kind | named
      · rw [kind]
        exact .error (.failure (K.like_self _))
      · exact .error (.failure (B.kinds _ named _ _ _ _))
    · exact .ok rfl
  | callerStack | localStack | globals => exact Coupling.Tied.fail _

theorem tied_contextPrototype :
    B.Tied Eq (Eval.contextPrototype c) (Eval.contextPrototype c) := by
  cases c with
  | slot slot =>
    intro s s' hs
    refine .inr ⟨_, _, s, s', exec_contextPrototype slot s, exec_contextPrototype slot s', ?_, hs⟩
    rw [(binding hs slot).prototype?]
    exact .ok rfl
  | callerStack | localStack | globals => exact Coupling.Tied.fail _

/-! ### Collections -/

section

variable (holds : B.held H H')

include holds

theorem tied_retrieve {h h' : Handle} (place : B.places h h') (k : PropertyKey)
    (schema : Schema) : B.Tied Eq (retrieve ⟨data, game, settings, H⟩ h k schema)
      (retrieve ⟨data, game, settings', H'⟩ h' k schema) := by
  intro s s' hs
  refine .inr ⟨_, _, s, s', rfl, rfl, .ok ?_, hs⟩
  exact congrArg (fun d => Value.ofDatum (d.getD schema.default)) (B.lookup hs holds place k).symm

theorem tied_hasKey {h h' : Handle} (place : B.places h h') (k : PropertyKey) :
    B.Tied Eq (hasKey ⟨data, game, settings, H⟩ h k) (hasKey ⟨data, game, settings', H'⟩ h' k) := by
  intro s s' hs
  refine .inr ⟨_, _, s, s', rfl, rfl, .ok ?_, hs⟩
  exact congrArg Option.isSome (B.lookup hs holds place k).symm

theorem tied_has (k : PropertyKey) : B.Tied Eq (Eval.has ⟨data, game, settings, H⟩ c k)
    (Eval.has ⟨data, game, settings', H'⟩ c k) := by
  unfold Eval.has
  split
  · exact .failBind _
  · refine tied_collection.bindWith fun h h' place => ?_
    exact (tied_hasKey holds place k).bind fun found => .pure _

theorem tied_load (k : PropertyKey) : B.Tied Eq (Eval.load ⟨data, game, settings, H⟩ c k)
    (Eval.load ⟨data, game, settings', H'⟩ c k) := by
  unfold Eval.load
  split
  · exact .failBind _
  · refine tied_collection.bindWith fun h h' place => ?_
    exact (Coupling.Tied.ofExcept _).bind fun schema => tied_retrieve holds place k schema

theorem tied_loadFrom (property : PrototypeId) (param : Context) :
    B.Tied Eq (Eval.loadFrom ⟨data, game, settings, H⟩ c property param)
      (Eval.loadFrom ⟨data, game, settings', H'⟩ c property param) := by
  unfold Eval.loadFrom
  split
  · exact .failBind _
  · refine tied_collection.bindWith fun h h' place => ?_
    refine (Coupling.Tied.ofExcept _).bind fun schema => ?_
    -- without parameters, or with one that is encoded from what the context holds
    split
    · exact tied_retrieve holds place _ schema
    · refine tied_resolve.bindWith fun v v' same => ?_
      rw [same.encodeParam]
      rcases schema.encodeParam 0 v with - | p
      · exact tied_failKind same _ _
      · exact tied_retrieve holds place _ schema

end

/-! ### The game -/

/-- A question to the game that has the same answer in states that are alike. -/
theorem tied_predicate {f f' : State → Except Cause Bool}
    (same : ∀ s s', B.states s s' → f' s' = f s) :
    B.Tied Eq (do return .bool (← ofExcept (f (← get))) : Eval Value)
      (do return .bool (← ofExcept (f' (← get)))) := by
  intro s s' hs
  rw [exec_bind_ok (exec_get s), exec_bind_ok (exec_get s'), same s s' hs]
  -- the state is read only, so both sides answer with the same function
  have answered : B.Tied Eq (do return .bool (← ofExcept (f s)) : Eval Value)
      (do return .bool (← ofExcept (f s))) :=
    (Coupling.Tied.ofExcept _).bind fun b => .pure _
  exact answered s s' hs

section

variable {s s' : State} (hs : B.states s s')

include hs

/-- A question about the value of a context has the same answer if it has for values
that correspond. -/
theorem resolve_bind {α : Type} {c : Context} {f f' : Value → Except Cause α}
    (hf : ∀ v v', B.values c v v' → f' v' = f v) :
    (s'.activation.resolve data.globals c .read >>= f') =
      (s.activation.resolve data.globals c .read >>= f) := by
  have found := resolve hs c .read
  generalize s.activation.resolve data.globals c .read = x at found ⊢
  generalize s'.activation.resolve data.globals c .read = x' at found ⊢
  cases found with
  | error same => exact congrArg Except.error same.symm
  | ok same => exact hf _ _ same

/-- A context points at the same entity, in whichever way. -/
theorem contextEntity {g : Game} (bound : game = some g) (c : Context) :
    Env.contextEntity ⟨data, game, settings', H'⟩ s' c g =
      Env.contextEntity ⟨data, game, settings, H⟩ s c g := by
  refine resolve_bind hs fun v v' same => ?_
  simp only [same.entityIn? bound]
  rcases entity : v.entityIn? g with - | e
  · -- what is no entity is of the same kind in both runs
    cases same with
    | entity _ known => cases entity.symm.trans (known g bound)
    | _ => rfl
  · rfl

/-- Questions about an entity have the same answer if they depend on the state by the
entity alone. -/
theorem onEntity {α : Type} {f f' : Game → EntityId → Except Cause α}
    (hf : ∀ g, game = some g → ∀ e, f' g e = f g e) (c : Context) :
    (do
      let g ← Env.boundGame ⟨data, game, settings', H'⟩
      let e ← Env.contextEntity ⟨data, game, settings', H'⟩ s' c g
      f' g e) =
    (do
      let g ← Env.boundGame ⟨data, game, settings, H⟩
      let e ← Env.contextEntity ⟨data, game, settings, H⟩ s c g
      f g e) := by
  have same : Env.boundGame ⟨data, game, settings', H'⟩ =
      Env.boundGame ⟨data, game, settings, H⟩ := rfl
  rw [same]
  -- without a game both fail at once, with one they find the same entity
  rcases found : Env.boundGame ⟨data, game, settings, H⟩ with cause | g
  · rfl
  · have bound : game = some g := Env.boundGame_eq_ok_iff.mp found
    show (Env.contextEntity _ s' c g >>= f' g) = (Env.contextEntity _ s c g >>= f g)
    rw [contextEntity hs bound c, funext (hf g bound)]

theorem missionActive (c : Context) (id : PrototypeId) :
    Env.missionActive ⟨data, game, settings', H'⟩ s' c id =
      Env.missionActive ⟨data, game, settings, H⟩ s c id :=
  onEntity hs (fun _ _ _ => rfl) c

theorem hasInInventory (c : Context) (filter : PrototypeId) (label : InventoryLabel) :
    Env.hasInInventory ⟨data, game, settings', H'⟩ s' c filter label =
      Env.hasInInventory ⟨data, game, settings, H⟩ s c filter label :=
  onEntity hs (fun _ _ _ => rfl) c

variable (holds : B.held H H')

include holds

/-- What is recorded for an entity is recorded in both. -/
theorem avatarMissionComplete {g : Game} (bound : game = some g) (avatar : EntityId)
    (id : PrototypeId) :
    Env.avatarMissionComplete ⟨data, game, settings', H'⟩ s' g avatar id =
      Env.avatarMissionComplete ⟨data, game, settings, H⟩ s g avatar id := by
  unfold Env.avatarMissionComplete
  -- the avatar has no properties, or its state is read at matching places
  rcases own : g.properties? avatar with - | h
  · rfl
  · rcases data.schemas.lookup .avatarMissionState >>= (·.paramOfPrototype 0 id) with - | p
    · rfl
    · exact congrArg (fun d => (d >>= Datum.integer?).getD 0 == MissionState.completed.toRaw)
        (B.lookup hs holds (B.properties g bound avatar h own) (.ofParam .avatarMissionState p))

theorem missionComplete (c : Context) (id : PrototypeId) :
    Env.missionComplete ⟨data, game, settings', H'⟩ s' c id =
      Env.missionComplete ⟨data, game, settings, H⟩ s c id := by
  refine onEntity hs (fun g bound e => ?_) c
  rw [avatarMissionComplete hs holds bound]
  rfl

/-- A context has the same tier, be it that of an entity or one that is recorded. -/
theorem tierOf (c : Context) :
    Env.tierOf ⟨data, game, settings', H'⟩ s' c = Env.tierOf ⟨data, game, settings, H⟩ s c := by
  refine resolve_bind hs fun v v' same => ?_
  cases same with
  | collection h =>
    cases h with
    | none => rfl
    | some place =>
      exact congrArg (fun d => Except.ok ((d >>= Datum.prototype?).getD .null))
        (B.lookup hs holds place (.ofProperty .difficultyTier))
  | conditions => rfl
  | plain plain =>
    cases v with
    | collection => exact plain.elim
    | _ => rfl
  | entity _ known =>
    rcases bound : game with - | g
    · rfl
    · simp only [Bind.bind, Except.bind, Env.boundGame, Value.entityIn?, known g bound]

theorem tierInRange (c : Context) (min max : PrototypeId) :
    Env.tierInRange ⟨data, game, settings', H'⟩ s' c min max =
      Env.tierInRange ⟨data, game, settings, H⟩ s c min max := by
  rw [Env.tierInRange, Env.tierInRange, tierOf hs holds]

end

end Correspondence

end Rulebook
