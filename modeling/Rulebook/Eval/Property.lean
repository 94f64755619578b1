/-
Rulebook/Eval/Property.lean

Properties in rules.  A value crosses into a collection as a datum of the
declared type of the property (`Value.toDatum`) and comes back out of it by
`Value.ofDatum`, which loses nothing: identities travel as entity
identities, spans of time as integers.  A value is converted before the
collection is touched, so an assignment that fails leaves no trace of its
own.

A parameter is taken from a value by `Schema.encodeParam`; what cannot be
encoded leaves the declared default in place.
-/
import Rulebook.Eval.Run

namespace Rulebook

/-! ### Values and data -/

/-- A value as a datum of a type, if it can be one. -/
def Value.toDatum? (v : Value) : DataType → Option Datum
  | .integer => v.toInt64?.map .integer
  | .real => v.toFloat?.map .real
  | .boolean => v.toBool?.map .boolean
  | .prototype => v.prototype?.map .prototype
  | .asset => v.asset?.map .asset
  | .entity => v.entityId?.map .entity
  | .region => v.entityId?.map fun id => .region ⟨id.raw⟩
  | .time => v.toInt64?.map .time

/-- A value as a datum of the declared type of a property. -/
def Value.toDatum (v : Value) (s : Schema) : Except Cause Datum :=
  match v.toDatum? s.dataType with
  | some d => .ok d
  | none => .error (.propertyConversion s.name s.dataType v.kind)

/-- The value of a datum. -/
def Value.ofDatum : Datum → Value
  | .boolean v => .bool v
  | .real v => .float v
  | .integer v => .int v
  | .prototype v => .prototype v
  | .asset v => .asset v
  | .entity v => .entityId v
  | .region v => .entityId ⟨v.raw⟩
  | .time ms => .int ms

/-- A value that may be recorded: a failure and a statement have none. -/
def Value.storable (v : Value) : Except Cause Value :=
  match v with
  | .error | .undefined => .error (.typeMismatch "Eval" "a storable value" v.kind)
  | v => .ok v

/-- Parameter `i` of a property from a value, if it can be encoded. -/
def Schema.encodeParam (s : Schema) (i : Nat) (v : Value) : Option Param :=
  match s.paramType i with
  | .integer => v.toInt32? >>= fun n => (Param.ofInt n.toInt).toOption
  | .asset => v.asset? >>= s.paramOfAsset i
  | .prototype => v.prototype? >>= s.paramOfPrototype i
  | .invalid => none

/-! ### Schemas -/

/-- Schema of a property that a rule names by its key. -/
def StaticData.schemaOf (d : StaticData) (p : Property) : Except Cause Schema :=
  match d.schemas.lookup p with
  | some s => .ok s
  | none => .error (.unknownProperty p)

/-- Schema of a property that a rule names by its property prototype. -/
def StaticData.schemaBy (d : StaticData) (id : PrototypeId) : Except Cause Schema :=
  match d.schemas.ofPrototype? id with
  | some p => d.schemaOf p
  | none => .error (.unknownPropertyPrototype id)

namespace Eval

/-! ### Collections -/

/-- The collection behind a context, which may be the properties of an
entity. -/
def collection (env : Env) (c : Context) (access : Access) : Eval Handle := do
  let v ← resolve env c access
  match v.collectionIn? env.game with
  | some h => pure h
  | none => fail (.typeMismatch "Context" "a property collection" v.kind)

/-- Record a value under a key of a collection. -/
def record (h : Handle) (k : PropertyKey) (s : Schema) (v : Value) : Eval Value := do
  let d ← ofExcept (v.toDatum s)
  modify fun st => { st with store := st.store.set h k d }
  pure .undefined

/-- The value of a key of a collection; the declared default if it has none. -/
def retrieve (env : Env) (h : Handle) (k : PropertyKey) (s : Schema) : Eval Value := do
  let st ← get
  pure (.ofDatum ((st.store.get? (env.live st) h k).getD s.default))

/-- Whether a key of a collection has a value. -/
def hasKey (env : Env) (h : Handle) (k : PropertyKey) : Eval Bool := do
  let st ← get
  pure (st.store.has (env.live st) h k)

/-- The key of a property whose parameters have to be evaluated, the first one
first. -/
def keyWith (s : Schema) (param0 param1 param2 param3 : Eval Param) : Eval PropertyKey := do
  let p0 ← param0
  let p1 ← param1
  let p2 ← param2
  let p3 ← param3
  return .ofParams s.property #v[p0, p1, p2, p3]

/-! ### Loads that evaluate no child -/

/-- The value of a key of the collection behind a context. -/
def load (env : Env) (c : Context) (k : PropertyKey) : Eval Value := do
  if !k.isValid then fail (.missingField "Prop")
  let h ← collection env c .read
  retrieve env h k (← ofExcept (env.data.schemaOf k.property))

/-- Whether a key of the collection behind a context has a value. -/
def has (env : Env) (c : Context) (k : PropertyKey) : Eval Value := do
  if !k.isValid then fail (.missingField "Prop")
  pure (.bool (← hasKey env (← collection env c .read) k))

/-- The value of a named property whose first parameter, if it has one, is
what another context holds. -/
def loadFrom (env : Env) (c : Context) (property : PrototypeId) (param : Context) :
    Eval Value := do
  if !property.isValid then fail (.missingField "Prop")
  let h ← collection env c .read
  let s ← ofExcept (env.data.schemaBy property)
  if s.params.isEmpty then
    retrieve env h (.ofParams s.property s.defaultParams) s
  else
    let v ← resolve env param .read
    match s.encodeParam 0 v with
    | some p => retrieve env h (.ofParams s.property (s.defaultParamsWith p)) s
    | none => fail (.typeMismatch "PropContextParams" "ProtoRef or Int param" v.kind)

/-! ### Loads of slots -/

/-- The number in a slot, as an integer. -/
def contextInt (c : Context) : Eval Value := do
  match (← get).activation.binding? c with
  | none => fail (.invalidContext c)
  | some b =>
    match b.value.toInt64? with
    | some n => pure (.int n)
    | none => fail (.typeMismatch "Context" "Int or Float" b.value.kind)

/-- The prototype in a slot, null for any other kind of value. -/
def contextPrototype (c : Context) : Eval Value := do
  match (← get).activation.binding? c with
  | none => fail (.invalidContext c)
  | some b => pure (.prototype (b.value.prototype?.getD .null))

/-- Whether a context holds a null pointer; a free variable that was never
set counts as one. -/
def isNull (env : Env) (c : Context) : Eval Value := do
  let v ← resolve env c .inspect
  match v with
  | .collection _ | .conditions _ | .prototypeList _ | .prototypeVector _ | .entity _ =>
    pure (.bool v.isNull)
  | .error =>
    if c.isVariable then pure (.bool true)
    else fail (.typeMismatch "Context" "a reference" v.kind)
  | v => fail (.typeMismatch "Context" "a reference" v.kind)

end Eval

end Rulebook
