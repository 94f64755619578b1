/-
Rulebook/Describe.lean

Diagnostic texts of values and of activations.  They show everything there
is: a pointer is written with what it points at, a collection with its local
entries.  Whether a collection falls through to another depends on what is
alive, hence the predicate.
-/
import Rulebook.Activation

namespace Rulebook

/-! ### Pieces -/

/-- Something that may be absent. -/
def describeOption {α : Type} (describe : α → String) : Option α → String
  | some a => "Some(" ++ describe a ++ ")"
  | none => "None"

/-- A list. -/
def describeList {α : Type} (describe : α → String) (l : List α) : String :=
  "[" ++ ", ".intercalate (l.map describe) ++ "]"

/-- A record with named fields. -/
def describeRecord (name : String) (fields : List (String × String)) : String :=
  name ++ " \x7b " ++ ", ".intercalate (fields.map fun (f, v) => f ++ ": " ++ v) ++ " \x7d"

variable (live : Handle → Bool) (s : Store)

/-! ### Values -/

/-- A condition in diagnostics. -/
def Condition.describe (c : Condition) : String :=
  describeRecord "Condition"
    [("properties", s.describe live c.properties),
      ("keywords", describeList Ref.describe c.keywords)]

/-- A list of conditions in diagnostics. -/
def ConditionList.describe (l : ConditionList) : String :=
  describeRecord "ConditionCollection"
    [("conditions", describeList (Condition.describe live s) l.conditions)]

/-- A value in diagnostics: its kind and its payload. -/
def Value.describe (v : Value) : String :=
  let payload : Option String :=
    match v with
    | .error | .undefined => none
    | .int n => some (toString n)
    | .float x => some (Binary32.Style.exact.render x)
    | .bool b => some (toString b)
    | .asset id => some id.describe
    | .prototype id => some id.describe
    | .key k => some k.describe
    | .entityId id => some id.describe
    | .entity e => some (describeOption Ref.describe e)
    | .guid id => some id.describe
    | .collection h => some (describeOption (s.describe live) h)
    | .conditions l => some (describeOption (ConditionList.describe live s) l)
    | .prototypeList l => some (describeOption (describeList Ref.describe) l)
    | .prototypeVector l => some (describeOption (describeList Ref.describe) l)
  match payload with
  | some p => v.kind.name ++ "(" ++ p ++ ")"
  | none => v.kind.name

/-! ### Activations -/

/-- A binding in diagnostics. -/
def Binding.describe (b : Binding) : String :=
  describeRecord "ContextVar"
    [("var", b.value.describe live s), ("read_only", toString b.readOnly)]

/-- An activation in diagnostics, and whether a game is bound to it. -/
def Activation.describe (a : Activation) (bound : Bool) : String :=
  describeRecord "EvalContextData"
    [("vars", describeList (Binding.describe live s) a.slots.toList),
      ("caller_stack", describeOption (s.describe live) a.callerStack),
      ("local_stack", describeOption (s.describe live) a.localStack),
      ("has_game", toString bound)]

end Rulebook
