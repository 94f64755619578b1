/-
Rulebook/Expr/Basic.lean

Rule expressions.  An `Expr` is an authored rule: a tree that is only ever
read.  Data may leave a field empty, so every child that an author can leave
out is an `Option`; it is evaluation that refuses a rule whose required
child is missing.

Operators of one shape share a constructor and are told apart by a family of
`Rulebook.Expr.Operator`.  The operators that have a form but no meaning yet
are kept together in `Reserved`.
-/
import Rulebook.Context
import Rulebook.Expr.Operator
import Rulebook.InventoryLabel
import Rulebook.Property.Key

namespace Rulebook

/-! ### Reserved operators -/

/-- An expression of an operator that has no meaning yet, over children of
type `α`. -/
inductive Reserved (α : Type) where
  | swapProp (context : Context) (key : PropertyKey) (other : Context)
  | randomFloat (min max : Option α)
  | randomInt (min max : Option α)
  | loadEntity (context : Context) (entity : Option α)
  | loadConditions (context : Context) (entity : Option α)
  | hasKeyword (context : Context) (keyword : PrototypeId)
  | hasTalent (context : Context) (talent : PrototypeId)
  | combatLevel (entity : Option α)
  | powerRank (context : Context) (power : PrototypeId)
  | calcPowerRank (context : Context) (power : PrototypeId)
  | inParty (context : Context)
  | damageReduction (defense level : Option α) (damageType : AssetId)
  | distance (source target : Option α) (edgeToEdge : Bool)

/-- The operator of a reserved expression. -/
def Reserved.operator {α : Type} : Reserved α → Operator
  | .swapProp .. => .swapProp
  | .randomFloat .. => .randomFloat
  | .randomInt .. => .randomInt
  | .loadEntity .. => .loadEntityToContextVar
  | .loadConditions .. => .loadConditionCollectionToContext
  | .hasKeyword .. => .entityHasKeyword
  | .hasTalent .. => .entityHasTalent
  | .combatLevel .. => .getCombatLevel
  | .powerRank .. => .getPowerRank
  | .calcPowerRank .. => .calcPowerRank
  | .inParty .. => .isInParty
  | .damageReduction .. => .getDamageReductionPct
  | .distance .. => .getDistanceToEntity

/-! ### Expressions -/

/-- A rule expression. -/
inductive Expr where
  /-- An integer literal. -/
  | int (v : Int64)
  /-- A float literal. -/
  | float (v : Float32)
  /-- A truth value. -/
  | bool (v : Bool)
  /-- A literal reference to an asset. -/
  | asset (id : AssetId)
  /-- A literal reference to a prototype. -/
  | prototype (id : PrototypeId)
  /-- The number in a slot, as an integer. -/
  | contextInt (context : Context)
  /-- The prototype in a slot. -/
  | contextPrototype (context : Context)
  /-- Whether a context holds a null pointer. -/
  | isNull (context : Context)
  /-- The value of a curve at a position. -/
  | curve (id : CurveId) (index : Option Expr)
  /-- An arithmetic operator on two numbers. -/
  | arith (op : ArithOp) (arg1 arg2 : Option Expr)
  /-- A power, always in floating point. -/
  | power (base exponent : Option Expr)
  /-- Equality; floats may differ by as much as `epsilon`. -/
  | equals (arg1 arg2 : Option Expr) (epsilon : Float32)
  /-- A comparison of two numbers. -/
  | compare (op : CompareOp) (arg1 arg2 : Option Expr)
  /-- A connective of two truth values. -/
  | logic (op : LogicOp) (arg1 arg2 : Option Expr)
  /-- Negation of a truth value. -/
  | not (arg : Option Expr)
  /-- A choice between two expressions. -/
  | ifElse (conditional onTrue onFalse : Option Expr)
  /-- Statements in a scope of their own. -/
  | scope (body : List Expr)
  /-- A loop that goes on as long as a condition holds. -/
  | forLoop (before init condition advance : Option Expr) (body : List Expr)
      (after : Option Expr)
  /-- A loop over the conditions that a context points at. -/
  | forEachCondition (context : Context) (before gate : Option Expr) (body : List Expr)
      (endGate after : Option Expr)
  /-- A loop over the prototypes that a context points at. -/
  | forEachPrototype (context : Context) (before gate : Option Expr) (body : List Expr)
      (after : Option Expr)
  /-- Record a value under a key. -/
  | assign (context : Context) (key : PropertyKey) (value : Option Expr)
  /-- Record a value under the key of a named property with evaluated
  parameters. -/
  | assignBy (context : Context) (property : PrototypeId)
      (param0 param1 param2 param3 value : Option Expr)
  /-- Whether a key has a value. -/
  | has (context : Context) (key : PropertyKey)
  /-- The value of a key. -/
  | load (context : Context) (key : PropertyKey)
  /-- The value of a named property whose first parameter is in a context. -/
  | loadFrom (context : Context) (property : PrototypeId) (param : Context)
  /-- The value of a named property with evaluated parameters. -/
  | loadBy (context : Context) (property : PrototypeId)
      (param0 param1 param2 param3 : Option Expr)
  /-- Whether the difficulty tier of a context lies between two tiers. -/
  | tierInRange (context : Context) (min max : PrototypeId)
  /-- Whether a mission is active for a context. -/
  | missionActive (context : Context) (mission : PrototypeId)
  /-- Whether a mission is complete for a context. -/
  | missionComplete (context : Context) (mission : PrototypeId)
  /-- Whether a context holds an entity in one of its inventories. -/
  | hasInInventory (context : Context) (entity : PrototypeId) (label : InventoryLabel)
  /-- Whether combat levels are dynamic; they always are. -/
  | dynamicCombatLevel
  /-- Stands where the authored data could not be exported. -/
  | exportError
  /-- An operator that has no meaning yet. -/
  | reserved (call : Reserved Expr)

instance : Inhabited Expr := ⟨.exportError⟩

namespace Expr

/-- The operator of an expression. -/
def operator : Expr → Operator
  | .int _ => .loadInt
  | .float _ => .loadFloat
  | .bool _ => .loadBool
  | .asset _ => .loadAssetRef
  | .prototype _ => .loadProtoRef
  | .contextInt _ => .loadContextInt
  | .contextPrototype _ => .loadContextProtoRef
  | .isNull _ => .isContextDataNull
  | .curve .. => .loadCurve
  | .arith op .. => op.operator
  | .power .. => .exponent
  | .equals .. => .equals
  | .compare op .. => op.operator
  | .logic op .. => op.operator
  | .not _ => .not
  | .ifElse .. => .ifElse
  | .scope _ => .scope
  | .forLoop .. => .forLoop
  | .forEachCondition .. => .forEachCondition
  | .forEachPrototype .. => .forEachProtoRef
  | .assign .. => .assignProp
  | .assignBy .. => .assignPropEvalParams
  | .has .. => .hasProp
  | .load .. => .loadProp
  | .loadFrom .. => .loadPropContextParams
  | .loadBy .. => .loadPropEvalParams
  | .tierInRange .. => .difficultyTierRange
  | .missionActive .. => .missionIsActive
  | .missionComplete .. => .missionIsComplete
  | .hasInInventory .. => .hasEntityInInventory
  | .dynamicCombatLevel => .isDynamicCombatLevelEnabled
  | .exportError => .exportError
  | .reserved call => call.operator

/-! ### Equality -/

mutual

/-- Equality of expressions: the same tree, with float literals and
tolerances compared as numbers. -/
protected def beq : Expr → Expr → Bool
  | .int a, .int b => a == b
  | .float a, .float b => a == b
  | .bool a, .bool b => a == b
  | .asset a, .asset b => a == b
  | .prototype a, .prototype b => a == b
  | .contextInt a, .contextInt b => a == b
  | .contextPrototype a, .contextPrototype b => a == b
  | .isNull a, .isNull b => a == b
  | .curve a i, .curve b j => a == b && childBeq i j
  | .arith o a b, .arith p c d => o == p && childBeq a c && childBeq b d
  | .power a b, .power c d => childBeq a c && childBeq b d
  | .equals a b e, .equals c d f => childBeq a c && childBeq b d && e == f
  | .compare o a b, .compare p c d => o == p && childBeq a c && childBeq b d
  | .logic o a b, .logic p c d => o == p && childBeq a c && childBeq b d
  | .not a, .not b => childBeq a b
  | .ifElse a b c, .ifElse d e f => childBeq a d && childBeq b e && childBeq c f
  | .scope a, .scope b => bodyBeq a b
  | .forLoop a b c d e f, .forLoop u v w x y z =>
    childBeq a u && childBeq b v && childBeq c w && childBeq d x && bodyBeq e y && childBeq f z
  | .forEachCondition a b c d e f, .forEachCondition u v w x y z =>
    a == u && childBeq b v && childBeq c w && bodyBeq d x && childBeq e y && childBeq f z
  | .forEachPrototype a b c d e, .forEachPrototype v w x y z =>
    a == v && childBeq b w && childBeq c x && bodyBeq d y && childBeq e z
  | .assign a b c, .assign d e f => a == d && b == e && childBeq c f
  | .assignBy a b c d e f g, .assignBy t u v w x y z =>
    a == t && b == u && childBeq c v && childBeq d w && childBeq e x && childBeq f y &&
      childBeq g z
  | .has a b, .has c d => a == c && b == d
  | .load a b, .load c d => a == c && b == d
  | .loadFrom a b c, .loadFrom d e f => a == d && b == e && c == f
  | .loadBy a b c d e f, .loadBy u v w x y z =>
    a == u && b == v && childBeq c w && childBeq d x && childBeq e y && childBeq f z
  | .tierInRange a b c, .tierInRange d e f => a == d && b == e && c == f
  | .missionActive a b, .missionActive c d => a == c && b == d
  | .missionComplete a b, .missionComplete c d => a == c && b == d
  | .hasInInventory a b c, .hasInInventory d e f => a == d && b == e && c == f
  | .dynamicCombatLevel, .dynamicCombatLevel => true
  | .exportError, .exportError => true
  | .reserved a, .reserved b => reservedBeq a b
  | _, _ => false
termination_by structural e => e

/-- Equality of optional children. -/
def childBeq : Option Expr → Option Expr → Bool
  | none, none => true
  | some a, some b => Expr.beq a b
  | _, _ => false
termination_by structural e => e

/-- Equality of statement lists. -/
def bodyBeq : List Expr → List Expr → Bool
  | [], [] => true
  | a :: as, b :: bs => Expr.beq a b && bodyBeq as bs
  | _, _ => false
termination_by structural es => es

/-- Equality of reserved expressions. -/
def reservedBeq : Reserved Expr → Reserved Expr → Bool
  | .swapProp a b c, .swapProp d e f => a == d && b == e && c == f
  | .randomFloat a b, .randomFloat c d => childBeq a c && childBeq b d
  | .randomInt a b, .randomInt c d => childBeq a c && childBeq b d
  | .loadEntity a b, .loadEntity c d => a == c && childBeq b d
  | .loadConditions a b, .loadConditions c d => a == c && childBeq b d
  | .hasKeyword a b, .hasKeyword c d => a == c && b == d
  | .hasTalent a b, .hasTalent c d => a == c && b == d
  | .combatLevel a, .combatLevel b => childBeq a b
  | .powerRank a b, .powerRank c d => a == c && b == d
  | .calcPowerRank a b, .calcPowerRank c d => a == c && b == d
  | .inParty a, .inParty b => a == b
  | .damageReduction a b c, .damageReduction d e f => childBeq a d && childBeq b e && c == f
  | .distance a b c, .distance d e f => childBeq a d && childBeq b e && c == f
  | _, _ => false
termination_by structural r => r

end

instance : BEq Expr := ⟨Expr.beq⟩

end Expr

end Rulebook
