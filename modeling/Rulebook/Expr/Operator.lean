/-
Rulebook/Expr/Operator.lean

The operators of the rule language and their names.  A failure is reported
with the operator of the expression that raised it.
-/

namespace Rulebook

/-- Operator of a rule expression. -/
inductive Operator where
  -- literals and loads
  | loadInt | loadFloat | loadBool | loadAssetRef | loadProtoRef
  | loadContextInt | loadContextProtoRef | loadCurve | isContextDataNull
  -- arithmetic
  | add | sub | mult | div | modulus | max | min | exponent
  -- comparison and logic
  | equals | greaterThan | lessThan | and | or | not
  -- control flow
  | ifElse | scope | forLoop | forEachCondition | forEachProtoRef
  -- properties
  | assignProp | assignPropEvalParams | hasProp | loadProp | loadPropContextParams
  | loadPropEvalParams | swapProp
  -- predicates of the game
  | difficultyTierRange | missionIsActive | missionIsComplete | hasEntityInInventory
  | isDynamicCombatLevelEnabled | exportError
  -- reserved
  | randomFloat | randomInt | loadEntityToContextVar | loadConditionCollectionToContext
  | entityHasKeyword | entityHasTalent | getCombatLevel | getPowerRank | calcPowerRank
  | isInParty | getDamageReductionPct | getDistanceToEntity
deriving DecidableEq

/-- Name of an operator. -/
def Operator.name : Operator → String
  | .loadInt => "LoadInt"
  | .loadFloat => "LoadFloat"
  | .loadBool => "LoadBool"
  | .loadAssetRef => "LoadAssetRef"
  | .loadProtoRef => "LoadProtoRef"
  | .loadContextInt => "LoadContextInt"
  | .loadContextProtoRef => "LoadContextProtoRef"
  | .loadCurve => "LoadCurve"
  | .isContextDataNull => "IsContextDataNull"
  | .add => "Add"
  | .sub => "Sub"
  | .mult => "Mult"
  | .div => "Div"
  | .modulus => "Modulus"
  | .max => "Max"
  | .min => "Min"
  | .exponent => "Exponent"
  | .equals => "Equals"
  | .greaterThan => "GreaterThan"
  | .lessThan => "LessThan"
  | .and => "And"
  | .or => "Or"
  | .not => "Not"
  | .ifElse => "IfElse"
  | .scope => "Scope"
  | .forLoop => "For"
  | .forEachCondition => "ForEachConditionInContext"
  | .forEachProtoRef => "ForEachProtoRefInContextRefList"
  | .assignProp => "AssignProp"
  | .assignPropEvalParams => "AssignPropEvalParams"
  | .hasProp => "HasProp"
  | .loadProp => "LoadProp"
  | .loadPropContextParams => "LoadPropContextParams"
  | .loadPropEvalParams => "LoadPropEvalParams"
  | .swapProp => "SwapProp"
  | .difficultyTierRange => "DifficultyTierRange"
  | .missionIsActive => "MissionIsActive"
  | .missionIsComplete => "MissionIsComplete"
  | .hasEntityInInventory => "HasEntityInInventory"
  | .isDynamicCombatLevelEnabled => "IsDynamicCombatLevelEnabled"
  | .exportError => "ExportError"
  | .randomFloat => "RandomFloat"
  | .randomInt => "RandomInt"
  | .loadEntityToContextVar => "LoadEntityToContextVar"
  | .loadConditionCollectionToContext => "LoadConditionCollectionToContext"
  | .entityHasKeyword => "EntityHasKeyword"
  | .entityHasTalent => "EntityHasTalent"
  | .getCombatLevel => "GetCombatLevel"
  | .getPowerRank => "GetPowerRank"
  | .calcPowerRank => "CalcPowerRank"
  | .isInParty => "IsInParty"
  | .getDamageReductionPct => "GetDamageReductionPct"
  | .getDistanceToEntity => "GetDistanceToEntity"

/-! ### Families of operators -/

/-- Operators on two numbers with a numeric result. -/
inductive ArithOp where
  | add | sub | mult | div | modulus | max | min
deriving DecidableEq

/-- All arithmetic operators. -/
def ArithOp.all : List ArithOp := [.add, .sub, .mult, .div, .modulus, .max, .min]

/-- The operator that an arithmetic operator is. -/
def ArithOp.operator : ArithOp → Operator
  | .add => .add
  | .sub => .sub
  | .mult => .mult
  | .div => .div
  | .modulus => .modulus
  | .max => .max
  | .min => .min

/-- Operators that compare two numbers. -/
inductive CompareOp where
  | greater | less
deriving DecidableEq

/-- The operator that a comparison is. -/
def CompareOp.operator : CompareOp → Operator
  | .greater => .greaterThan
  | .less => .lessThan

/-- Operators on two truth values. -/
inductive LogicOp where
  | and | or
deriving DecidableEq

/-- The operator that a connective is. -/
def LogicOp.operator : LogicOp → Operator
  | .and => .and
  | .or => .or

end Rulebook
