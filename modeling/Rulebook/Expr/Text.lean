/-
Rulebook/Expr/Text.lean

Text of expressions.  Diagnostics show a rule as calls of its operators,
`Add(2, 0.5f)`.  A missing child is written `null` and a statement list in
braces.  What a loop evaluates before and after its turns is left out of the
text of the two loops over something.
-/
import Rulebook.Binary32.Text
import Rulebook.Expr.Basic

namespace Rulebook

/-- An operator applied to arguments. -/
def Operator.call (op : Operator) (args : List String) : String :=
  op.name ++ "(" ++ ", ".intercalate args ++ ")"

namespace Expr

/-- A statement list around the texts of its statements. -/
def blockText (body : List String) : String := "\x7b" ++ "; ".intercalate body ++ "\x7d"

mutual

/-- Text of an expression. -/
def text : Expr → String
  | .int v => toString v
  | .float v => Binary32.Style.exact.render v ++ "f"
  | .bool v => toString v
  | .asset id => id.describe
  | .prototype id => id.describe
  | .contextInt c => Operator.loadContextInt.call [c.name]
  | .contextPrototype c => Operator.loadContextProtoRef.call [c.name]
  | .isNull c => Operator.isContextDataNull.call [c.name]
  | .curve id index => Operator.loadCurve.call [id.describe, childText index]
  | .arith op a b => op.operator.call [childText a, childText b]
  | .power a b => Operator.exponent.call [childText a, childText b]
  | .equals a b epsilon =>
    Operator.equals.call
      [childText a, childText b, "epsilon=" ++ Binary32.Style.plain.render epsilon]
  | .compare op a b => op.operator.call [childText a, childText b]
  | .logic op a b => op.operator.call [childText a, childText b]
  | .not a => Operator.not.call [childText a]
  | .ifElse a b c => Operator.ifElse.call [childText a, childText b, childText c]
  | .scope body => Operator.scope.name ++ blockText (bodyText body)
  | .forLoop before init condition advance body after =>
    Operator.forLoop.name ++ "(" ++ childText before ++ "; " ++ childText init ++ "; " ++
      childText condition ++ "; " ++ childText advance ++ ") " ++ blockText (bodyText body) ++
      " then " ++ childText after
  | .forEachCondition c _ gate body endGate _ =>
    Operator.forEachCondition.call
      [c.name, "pre=" ++ childText gate, "post=" ++ childText endGate] ++ " " ++
      blockText (bodyText body)
  | .forEachPrototype c _ gate body _ =>
    Operator.forEachProtoRef.call [c.name, "while=" ++ childText gate] ++ " " ++
      blockText (bodyText body)
  | .assign c key value => Operator.assignProp.call [c.name, key.describe, childText value]
  | .assignBy c property p q r s value =>
    Operator.assignPropEvalParams.call
      [c.name,
        property.describe ++ "[" ++
          ", ".intercalate [childText p, childText q, childText r, childText s] ++ "]",
        childText value]
  | .has c key => Operator.hasProp.call [c.name, key.describe]
  | .load c key => Operator.loadProp.call [c.name, key.describe]
  | .loadFrom c property param =>
    Operator.loadPropContextParams.call [c.name, property.describe ++ "[" ++ param.name ++ "]"]
  | .loadBy c property p q r s =>
    Operator.loadPropEvalParams.call
      [c.name,
        property.describe ++ "[" ++
          ", ".intercalate [childText p, childText q, childText r, childText s] ++ "]"]
  | .tierInRange c min max =>
    Operator.difficultyTierRange.call [c.name, min.describe ++ "..=" ++ max.describe]
  | .missionActive c mission => Operator.missionIsActive.call [c.name, mission.describe]
  | .missionComplete c mission => Operator.missionIsComplete.call [c.name, mission.describe]
  | .hasInInventory c entity label =>
    Operator.hasEntityInInventory.call [c.name, entity.describe, label.name]
  | .dynamicCombatLevel => Operator.isDynamicCombatLevelEnabled.call []
  | .exportError => Operator.exportError.call []
  | .reserved call => reservedText call
termination_by structural e => e

/-- Text of an optional child. -/
def childText : Option Expr → String
  | none => "null"
  | some e => text e
termination_by structural e => e

/-- Texts of statements. -/
def bodyText : List Expr → List String
  | [] => []
  | e :: es => text e :: bodyText es
termination_by structural es => es

/-- Text of a reserved expression. -/
def reservedText : Reserved Expr → String
  | .swapProp c key other => Operator.swapProp.call [c.name, key.describe, other.name]
  | .randomFloat a b => Operator.randomFloat.call [childText a, childText b]
  | .randomInt a b => Operator.randomInt.call [childText a, childText b]
  | .loadEntity c a => Operator.loadEntityToContextVar.call [c.name, childText a]
  | .loadConditions c a => Operator.loadConditionCollectionToContext.call [c.name, childText a]
  | .hasKeyword c id => Operator.entityHasKeyword.call [c.name, id.describe]
  | .hasTalent c id => Operator.entityHasTalent.call [c.name, id.describe]
  | .combatLevel a => Operator.getCombatLevel.call [childText a]
  | .powerRank c id => Operator.getPowerRank.call [c.name, id.describe]
  | .calcPowerRank c id => Operator.calcPowerRank.call [c.name, id.describe]
  | .inParty c => Operator.isInParty.call [c.name]
  | .damageReduction a b damageType =>
    Operator.getDamageReductionPct.call [childText a, childText b, damageType.describe]
  | .distance a b edgeToEdge =>
    Operator.getDistanceToEntity.call
      [childText a, childText b, "edge_to_edge=" ++ toString edgeToEdge]
termination_by structural r => r

end

end Expr

end Rulebook
