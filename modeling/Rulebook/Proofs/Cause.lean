/-
Rulebook/Proofs/Cause.lean

Causes and the operators that raise them.  Some causes can be found by one
operator only, or by a few of the same sort: a curve is unknown to a load
from a curve, and only loops exceed the limit for loops.  `Cause.Fits` says
which operators these are, and every check that evaluation makes is `Fitting`
for the operator that makes it.
-/
import Rulebook.Eval.Basic

namespace Rulebook

/-! ### Operators -/

/-- Whether an operator has a form but no meaning yet. -/
def Operator.isReserved : Operator → Bool
  | .swapProp | .randomFloat | .randomInt | .loadEntityToContextVar
  | .loadConditionCollectionToContext | .entityHasKeyword | .entityHasTalent | .getCombatLevel
  | .getPowerRank | .calcPowerRank | .isInParty | .getDamageReductionPct
  | .getDistanceToEntity => true
  | _ => false

theorem Reserved.isReserved_operator {α : Type} (call : Reserved α) :
    call.operator.isReserved = true := by
  cases call <;> rfl

/-- Whether an operator records a value. -/
def Operator.Assigns (op : Operator) : Prop := op = .assignProp ∨ op = .assignPropEvalParams

/-- Whether an operator is a loop. -/
def Operator.Loops (op : Operator) : Prop :=
  op = .forLoop ∨ op = .forEachCondition ∨ op = .forEachProtoRef

/-- Whether an operator asks how far a player is with a mission. -/
def Operator.AsksMission (op : Operator) : Prop :=
  op = .missionIsActive ∨ op = .missionIsComplete

/-! ### Causes -/

/-- Whether an operator can find a cause to fail, under given settings. A cause
that is not named here can be found by any operator. -/
def Cause.Fits (settings : Settings) (op : Operator) : Cause → Prop
  | .divisionByZero => op = .div
  | .moduloByZero => op = .modulus
  | .unknownCurve _ => op = .loadCurve
  | .readOnlyContext _ | .propertyConversion .. => op.Assigns
  | .unknownMission _ => op.AsksMission
  | .exportError => op = .exportError
  | .notYetSupported o => o = op ∧ op.isReserved
  | .loopLimitExceeded limit => op.Loops ∧ settings.loopLimit = some limit
  | _ => True

/-- Whether an operator can find the causes that a check can find. -/
def Fitting {α : Type} (settings : Settings) (op : Operator) (x : Except Cause α) : Prop :=
  ∀ c, x = .error c → c.Fits settings op

namespace Fitting

variable {α β : Type} {settings : Settings} {op : Operator}

theorem ok (a : α) : Fitting settings op (.ok a) := nofun

theorem error {c : Cause} (h : c.Fits settings op) :
    Fitting settings op (.error c : Except Cause α) := by
  rintro _ ⟨⟩
  exact h

theorem bind {x : Except Cause α} {f : α → Except Cause β} (hx : Fitting settings op x)
    (hf : ∀ a, Fitting settings op (f a)) : Fitting settings op (x >>= f) := by
  rcases x with c | a
  · exact error (hx c rfl)
  · exact hf a

/-! ### Operands -/

theorem number (operand : String) (v : Value) :
    Fitting settings op (Number.ofValue operand v) := by
  cases v
  case int | float => exact ok _
  all_goals exact error trivial

theorem apply (op : ArithOp) (a b : Number) : Fitting settings op.operator (op.apply a b) := by
  unfold ArithOp.apply
  split
  next cause zero _ =>
    refine error ?_
    -- only a quotient and a remainder have a cause to refuse zero
    cases op with
    | div | modulus =>
      cases zero
      rfl
    | add | sub | mult | max | min => cases zero
  next =>
    split
    · split
      · exact ok _
      · exact ok _
    · exact ok _

theorem equalWithin (epsilon : Float32) (a b : Value) :
    Fitting settings op (a.equalWithin epsilon b) := by
  unfold Value.equalWithin
  split
  case h_8 => exact error trivial
  all_goals exact ok _

theorem truth (operand : String) (v : Value) : Fitting settings op (v.truth operand) := by
  cases v
  case bool => exact ok _
  all_goals exact error trivial

theorem branch (v : Value) : Fitting settings op v.branch := by
  cases v
  case bool | int | float => exact ok _
  all_goals exact error trivial

theorem position (v : Value) : Fitting settings op v.position := by
  cases v
  case int | float => exact ok _
  all_goals exact error trivial

/-! ### Contexts -/

/-- Only a use of a context for writing asks whether it is read-only. -/
theorem resolve (a : Activation) (globals : Option Handle) (c : Context) {access : Access}
    (h : access ≠ .write ∨ op.Assigns) :
    Fitting settings op (a.resolve globals c access) := by
  refine bind ?_ fun b => ?_
  · -- of all contexts only the global properties may be missing
    cases c
    case globals =>
      cases globals with
      | none => exact error trivial
      | some _ => exact ok _
    all_goals exact ok _
  · split
    next refused =>
      have writing : access = .write := of_decide_eq_true (Bool.and_eq_true_iff.mp refused).1
      exact error (h.resolve_left fun reading => reading writing)
    next =>
      split
      · exact error trivial
      · exact ok _

theorem reading (a : Activation) (globals : Option Handle) (c : Context) :
    Fitting settings op (a.resolve globals c .read) :=
  resolve a globals c (.inl (by decide))

/-! ### Properties -/

theorem storable (v : Value) : Fitting settings op v.storable := by
  cases v
  case error | undefined => exact error trivial
  all_goals exact ok _

/-- A value is converted by an assignment only. -/
theorem toDatum (v : Value) (schema : Schema) (h : op.Assigns) :
    Fitting settings op (v.toDatum schema) := by
  unfold Value.toDatum
  split
  · exact ok _
  · exact error h

variable (data : StaticData)

theorem schemaOf (p : Property) : Fitting settings op (data.schemaOf p) := by
  unfold StaticData.schemaOf
  split
  · exact ok _
  · exact error trivial

theorem schemaBy (id : PrototypeId) : Fitting settings op (data.schemaBy id) := by
  unfold StaticData.schemaBy
  split
  · exact schemaOf data _
  · exact error trivial

/-! ### Questions about the game -/

variable (env : Env) (s : State) (c : Context)

theorem boundGame : Fitting settings op env.boundGame := by
  unfold Env.boundGame
  split
  · exact ok _
  · exact error trivial

theorem contextEntity (g : Game) : Fitting settings op (env.contextEntity s c g) := by
  refine (reading _ _ c).bind fun v => ?_
  split
  · exact ok _
  · exact error trivial

theorem requirePlayer (player : Option EntityId) :
    Fitting settings op (Env.requirePlayer player) := by
  cases player with
  | some _ => exact ok _
  | none => exact error trivial

theorem tierOf : Fitting settings op (env.tierOf s c) := by
  refine (reading _ _ c).bind fun v => ?_
  split
  case h_3 => exact ok _
  case h_4 => exact error trivial
  all_goals
    refine (boundGame env).bind fun g => ?_
    split
    · exact ok _
    · exact error trivial

theorem tierInRange (min max : PrototypeId) :
    Fitting settings op (env.tierInRange s c min max) :=
  (tierOf env s c).bind fun _ => ok _

/-- A mission is looked up by the two questions about missions. -/
theorem mission (id : PrototypeId) (h : op.AsksMission) :
    Fitting settings op (env.mission id) := by
  unfold Env.mission
  split
  · exact ok _
  · exact error h

theorem missionActive (id : PrototypeId) :
    Fitting settings .missionIsActive (env.missionActive s c id) := by
  refine (boundGame env).bind fun g => (contextEntity env s c g).bind fun e => ?_
  refine (requirePlayer _).bind fun player => (mission env id (.inl rfl)).bind fun m => ?_
  exact ok _

theorem missionComplete (id : PrototypeId) :
    Fitting settings .missionIsComplete (env.missionComplete s c id) := by
  refine (boundGame env).bind fun g => (contextEntity env s c g).bind fun e => ?_
  refine (requirePlayer _).bind fun player => (mission env id (.inr rfl)).bind fun m => ?_
  split
  · exact ok _
  · split
    · exact error trivial
    · split
      · exact ok _
      · exact ok _

theorem hasInInventory (filter : PrototypeId) (label : InventoryLabel) :
    Fitting settings op (env.hasInInventory s c filter label) := by
  refine (boundGame env).bind fun g => (contextEntity env s c g).bind fun e => ?_
  split
  · exact error trivial
  · exact ok _

end Fitting

end Rulebook
