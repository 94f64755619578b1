/-
Rulebook/Context.lean

Contexts: the names by which a rule reaches what it is evaluated on.  Eleven
of them are slots, which whoever runs the rule fills beforehand; the others
are the two scratch collections of the scopes of the rule, and the global
properties of the game.  Authored data stores a context as a number.
-/

namespace Rulebook

/-! ### Slots -/

/-- A named place that whoever runs a rule can fill. -/
inductive Slot where
  | default
  | entity
  | other
  | blackboard
  | condition
  | conditionKeywords
  | var1
  | var2
  | var3
  | var4
  | var5
deriving DecidableEq

namespace Slot

/-- All slots, in the order of their numbers. -/
def all : List Slot :=
  [.default, .entity, .other, .blackboard, .condition, .conditionKeywords,
    .var1, .var2, .var3, .var4, .var5]

/-- Number of a slot. -/
def index : Slot → Fin 11
  | .default => 0
  | .entity => 1
  | .other => 2
  | .blackboard => 3
  | .condition => 4
  | .conditionKeywords => 5
  | .var1 => 6
  | .var2 => 7
  | .var3 => 8
  | .var4 => 9
  | .var5 => 10

/-- Name of a slot. -/
def name : Slot → String
  | .default => "Default"
  | .entity => "Entity"
  | .other => "Other"
  | .blackboard => "EntityBehaviorBlackboard"
  | .condition => "Condition"
  | .conditionKeywords => "ConditionKeywords"
  | .var1 => "Var1"
  | .var2 => "Var2"
  | .var3 => "Var3"
  | .var4 => "Var4"
  | .var5 => "Var5"

/-- Whether a slot is one of the free variables. -/
def isVariable : Slot → Bool
  | .var1 | .var2 | .var3 | .var4 | .var5 => true
  | _ => false

theorem index_injective {a b : Slot} (h : a.index = b.index) : a = b := by
  revert h
  cases a <;> cases b <;> decide

end Slot

/-! ### Contexts -/

/-- A name that a rule can use. -/
inductive Context where
  | slot (s : Slot)
  /-- The scratch collection of the enclosing scope. -/
  | callerStack
  /-- The scratch collection of the current scope. -/
  | localStack
  /-- The global properties of the game. -/
  | globals
deriving DecidableEq

namespace Context

/-- All contexts. -/
def all : List Context := Slot.all.map .slot ++ [.callerStack, .localStack, .globals]

/-- Name of a context. -/
def name : Context → String
  | .slot s => s.name
  | .callerStack => "CallerStack"
  | .localStack => "LocalStack"
  | .globals => "Globals"

/-- The context with a given name. -/
def ofName? (s : String) : Option Context := all.find? (·.name == s)

/-- The slot of a context, if it is one. -/
def slot? : Context → Option Slot
  | .slot s => some s
  | _ => none

/-- Whether a context is one of the free variables. -/
def isVariable : Context → Bool
  | .slot s => s.isVariable
  | _ => false

/-- The context that authored data writes as a number. The number of the slots
themselves, eleven, names none. -/
def ofRaw? (raw : Nat) : Option Context :=
  match raw with
  | 11 => none
  | 12 => some .callerStack
  | 13 => some .localStack
  | 14 => some .globals
  | i => Slot.all[i]?.map .slot

end Context

/-! ### Uses of a context -/

/-- What the value of a context is wanted for. -/
inductive Access where
  /-- To read through it; a null pointer is refused. -/
  | read
  /-- To change what it points at; a read-only slot is refused as well. -/
  | write
  /-- To look at the value itself, null or not. -/
  | inspect
deriving DecidableEq

/-- The access with a given name. -/
def Access.ofName? : String → Option Access
  | "Read" => some .read
  | "Write" => some .write
  | "Inspect" => some .inspect
  | _ => none

end Rulebook
