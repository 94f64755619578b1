/-
Rulebook/Proofs/Children.lean

The children of an expression, and induction over them.  An expression keeps
its children in optional fields and in lists, and a reserved one keeps them
one level further down, so the recursor of `Expr` speaks about all of these
at once.  `Expr.children` lists the children in the order of their fields,
and `Expr.childInduction` is the induction principle that names nothing else.
What occurs in an expression at any depth is said by `Expr.Occurs`.
-/
import Rulebook.Expr.Basic

namespace Rulebook

/-- The children of a reserved expression, in the order of the fields. -/
def Reserved.children {α : Type} : Reserved α → List α
  | .randomFloat a b | .randomInt a b => a.toList ++ b.toList
  | .loadEntity _ a | .loadConditions _ a | .combatLevel a => a.toList
  | .damageReduction a b _ | .distance a b _ => a.toList ++ b.toList
  | .swapProp .. | .hasKeyword .. | .hasTalent .. | .powerRank .. | .calcPowerRank ..
  | .inParty .. => []

namespace Expr

/-- The children of an expression, in the order of the fields. -/
def children : Expr → List Expr
  | .curve _ a | .not a | .assign _ _ a => a.toList
  | .arith _ a b | .power a b | .equals a b _ | .compare _ a b | .logic _ a b =>
    a.toList ++ b.toList
  | .ifElse a b c => a.toList ++ b.toList ++ c.toList
  | .scope body => body
  | .forLoop a b c d body e => a.toList ++ b.toList ++ c.toList ++ d.toList ++ body ++ e.toList
  | .forEachCondition _ a b body c d => a.toList ++ b.toList ++ body ++ c.toList ++ d.toList
  | .forEachPrototype _ a b body c => a.toList ++ b.toList ++ body ++ c.toList
  | .assignBy _ _ a b c d e => a.toList ++ b.toList ++ c.toList ++ d.toList ++ e.toList
  | .loadBy _ _ a b c d => a.toList ++ b.toList ++ c.toList ++ d.toList
  | .reserved call => call.children
  | .int _ | .float _ | .bool _ | .asset _ | .prototype _ | .contextInt _ | .contextPrototype _
  | .isNull _ | .has .. | .load .. | .loadFrom .. | .tierInRange .. | .missionActive ..
  | .missionComplete .. | .hasInInventory .. | .dynamicCombatLevel | .exportError => []

/-! ### Induction -/

theorem sizeOf_lt_of_mem_option {c : Expr} {o : Option Expr} (h : c ∈ o) :
    sizeOf c < sizeOf o := by
  cases Option.mem_def.mp h
  simp

theorem sizeOf_lt_of_mem_reserved {c : Expr} {call : Reserved Expr} (h : c ∈ call.children) :
    sizeOf c < sizeOf call := by
  have := @sizeOf_lt_of_mem_option c
  cases call <;> simp [Reserved.children] at h ⊢ <;> grind

theorem sizeOf_lt_of_mem_children {c e : Expr} (h : c ∈ e.children) : sizeOf c < sizeOf e := by
  have := @sizeOf_lt_of_mem_option c
  have := @sizeOf_lt_of_mem_reserved c
  have := @List.sizeOf_lt_of_mem Expr c _
  cases e <;> simp [children] at h ⊢ <;> grind

/-- **Induction over expressions**: what passes from the children of an
expression to the expression holds of all expressions. -/
theorem childInduction {P : Expr → Prop} (step : ∀ e, (∀ c ∈ e.children, P c) → P e) (e : Expr) :
    P e :=
  step e fun c _ => childInduction step c
termination_by sizeOf e
decreasing_by exact sizeOf_lt_of_mem_children ‹c ∈ e.children›

/-! ### Occurrences -/

/-- Whether an expression is `e` itself or occurs in it, at any depth. -/
inductive Occurs (x : Expr) : Expr → Prop
  | self : Occurs x x
  | child {c e : Expr} : c ∈ e.children → Occurs x c → Occurs x e

theorem Occurs.trans {x y e : Expr} (h : x.Occurs y) (h' : y.Occurs e) : x.Occurs e := by
  induction h' with
  | self => exact h
  | child hc _ ih => exact .child hc ih

/-- In an expression without children nothing else occurs. -/
theorem Occurs.eq_of_leaf {x e : Expr} (h : x.Occurs e) (leaf : e.children = []) : x = e := by
  cases h with
  | self => rfl
  | child hc _ =>
    rw [leaf] at hc
    cases hc

/-- Whether an expression is a counted loop. -/
def IsCounted : Expr → Prop
  | .forLoop .. => True
  | _ => False

/-- Whether an expression is an assignment. -/
def IsAssignment : Expr → Prop
  | .assign .. | .assignBy .. => True
  | _ => False

/-- Whether an expression is a loop over conditions. -/
def LoopsConditions : Expr → Prop
  | .forEachCondition .. => True
  | _ => False

/-- Whether assignments and loops over conditions occur in an expression only if
they are allowed. -/
structure Within (assigns binds : Prop) (e : Expr) : Prop where
  assigns : ∀ x : Expr, x.Occurs e → x.IsAssignment → assigns
  binds : ∀ x : Expr, x.Occurs e → x.LoopsConditions → binds

theorem Within.child {assigns binds : Prop} {c e : Expr} (h : e.Within assigns binds)
    (hc : c ∈ e.children) : c.Within assigns binds :=
  ⟨fun x hx => h.assigns x (.child hc hx), fun x hx => h.binds x (.child hc hx)⟩

/-- An expression stays within what is allowed if it does itself
and its children do. -/
theorem Within.of_children {assigns binds : Prop} {e : Expr} (h : e.IsAssignment → assigns)
    (h' : e.LoopsConditions → binds) (children : ∀ c ∈ e.children, c.Within assigns binds) :
    e.Within assigns binds where
  assigns x hx assignment := by
    -- what occurs is the expression itself, or occurs in one of its children
    cases hx with
    | self => exact h assignment
    | child hc hx => exact (children _ hc).assigns x hx assignment
  binds x hx loop := by
    cases hx with
    | self => exact h' loop
    | child hc hx => exact (children _ hc).binds x hx loop

/-- Every expression is one where all is allowed. -/
theorem within_true (e : Expr) : e.Within True True :=
  ⟨fun _ _ _ => trivial, fun _ _ _ => trivial⟩

end Expr

end Rulebook
