/-
Rulebook/Proofs/ReadOnly.lean

Runs from contexts that are read-only throughout.  With every slot read-only
and no stack set, nothing can be written but what a run binds for writing on
its own, and these are the properties of conditions: a loop over conditions
binds them for writing whatever the slot is that has the list.  So such a run
can change the properties of the conditions that a loop can come to, and the
entries of no other collection (`readOnly_run_changes_conditions_only`).

The rule that changes them is `marking`, a loop whose only statement records
a prototype with the condition of the turn.
-/
import Rulebook.Proofs.ReadBack

namespace Rulebook

open Eval

/-! ### Confinement of read-only contexts -/

namespace Activation

variable {a : Activation} {game : Option Game} {settings : Settings}

theorem confined_of_readOnly (readOnly : ∀ slot, (a.binding slot).readOnly = true)
    (caller : a.callerStack = none) (here : a.localStack = none) :
    a.Confined game settings (a.LoopsOver settings) where
  slots slot h free _ := by
    rw [readOnly slot] at free
    cases free
  callerStack h found := by
    rw [caller] at found
    cases found
  localStack h found := by
    rw [here] at found
    cases found
  conditions _ found := found

end Activation

/-! ### Marking conditions -/

/-- The address of a mark. -/
def markKey : PropertyKey := .ofProperty .loopElement

/-- The rule that records the prototype `x` with each condition that a slot
points at. -/
def marking (slot : Slot) (x : PrototypeId) : Expr :=
  .forEachCondition (.slot slot) none none
    [.assign (.slot .condition) markKey (some (.prototype x))] none none

/-- The state after a condition was bound and marked. -/
def State.mark (x : PrototypeId) (t : State) (c : Condition) : State :=
  (t.withActivation (t.activation.bindCondition c)).record c.properties markKey (.prototype x)

/-- Whether the collection `h`, if there is one, has the mark `x`. -/
def State.Marked (x : PrototypeId) (h : Handle) (t : State) : Prop :=
  h.index < t.store.cells.size → t.store.getLocal? h markKey = some (.prototype x)

theorem State.marked_mark_self (x : PrototypeId) (t : State) (c : Condition) :
    (t.mark x c).Marked x c.properties := by
  intro h
  have old : c.properties.index < t.store.cells.size := by rwa [← Store.size_set]
  exact Store.getLocal?_set_self t.store _ _ old

theorem State.Marked.mark {x : PrototypeId} {h : Handle} {t : State} (ht : t.Marked x h)
    (c : Condition) : (t.mark x c).Marked x h := by
  intro hs
  have old : h.index < t.store.cells.size := by rwa [← Store.size_set]
  rcases t.store.getLocal?_set_cases c.properties h markKey markKey (.prototype x) with same | new
  · exact same.trans (ht old)
  · exact new.2

variable {env : Env} {n : Nat} {schema : Schema} {x : PrototypeId}

section

variable (found : env.data.schemas.lookup .loopElement = some schema)
variable (type : schema.dataType = .prototype)

include found type

theorem exec_assign_mark {t : State} {h : Handle}
    (bound : t.activation.binding .condition = ⟨.collection (some h), false⟩) :
    exec (eval n env (.assign (.slot .condition) markKey (some (.prototype x)))) t =
      (.ok .undefined, t.record h markKey (.prototype x)) := by
  have target : env.target t (.slot .condition) = .ok h := by
    have resolved : t.activation.resolve env.data.globals (.slot .condition) .write =
        .ok (.collection (some h)) :=
      Activation.resolve_eq_ok_iff.mpr
        ⟨_, congrArg Except.ok bound, rfl, fun _ => rfl, fun _ => rfl⟩
    rw [Env.target, Env.behind, resolved]
    rfl
  have declared : env.data.schemaOf markKey.property = .ok schema := by
    rw [markKey, PropertyKey.property_ofProperty, StaticData.schemaOf, found]
  exact exec_assign (d := .prototype x) (by decide) rfl target declared type.symm

variable (env n x) in
/-- A turn of `marking` marks its condition. -/
theorem exec_markTurn (t : State) (c : Condition) :
    exec (conditionTurn (evalGate located n env none)
      (evalBody located n env [.assign (.slot .condition) markKey (some (.prototype x))] .undefined)
      (evalGate located n env none) c) t = (.ok (.next .undefined), t.mark x c) := by
  -- the condition is bound as writable, whatever holds the list
  have bound : (t.withActivation (t.activation.bindCondition c)).activation.binding .condition =
      ⟨.collection (some c.properties), false⟩ :=
    t.activation.binding_bindCondition_condition c
  unfold conditionTurn evalBody evalBody evalGate
  rw [exec_bind_ok (exec_modifyActivation ..), gated, exec_bind_ok (exec_pure ..)]
  dsimp only
  have marked := exec_assign_mark (n := n) (x := x) found type bound
  rw [eval] at marked
  rw [exec_bind, exec_bind_ok marked]
  rfl

end

/-! ### Runs of `marking` -/

/-- A loop over conditions passes on what its turns keep. -/
theorem exec_forEach_keeps {turn : Condition → Eval Turn} {step : State → Condition → State}
    {P : State → Prop} (hturn : ∀ t c, exec (turn c) t = (.ok (.next .undefined), step t c))
    (keeps : ∀ t c, P t → P (step t c)) :
    ∀ (cs : List Condition) (n : Nat) (last : Value) (t : State), P t →
      P (exec (forEach env turn cs n last) t).2
  | [], _, _, _, h => h
  | c :: cs, n, _, t, h => by
    -- the limit may end the loop before a turn, but not undo one
    unfold forEach beginTurn
    split
    · rw [exec_bind_ok (exec_pure ..), exec_bind_ok (hturn t c)]
      exact exec_forEach_keeps hturn keeps cs (n + 1) .undefined _ (keeps t c h)
    · rw [exec_bind_error (exec_fail ..)]
      exact h

variable (env) in
/-- A loop over conditions comes to every condition whose turn is admitted. -/
theorem exec_forEach_reaches {turn : Condition → Eval Turn} {step : State → Condition → State}
    {P : State → Prop} {condition : Condition}
    (hturn : ∀ t c, exec (turn c) t = (.ok (.next .undefined), step t c))
    (keeps : ∀ t c, P t → P (step t c)) (reached : ∀ t, P (step t condition)) :
    ∀ (cs : List Condition) (i n : Nat) (last : Value) (t : State), cs[i]? = some condition →
      env.settings.admits (n + i + 1) = true → P (exec (forEach env turn cs n last) t).2
  | c :: cs, i, n, _, t, hi, admitted => by
    have first : env.settings.admits (n + 1) = true :=
      env.settings.admits_of_le (by omega) admitted
    rw [forEach, beginTurn, if_pos first, exec_bind_ok (exec_pure ..), exec_bind_ok (hturn t c)]
    cases i with
    | zero =>
      -- this is the turn; those after it keep what it has done
      cases hi
      exact exec_forEach_keeps hturn keeps cs (n + 1) .undefined _ (reached t)
    | succ i =>
      refine exec_forEach_reaches hturn keeps reached cs i (n + 1) .undefined _ hi ?_
      rwa [show n + 1 + i + 1 = n + (i + 1) + 1 by omega]

/-- Running `marking` marks every condition that its loop can come to. -/
theorem marked_of_run (found : env.data.schemas.lookup .loopElement = some schema)
    (type : schema.dataType = .prototype) {s : State} {slot : Slot} {l : ConditionList} {i : Nat}
    {condition : Condition} (value : (s.activation.binding slot).value = .conditions (some l))
    (place : l.conditions[i]? = some condition) (admitted : env.settings.admits (i + 1) = true) :
    (exec (env.tryRun n (some (marking slot x))) s).2.Marked x condition.properties := by
  have list : exec (conditionsOf env (.slot slot)) s.enter = (.ok l, s.enter) := by
    have resolved : s.enter.activation.resolve env.data.globals (.slot slot) .read =
        .ok (.conditions (some l)) :=
      Activation.resolve_eq_ok_iff.mpr
        ⟨_, rfl, value, nofun, fun _ => congrArg Value.isNull value⟩
    rw [conditionsOf, exec_bind, exec_resolve, resolved]
    rfl
  have loop := exec_forEach_reaches (env.holding l.refersTo)
    (P := State.Marked x condition.properties)
    (exec_markTurn (env.holding l.refersTo) n x found type)
    (fun t c ht => ht.mark c) (fun t => t.marked_mark_self x condition) l.conditions i 0 .undefined
    s.enter place (by rwa [Nat.zero_add])
  -- the frame around the loop and the clearing after it leave the store to the loop
  show State.Marked x _ (exec (evalWith located n env (marking slot x)) s).2
  rw [marking, evalWith, located, exec_locating_state]
  simp only [List.isEmpty_cons, Bool.false_eq_true, if_false]
  rw [forEachCondition, exec_inScope]
  unfold evalOptional
  simp only
  rw [exec_bind_ok (exec_pure ..), exec_bind_ok list, exec_concluding_pure_state, State.Marked,
    State.leave, exec_closing_store]
  exact loop

/-! ### Read-only contexts -/

/-- Some prototype is not what is stored. -/
theorem exists_ne_prototype (d : Option Datum) : ∃ x : PrototypeId, d ≠ some (.prototype x) := by
  -- two prototypes are enough, one of them is not the datum
  by_cases h : d = some (.prototype ⟨0⟩)
  · refine ⟨⟨1⟩, ?_⟩
    rw [h]
    intro e
    injection e with e
    injection e with e
    exact absurd e (by decide)
  · exact ⟨⟨0⟩, h⟩

/-- **Read-only contexts are read-only but for the conditions.** With every slot
read-only and no stack set, a run changes the entries of a collection that was
there before it only if the collection is the properties of a condition that a
loop over the conditions in some slot can come to. And these it can change, as
soon as the loop element is registered for prototypes: the read-only slot does
not protect them. -/
theorem readOnly_run_changes_conditions_only (env : Env) (s : State) (h : Handle)
    (readOnly : ∀ slot, (s.activation.binding slot).readOnly = true)
    (caller : s.activation.callerStack = none) (here : s.activation.localStack = none)
    (old : h.index < s.store.cells.size) :
    (¬ s.activation.LoopsOver env.settings h → ∀ allowance rule,
      ((exec (env.tryRun allowance rule) s).2.store.cell h).entries =
        (s.store.cell h).entries) ∧
    (s.activation.LoopsOver env.settings h →
      ∀ schema, env.data.schemas.lookup .loopElement = some schema →
        schema.dataType = .prototype → ∃ rule, ∀ allowance,
          ((exec (env.tryRun allowance (some rule)) s).2.store.cell h).entries ≠
            (s.store.cell h).entries) := by
  have confined :
      s.activation.Confined env.game env.settings (s.activation.LoopsOver env.settings) :=
    Activation.confined_of_readOnly readOnly caller here
  constructor
  · intro outside allowance rule
    refine (tryRun_sameOff allowance env rule s confined).entries h ?_
    rintro (inside | new)
    · exact outside inside
    · exact Nat.not_le_of_lt old new
  · rintro ⟨slot, l, i, condition, value, place, admitted, rfl⟩ schema found type
    -- mark the condition with a prototype that its entry does not have yet
    obtain ⟨x, hx⟩ := exists_ne_prototype (s.store.getLocal? condition.properties markKey)
    refine ⟨marking slot x, fun allowance same => hx ?_⟩
    have marked := marked_of_run (n := allowance) (x := x) found type value place admitted
    have size := (tryRun_sameOff allowance env (some (marking slot x)) s confined).size
    rw [← marked (Nat.lt_of_lt_of_le old size)]
    unfold Store.getLocal?
    rw [same]

/-- A state whose only collection is the properties of a condition. All slots
have the condition in a list, and all are read-only. -/
def guardedState : State where
  store := ⟨#[{}]⟩
  activation := { slots := .replicate 11 ⟨.conditions (some ⟨0, [⟨⟨0⟩, []⟩]⟩), true⟩ }

/-- In a read-only list the properties of a condition are changed. -/
theorem guardedState_changes :
    let env : Env := ⟨{}, none, {}, fun _ => false⟩
    ∃ rule, ∀ allowance, ((exec (env.tryRun allowance (some rule)) guardedState).2.store.cell
      ⟨0⟩).entries ≠ (guardedState.store.cell ⟨0⟩).entries := by
  intro env
  have readOnly : ∀ slot, (guardedState.activation.binding slot).readOnly = true := by
    intro slot
    cases slot <;> rfl
  have reached : guardedState.activation.LoopsOver env.settings ⟨0⟩ :=
    ⟨.default, _, 0, _, rfl, rfl, rfl, rfl⟩
  have changed := readOnly_run_changes_conditions_only env guardedState ⟨0⟩ readOnly rfl rfl
    (by decide)
  exact changed.2 reached _ rfl rfl

end Rulebook
