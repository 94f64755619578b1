/-
Rulebook/Proofs/Discipline.lean

What a run does, said once for the whole language.  A run changes its state
in six ways only: it records a datum, enters a frame, leaves it, gives a
loop's last part the caller stack from outside of the loop, binds the slots
of a condition, and clears them.  A `Conduct` is an invariant together with
what is promised about these six, and `Conduct.evalWith_agree` says that then
the invariant holds at the end of every run, however it ends.

Only an assignment records a datum for a rule, and only a loop over conditions
binds and clears their slots.  A conduct of rules without the one or the other
need not promise what these take; a conduct of all rules is a `Discipline`.

Three relations are kept along the way, since what holds from the beginning
of an expression to its end (`whole`) need not hold up to some point between:
inside of a frame the stacks differ (`inside`), and during the turns of a
loop over conditions the slots of the condition do too (`turn`).
-/
import Rulebook.Proofs.Children
import Rulebook.Proofs.Guarantee

namespace Rulebook

open Eval

/-! ### Schemas behind keys and expressions -/

/-- Whether rules read and write a key by a schema: the schema of the property
of the key, or one that a property prototype names and the key is built for. -/
def StaticData.Addresses (data : StaticData) (k : PropertyKey) (schema : Schema) : Prop :=
  data.schemaOf k.property = .ok schema ∨
    ∃ id params, data.schemaBy id = .ok schema ∧ k = .ofParams schema.property params

/-- What a load finds as the schema of the property it loads; nothing for an
expression that is no load. -/
def StaticData.loadSchema? (data : StaticData) : Expr → Option (Except Cause Schema)
  | .load _ k => some (data.schemaOf k.property)
  | .loadFrom _ id _ | .loadBy _ id .. => some (data.schemaBy id)
  | _ => none

/-! ### Conducts and disciplines -/

/-- An invariant of the states of a run against given data, with the promises
that carry it through every change of the state. What a conduct does not
speak about is left to anything. It is one of the rules whose parts assign only
if `assigns`, and loop over conditions only if `binds`. -/
structure Conduct (data : StaticData) (game : Option Game) (settings : Settings)
    (assigns binds : Prop) where
  inv : State → Prop := fun _ => True
  /-- The collections that the run may write. -/
  writable : Handle → Prop := fun _ => True
  /-- The entries that the run may record. -/
  storable : PropertyKey → Datum → Prop := fun _ _ => True
  /-- The values that a load may have for a schema. -/
  answer : Schema → Value → Prop := fun _ _ => True
  whole : State → State → Prop := fun _ _ => True
  inside : State → State → Prop := fun _ _ => True
  turn : State → State → Prop := fun _ _ => True
  whole_refl : ∀ s, whole s s := by intros; trivial
  whole_trans : ∀ {s t u}, whole s t → whole t u → whole s u := by intros; trivial
  inside_trans : ∀ {s t u}, inside s t → inside t u → inside s u := by intros; trivial
  turn_trans : ∀ {s t u}, turn s t → turn t u → turn s u := by intros; trivial
  inside_of_whole : ∀ s t, whole s t → inside s t := by intros; trivial
  turn_of_whole : ∀ s t, whole s t → turn s t := by intros; trivial
  writable_of_resolve : ∀ {s c v h}, assigns → inv s →
    s.activation.resolve data.globals c .write = .ok v → v.collectionIn? game = some h →
    writable h := by intros; trivial
  /-- Conditions are reached up to the number of turns that is admitted. -/
  writable_of_conditions : ∀ {s c v l i condition}, binds → inv s →
    s.activation.resolve data.globals c .read = .ok v → v.conditions? = some l →
    l.conditions[i]? = some condition → settings.admits (i + 1) →
    writable condition.properties := by intros; trivial
  writable_frame : ∀ {s}, inv s → writable s.frame := by intros; trivial
  storable_of_schema : ∀ {k schema d} (v : Value), data.Addresses k schema →
    v.toDatum schema = .ok d → storable k d := by intros; trivial
  storable_element : ∀ p, storable (.ofProperty .loopElement) (.prototype p) := by intros; trivial
  answer_of_schema : ∀ {s k schema} (live : Handle → Bool) (h : Handle), inv s →
    data.Addresses k schema →
    answer schema (.ofDatum ((s.store.get? live h k).getD schema.default)) := by intros; trivial
  record : ∀ {s h k d}, inv s → writable h → storable k d →
    inv (s.record h k d) ∧ whole s (s.record h k d)
  enter : ∀ {s}, inv s → inv s.enter
  leave : ∀ {s t}, inv s → inv t → inside s.enter t → inv (s.leave t) ∧ whole s (s.leave t)
  rebind : ∀ {s t}, inv s → inv t →
    inv (t.withCaller s.activation.callerStack) ∧ inside t (t.withCaller s.activation.callerStack)
  bind : ∀ {s condition}, binds → inv s → writable condition.properties →
    inv (s.withActivation (s.activation.bindCondition condition)) ∧
      turn s (s.withActivation (s.activation.bindCondition condition))
  clear : ∀ {s t}, binds → inv t → turn s t →
    inv (t.withActivation t.activation.clearCondition) ∧
      inside s (t.withActivation t.activation.clearCondition)

/-- A conduct of all rules. -/
abbrev Discipline (data : StaticData) (game : Option Game) (settings : Settings) :=
  Conduct data game settings True True

namespace Conduct

variable {data : StaticData} {game : Option Game} {settings : Settings}
variable {assigns binds : Prop} (C : Conduct data game settings assigns binds)
variable {α : Type}

/-- The guarantee of a whole expression. -/
def atWhole : Guarantee := ⟨C.inv, C.whole, C.whole_refl, C.whole_trans⟩

/-- The guarantee of a part of a frame. -/
def atInside : Guarantee :=
  ⟨C.inv, C.inside, fun s => C.inside_of_whole s s (C.whole_refl s), C.inside_trans⟩

/-- The guarantee of a part of a turn over conditions. -/
def atTurn : Guarantee :=
  ⟨C.inv, C.turn, fun s => C.turn_of_whole s s (C.whole_refl s), C.turn_trans⟩

variable {C}

theorem toInside {m m' : Eval α} {p : α → Prop} (h : C.atWhole.Agree m m' p) :
    C.atInside.Agree m m' p :=
  h.weaken rfl C.inside_of_whole

theorem toTurn {m m' : Eval α} {p : α → Prop} (h : C.atWhole.Agree m m' p) :
    C.atTurn.Agree m m' p :=
  h.weaken rfl C.turn_of_whole

/-! ### Frames and conditions -/

/-- A frame keeps the guarantee of a whole expression if its body keeps that
of a part, for every state that the frame can be entered from. -/
theorem inScope_agree {body body' : Activation → Handle → Eval α} {p : α → Prop}
    (h : ∀ s, C.inv s →
      C.atInside.Agree (body s.activation s.frame) (body' s.activation s.frame) p) :
    C.atWhole.Agree (inScope body) (inScope body') p := by
  intro s hs
  obtain ⟨r, t, e, e', inv, rel, post⟩ := h s hs s.enter (C.enter hs)
  obtain ⟨inv', rel'⟩ := C.leave hs inv rel
  refine ⟨r, s.leave t, ?_, ?_, inv', rel', post⟩
  · rw [exec_inScope, e]
  · rw [exec_inScope, e']

/-- A loop over conditions keeps the guarantee of a part of a frame. If no
condition was bound, the loop has to leave the state as it was. -/
theorem closing_agree (allowed : binds) {bound : Bool} {loop loop' : Eval α} {p : α → Prop}
    (h : C.atTurn.Agree loop loop' p)
    (unbound : bound = false → ∀ s, (exec loop s).2 = s) :
    C.atInside.Agree (closing bound loop) (closing bound loop') p := by
  intro s hs
  obtain ⟨stop | a, t, e, e', inv, rel, post⟩ := h s hs
  · rw [exec_closing, exec_closing, e, e']
    -- the slots are cleared if some were bound, else nothing has happened
    cases bound with
    | true => exact ⟨_, _, rfl, rfl, (C.clear allowed inv rel).1, (C.clear allowed inv rel).2, post⟩
    | false =>
      obtain rfl : t = s := by rw [← unbound rfl s, e]
      exact ⟨_, _, rfl, rfl, inv, C.inside_of_whole t t (C.whole_refl t), post⟩
  · rw [exec_closing, exec_closing, e, e']
    exact ⟨_, _, rfl, rfl, (C.clear allowed inv rel).1, (C.clear allowed inv rel).2, post⟩

/-- A turn for a condition keeps the guarantee of a turn if its parts keep that
of a whole expression and the condition may be written. -/
theorem conditionTurn_agree (allowed : binds) {gate gate' endGate endGate' : Eval Gate}
    {body body' : Eval Value} {condition : Condition}
    (hg : C.atWhole.Agree gate gate' fun _ => True)
    (hb : C.atWhole.Agree body body' fun _ => True)
    (he : C.atWhole.Agree endGate endGate' fun _ => True) (hc : C.writable condition.properties) :
    C.atTurn.Agree (conditionTurn gate body endGate condition)
      (conditionTurn gate' body' endGate' condition) fun _ => True := by
  refine (Guarantee.Agree.modify fun s hs => C.bind allowed hs hc).bind fun _ _ => ?_
  refine (toTurn hg).gated ((toTurn hb).bind fun last _ => ?_)
  exact (toTurn he).gated (Guarantee.Agree.pure trivial)

/-- A turn for a prototype records it in the frame of its loop. -/
theorem elementTurn_agree {frame : Handle} {gate gate' : Eval Gate} {body body' : Eval Value}
    {p : PrototypeId} (hg : C.atWhole.Agree gate gate' fun _ => True)
    (hb : C.atWhole.Agree body body' fun _ => True) (hf : C.writable frame) :
    C.atWhole.Agree (elementTurn frame gate body p) (elementTurn frame gate' body' p)
      fun _ => True := by
  refine hg.gated ?_
  refine (Guarantee.Agree.modify fun s hs => C.record hs hf (C.storable_element p)).bind
    fun _ _ => ?_
  exact hb.bind fun _ _ => Guarantee.Agree.pure trivial

/-- A loop over conditions that binds none of them leaves the state as it was. -/
theorem exec_forEach_unbound {env : Env} {turn : Condition → Eval Turn} {cs : List Condition}
    {last : Value} (h : (!cs.isEmpty && env.settings.admits 1) = false) (s : State) :
    (exec (forEach env turn cs 0 last) s).2 = s := by
  cases cs with
  | nil => rfl
  | cons c cs =>
    have h : env.settings.admits 1 = false := by simpa using h
    rw [forEach, beginTurn, Nat.zero_add, if_neg (by simp [h]), exec_bind_error (exec_fail _ _)]

/-! ### What is looped over -/

/-- The conditions that a loop can come to may be written. -/
theorem conditionsOf_agree (allowed : binds) {held : Handle → Bool} {c : Context} :
    C.atWhole.Agree (conditionsOf ⟨data, game, settings, held⟩ c)
      (conditionsOf ⟨data, game, settings, held⟩ c) fun l =>
        ∀ i condition, l.conditions[i]? = some condition → settings.admits (i + 1) →
          C.writable condition.properties := by
  refine Guarantee.Agree.resolve.bind fun v hv => ?_
  obtain ⟨s, hs, hv⟩ := hv
  split
  next l hl =>
    exact Guarantee.Agree.pure fun i condition hi admitted =>
      C.writable_of_conditions allowed hs hv hl hi admitted
  next => exact Guarantee.Agree.fail

theorem elementsOf_agree {env : Env} {c : Context} :
    C.atWhole.Agree (elementsOf env c) (elementsOf env c) fun _ => True := by
  refine Guarantee.Agree.resolve.bind fun v _ => ?_
  split
  · exact Guarantee.Agree.pure trivial
  · exact Guarantee.Agree.fail

/-! ### Loops -/

variable {held : Handle → Bool} {before before' : Eval Value}

theorem forLoop_agree {allowance : Nat}
    {init init' condition condition' advance advance' body body' : Eval Value}
    {after after' : Value → Eval Value}
    (hbefore : C.atWhole.Agree before before' fun _ => True)
    (hinit : C.atWhole.Agree init init' fun _ => True)
    (hcondition : C.atWhole.Agree condition condition' fun _ => True)
    (hadvance : C.atWhole.Agree advance advance' fun _ => True)
    (hbody : C.atWhole.Agree body body' fun _ => True)
    (hafter : ∀ last, C.atWhole.Agree (after last) (after' last) fun _ => True) :
    C.atWhole.Agree
      (forLoop ⟨data, game, settings, held⟩ allowance before init condition advance body after)
      (forLoop ⟨data, game, settings, held⟩ allowance before' init' condition' advance' body'
        after') fun _ => True := by
  -- each part keeps the inside relation, which is enough up to the end
  refine inScope_agree fun s hs => ?_
  refine (toInside hbefore).discard.bind fun _ _ => (toInside hinit).discard.bind fun _ _ => ?_
  refine (toInside hcondition).bind fun first _ => ?_
  have hturn := (toInside hbody).discard.bind fun _ _ => (toInside hadvance).discard
  refine ((toInside hcondition).repeatWhile hturn allowance 0 first).concluding fun last => ?_
  -- the caller stack from outside is put back for what comes after
  refine (Guarantee.Agree.modify fun t ht => C.rebind hs ht).bind fun _ _ => ?_
  exact toInside (hafter last)

theorem forEachCondition_agree (allowed : binds) {c : Context}
    {gate gate' endGate endGate' : Env → Eval Gate} {body body' : Env → Eval Value}
    {after after' : Env → Value → Eval Value}
    (hbefore : C.atWhole.Agree before before' fun _ => True)
    (hgate : ∀ held, C.atWhole.Agree (gate ⟨data, game, settings, held⟩)
      (gate' ⟨data, game, settings, held⟩) fun _ => True)
    (hbody : ∀ held, C.atWhole.Agree (body ⟨data, game, settings, held⟩)
      (body' ⟨data, game, settings, held⟩) fun _ => True)
    (hend : ∀ held, C.atWhole.Agree (endGate ⟨data, game, settings, held⟩)
      (endGate' ⟨data, game, settings, held⟩) fun _ => True)
    (hafter : ∀ held last, C.atWhole.Agree (after ⟨data, game, settings, held⟩ last)
      (after' ⟨data, game, settings, held⟩ last) fun _ => True) :
    C.atWhole.Agree
      (forEachCondition ⟨data, game, settings, held⟩ c before gate body endGate after)
      (forEachCondition ⟨data, game, settings, held⟩ c before' gate' body' endGate' after')
      fun _ => True := by
  refine inScope_agree fun s hs => (toInside hbefore).bind fun first _ => ?_
  refine (toInside (conditionsOf_agree allowed)).bind fun list hlist => ?_
  -- without a turn nothing is bound, and else all is cleared in the end
  refine (closing_agree allowed ?_ exec_forEach_unbound).concluding
    fun last => toInside (hafter _ last)
  refine Guarantee.Agree.forEach list.conditions 0 first fun i condition hi admitted => ?_
  refine conditionTurn_agree allowed (hgate _) (hbody _) (hend _) (hlist i condition hi ?_)
  rwa [Nat.zero_add] at admitted

theorem forEachPrototype_agree {c : Context} {gate gate' : Eval Gate} {body body' : Eval Value}
    {after after' : Value → Eval Value} (hbefore : C.atWhole.Agree before before' fun _ => True)
    (hgate : C.atWhole.Agree gate gate' fun _ => True)
    (hbody : C.atWhole.Agree body body' fun _ => True)
    (hafter : ∀ last, C.atWhole.Agree (after last) (after' last) fun _ => True) :
    C.atWhole.Agree (forEachPrototype ⟨data, game, settings, held⟩ c before gate body after)
      (forEachPrototype ⟨data, game, settings, held⟩ c before' gate' body' after')
      fun _ => True := by
  refine inScope_agree fun s hs => (toInside hbefore).bind fun first _ => ?_
  refine (toInside elementsOf_agree).bind fun elements _ => ?_
  -- a turn writes to the frame, which no one else can see
  have hturn := fun p => toInside (elementTurn_agree (p := p) hgate hbody (C.writable_frame hs))
  refine (Guarantee.Agree.forEach elements 0 first fun i p _ _ => hturn p).concluding ?_
  exact fun last => toInside (hafter last)

end Conduct

end Rulebook
