/-
Rulebook/Proofs/EntityReference.lean

Entities by durable name and by pointer.  A slot may hold an entity in two ways,
and every operator gets at it by what the value stands for in the game: an entity,
or the collection of its properties.  So a rule does the same with both
(`guid_acts_as_pointer`), unless it asks whether the slot holds a null pointer,
which only a pointer can be asked.

A failure reports its cause, and some causes report the kind of a value that was
met.  Two runs that meet values of different kinds in the same place can therefore
not end the same, but they can end alike: with the same value, or with stops that
differ in such a kind at most (`Stop.Like`).  Operators that absorb a failure do
not look into it, so what they go on to is alike again.

The two runs start from states that are `Twins`: the same, but that some slots, the
`free` ones, may hold the name in the one and the pointer in the other.  Such states
correspond (`State.Twins.correspondence`), which is all there is to show.
-/
import Rulebook.Proofs.Result
import Rulebook.Proofs.Scoping

namespace Rulebook

open Eval

/-! ### Endings that are alike -/

/-- Whether two causes are the same, but for the kind of the value they report. -/
inductive Cause.Like : Cause → Cause → Prop
  | refl (c : Cause) : Like c c
  | kind (operand expected : String) (got got' : Kind) :
    Like (.typeMismatch operand expected got) (.typeMismatch operand expected got')

/-- Whether two failures have causes that are alike and the messages of these, and
the same place. -/
structure Failure.Like (f f' : Failure) : Prop where
  cause : f.cause.Like f'.cause
  worded : f.message = f.cause.message
  worded' : f'.message = f'.cause.message
  operator : f'.operator = f.operator
  node : f'.node = f.node

theorem Failure.Like.of_cause {c c' : Cause} (h : c.Like c') :
    Failure.Like { cause := c } { cause := c' } := ⟨h, rfl, rfl, rfl, rfl⟩

/-- Failures that are alike are located alike. -/
theorem Failure.Like.locate {f f' : Failure} (h : f.Like f') (e : Expr) :
    (f.locate e).Like (f'.locate e) := by
  unfold Failure.locate
  rw [h.operator]
  rcases f.operator with - | op
  · exact ⟨h.cause, h.worded, h.worded', rfl, rfl⟩
  · exact h

/-- Whether two stops are the same, but for the kinds that failures report. -/
inductive Stop.Like : Stop → Stop → Prop
  | failure {f f' : Failure} : f.Like f' → Like (.failure f) (.failure f')
  | abort (message : String) : Like (.abort message) (.abort message)
  | exhausted : Like .exhausted .exhausted

/-- Whether two endings have the same value, or errors that are alike. -/
inductive EndAlike {ε α : Type} (like : ε → ε → Prop) : Except ε α → Except ε α → Prop
  | ok (a : α) : EndAlike like (.ok a) (.ok a)
  | error {e e' : ε} : like e e' → EndAlike like (.error e) (.error e')

/-- The coupling for runs whose failures may report other kinds. -/
def Coupling.likeness : Coupling :=
  { Coupling.same with
    like := Failure.Like
    like_self := fun c => .of_cause (.refl c)
    like_locate := fun _ _ e like => like.locate e }

theorem Coupling.endAlike {α : Type} {r r' : Except Stop α}
    (h : Matched Coupling.likeness.Answers Eq r r') : EndAlike Stop.Like r r' := by
  cases h with
  | ok same => exact same ▸ .ok _
  | error answers =>
    -- a failure has its twin, and the other stops are the same
    cases answers with
    | failure like => exact .error (.failure like)
    | abort => exact .error (.abort _)
    | exhausted => exact .error .exhausted

/-! ### Values -/

/-- Whether two values are the same, or the durable name of an entity and the
pointer to it. -/
inductive Value.Twin (game : Option Game) : Value → Value → Prop
  | refl (v : Value) : Twin game v v
  | entity {id : DbGuid} {e : EntityId} (named : ∀ g, game = some g → g.byGuid? id = some e) :
    Twin game (.guid id) (.entity (some e))

theorem Value.Twin.corresponds {game : Option Game} {named : Prop} {v v' : Value}
    (h : v.Twin game v') (hn : named) : v.Corresponds game Eq (fun _ => True) named v' := by
  cases h with
  | refl v => exact .of_self (fun _ _ => rfl) fun _ _ => trivial
  | entity known => exact .entity hn known

theorem Value.Twin.refersTo {game : Option Game} {v v' : Value} (h : v.Twin game v') (g : Handle) :
    v'.refersTo g = v.refersTo g := by
  cases h <;> rfl

/-! ### States -/

/-- Whether two activations are the same, but that free slots may hold the durable
name of an entity in the one and the pointer to it in the other. -/
structure Activation.Twins (game : Option Game) (free : Slot → Prop) (a a' : Activation) :
    Prop where
  caller : a'.callerStack = a.callerStack
  here : a'.localStack = a.localStack
  readOnly : ∀ slot, (a'.binding slot).readOnly = (a.binding slot).readOnly
  holds : ∀ slot, (a.binding slot).value.Twin game (a'.binding slot).value
  others : ∀ slot, ¬ free slot → a'.binding slot = a.binding slot

/-- Whether two states have the same collections, and activations that are twins. -/
structure State.Twins (game : Option Game) (free : Slot → Prop) (s s' : State) : Prop where
  store : s'.store = s.store
  activation : s.activation.Twins game free s'.activation

namespace Activation.Twins

variable {game : Option Game} {free : Slot → Prop} {a a' : Activation}

/-- Values that are twins make twins in a slot. -/
theorem of_bind {v v' : Value} (a : Activation) (slot : Slot) (h : v.Twin game v')
    (readOnly : Bool) :
    (a.bind slot ⟨v, readOnly⟩).Twins game (· = slot) (a.bind slot ⟨v', readOnly⟩) where
  caller := rfl
  here := rfl
  readOnly t := by
    by_cases ht : slot = t
    · rw [ht, binding_bind_self, binding_bind_self]
    · rw [binding_bind_of_ne _ _ ht, binding_bind_of_ne _ _ ht]
  holds t := by
    -- the slot holds the two values, which are twins
    by_cases ht : slot = t
    · rw [ht, binding_bind_self, binding_bind_self]
      exact h
    · rw [binding_bind_of_ne _ _ ht, binding_bind_of_ne _ _ ht]
      exact .refl _
  others t ht := by
    rw [binding_bind_of_ne _ _ (Ne.symm ht), binding_bind_of_ne _ _ (Ne.symm ht)]

theorem bind (h : a.Twins game free a') (slot : Slot) (b : Binding) :
    (a.bind slot b).Twins game free (a'.bind slot b) where
  caller := h.caller
  here := h.here
  readOnly t := by
    by_cases ht : slot = t
    · rw [ht, binding_bind_self, binding_bind_self]
    · rw [binding_bind_of_ne _ _ ht, binding_bind_of_ne _ _ ht, h.readOnly]
  holds t := by
    -- what is bound on both sides is its own twin
    by_cases ht : slot = t
    · rw [ht, binding_bind_self, binding_bind_self]
      exact .refl _
    · rw [binding_bind_of_ne _ _ ht, binding_bind_of_ne _ _ ht]
      exact h.holds t
  others t fixed := by
    by_cases ht : slot = t
    · rw [ht, binding_bind_self, binding_bind_self]
    · rw [binding_bind_of_ne _ _ ht, binding_bind_of_ne _ _ ht, h.others t fixed]

theorem slotsReferTo (h : a.Twins game free a') (g : Handle) :
    a'.slotsReferTo g = a.slotsReferTo g := by
  rw [Bool.eq_iff_iff, slotsReferTo_iff, slotsReferTo_iff]
  simp only [(h.holds _).refersTo]

end Activation.Twins

namespace State.Twins

variable {game : Option Game} {free : Slot → Prop} {s s' : State}

/-- Twins keep the same collections alive. -/
theorem alive (h : s.Twins game free s') (held : Handle → Bool) : s'.alive held = s.alive held := by
  funext g
  rw [State.alive, State.alive, h.activation.slotsReferTo]

theorem value {data : StaticData} (h : s.Twins game free s') (c : Context) : Matched Eq
    (fun b b' => b'.readOnly = b.readOnly ∧
      b.value.Corresponds game Eq (fun _ => True) (∃ slot, free slot ∧ c = .slot slot) b'.value)
    (s.activation.value data.globals c) (s'.activation.value data.globals c) := by
  cases c with
  | slot slot =>
    refine .ok ⟨h.activation.readOnly slot, ?_⟩
    -- a free slot may hold twins, all other slots hold the same
    by_cases loose : free slot
    · exact (h.activation.holds slot).corresponds ⟨slot, loose, rfl⟩
    · rw [h.activation.others slot loose]
      exact .of_self (fun _ _ => rfl) fun _ _ => trivial
  | callerStack =>
    rw [Activation.value, Activation.value, h.activation.caller]
    exact .ok ⟨rfl, .of_self (fun _ _ => rfl) fun _ _ => trivial⟩
  | localStack =>
    rw [Activation.value, Activation.value, h.activation.here]
    exact .ok ⟨rfl, .of_self (fun _ _ => rfl) fun _ _ => trivial⟩
  | globals =>
    rcases data.globals with - | g
    · exact .error rfl
    · exact .ok ⟨rfl, .of_self (fun _ _ => rfl) fun _ _ => trivial⟩

variable (game free)

/-- Twins correspond as equal states do, but for how the free
slots hold an entity. -/
def correspondence (data : StaticData) : Correspondence Coupling.likeness data game :=
  { Correspondence.self Coupling.likeness data game with
    states := State.Twins game free
    named := fun c => ∃ slot, free slot ∧ c = .slot slot
    kinds := fun _ _ operand expected got got' => .of_cause (.kind operand expected got got')
    context := fun h => h.value
    lookup := by
      rintro s s' H _ g _ h rfl rfl k
      rw [h.alive, h.store]
    frame := fun h => by
      rw [State.frame, State.frame, h.store]
      rfl
    enter := fun h => ⟨by rw [State.enter, State.enter, h.store], h.activation.here,
      by rw [State.enter, State.enter, State.frame, State.frame, h.store],
      h.activation.readOnly, h.activation.holds, h.activation.others⟩
    leave := fun h h' => ⟨h'.store, h.activation.caller, h.activation.here,
      h'.activation.readOnly, h'.activation.holds, h'.activation.others⟩
    rebind := fun h h' => ⟨h'.store, h.activation.caller, h'.activation.here,
      h'.activation.readOnly, h'.activation.holds, h'.activation.others⟩
    record := by
      rintro s s' g _ h rfl k d
      exact ⟨by rw [State.record, State.record, h.store], h.activation⟩
    bind := fun h _ _ => ⟨h.store, (h.activation.bind _ _).bind _ _⟩
    clear := fun h => ⟨h.store, (h.activation.bind _ _).bind _ _⟩ }

end State.Twins

/-! ### By durable name and by pointer -/

/-- A rule does the same with an entity by its durable name and by the pointer to it,
unless it asks the slot for a null pointer.  It gives the same value, or it fails at
the same node of the rule for the same cause up to the kind that is reported, or it
is stopped from outside alike; and in either case with the same collections, the same
stacks and the same in every other slot.  The slot itself keeps the name and the
pointer, or what a loop over conditions has left in it. -/
theorem guid_acts_as_pointer {env : Env} {e : Expr} {slot : Slot} {id : DbGuid}
    {entity : EntityId} (named : ∀ g, env.game = some g → g.byGuid? id = some entity)
    (unasked : ¬ (Expr.isNull (.slot slot)).Occurs e) (n : Nat) (readOnly : Bool) (s : State) :
    let holding (v : Value) : State := s.withActivation (s.activation.bind slot ⟨v, readOnly⟩)
    let byGuid := exec (eval n env e) (holding (.guid id))
    let byPointer := exec (eval n env e) (holding (.entity (some entity)))
    EndAlike Stop.Like byGuid.1 byPointer.1 ∧
      byPointer.2.store = byGuid.2.store ∧
      byPointer.2.activation.callerStack = byGuid.2.activation.callerStack ∧
      byPointer.2.activation.localStack = byGuid.2.activation.localStack ∧
      (∀ t, t ≠ slot →
        byPointer.2.activation.binding t = byGuid.2.activation.binding t) ∧
      (byPointer.2.activation.binding slot).readOnly =
        (byGuid.2.activation.binding slot).readOnly ∧
      (byGuid.2.activation.binding slot).value.Twin env.game
        (byPointer.2.activation.binding slot).value := by
  intro holding byGuid byPointer
  have twins : (holding (.guid id)).Twins env.game (· = slot) (holding (.entity (some entity))) :=
    ⟨rfl, .of_bind s.activation slot (.entity named) readOnly⟩
  -- the one question that tells them apart is not asked of this slot
  have elsewhere : ∀ c, (∃ t, t = slot ∧ c = .slot t) → ¬ (Expr.isNull c).Occurs e := by
    rintro _ ⟨_, rfl, rfl⟩
    exact unasked
  have tied : (State.Twins.correspondence env.game (· = slot) env.data).Tied Eq
      (eval n env e) (eval n env e) :=
    Correspondence.evalWith_tied _ rfl
      (Coupling.likeness.serves_self (fun _ => trivial) env.settings n) e elsewhere
      fun _ _ _ _ => .inr ⟨rfl, trivial⟩
  -- nothing is excused, so both runs end
  rcases tied _ _ twins with ⟨_, _, _, excuse⟩ | ⟨r, r', t, t', guid, pointer, ends, rel⟩
  · exact excuse.elim
  · change byGuid = (r, t) at guid
    change byPointer = (r', t') at pointer
    rw [guid, pointer]
    exact ⟨Coupling.endAlike ends, rel.store, rel.activation.caller, rel.activation.here,
      rel.activation.others, rel.activation.readOnly slot, rel.activation.holds slot⟩

/-- An amount without parameters. -/
def might : Schema :=
  { property := ⟨20⟩, name := "Might", dataType := .integer, prototype := ⟨5020⟩ }

/-- A game with one entity, which has a durable name. -/
def outpost : Env where
  data := { schemas := (({} : Registry).register might).toOption.getD {} }
  game := some ((Game.spawn {} .worldEntity ⟨30⟩ ⟨0⟩).1.setGuid ⟨1⟩ ⟨77⟩)
  settings := {}
  held := fun _ => false

/-- Give an entity its might, and then read it as a number. -/
def empower : Expr :=
  .scope [.assign (.slot .entity) (.ofProperty ⟨20⟩) (some (.int 5)),
    .contextInt (.slot .entity)]

/-- With the pointer a rule fails where it fails with the durable name, and what
it has done before is done all the same. -/
theorem empower_by_pointer :
    let s : State := ⟨⟨#[{}]⟩, {}⟩
    let byPointer := exec (eval 0 outpost empower)
      (s.withActivation (s.activation.bind .entity ⟨.entity (some ⟨1⟩), false⟩))
    byPointer.2.store.getLocal? ⟨0⟩ (.ofProperty ⟨20⟩) = some (.integer 5) ∧
      ∃ f, byPointer.1 = .error (.failure f) ∧ f.operator = some .loadContextInt ∧
        f.node = some (Expr.contextInt (.slot .entity)).text := by
  have named : ∀ g, outpost.game = some g → g.byGuid? ⟨77⟩ = some ⟨1⟩ := by
    rintro g ⟨⟩
    rfl
  have unasked : ¬ (Expr.isNull (.slot .entity)).Occurs empower := by
    rintro (- | ⟨within, found⟩)
    rcases List.mem_cons.mp within with rfl | within
    · rcases found with - | ⟨within, found⟩
      rw [List.mem_singleton.mp within] at found
      cases found.eq_of_leaf rfl
    · rw [List.mem_singleton.mp within] at found
      cases found.eq_of_leaf rfl
  intro s byPointer
  obtain ⟨ends, store, -⟩ := guid_acts_as_pointer named unasked 0 false s
  constructor
  · have given := congrArg (·.getLocal? ⟨0⟩ (.ofProperty ⟨20⟩)) store
    exact given.trans rfl
  · have ends : EndAlike Stop.Like (.error (.failure
      (Failure.locate { cause := .typeMismatch "Context" "Int or Float" .guid }
        (.contextInt (.slot .entity))))) byPointer.1 := ends
    generalize byPointer.1 = r at ends ⊢
    cases ends with
    | error like =>
      cases like with
      | failure like => exact ⟨_, rfl, like.operator, like.node⟩

end Rulebook
