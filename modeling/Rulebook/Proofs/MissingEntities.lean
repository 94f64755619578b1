/-
Rulebook/Proofs/MissingEntities.lean

Entities that are not there.  Four questions are about the entity in a context:
for its difficulty tier, for the two stages of a mission, and for what it holds
(`EntityQuestion`).  A context may have the durable name of an entity, or a
pointer to it, and they are not treated alike where there is no such entity:

* a durable name is looked up in the game, which knows only the names of its
  own entities.  All four questions are rejected, and tell that the context does
  not reference a live entity;
* a pointer is taken for the entity itself, and is never looked up.  What the
  question then asks of the game is not known of the entity, and each question
  has an answer of its own to that (`EntityQuestion.vacant`): it is nowhere, so
  that no tier is out of range; it holds nothing; and it is no player, which
  rejects both questions about missions.

So a pointer to an entity that is not there is rejected exactly by the questions
about missions (`missing_entity_answers`).
-/
import Rulebook.Proofs.Query

namespace Rulebook

open Eval

/-! ### Questions about an entity -/

/-- A question about the entity in a context. -/
inductive EntityQuestion where
  | tierInRange (min max : PrototypeId)
  | missionActive (mission : PrototypeId)
  | missionComplete (mission : PrototypeId)
  | hasInInventory (filter : PrototypeId) (label : InventoryLabel)

namespace EntityQuestion

/-- The expression that asks a question about the entity in a context. -/
def expr (c : Context) : EntityQuestion → Expr
  | tierInRange min max => .tierInRange c min max
  | missionActive mission => .missionActive c mission
  | missionComplete mission => .missionComplete c mission
  | hasInInventory filter label => .hasInInventory c filter label

/-- The answer to a question about the entity in a context. -/
def ask (env : Env) (s : State) (c : Context) : EntityQuestion → Except Cause Bool
  | tierInRange min max => env.tierInRange s c min max
  | missionActive mission => env.missionActive s c mission
  | missionComplete mission => env.missionComplete s c mission
  | hasInInventory filter label => env.hasInInventory s c filter label

/-- Whether a question has all it needs: an inventory needs a label. -/
def IsComplete : EntityQuestion → Prop
  | hasInInventory _ label => label.isSet = true
  | _ => True

/-- The answer about an entity that is not there, if it is asked for by a pointer. -/
def vacant : EntityQuestion → Except Cause Bool
  | tierInRange .. => .ok true
  | missionActive _ | missionComplete _ => .error (.invalidContextObject "context is not a player")
  | hasInInventory .. => .ok false

/-- What is told of a context whose value stands for no entity. -/
def rejection (c : Context) (v : Value) : EntityQuestion → Cause
  | tierInRange .. => .invalidContextObject s!"{c.name} does not reference a live entity"
  | _ => .invalidContextObject s!"{c.name} does not reference a live entity, got {v.kind.name}"

theorem exec_expr (n : Nat) (env : Env) (s : State) (c : Context) (q : EntityQuestion) :
    exec (eval n env (q.expr c)) s = ((q.expr c).ending ((q.ask env s c).map .bool), s) := by
  cases q with
  | tierInRange min max => exact exec_predicate _ (env.tierInRange · c min max) s
  | missionActive id => exact exec_predicate _ (env.missionActive · c id) s
  | missionComplete id => exact exec_predicate _ (env.missionComplete · c id) s
  | hasInInventory filter label => exact exec_predicate _ (env.hasInInventory · c filter label) s

end EntityQuestion

/-! ### What a game knows of an entity that it does not have -/

namespace Game

variable {g : Game} {e : EntityId}

theorem region?_of_missing (missing : g.entity? e = none) : g.region? e = none := by
  rw [region?, missing]; rfl

theorem inventory?_of_missing (missing : g.entity? e = none) (label : InventoryLabel) :
    g.inventory? e label = none := by
  rw [inventory?, missing]; rfl

theorem kind?_of_missing (missing : g.entity? e = none) : g.kind? e = none := by
  rw [kind?, missing]; rfl

theorem playerOf?_of_missing (missing : g.entity? e = none) : g.playerOf? e = none := by
  rw [playerOf?, kind?_of_missing missing]

theorem owningPlayer?_of_missing (missing : g.entity? e = none) : g.owningPlayer? e = none := by
  rw [owningPlayer?, playerAbove?, kind?_of_missing missing]

end Game

/-! ### Pointers and durable names -/

namespace Env

variable {env : Env} {s : State} {c : Context} {g : Game} {v : Value} {e : EntityId}

theorem contextEntity_of_some (resolved : s.activation.resolve env.data.globals c .read = .ok v)
    (stands : v.entityIn? g = some e) : env.contextEntity s c g = .ok e := by
  rw [contextEntity, bind_ok resolved]
  simp only [stands]

theorem contextEntity_of_none (resolved : s.activation.resolve env.data.globals c .read = .ok v)
    (nothing : v.entityIn? g = none) :
    env.contextEntity s c g = .error (.invalidContextObject
      s!"{c.name} does not reference a live entity, got {v.kind.name}") := by
  rw [contextEntity, bind_ok resolved]
  simp only [nothing]

end Env

namespace EntityQuestion

variable {env : Env} {s : State} {c : Context} {g : Game} {e : EntityId} {id : DbGuid}

/-- Where a pointer leads to nothing, each question has an answer of its own. -/
theorem ask_pointer {q : EntityQuestion} (bound : env.game = some g) (complete : q.IsComplete)
    (resolved : s.activation.resolve env.data.globals c .read = .ok (.entity (some e)))
    (missing : g.entity? e = none) : q.ask env s c = q.vacant := by
  have game : env.boundGame = .ok g := Env.boundGame_eq_ok_iff.mpr bound
  -- the pointer is not looked up, so that it is enough for an entity
  have entity : env.contextEntity s c g = .ok e := Env.contextEntity_of_some resolved rfl
  cases q with
  | tierInRange min max =>
    have nowhere : env.tierOf s c = .ok .null := by
      rw [Env.tierOf, Env.bind_ok resolved]
      show (env.boundGame >>= _) = _
      rw [Env.bind_ok game]
      show Except.ok (((g.region? e).map g.regionTier).getD .null) = _
      rw [Game.region?_of_missing missing]
      rfl
    rw [ask, Env.tierInRange, Env.bind_ok nowhere]
    rfl
  | missionActive id =>
    rw [ask, Env.missionActive, Env.bind_ok game, Env.bind_ok entity,
      Game.playerOf?_of_missing missing]
    rfl
  | missionComplete id =>
    rw [ask, Env.missionComplete, Env.bind_ok game, Env.bind_ok entity,
      Game.owningPlayer?_of_missing missing]
    rfl
  | hasInInventory filter label =>
    rw [ask, Env.hasInInventory, Env.bind_ok game, Env.bind_ok entity,
      Game.inventory?_of_missing missing, show label.isSet = true from complete]
    rfl

/-- A durable name of nothing is rejected by every question. -/
theorem ask_durable_name {q : EntityQuestion} (bound : env.game = some g)
    (resolved : s.activation.resolve env.data.globals c .read = .ok (.guid id))
    (nothing : g.byGuid? id = none) : q.ask env s c = .error (q.rejection c (.guid id)) := by
  have game : env.boundGame = .ok g := Env.boundGame_eq_ok_iff.mpr bound
  have entity := Env.contextEntity_of_none (g := g) resolved nothing
  cases q with
  | tierInRange min max =>
    -- this question resolves the context itself, and has its own words for failure
    have rejected : env.tierOf s c =
        .error (.invalidContextObject s!"{c.name} does not reference a live entity") := by
      rw [Env.tierOf, Env.bind_ok resolved]
      show (env.boundGame >>= _) = _
      rw [Env.bind_ok game]
      simp only [Value.entityIn?, nothing]
    exact Env.bind_error rejected
  -- the three others look for the entity first, and end with its failure
  | missionActive id =>
    rw [ask, Env.missionActive, Env.bind_ok game, Env.bind_error entity]
    rfl
  | missionComplete id =>
    rw [ask, Env.missionComplete, Env.bind_ok game, Env.bind_error entity]
    rfl
  | hasInInventory filter label =>
    rw [ask, Env.hasInInventory, Env.bind_ok game, Env.bind_error entity]
    rfl

end EntityQuestion

/-- A use of a slot comes to what the slot holds, unless that is a null pointer. -/
theorem Activation.resolve_slot {a : Activation} {globals : Option Handle} {slot : Slot}
    {v : Value} (held : (a.binding slot).value = v) (notNull : v.isNull = false) :
    a.resolve globals (.slot slot) .read = .ok v :=
  resolve_eq_ok_iff.mpr ⟨_, rfl, held, nofun, fun _ => held ▸ notNull⟩

/-- **Entities that are not there.** Of a slot with a durable name that no entity of
the game has, all four questions about an entity are rejected, as referencing no live
entity. Of a slot with a pointer to an entity that the game does not have, only the
two about missions are rejected, for want of a player: any tier is taken to be in
range, and nothing to be in its inventories. -/
theorem missing_entity_answers (n : Nat) (env : Env) (s : State) (slot : Slot) (g : Game)
    (q : EntityQuestion) (bound : env.game = some g) (complete : q.IsComplete) :
    (∀ id, (s.activation.binding slot).value = .guid id → g.byGuid? id = none →
      exec (eval n env (q.expr (.slot slot))) s =
        ((q.expr (.slot slot)).ending (.error (q.rejection (.slot slot) (.guid id))), s)) ∧
    (∀ e, (s.activation.binding slot).value = .entity (some e) → g.entity? e = none →
      exec (eval n env (q.expr (.slot slot))) s =
        ((q.expr (.slot slot)).ending (q.vacant.map .bool), s)) := by
  constructor
  · intro id held nothing
    rw [q.exec_expr, q.ask_durable_name bound (Activation.resolve_slot held rfl) nothing]
    rfl
  · intro e held missing
    rw [q.exec_expr, q.ask_pointer bound complete (Activation.resolve_slot held rfl) missing]

/-- A game without entities takes the entity with the number 99 to be in range of any
tiers, and rejects a durable name that is not filed. -/
theorem unknown_entity_in_range :
    let env : Env := ⟨{}, some {}, {}, fun _ => false⟩
    let s : State := ⟨⟨#[]⟩, (({} : Activation).bind .entity ⟨.entity (some ⟨99⟩), false⟩).bind
      .other ⟨.guid ⟨7⟩, false⟩⟩
    let asked (c : Context) : Expr := .tierInRange c ⟨1⟩ ⟨2⟩
    exec (eval 0 env (asked (.slot .entity))) s = (.ok (.bool true), s) ∧
      exec (eval 0 env (asked (.slot .other))) s =
        ((asked (.slot .other)).ending (.error
          (.invalidContextObject "Other does not reference a live entity")), s) := by
  intro env s asked
  have answers (slot : Slot) :=
    missing_entity_answers 0 env s slot {} (.tierInRange ⟨1⟩ ⟨2⟩) rfl trivial
  exact ⟨(answers .entity).2 ⟨99⟩ rfl rfl, (answers .other).1 ⟨7⟩ rfl rfl⟩

end Rulebook
