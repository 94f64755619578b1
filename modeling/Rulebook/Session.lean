/-
Rulebook/Session.lean

Sessions.  A session is the host of rules: the data, a game, one activation,
and names for collections and for lists of conditions.  It is also what
knows which collections are alive.  A collection lives as long as something
refers to it: a name, a condition of a named list, a slot or a scratch
collection of the activation, the globals, or an entity.

A run is given all of these but the slots, which it can rebind while it goes
on (`Session.env`).
-/
import Rulebook.Describe
import Rulebook.Eval.Basic

namespace Rulebook

/-- The host of rules. -/
structure Session where
  store : Store := {}
  /-- Names of collections; a collection may have several. -/
  names : Std.TreeMap String Handle := ∅
  conditionLists : Std.TreeMap String ConditionList := ∅
  data : StaticData := {}
  game : Game := {}
  /-- Whether the contexts of rules are looked up in the game. -/
  bound : Bool := false
  activation : Activation := {}
  settings : Settings := {}
  /-- The identity of the next list of conditions. -/
  nextIdentity : Nat := 0

namespace Session

/-! ### What is alive -/

/-- Whether something other than a slot of the activation refers to a
collection. -/
def holds (w : Session) (h : Handle) : Bool :=
  w.names.any (fun _ c => c == h) || w.data.globals == some h || w.game.refersTo h ||
    w.activation.stacksReferTo h || w.conditionLists.any fun _ l => l.refersTo h

/-- Whether a collection is alive. -/
def live (w : Session) (h : Handle) : Bool := w.holds h || w.activation.slotsReferTo h

/-! ### Names -/

/-- The first name of a collection, in the order of the names. -/
def nameOf? (w : Session) (h : Handle) : Option String :=
  (w.names.toList.find? (·.2 == h)).map (·.1)

/-- The first name of a list of conditions, in the order of the names. -/
def listNameOf? (w : Session) (l : ConditionList) : Option String :=
  (w.conditionLists.toList.find? (·.2.identity == l.identity)).map (·.1)

/-- Name a collection. -/
def name (w : Session) (n : String) (h : Handle) : Session :=
  { w with names := w.names.insert n h }

/-- Give a name to a new collection with some entries. -/
def newCollection (w : Session) (n : String) (entries : List (PropertyKey × Datum)) : Session :=
  let (store, h) := w.store.create
  { w with store := entries.foldl (fun s (k, d) => s.set h k d) store }.name n h

/-- Give a name to a new list of conditions. -/
def newConditions (w : Session) (n : String) (conditions : List Condition) : Session :=
  { w with
    conditionLists := w.conditionLists.insert n ⟨w.nextIdentity, conditions⟩
    nextIdentity := w.nextIdentity + 1 }

/-- Change the store. -/
def mapStore (w : Session) (f : Store → Store) : Session := { w with store := f w.store }

/-- Let a collection fall through to another. -/
def attach (w : Session) (child parent : Handle) : Except PropertyFault Session := do
  return { w with store := ← w.store.attach w.live child parent }

/-! ### Game and activation -/

/-- Create an entity with a collection of its own, by one of the ways to
create an entity of the game. -/
def spawn (w : Session) (create : Game → Handle → Game × EntityId) : Session × EntityId :=
  let (store, h) := w.store.create
  let (game, e) := create w.game h
  ({ w with store, game }, e)

/-- The game, if it is bound. -/
def boundGame (w : Session) : Option Game := if w.bound then some w.game else none

/-- Bind a context. -/
def bindContext (w : Session) (c : Context) (b : Binding) : Except Failure Session :=
  match w.activation.bindContext c b with
  | .ok activation => .ok { w with activation }
  | .error cause => .error { cause }

/-- The value of a context for a use of it. -/
def resolve (w : Session) (c : Context) (access : Access) : Except Failure Value :=
  match w.activation.resolve w.data.globals c access with
  | .ok v => .ok v
  | .error cause => .error { cause }

/-! ### Runs -/

/-- The allowance of loop turns of a run: more than any host would wait for. -/
def allowance : Nat := 4611686018427387904

/-- What a run does not change. -/
def env (w : Session) : Env where
  data := w.data
  game := w.boundGame
  settings := w.settings
  held := w.holds

/-- Run something in the session, which keeps what the run has done however
it ends. -/
def run {α : Type} (w : Session) (m : Eval α) : Except Stop α × Session :=
  let (r, s) := (ExceptT.run m).run { store := w.store, activation := w.activation }
  (r, { w with store := s.store, activation := s.activation })

end Session

end Rulebook
