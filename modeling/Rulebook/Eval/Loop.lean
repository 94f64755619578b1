/-
Rulebook/Eval/Loop.lean

Loops.  The loops of the language are two: `forEach` takes a turn for each
element of a list, `repeatWhile` takes turns as long as a condition holds.
Both count the turns they begin and fail at the first that the settings do
not admit.  Both end in one of two ways: `finished`, after which a loop
evaluates what comes after it, and `left`, by a gate whose value is no truth
value and which becomes the value of the whole loop.
-/
import Rulebook.Eval.Run

namespace Rulebook

/-- What a gate of a loop decides. -/
inductive Gate where
  | pass
  | stop
  | leave (v : Value)

/-- The decision that a value makes. -/
def Gate.ofValue : Value → Gate
  | .bool true => .pass
  | .bool false => .stop
  | v => .leave v

/-- The ending of one turn of a loop over elements. -/
inductive Turn where
  | next (last : Value)
  | stop
  | leave (v : Value)

/-- The ending of a loop. -/
inductive Ending where
  | finished (last : Value)
  | left (v : Value)

namespace Eval

variable {α : Type}

/-- Begin the `n`-th turn of a loop, if the settings admit it. -/
def beginTurn (env : Env) (n : Nat) : Eval Unit :=
  if env.settings.admits n then pure ()
  else fail (.loopLimitExceeded (env.settings.loopLimit.getD 0))

/-- Take a turn for each element, after `n` turns with the value `last`. -/
def forEach (env : Env) (turn : α → Eval Turn) : List α → Nat → Value → Eval Ending
  | [], _, last => pure (.finished last)
  | x :: xs, n, _ => do
    beginTurn env (n + 1)
    match ← turn x with
    | .next v => forEach env turn xs (n + 1) v
    | .stop => pure (.finished (.bool false))
    | .leave v => pure (.left v)

/-- Take turns as long as the condition holds, after `n` turns with the value
`last` of the condition, and no more than the allowance. -/
def repeatWhile (env : Env) (condition : Eval Value) (turn : Eval Unit) :
    Nat → Nat → Value → Eval Ending
  | allowance + 1, n, .bool true => do
    beginTurn env (n + 1)
    turn
    let v ← condition
    repeatWhile env condition turn allowance (n + 1) v
  -- the allowance matters only where another turn is due
  | 0, _, .bool true => throw .exhausted
  | _, _, .bool false => pure (.finished (.bool false))
  | _, _, v => pure (.left v)

/-- What comes after a loop that has finished; a loop that was left has its
value already. -/
def concluding (loop : Eval Ending) (after : Value → Eval Value) : Eval Value := do
  match ← loop with
  | .left v => pure v
  | .finished last => after last

/-! ### Turns -/

/-- The rest of a turn, if a gate lets pass. -/
def gated (gate : Eval Gate) (rest : Eval Turn) : Eval Turn := do
  match ← gate with
  | .pass => rest
  | .stop => pure .stop
  | .leave v => pure (.leave v)

/-- A turn for a condition: its slots are bound, and the body is run between
two gates. -/
def conditionTurn (gate : Eval Gate) (body : Eval Value) (endGate : Eval Gate)
    (condition : Condition) : Eval Turn := do
  modifyActivation (·.bindCondition condition)
  gated gate do
    let last ← body
    gated endGate (pure (.next last))

/-- A turn for a prototype: behind a gate, it is recorded as the loop element
of the frame of the loop, and the body is run. -/
def elementTurn (frame : Handle) (gate : Eval Gate) (body : Eval Value) (p : PrototypeId) :
    Eval Turn :=
  gated gate do
    modify fun s =>
      { s with store := s.store.set frame (.ofProperty .loopElement) (.prototype p) }
    return .next (← body)

/-! ### What is looped over -/

/-- The conditions that a context points at. -/
def conditionsOf (env : Env) (c : Context) : Eval ConditionList := do
  let v ← resolve env c .read
  match v.conditions? with
  | some l => pure l
  | none => fail (.typeMismatch "ConditionCollectionContext" "ConditionCollectionPtr" v.kind)

/-- The prototypes that a context points at, in a list or in a vector. -/
def elementsOf (env : Env) (c : Context) : Eval (List PrototypeId) := do
  let v ← resolve env c .read
  match v.prototypeList? <|> v.prototypeVector? with
  | some elements => pure elements
  | none =>
    fail (.typeMismatch "ProtoRefListContext" "ProtoRefListPtr or ProtoRefVectorPtr" v.kind)

/-! ### The loops of the language -/

/-- The counted loop. What comes before it is a step whose value does not
matter; `after` is given the value of the last condition. -/
def forLoop (env : Env) (allowance : Nat) (before init condition advance body : Eval Value)
    (after : Value → Eval Value) : Eval Value :=
  inScope fun outer _ => do
    discard before
    discard init
    let first ← condition
    let turn := do
      discard body
      discard advance
    concluding (repeatWhile env condition turn allowance 0 first) fun last => do
      -- what comes after the loop sees the caller of the scope around the loop
      modifyActivation fun a => { a with callerStack := outer.callerStack }
      after last

/-- The loop over the conditions that a context points at. They are kept alive
until the loop is over, so its parts are given the environment in which they are. -/
def forEachCondition (env : Env) (c : Context) (before : Eval Value) (gate : Env → Eval Gate)
    (body : Env → Eval Value) (endGate : Env → Eval Gate) (after : Env → Value → Eval Value) :
    Eval Value :=
  inScope fun _ _ => do
    let first ← before
    let list ← conditionsOf env c
    let env := env.holding list.refersTo
    let turn := conditionTurn (gate env) (body env) (endGate env)
    -- after an early stop the slots are cleared only if a first turn has bound them
    let bound := !list.conditions.isEmpty && env.settings.admits 1
    concluding (closing bound (forEach env turn list.conditions 0 first)) (after env)

/-- The loop over the prototypes that a context points at. -/
def forEachPrototype (env : Env) (c : Context) (before : Eval Value) (gate : Eval Gate)
    (body : Eval Value) (after : Value → Eval Value) : Eval Value :=
  inScope fun _ frame => do
    let first ← before
    let elements ← elementsOf env c
    concluding (forEach env (elementTurn frame gate body) elements 0 first) after

end Eval

end Rulebook
