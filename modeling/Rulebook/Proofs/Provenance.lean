/-
Rulebook/Proofs/Provenance.lean

Where stops come from.  A failure of a run was located at an expression that
occurs in the rule, its operator is the one that finds such a cause, and what
an abort says is the notice of a reserved expression in the rule
(`Stop.Traced`).  Until an operator is through, a failure of its own is not
located yet (`Stop.Raised`).

`Backing.eval_backed` is the induction over the language for endings.  It says
where the stops of a run come from, that its value is a result, and that a
run under other settings comes to the same value and state, if it admits as
many turns and does the same for parameters, whose failures are absorbed.
-/
import Rulebook.Proofs.Backing
import Rulebook.Proofs.Cause
import Rulebook.Proofs.Children

namespace Rulebook

open Eval

/-! ### Stops -/

/-- What an abort on a reserved expression says. -/
def Reserved.notice (call : Reserved Expr) : String :=
  call.operator.name ++ " is not yet supported: " ++ (Expr.reserved call).text

/-- Whether a failure was located at an expression in `e`, whose operator can find
the cause, and says what the cause says. -/
def Failure.Traced (settings : Settings) (e : Expr) (f : Failure) : Prop :=
  ∃ x : Expr, x.Occurs e ∧ f.operator = some x.operator ∧ f.node = some x.text ∧
    f.cause.Fits settings x.operator ∧ f.message = f.cause.message

namespace Stop

/-- Whether a stop is a failure that can be traced to `e`, or an abort on a
reserved expression in `e` under the policy to abort. -/
def Traced (settings : Settings) (e : Expr) : Stop → Prop
  | .failure f => f.Traced settings e
  | .abort message =>
    settings.reserved = .abort ∧
      ∃ call, (Expr.reserved call).Occurs e ∧ message = call.notice
  | .exhausted => True

/-- Whether a stop can be traced to `e`, or is a failure that `e` raises itself and
that is not located yet. -/
def Raised (settings : Settings) (e : Expr) (stop : Stop) : Prop :=
  stop.Traced settings e ∨ ∃ c, stop = .failure { cause := c } ∧ c.Fits settings e.operator

variable {settings : Settings} {c e : Expr}

/-- A stop of a child comes from the expression. -/
theorem Traced.of_child {stop : Stop} (hc : c ∈ e.children) (h : stop.Traced settings c) :
    stop.Traced settings e := by
  cases stop with
  | failure f =>
    obtain ⟨x, occurs, located⟩ := h
    exact ⟨x, .child hc occurs, located⟩
  | abort message =>
    obtain ⟨policy, call, occurs, wording⟩ := h
    exact ⟨policy, call, .child hc occurs, wording⟩
  | exhausted => trivial

theorem Raised.of_fits {k : Cause} (h : k.Fits settings e.operator) :
    Raised settings e (.failure { cause := k }) :=
  .inr ⟨k, rfl, h⟩

/-- What an operator raises itself is located at its expression. -/
theorem Raised.locate {f : Failure} (h : Raised settings e (.failure f)) :
    (f.locate e).Traced settings e := by
  rcases h with ⟨x, occurs, op, node, fits⟩ | ⟨k, same, fits⟩
  · have kept : f.locate e = f := by rw [Failure.locate, op]
    rw [kept]
    exact ⟨x, occurs, op, node, fits⟩
  · -- the message was worded when the failure was made, and locating it adds the rest
    cases same
    exact ⟨e, .self, rfl, rfl, fits, rfl⟩

end Stop

/-! ### Parameters -/

/-- The parameters of an expression, which are the children whose failures are
absorbed. -/
def Expr.params : Expr → List Expr
  | .assignBy _ _ p q r t _ | .loadBy _ _ p q r t =>
    p.toList ++ q.toList ++ r.toList ++ t.toList
  | _ => []

namespace Backing

variable {data : StaticData} {game : Option Game} {settings settings' : Settings}
variable {excused : String → Prop} {n : Nat} {e : Expr}

/-! ### Children -/

variable (data game settings settings' excused n) in
/-- Evaluation of `c` as a part of `e`, whatever is kept alive meanwhile, is backed
by evaluation under other settings. -/
def Supports (e c : Expr) : Prop :=
  ∀ held, Backed (Stop.Raised settings e) excused
    (evalWith located n ⟨data, game, settings, held⟩ c)
    (evalWith located n ⟨data, game, settings', held⟩ c) Value.IsResult

variable (data game settings settings' excused n) in
/-- Whether evaluation does the same under both settings, or comes to an abort that
is excused under the second. -/
def Alike (c : Expr) : Prop :=
  ∀ held s, exec (evalWith located n ⟨data, game, settings', held⟩ c) s =
      exec (evalWith located n ⟨data, game, settings, held⟩ c) s ∨
    Aborts excused (evalWith located n ⟨data, game, settings', held⟩ c) s

variable {held : Handle → Bool} {child : Option Expr}

/-- A check that `e` makes raises a cause that fits it. -/
theorem check {α : Type} {x : Except Cause α} (h : Fitting settings e.operator x) :
    Backed (Stop.Raised settings e) excused (ofExcept x) (ofExcept x) fun _ => True :=
  (Backed.ofExcept fun c hc => .of_fits (h c hc)).imp (fun _ h => h) fun _ _ => trivial

theorem evalChild_backed {field : String}
    (h : ∀ c ∈ child.toList, Supports data game settings settings' excused n e c) :
    Backed (Stop.Raised settings e) excused
      (evalChild located n ⟨data, game, settings, held⟩ field child)
      (evalChild located n ⟨data, game, settings', held⟩ field child) Value.IsResult := by
  rcases child with - | c
  · exact Backed.fail (.of_fits trivial)
  · exact h c List.mem_cons_self held

theorem evalNumber_backed {field : String}
    (h : ∀ c ∈ child.toList, Supports data game settings settings' excused n e c) :
    Backed (Stop.Raised settings e) excused
      (evalNumber located n ⟨data, game, settings, held⟩ field child)
      (evalNumber located n ⟨data, game, settings', held⟩ field child) fun _ => True := by
  rcases child with - | c
  · exact Backed.fail (.of_fits trivial)
  · exact (h c List.mem_cons_self held).bind fun v _ => check (Fitting.number field v)

theorem evalOptional_backed {absent : Value} (ha : absent.IsResult)
    (h : ∀ c ∈ child.toList, Supports data game settings settings' excused n e c) :
    Backed (Stop.Raised settings e) excused
      (evalOptional located n ⟨data, game, settings, held⟩ absent child)
      (evalOptional located n ⟨data, game, settings', held⟩ absent child) Value.IsResult := by
  rcases child with - | c
  · exact Backed.pure ha
  · exact h c List.mem_cons_self held

theorem evalGate_backed
    (h : ∀ c ∈ child.toList, Supports data game settings settings' excused n e c) :
    Backed (Stop.Raised settings e) excused
      (evalGate located n ⟨data, game, settings, held⟩ child)
      (evalGate located n ⟨data, game, settings', held⟩ child) Gate.IsResult := by
  rcases child with - | c
  · exact Backed.pure trivial
  · refine (h c List.mem_cons_self held).bind fun v result => ?_
    exact Backed.pure (Gate.isResult_ofValue result)

theorem evalParam_backed {schema : Schema} {i : Nat}
    (h : ∀ c ∈ child.toList, Supports data game settings settings' excused n e c)
    (alike : ∀ c ∈ child.toList, Alike data game settings settings' excused n c) :
    Backed (Stop.Raised settings e) excused
      (evalParam located n ⟨data, game, settings, held⟩ schema i child)
      (evalParam located n ⟨data, game, settings', held⟩ schema i child) fun _ => True := by
  rcases child with - | c
  · exact Backed.pure trivial
  · unfold evalParam
    split
    · exact Backed.pure trivial
    · split
      · exact Backed.fail (.of_fits trivial)
      · have tried := (h c List.mem_cons_self held).attempt (alike c List.mem_cons_self held)
        refine tried.bind fun r _ => ?_
        -- what a parameter raises does not get out of it
        rcases r with f | v
        · exact Backed.pure trivial
        · exact Backed.pure trivial

/-! ### Statements -/

theorem evalBody_backed :
    ∀ (body : List Expr) (last : Value), last.IsResult →
      (∀ c ∈ body, Supports data game settings settings' excused n e c) →
      Backed (Stop.Raised settings e) excused
        (evalBody located n ⟨data, game, settings, held⟩ body last)
        (evalBody located n ⟨data, game, settings', held⟩ body last) Value.IsResult
  | [], _, result, _ => Backed.pure result
  | c :: cs, _, _, h => by
    unfold evalBody
    refine (h c List.mem_cons_self held).bind fun v result => ?_
    exact evalBody_backed cs v result fun d hd => h d (List.mem_cons_of_mem c hd)

/-- A statement that has failed is not forgotten: then the
statements have no value. -/
theorem evalStatements_backed :
    ∀ (body : List Expr) (last : Value) (first : Option Failure), last.IsResult →
      (∀ f ∈ first, Stop.Raised settings e (.failure f)) →
      (∀ c ∈ body, Supports data game settings settings' excused n e c) →
      Backed (Stop.Raised settings e) excused
        (evalStatements located n ⟨data, game, settings, held⟩ body last first)
        (evalStatements located n ⟨data, game, settings', held⟩ body last first)
        fun v => first = none ∧ v.IsResult
  | [], _, none, result, _, _ => Backed.pure ⟨rfl, result⟩
  | [], _, some f, _, raised, _ => Backed.throw (raised f rfl)
  | c :: cs, last, first, result, raised, h => by
    have hcs : ∀ d ∈ cs, Supports data game settings settings' excused n e d :=
      fun d hd => h d (List.mem_cons_of_mem c hd)
    unfold evalStatements
    refine (h c List.mem_cons_self held).attemptBind (fun v result => ?_) fun g failed => ?_
    · exact evalStatements_backed cs v first result raised hcs
    · -- the failure that is raised in the end is that of a statement before
      have raised' : ∀ f ∈ (first <|> some g), Stop.Raised settings e (.failure f) := by
        rcases first with - | f
        · rintro _ ⟨⟩
          exact failed
        · exact raised
      have rest := evalStatements_backed cs last _ result raised' hcs
      refine rest.imp (fun _ h => h) fun v never => ?_
      -- a value in the end would mean that no statement has failed
      rcases first with - | f
      · cases never.1
      · cases never.1

/-! ### Questions -/

theorem isResult_undefined : Value.undefined.IsResult := rfl

/-- What is found in a collection is a result. -/
theorem isResult_ofDatum (d : Datum) : (Value.ofDatum d).IsResult := by
  cases d <;> rfl

theorem isResult_toValue (x : Number) : x.toValue.IsResult := by
  cases x <;> rfl

/-- Only an assignment resolves a context to write to it. -/
theorem resolve_backed {c : Context} {access : Access}
    (h : access ≠ .write ∨ e.operator.Assigns) :
    Backed (Stop.Raised settings e) excused (resolve ⟨data, game, settings, held⟩ c access)
      (resolve ⟨data, game, settings', held⟩ c access) fun _ => True :=
  Backed.get.bind fun _ _ => check (Fitting.resolve _ _ c h)

theorem collection_backed {c : Context} {access : Access}
    (h : access ≠ .write ∨ e.operator.Assigns) :
    Backed (Stop.Raised settings e) excused (collection ⟨data, game, settings, held⟩ c access)
      (collection ⟨data, game, settings', held⟩ c access) fun _ => True := by
  refine (resolve_backed h).bind fun v _ => ?_
  dsimp only
  split
  · exact Backed.pure trivial
  · exact Backed.fail (.of_fits trivial)

theorem conditionsOf_backed {c : Context} :
    Backed (Stop.Raised settings e) excused (conditionsOf ⟨data, game, settings, held⟩ c)
      (conditionsOf ⟨data, game, settings', held⟩ c) fun _ => True := by
  refine (resolve_backed (.inl (by decide))).bind fun v _ => ?_
  split
  · exact Backed.pure trivial
  · exact Backed.fail (.of_fits trivial)

theorem elementsOf_backed {c : Context} :
    Backed (Stop.Raised settings e) excused (elementsOf ⟨data, game, settings, held⟩ c)
      (elementsOf ⟨data, game, settings', held⟩ c) fun _ => True := by
  refine (resolve_backed (.inl (by decide))).bind fun v _ => ?_
  split
  · exact Backed.pure trivial
  · exact Backed.fail (.of_fits trivial)

theorem retrieve_backed {h : Handle} {k : PropertyKey} {schema : Schema} :
    Backed (Stop.Raised settings e) excused (retrieve ⟨data, game, settings, held⟩ h k schema)
      (retrieve ⟨data, game, settings', held⟩ h k schema) Value.IsResult :=
  Backed.get.bind fun _ _ => Backed.pure (isResult_ofDatum _)

theorem hasKey_backed {h : Handle} {k : PropertyKey} :
    Backed (Stop.Raised settings e) excused (hasKey ⟨data, game, settings, held⟩ h k)
      (hasKey ⟨data, game, settings', held⟩ h k) fun _ => True :=
  Backed.get.bind fun _ _ => Backed.pure trivial

theorem has_backed {c : Context} {k : PropertyKey} :
    Backed (Stop.Raised settings e) excused (Eval.has ⟨data, game, settings, held⟩ c k)
      (Eval.has ⟨data, game, settings', held⟩ c k) Value.IsResult := by
  unfold Eval.has
  split
  · exact Backed.failBind (.of_fits trivial)
  · refine (collection_backed (.inl (by decide))).bind fun h _ => ?_
    exact hasKey_backed.bind fun found _ => Backed.pure rfl

theorem load_backed {c : Context} {k : PropertyKey} :
    Backed (Stop.Raised settings e) excused (Eval.load ⟨data, game, settings, held⟩ c k)
      (Eval.load ⟨data, game, settings', held⟩ c k) Value.IsResult := by
  unfold Eval.load
  split
  · exact Backed.failBind (.of_fits trivial)
  · refine (collection_backed (.inl (by decide))).bind fun h _ => ?_
    exact (check (Fitting.schemaOf data k.property)).bind fun schema _ => retrieve_backed

theorem loadFrom_backed {c param : Context} {id : PrototypeId} :
    Backed (Stop.Raised settings e) excused
      (Eval.loadFrom ⟨data, game, settings, held⟩ c id param)
      (Eval.loadFrom ⟨data, game, settings', held⟩ c id param) Value.IsResult := by
  unfold Eval.loadFrom
  split
  · exact Backed.failBind (.of_fits trivial)
  · refine (collection_backed (.inl (by decide))).bind fun h _ => ?_
    refine (check (Fitting.schemaBy data id)).bind fun schema _ => ?_
    split
    · exact retrieve_backed
    · refine (resolve_backed (.inl (by decide))).bind fun v _ => ?_
      split
      · exact retrieve_backed
      · exact Backed.fail (.of_fits trivial)

/-- A question about the game has a truth value for an answer. -/
theorem predicate_backed {f f' : State → Except Cause Bool} (same : f' = f)
    (h : ∀ s, Fitting settings e.operator (f s)) :
    Backed (Stop.Raised settings e) excused
      (do return .bool (← ofExcept (f (← MonadState.get))) : Eval Value)
      (do return .bool (← ofExcept (f' (← MonadState.get)))) Value.IsResult := by
  rw [same]
  exact Backed.get.bind fun s _ => (check (h s)).bind fun b _ => Backed.pure rfl

/-! ### Assignments -/

theorem record_backed {h : Handle} {k : PropertyKey} {schema : Schema} {v : Value}
    (assigns : e.operator.Assigns) :
    Backed (Stop.Raised settings e) excused (Eval.record h k schema v) (Eval.record h k schema v)
      Value.IsResult := by
  refine (check (Fitting.toDatum v schema assigns)).bind fun d _ => ?_
  exact (Backed.modify _).bind fun _ _ => Backed.pure rfl

theorem keyWith_backed {stops : Stop → Prop} {schema : Schema} {p p' q q' r r' t t' : Eval Param}
    (hp : Backed stops excused p p' fun _ => True) (hq : Backed stops excused q q' fun _ => True)
    (hr : Backed stops excused r r' fun _ => True) (ht : Backed stops excused t t' fun _ => True) :
    Backed stops excused (keyWith schema p q r t) (keyWith schema p' q' r' t') fun _ => True :=
  hp.bind fun _ _ => hq.bind fun _ _ => hr.bind fun _ _ => ht.bind fun _ _ => Backed.pure trivial

/-! ### The language -/

/-- The loops of an expression raise what loops raise. -/
theorem outlasts (h : ∀ n, settings.admits n = true → settings'.admits n = true)
    (loop : e.operator.Loops) :
    Outlasts (Stop.Raised settings e) settings settings' where
  admits := h
  refused _ limited := .of_fits ⟨loop, limited⟩
  exhausted := .inl trivial

/-- **Endings of runs.** Whatever the expression and the state: every stop can be
traced to the expression, every value is a result, and a run under other settings
has the value as well and leaves the same state, or comes to an abort that is
excused. The other settings have to admit all turns that the first ones admit,
and to make no difference for any parameter that occurs in the expression. -/
theorem eval_backed (h : ∀ n, settings.admits n = true → settings'.admits n = true) (e : Expr)
    (alike : ∀ x : Expr, x.Occurs e → ∀ c ∈ x.params,
      Alike data game settings settings' excused n c) :
    ∀ held, Backed (Stop.Traced settings e) excused
      (evalWith located n ⟨data, game, settings, held⟩ e)
      (evalWith located n ⟨data, game, settings', held⟩ e) Value.IsResult := by
  induction e using Expr.childInduction with
  | step e children =>
    -- what can be traced to a child can be traced to the expression
    have ih : ∀ c ∈ e.children, Supports data game settings settings' excused n e c := by
      intro c hc held
      have traced := children c hc (fun x hx => alike x (.child hc hx)) held
      exact traced.imp (fun stop h => .inl (h.of_child hc)) fun _ result => result
    have params := alike e .self
    clear children alike
    intro held
    unfold evalWith
    -- the operator raises failures that have no place yet, and here they get one
    refine Backed.locating e ?_
      (fun f (raised : Stop.Raised settings e (.failure f)) => raised.locate) ?_ fun _ => trivial
    · cases e with
      -- literals, slots and questions
      | int | float | bool | asset | prototype | dynamicCombatLevel => exact Backed.pure rfl
      | exportError => exact Backed.fail (.of_fits rfl)
      | contextInt c =>
        refine Backed.get.bind fun s _ => ?_
        split
        · exact Backed.fail (.of_fits trivial)
        · split
          · exact Backed.pure rfl
          · exact Backed.fail (.of_fits trivial)
      | contextPrototype c =>
        refine Backed.get.bind fun s _ => ?_
        split
        · exact Backed.fail (.of_fits trivial)
        · exact Backed.pure rfl
      | isNull c =>
        refine (resolve_backed (.inl (by decide))).bind fun v _ => ?_
        split
        case h_6 =>
          split
          · exact Backed.pure rfl
          · exact Backed.fail (.of_fits trivial)
        case h_7 => exact Backed.fail (.of_fits trivial)
        all_goals exact Backed.pure rfl
      | has c key => exact has_backed
      | load c key => exact load_backed
      | loadFrom c property param => exact loadFrom_backed
      | tierInRange c min max =>
        exact predicate_backed rfl fun s => Fitting.tierInRange _ s c min max
      | missionActive c mission =>
        exact predicate_backed rfl fun s => Fitting.missionActive _ s c mission
      | missionComplete c mission =>
        exact predicate_backed rfl fun s => Fitting.missionComplete _ s c mission
      | hasInInventory c entity label =>
        exact predicate_backed rfl fun s => Fitting.hasInInventory _ s c entity label
      -- operators that evaluate their children one after another
      | curve id index =>
        dsimp only
        split
        · exact Backed.fail (.of_fits rfl)
        · rcases index with - | index
          · exact Backed.fail (.of_fits trivial)
          rcases data.curves.get? id with - | curve
          · exact Backed.fail (.of_fits rfl)
          refine (ih index List.mem_cons_self held).bind fun v _ => ?_
          refine (check (Fitting.position v)).bind fun i _ => ?_
          rcases curve.get? (curve.clamp i) with - | v
          · exact Backed.fail (.of_fits rfl)
          · exact Backed.pure rfl
      | arith op b c =>
        obtain ⟨hb, hc⟩ := List.forall_mem_append.mp ih
        refine (evalNumber_backed hb).bind fun x _ => (evalNumber_backed hc).bind fun y _ => ?_
        exact (check (Fitting.apply op x y)).bind fun z _ => Backed.pure (isResult_toValue z)
      | power b c =>
        obtain ⟨hb, hc⟩ := List.forall_mem_append.mp ih
        refine (evalNumber_backed hb).bind fun x _ => (evalNumber_backed hc).bind fun y _ => ?_
        exact Backed.pure rfl
      | compare _ b c =>
        obtain ⟨hb, hc⟩ := List.forall_mem_append.mp ih
        refine (evalNumber_backed hb).bind fun x _ => (evalNumber_backed hc).bind fun y _ => ?_
        exact Backed.pure rfl
      | equals b c epsilon =>
        obtain ⟨hb, hc⟩ := List.forall_mem_append.mp ih
        refine (evalChild_backed hb).bind fun x _ => (evalChild_backed hc).bind fun y _ => ?_
        exact (check (Fitting.equalWithin epsilon x y)).bind fun z _ => Backed.pure rfl
      | logic op b c =>
        obtain ⟨hb, hc⟩ := List.forall_mem_append.mp ih
        rcases c with - | c
        · exact Backed.fail (.of_fits trivial)
        · refine (evalChild_backed hb).bind fun x _ => ?_
          refine (check (Fitting.truth _ x)).bind fun t _ => ?_
          split
          · exact Backed.pure rfl
          · refine (hc c List.mem_cons_self held).bind fun y _ => ?_
            exact (check (Fitting.truth _ y)).bind fun z _ => Backed.pure rfl
      | not b =>
        refine (evalChild_backed ih).bind fun x _ => ?_
        exact (check (Fitting.truth _ x)).bind fun t _ => Backed.pure rfl
      | ifElse conditional onTrue onFalse =>
        obtain ⟨hrequired, hfalse⟩ := List.forall_mem_append.mp ih
        obtain ⟨hconditional, htrue⟩ := List.forall_mem_append.mp hrequired
        rcases conditional with - | conditional
        · exact Backed.fail (.of_fits trivial)
        rcases onTrue with - | onTrue
        · exact Backed.fail (.of_fits trivial)
        refine (hconditional conditional List.mem_cons_self held).bind fun x _ => ?_
        refine (check (Fitting.branch x)).bind fun t _ => ?_
        split
        · exact htrue onTrue List.mem_cons_self held
        · exact evalOptional_backed isResult_undefined hfalse
      -- scopes and loops
      | scope body =>
        dsimp only
        split
        · exact Backed.fail (.of_fits trivial)
        · refine Backed.inScope fun _ _ => ?_
          refine (evalStatements_backed body _ none isResult_undefined ?_ ih).imp (fun _ h => h)
            fun v result => result.2
          rintro f ⟨⟩
      | forLoop before init condition advance body after =>
        simp only [Expr.children, List.forall_mem_append] at ih
        obtain ⟨⟨⟨⟨⟨hbefore, hinit⟩, hcondition⟩, hadvance⟩, hbody⟩, hafter⟩ := ih
        rcases init with - | init
        · exact Backed.fail (.of_fits trivial)
        rcases advance with - | advance
        · exact Backed.fail (.of_fits trivial)
        rcases condition with - | condition
        · exact Backed.fail (.of_fits trivial)
        dsimp only
        split
        · exact Backed.fail (.of_fits trivial)
        · exact Backed.forLoop (outlasts h (.inl rfl))
            (evalOptional_backed isResult_undefined hbefore)
            (hinit init List.mem_cons_self held) (hcondition condition List.mem_cons_self held)
            (hadvance advance List.mem_cons_self held)
            (evalBody_backed body _ isResult_undefined hbody)
            (fun last result => evalOptional_backed result hafter) n
      | forEachCondition c before gate body endGate after =>
        simp only [Expr.children, List.forall_mem_append] at ih
        obtain ⟨⟨⟨⟨hbefore, hgate⟩, hbody⟩, hend⟩, hafter⟩ := ih
        dsimp only
        split
        · exact Backed.fail (.of_fits trivial)
        · exact Backed.forEachCondition (outlasts h (.inr (.inl rfl)))
            (evalOptional_backed isResult_undefined hbefore) conditionsOf_backed
            (fun _ => evalGate_backed hgate)
            (fun _ => evalBody_backed body _ isResult_undefined hbody)
            (fun _ => evalGate_backed hend)
            fun _ last result => evalOptional_backed result hafter
      | forEachPrototype c before gate body after =>
        simp only [Expr.children, List.forall_mem_append] at ih
        obtain ⟨⟨⟨hbefore, hgate⟩, hbody⟩, hafter⟩ := ih
        dsimp only
        split
        · exact Backed.fail (.of_fits trivial)
        · exact Backed.forEachPrototype (outlasts h (.inr (.inr rfl)))
            (evalOptional_backed isResult_undefined hbefore) elementsOf_backed
            (evalGate_backed hgate) (evalBody_backed body _ isResult_undefined hbody)
            fun last result => evalOptional_backed result hafter
      -- properties, and parameters that absorb the failures of their children
      | assign c key value =>
        rcases value with - | value
        · exact Backed.fail (.of_fits trivial)
        · dsimp only
          split
          · exact Backed.fail (.of_fits trivial)
          · refine (ih value List.mem_cons_self held).bind fun v _ => ?_
            refine (check (Fitting.storable v)).bind fun v _ => ?_
            refine (collection_backed (.inr (.inl rfl))).bind fun g _ => ?_
            refine (check (Fitting.schemaOf data key.property)).bind fun schema _ => ?_
            exact record_backed (.inl rfl)
      | assignBy c property p q r t value =>
        simp only [Expr.children, List.forall_mem_append] at ih
        obtain ⟨⟨⟨⟨hp, hq⟩, hr⟩, ht⟩, hvalue⟩ := ih
        simp only [Expr.params, List.forall_mem_append] at params
        obtain ⟨⟨⟨ap, aq⟩, ar⟩, at'⟩ := params
        rcases value with - | value
        · exact Backed.fail (.of_fits trivial)
        · dsimp only
          split
          · exact Backed.fail (.of_fits trivial)
          · refine (hvalue value List.mem_cons_self held).bind fun v _ => ?_
            refine (check (Fitting.storable v)).bind fun v _ => ?_
            refine (collection_backed (.inr (.inr rfl))).bind fun g _ => ?_
            refine (check (Fitting.schemaBy data property)).bind fun schema _ => ?_
            refine (keyWith_backed (evalParam_backed hp ap) (evalParam_backed hq aq)
              (evalParam_backed hr ar) (evalParam_backed ht at')).bind fun k _ => ?_
            exact record_backed (.inr rfl)
      | loadBy c property p q r t =>
        simp only [Expr.children, List.forall_mem_append] at ih
        obtain ⟨⟨⟨hp, hq⟩, hr⟩, ht⟩ := ih
        simp only [Expr.params, List.forall_mem_append] at params
        obtain ⟨⟨⟨ap, aq⟩, ar⟩, at'⟩ := params
        dsimp only
        split
        · exact Backed.fail (.of_fits trivial)
        · refine (collection_backed (.inl (by decide))).bind fun g _ => ?_
          refine (check (Fitting.schemaBy data property)).bind fun schema _ => ?_
          refine (keyWith_backed (evalParam_backed hp ap) (evalParam_backed hq aq)
            (evalParam_backed hr ar) (evalParam_backed ht at')).bind fun k _ => ?_
          exact retrieve_backed
      | reserved call =>
        -- under either policy this run stops, so the other settings do not matter
        dsimp only
        split
        next => exact Backed.fail (.of_fits ⟨rfl, call.isReserved_operator⟩)
        next policy => exact Backed.throw (.inl ⟨policy, call, .self, rfl⟩)
    · -- an abort is not located, but it can be traced as it is
      rintro message (traced | ⟨c, same, -⟩)
      · exact traced
      · cases same

end Backing

/-! ### Endings -/

/-- A run ends with a stop that can be traced to its expression, or with a result. -/
theorem eval_ends (n : Nat) (env : Env) (e : Expr) (s : State) :
    (∃ stop t, exec (eval n env e) s = (.error stop, t) ∧ stop.Traced env.settings e) ∨
      ∃ v t, exec (eval n env e) s = (.ok v, t) ∧ v.IsResult := by
  have alone : Backed (Stop.Traced env.settings e) (fun _ => False) (eval n env e) (eval n env e)
      Value.IsResult :=
    Backing.eval_backed (fun _ admitted => admitted) e (fun _ _ _ _ _ _ => .inl rfl) env.held
  rcases alone s with stopped | ⟨v, t, run, result, -⟩
  · exact .inl stopped
  · exact .inr ⟨v, t, run, result⟩

/-- **Failures say where they come from.** If a run of a rule fails, then some
expression that occurs in the rule is named by the failure, with its operator and
its text; the cause is one that this operator can find, the message is the wording
of the cause, and what is shown to a reader is the operator, that wording and the
text. -/
theorem tryRun_failure_located {n : Nat} {env : Env} {e : Expr} {s : State} {f : Failure}
    (failed : (exec (env.tryRun n (some e)) s).1 = .error (.failure f)) :
    ∃ x : Expr, x.Occurs e ∧ f.operator = some x.operator ∧ f.node = some x.text ∧
      f.cause.Fits env.settings x.operator ∧ f.message = f.cause.message ∧
      f.text = x.operator.name ++ ": " ++ f.cause.message ++ " in `" ++ x.text ++ "`" := by
  have ends : exec (env.tryRun n (some e)) s = exec (eval n env e) s := rfl
  rw [ends] at failed
  rcases eval_ends n env e s with ⟨stop, t, run, traced⟩ | ⟨v, t, run, -⟩
  · rw [run] at failed
    cases failed
    obtain ⟨x, occurs, op, node, fits, worded⟩ := traced
    refine ⟨x, occurs, op, node, fits, worded, ?_⟩
    -- what is shown is put together from the three that are known
    rw [Failure.text, op, node, worded]
    rfl
  · rw [run] at failed
    cases failed

/-- The limit for loops is exceeded by a loop in a scope, after a statement and
before another. -/
theorem endlessLoop_failure_located :
    let loop : Expr :=
      .forLoop none (some (.int 0)) (some (.bool true)) (some (.int 0)) [.int 1] none
    let f := Failure.locate { cause := .loopLimitExceeded 2 } loop
    let env : Env := ⟨{}, none, { loopLimit := some 2 }, fun _ => false⟩
    let rule : Expr := .scope [.bool true, loop, .int 3]
    (exec (env.tryRun 5 (some rule)) ⟨{}, {}⟩).1 = .error (.failure f) ∧
      ∃ x : Expr, x.Occurs rule ∧ f.operator = some x.operator ∧ f.node = some x.text ∧
        f.cause.Fits env.settings x.operator ∧ f.message = f.cause.message ∧
        f.text = x.operator.name ++ ": " ++ f.cause.message ++ " in `" ++ x.text ++ "`" := by
  intro loop f env rule
  have failed : (exec (env.tryRun 5 (some rule)) ⟨{}, {}⟩).1 = .error (.failure f) := rfl
  exact ⟨failed, tryRun_failure_located failed⟩

end Rulebook
