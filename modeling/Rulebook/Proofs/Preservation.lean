/-
Rulebook/Proofs/Preservation.lean

Runs keep conducts.  `Conduct.evalWith_agree` is the induction over the
language: if what is done around every expression keeps a conduct, then
evaluation keeps it, for every expression that the conduct is for, every
allowance and every ending.  It is stated for two ways to go around the
expressions, which may do different things for a value that the conduct
excludes for a load.  A discipline is for every expression.

The parts of an expression come first, each under the hypothesis that the
children it evaluates keep the conduct (`Conduct.Covers`).
-/
import Rulebook.Proofs.Discipline

namespace Rulebook

open Eval Guarantee

namespace Conduct

variable {data : StaticData} {game : Option Game} {settings : Settings}
variable {assigns binds : Prop} {C : Conduct data game settings assigns binds}
variable {a a' : Around} {n : Nat}

variable (C a a' n) in
/-- Evaluation of `e` with `a` and with `a'` around every expression agrees
and keeps the conduct, whatever is kept alive meanwhile. -/
def Covers (e : Expr) : Prop :=
  ∀ held, C.atWhole.Agree (evalWith a n ⟨data, game, settings, held⟩ e)
    (evalWith a' n ⟨data, game, settings, held⟩ e) fun _ => True

variable {held : Handle → Bool}

/-! ### Optional children -/

theorem evalChild_agree {field : String} {child : Option Expr}
    (h : ∀ c ∈ child.toList, C.Covers a a' n c) :
    C.atWhole.Agree (evalChild a n ⟨data, game, settings, held⟩ field child)
      (evalChild a' n ⟨data, game, settings, held⟩ field child) fun _ => True := by
  rcases child with - | c
  · exact Agree.fail
  · exact h c List.mem_cons_self held

theorem evalNumber_agree {field : String} {child : Option Expr}
    (h : ∀ c ∈ child.toList, C.Covers a a' n c) :
    C.atWhole.Agree (evalNumber a n ⟨data, game, settings, held⟩ field child)
      (evalNumber a' n ⟨data, game, settings, held⟩ field child) fun _ => True := by
  rcases child with - | c
  · unfold evalNumber
    exact Agree.fail
  · unfold evalNumber
    exact (h c List.mem_cons_self held).bind fun _ _ => Agree.check

theorem evalOptional_agree {absent : Value} {child : Option Expr}
    (h : ∀ c ∈ child.toList, C.Covers a a' n c) :
    C.atWhole.Agree (evalOptional a n ⟨data, game, settings, held⟩ absent child)
      (evalOptional a' n ⟨data, game, settings, held⟩ absent child) fun _ => True := by
  rcases child with - | c
  · unfold evalOptional
    exact Agree.pure trivial
  · exact h c List.mem_cons_self held

theorem evalGate_agree {gate : Option Expr} (h : ∀ c ∈ gate.toList, C.Covers a a' n c) :
    C.atWhole.Agree (evalGate a n ⟨data, game, settings, held⟩ gate)
      (evalGate a' n ⟨data, game, settings, held⟩ gate) fun _ => True := by
  rcases gate with - | c
  · exact Agree.pure trivial
  · exact (h c List.mem_cons_self held).bind fun _ _ => Agree.pure trivial

theorem evalParam_agree {schema : Schema} {i : Nat} {child : Option Expr}
    (h : ∀ c ∈ child.toList, C.Covers a a' n c) :
    C.atWhole.Agree (evalParam a n ⟨data, game, settings, held⟩ schema i child)
      (evalParam a' n ⟨data, game, settings, held⟩ schema i child) fun _ => True := by
  rcases child with - | c
  · exact Agree.pure trivial
  · unfold evalParam
    split
    · exact Agree.pure trivial
    · split
      · exact Agree.fail
      · refine (h c List.mem_cons_self held).attempt.bind fun r _ => ?_
        -- a parameter that fails is the default, and one that does not is encoded
        rcases r with f | v
        · exact Agree.pure trivial
        · exact Agree.pure trivial

/-! ### Statements -/

theorem evalBody_agree :
    ∀ (body : List Expr) (last : Value), (∀ c ∈ body, C.Covers a a' n c) →
      C.atWhole.Agree (evalBody a n ⟨data, game, settings, held⟩ body last)
        (evalBody a' n ⟨data, game, settings, held⟩ body last) fun _ => True
  | [], _, _ => by
    unfold evalBody
    exact Agree.pure trivial
  | e :: es, _, h => by
    unfold evalBody
    refine (h e List.mem_cons_self held).bind fun v _ => ?_
    exact evalBody_agree es v fun c hc => h c (List.mem_cons_of_mem e hc)

theorem evalStatements_agree :
    ∀ (body : List Expr) (last : Value) (first : Option Failure),
      (∀ c ∈ body, C.Covers a a' n c) →
      C.atWhole.Agree (evalStatements a n ⟨data, game, settings, held⟩ body last first)
        (evalStatements a' n ⟨data, game, settings, held⟩ body last first) fun _ => True
  | [], _, first, _ => by
    unfold evalStatements
    rcases first with - | f
    · exact Agree.pure trivial
    · exact Agree.throw
  | e :: es, last, first, h => by
    have hes : ∀ c ∈ es, C.Covers a a' n c := fun c hc => h c (List.mem_cons_of_mem e hc)
    unfold evalStatements
    refine (h e List.mem_cons_self held).attempt.bind fun r _ => ?_
    -- the statements go on whether this one has failed or not
    rcases r with f | v
    · exact evalStatements_agree es last (first <|> some f) hes
    · exact evalStatements_agree es v first hes

/-! ### Properties -/

theorem collection_agree {c : Context} {access : Access} :
    C.atWhole.Agree (collection ⟨data, game, settings, held⟩ c access)
      (collection ⟨data, game, settings, held⟩ c access)
      fun h => access = .write → assigns → C.writable h := by
  unfold collection
  refine Agree.resolve.bind fun v hv => ?_
  obtain ⟨s, hs, hv⟩ := hv
  dsimp only
  split
  next h hh =>
    refine Agree.pure fun hw allowed => ?_
    -- only what is resolved to be written has to be writable
    subst hw
    exact C.writable_of_resolve allowed hs hv hh
  next => exact Agree.fail

theorem record_agree {h : Handle} {k : PropertyKey} {schema : Schema} {v : Value}
    (hh : C.writable h) (hk : data.Addresses k schema) :
    C.atWhole.Agree (Eval.record h k schema v) (Eval.record h k schema v) fun _ => True := by
  unfold Eval.record
  refine Agree.bind (p := fun d => C.storable k d)
    (Agree.ofExcept fun d hd => C.storable_of_schema v hk hd) fun d hd => ?_
  refine (Agree.modify fun s hs => C.record hs hh hd).bind fun _ _ => ?_
  exact Agree.pure trivial

theorem retrieve_agree {h : Handle} {k : PropertyKey} {schema : Schema}
    (hk : data.Addresses k schema) :
    C.atWhole.Agree (retrieve ⟨data, game, settings, held⟩ h k schema)
      (retrieve ⟨data, game, settings, held⟩ h k schema) (C.answer schema) := by
  unfold retrieve
  refine Agree.get.bind fun s hs => ?_
  exact Agree.pure (C.answer_of_schema _ h hs hk)

theorem has_agree {c : Context} {k : PropertyKey} :
    C.atWhole.Agree (Eval.has ⟨data, game, settings, held⟩ c k)
      (Eval.has ⟨data, game, settings, held⟩ c k) fun _ => True := by
  unfold Eval.has hasKey
  split
  · exact Agree.failBind
  · refine collection_agree.bind fun h _ => Agree.bind (p := fun _ => True) ?_ fun _ _ => ?_
    · exact Agree.get.bind fun _ _ => Agree.pure trivial
    · exact Agree.pure trivial

theorem schemaOf_agree {k : PropertyKey} :
    C.atWhole.Agree (ofExcept (data.schemaOf k.property)) (ofExcept (data.schemaOf k.property))
      fun schema => data.Addresses k schema ∧ data.schemaOf k.property = .ok schema :=
  Agree.ofExcept fun _ h => ⟨.inl h, h⟩

theorem schemaBy_agree {id : PrototypeId} :
    C.atWhole.Agree (ofExcept (data.schemaBy id)) (ofExcept (data.schemaBy id)) fun schema =>
      (∀ params, data.Addresses (.ofParams schema.property params) schema) ∧
        data.schemaBy id = .ok schema :=
  Agree.ofExcept fun _ h => ⟨fun params => .inr ⟨id, params, h, rfl⟩, h⟩

theorem keyWith_agree {schema : Schema} {p p' q q' r r' t t' : Eval Param}
    (hs : ∀ params, data.Addresses (.ofParams schema.property params) schema)
    (hp : C.atWhole.Agree p p' fun _ => True) (hq : C.atWhole.Agree q q' fun _ => True)
    (hr : C.atWhole.Agree r r' fun _ => True) (ht : C.atWhole.Agree t t' fun _ => True) :
    C.atWhole.Agree (keyWith schema p q r t) (keyWith schema p' q' r' t')
      fun k => data.Addresses k schema := by
  refine hp.bind fun _ _ => hq.bind fun _ _ => hr.bind fun _ _ => ht.bind fun _ _ => ?_
  exact Agree.pure (hs _)

variable (C) in
/-- What a conduct promises about the value of an expression: a load has
found the schema of its property, and its value is an answer for that schema. -/
def Answers (e : Expr) (v : Value) : Prop :=
  ∀ found, data.loadSchema? e = some found → ∃ schema, found = .ok schema ∧ C.answer schema v

theorem answers_of_answer {e : Expr} {schema : Schema} {v : Value}
    (h : data.loadSchema? e = some (.ok schema)) (hv : C.answer schema v) : C.Answers e v := by
  intro found hf
  rw [h] at hf
  cases hf
  exact ⟨schema, rfl, hv⟩

/-- An expression that is no load promises nothing about its value. -/
theorem toAnswers {e : Expr} {m m' : Eval Value} (h : C.atWhole.Agree m m' fun _ => True)
    (he : data.loadSchema? e = none) : C.atWhole.Agree m m' (C.Answers e) := by
  refine h.imp fun v _ found hf => ?_
  rw [he] at hf
  cases hf

theorem load_agree {c : Context} {k : PropertyKey} :
    C.atWhole.Agree (Eval.load ⟨data, game, settings, held⟩ c k)
      (Eval.load ⟨data, game, settings, held⟩ c k) (C.Answers (.load c k)) := by
  unfold Eval.load
  split
  · exact Agree.failBind
  · refine collection_agree.bind fun h _ => schemaOf_agree.bind fun schema hs => ?_
    have found : data.loadSchema? (.load c k) = some (.ok schema) :=
      congrArg some hs.2
    exact (retrieve_agree hs.1).imp fun v => answers_of_answer found

theorem loadFrom_agree {c param : Context} {id : PrototypeId} :
    C.atWhole.Agree (Eval.loadFrom ⟨data, game, settings, held⟩ c id param)
      (Eval.loadFrom ⟨data, game, settings, held⟩ c id param)
      (C.Answers (.loadFrom c id param)) := by
  unfold Eval.loadFrom
  split
  · exact Agree.failBind
  · refine collection_agree.bind fun h _ => schemaBy_agree.bind fun schema hs => ?_
    -- the schema that is looked up is the one the answer has to suit
    have found : data.loadSchema? (.loadFrom c id param) = some (.ok schema) :=
      congrArg some hs.2
    split
    · exact (retrieve_agree (hs.1 _)).imp fun v => answers_of_answer found
    · refine Agree.resolve.bind fun v _ => ?_
      split
      next p _ => exact (retrieve_agree (hs.1 _)).imp fun v => answers_of_answer found
      next => exact Agree.fail

/-! ### The language -/

variable (C) in
/-- Whether going around an expression with `a` and with `a'` agrees, keeps the
conduct and comes to what the conduct promises, provided that the
evaluation that is gone around does. -/
def KeptAround (a a' : Around) : Prop :=
  ∀ held e (m m' : Eval Value), C.atWhole.Agree m m' (C.Answers e) →
    C.atWhole.Agree (a ⟨data, game, settings, held⟩ e m) (a' ⟨data, game, settings, held⟩ e m')
      (C.Answers e)

/-- **Runs keep conducts.** Whatever the expression, if it assigns and loops over
conditions only where allowed, and whatever the allowance, what is kept alive
and the ending: the invariant holds at the end of a run if it holds at its
beginning, and both ways to go around the expressions come to the same. -/
theorem evalWith_agree (ha : C.KeptAround a a') (e : Expr) (allowed : e.Within assigns binds) :
    ∀ held, C.atWhole.Agree (evalWith a n ⟨data, game, settings, held⟩ e)
      (evalWith a' n ⟨data, game, settings, held⟩ e) (C.Answers e) := by
  induction e using Expr.childInduction with
  | step e children =>
    -- of a child only the agreement matters: no operator asks if it was a load
    have ih : ∀ c ∈ e.children, C.Covers a a' n c :=
      fun c hc held => (children c hc (allowed.child hc) held).imp fun _ _ => trivial
    intro held
    unfold evalWith
    refine ha held e _ _ ?_
    cases e with
    -- literals and slots, which are no loads of a property
    | int | float | bool | asset | prototype | dynamicCombatLevel =>
      exact toAnswers (Agree.pure trivial) rfl
    | exportError => exact toAnswers Agree.fail rfl
    | contextInt c =>
      refine toAnswers (Agree.get.bind fun s _ => ?_) rfl
      split
      · exact Agree.fail
      · split
        · exact Agree.pure trivial
        · exact Agree.fail
    | contextPrototype c =>
      refine toAnswers (Agree.get.bind fun s _ => ?_) rfl
      split
      · exact Agree.fail
      · exact Agree.pure trivial
    | isNull c =>
      refine toAnswers (Agree.resolve.bind fun v _ => ?_) rfl
      split
      case h_6 =>
        split
        · exact Agree.pure trivial
        · exact Agree.fail
      case h_7 => exact Agree.fail
      all_goals exact Agree.pure trivial
    -- operators that evaluate their children one after another
    | curve id index =>
      refine toAnswers ?_ rfl
      dsimp only
      split
      · exact Agree.fail
      · split
        · exact Agree.fail
        · exact Agree.fail
        next index curve _ =>
          refine (ih index List.mem_cons_self held).bind fun v _ => ?_
          refine Agree.check.bind fun i _ => ?_
          split
          · exact Agree.pure trivial
          · exact Agree.fail
    | arith op b c =>
      obtain ⟨hb, hc⟩ := List.forall_mem_append.mp ih
      refine toAnswers ?_ rfl
      refine (evalNumber_agree hb).bind fun x _ => (evalNumber_agree hc).bind fun y _ => ?_
      exact Agree.check.bind fun z _ => Agree.pure trivial
    | power b c | compare _ b c =>
      obtain ⟨hb, hc⟩ := List.forall_mem_append.mp ih
      refine toAnswers ?_ rfl
      refine (evalNumber_agree hb).bind fun x _ => (evalNumber_agree hc).bind fun y _ => ?_
      exact Agree.pure trivial
    | equals b c epsilon =>
      obtain ⟨hb, hc⟩ := List.forall_mem_append.mp ih
      refine toAnswers ?_ rfl
      refine (evalChild_agree hb).bind fun x _ => (evalChild_agree hc).bind fun y _ => ?_
      exact Agree.check.bind fun z _ => Agree.pure trivial
    | logic op b c =>
      obtain ⟨hb, hc⟩ := List.forall_mem_append.mp ih
      refine toAnswers ?_ rfl
      rcases c with - | c
      · exact Agree.fail
      · refine (evalChild_agree hb).bind fun x _ => Agree.check.bind fun t _ => ?_
        split
        · exact Agree.pure trivial
        · refine (hc c List.mem_cons_self held).bind fun y _ => ?_
          exact Agree.check.bind fun z _ => Agree.pure trivial
    | not b =>
      refine toAnswers ((evalChild_agree ih).bind fun x _ => ?_) rfl
      exact Agree.check.bind fun t _ => Agree.pure trivial
    | ifElse conditional onTrue onFalse =>
      obtain ⟨hrequired, hfalse⟩ := List.forall_mem_append.mp ih
      obtain ⟨hconditional, htrue⟩ := List.forall_mem_append.mp hrequired
      refine toAnswers ?_ rfl
      rcases conditional with - | conditional
      · exact Agree.fail
      rcases onTrue with - | onTrue
      · exact Agree.fail
      refine (hconditional conditional List.mem_cons_self held).bind fun x _ => ?_
      refine Agree.check.bind fun t _ => ?_
      split
      · exact htrue onTrue List.mem_cons_self held
      · exact evalOptional_agree hfalse
    -- scopes and loops
    | scope body =>
      refine toAnswers ?_ rfl
      dsimp only
      split
      · exact Agree.fail
      · exact inScope_agree fun s _ => toInside (evalStatements_agree body _ _ ih)
    | forLoop before init condition advance body after =>
      simp only [Expr.children, List.forall_mem_append] at ih
      obtain ⟨⟨⟨⟨⟨hbefore, hinit⟩, hcondition⟩, hadvance⟩, hbody⟩, hafter⟩ := ih
      refine toAnswers ?_ rfl
      rcases init with - | init
      · exact Agree.fail
      rcases advance with - | advance
      · exact Agree.fail
      rcases condition with - | condition
      · exact Agree.fail
      dsimp only
      split
      · exact Agree.fail
      · exact forLoop_agree (evalOptional_agree hbefore) (hinit init List.mem_cons_self held)
          (hcondition condition List.mem_cons_self held)
          (hadvance advance List.mem_cons_self held) (evalBody_agree body _ hbody)
          fun last => evalOptional_agree hafter
    | forEachCondition c before gate body endGate after =>
      simp only [Expr.children, List.forall_mem_append] at ih
      obtain ⟨⟨⟨⟨hbefore, hgate⟩, hbody⟩, hend⟩, hafter⟩ := ih
      refine toAnswers ?_ rfl
      dsimp only
      split
      · exact Agree.fail
      · -- such a loop binds slots, so it occurs only where that is allowed
        have may : binds := allowed.binds _ .self trivial
        exact forEachCondition_agree may (evalOptional_agree hbefore)
          (fun _ => evalGate_agree hgate) (fun _ => evalBody_agree body _ hbody)
          (fun _ => evalGate_agree hend) fun _ last => evalOptional_agree hafter
    | forEachPrototype c before gate body after =>
      simp only [Expr.children, List.forall_mem_append] at ih
      obtain ⟨⟨⟨hbefore, hgate⟩, hbody⟩, hafter⟩ := ih
      refine toAnswers ?_ rfl
      dsimp only
      split
      · exact Agree.fail
      · exact forEachPrototype_agree (evalOptional_agree hbefore) (evalGate_agree hgate)
          (evalBody_agree body _ hbody) fun last => evalOptional_agree hafter
    -- properties
    | assign c key value =>
      have may : assigns := allowed.assigns _ .self trivial
      refine toAnswers ?_ rfl
      rcases value with - | value
      · exact Agree.fail
      · dsimp only
        split
        · exact Agree.fail
        · refine (ih value List.mem_cons_self held).bind fun v _ => ?_
          refine Agree.check.bind fun v _ => collection_agree.bind fun h hh => ?_
          exact schemaOf_agree.bind fun schema hs => record_agree (hh rfl may) hs.1
    | assignBy c property p q r t value =>
      simp only [Expr.children, List.forall_mem_append] at ih
      obtain ⟨⟨⟨⟨hp, hq⟩, hr⟩, ht⟩, hvalue⟩ := ih
      have may : assigns := allowed.assigns _ .self trivial
      refine toAnswers ?_ rfl
      rcases value with - | value
      · exact Agree.fail
      · dsimp only
        split
        · exact Agree.fail
        · refine (hvalue value List.mem_cons_self held).bind fun v _ => ?_
          refine Agree.check.bind fun v _ => collection_agree.bind fun h hh => ?_
          refine schemaBy_agree.bind fun schema hs => ?_
          -- the key is one of the schema, whatever the parameters come to
          refine (keyWith_agree hs.1 (evalParam_agree hp) (evalParam_agree hq) (evalParam_agree hr)
            (evalParam_agree ht)).bind fun k hk => ?_
          exact record_agree (hh rfl may) hk
    | has c key => exact toAnswers has_agree rfl
    | load c key => exact load_agree
    | loadFrom c property param => exact loadFrom_agree
    | loadBy c property p q r t =>
      simp only [Expr.children, List.forall_mem_append] at ih
      obtain ⟨⟨⟨hp, hq⟩, hr⟩, ht⟩ := ih
      dsimp only
      split
      · exact Agree.fail
      · refine collection_agree.bind fun h _ => schemaBy_agree.bind fun schema hs => ?_
        have found : data.loadSchema? (.loadBy c property p q r t) = some (.ok schema) :=
          congrArg some hs.2
        refine (keyWith_agree hs.1 (evalParam_agree hp) (evalParam_agree hq) (evalParam_agree hr)
          (evalParam_agree ht)).bind fun k hk => ?_
        exact (retrieve_agree hk).imp fun v => answers_of_answer found
    -- questions about the game, and reserved operators
    | tierInRange | missionActive | missionComplete | hasInInventory =>
      refine toAnswers (Agree.get.bind fun s _ => ?_) rfl
      exact Agree.check.bind fun t _ => Agree.pure trivial
    | reserved call =>
      refine toAnswers ?_ rfl
      dsimp only
      split
      · exact Agree.fail
      · exact Agree.throw

theorem keptAround_located : C.KeptAround located located :=
  fun _ _ _ _ h => h.locating

/-- A run of an expression keeps a conduct. -/
theorem eval_keeps {env : Env} (C : Conduct env.data env.game env.settings assigns binds)
    {e : Expr} (allowed : e.Within assigns binds) {s : State} (hs : C.inv s) :
    C.inv (exec (eval n env e) s).2 ∧ C.whole s (exec (eval n env e) s).2 := by
  obtain ⟨r, t, run, -, inv, rel, -⟩ := evalWith_agree keptAround_located e allowed env.held s hs
  have ends : exec (eval n env e) s = (r, t) := run
  rw [ends]
  exact ⟨inv, rel⟩

end Conduct

/-! ### Rules -/

namespace Discipline

variable {data : StaticData} {game : Option Game} {settings : Settings}
variable {D : Discipline data game settings} {a a' : Around} {n : Nat}

/-- **Runs keep disciplines**, whatever the expression. -/
theorem evalWith_agree (ha : D.KeptAround a a') (e : Expr) :
    ∀ held, D.atWhole.Agree (evalWith a n ⟨data, game, settings, held⟩ e)
      (evalWith a' n ⟨data, game, settings, held⟩ e) (D.Answers e) :=
  Conduct.evalWith_agree ha e e.within_true

theorem keptAround_located : D.KeptAround located located :=
  Conduct.keptAround_located

/-- Every run of a rule keeps a discipline, with or without a rule. -/
theorem tryRun_keeps {env : Env} (D : Discipline env.data env.game env.settings)
    (allowance : Nat) (rule : Option Expr) {s : State} (hs : D.inv s) :
    D.inv (exec (env.tryRun allowance rule) s).2 ∧
      D.whole s (exec (env.tryRun allowance rule) s).2 := by
  rcases rule with - | e
  · exact ⟨hs, D.whole_refl s⟩
  · exact D.eval_keeps e.within_true hs

end Discipline

end Rulebook
