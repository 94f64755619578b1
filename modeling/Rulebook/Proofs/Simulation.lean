/-
Rulebook/Proofs/Simulation.lean

The induction over the language that compares two runs.  The first is a run of
`eval`, which has its frames in the stacks of its state, and the second one of
`evalIn`, which has them in its hands, with stacks in its state that idle.  So
the states of the two are alike once the second has the frames for its stacks
(`Correspondence.Inside idle f`).  From the beginning of an expression to its
end this is kept, whatever the ending, for every expression and all frames
(`Correspondence.evalIn_tied`).  Within a scope or a loop `f` is one thing
before the last part of a counted loop and another after; at the end of a scope
it no longer matters, because the scope puts the stacks back
(`Correspondence.Beside idle`).

What it takes for states to be alike is a `Correspondence`.  The two runs may
further have different allowances, and different settings as far as the
coupling lets them (`Coupling.Serves`).  So this one induction serves for all
comparisons: of scoping with frames, of allowances and policies
(`Rulebook.Proofs.Scoping`), of runs from states in which things have other
names, and of runs that find an entity in another way.
-/
import Rulebook.Proofs.Children
import Rulebook.Proofs.Correspondence
import Rulebook.Proofs.Lexical

namespace Rulebook

open Eval

/-! ### Settings -/

namespace Coupling

/-- What a coupling needs to know about two ways of running: they have the same
limit for loops and the second has at least the allowance of the first, and
an abort of the first is excused or both abort. -/
structure Serves (K : Coupling) (settings settings' : Settings) (n n' : Nat) : Prop where
  limit : settings'.loopLimit = settings.loopLimit
  allowance : n ≤ n'
  reserved : (∀ message, K.excused (.abort message)) ∧ settings.reserved = .abort ∨
    (∀ message, K.admitted (.abort message)) ∧ settings'.reserved = settings.reserved

/-- Under one setting and with one allowance it serves to admit aborts. -/
theorem serves_self (K : Coupling) (h : ∀ message, K.admitted (.abort message))
    (settings : Settings) (n : Nat) : K.Serves settings settings n n where
  limit := rfl
  allowance := Nat.le_refl n
  reserved := .inr ⟨h, rfl⟩

end Coupling

namespace Correspondence

variable {K : Coupling} {data : StaticData} {game : Option Game} (B : Correspondence K data game)

/-! ### States of the two evaluators -/

/-- Whether the states are alike when the second has `f` for its stacks, which are
`idle`. -/
def Inside (idle f : Frames) (s t : State) : Prop :=
  B.states s (t.withFrames f) ∧ t.frames = idle

/-- Whether the states are alike for some frames. -/
def Beside (idle : Frames) (s t : State) : Prop := ∃ f, B.Inside idle f s t

/-- Steps of the two evaluators that keep the states alike for the frames `f`. -/
abbrev TiedIn (idle f : Frames) {α α' : Type} (V : α → α' → Prop) (m : Eval α) (m' : Eval α') :
    Prop :=
  K.Tied (B.Inside idle f) (B.Inside idle f) V m m'

variable {B} {α α' : Type} {idle f : Frames} {V : α → α' → Prop}

theorem Inside.beside (s t : State) (h : B.Inside idle f s t) : B.Beside idle s t := ⟨f, h⟩

/-! ### Steps -/

/-- Questions are tied where the second sees its frames in place of the stacks. -/
theorem TiedIn.seeing {m : Eval α} {m' : Eval α'} (query : Query m') (h : B.Tied V m m') :
    B.TiedIn idle f V m (Eval.seeing f m') := by
  rintro s t ⟨hs, ht⟩
  rcases h s _ hs with excuse | ⟨r, r', u, u', e, e', ends, rel⟩
  · exact .inl excuse
  · have seen : exec (Eval.seeing f m') t =
        ((exec m' (t.withFrames f)).1, (exec m' (t.withFrames f)).2.withFrames t.frames) := rfl
    -- a question changes nothing, so the second step is back where it started
    have unchanged : u' = t.withFrames f := by
      rw [← query.exec_state (t.withFrames f), e']
    rw [e', unchanged] at seen
    rw [unchanged] at rel
    exact .inr ⟨r, r', u, t, e, seen, ends, rel, ht⟩

/-- A question that is not about the stacks. -/
theorem TiedIn.retrieve {settings settings' : Settings} {H H' : Handle → Bool}
    (holds : B.held H H') {h h' : Handle} (place : B.places h h') (k : PropertyKey)
    (schema : Schema) : B.TiedIn idle f Eq (retrieve ⟨data, game, settings, H⟩ h k schema)
      (retrieve ⟨data, game, settings', H'⟩ h' k schema) :=
  TiedIn.seeing (Query.retrieve ⟨data, game, settings', H'⟩ h' k schema)
    (tied_retrieve holds place k schema)

theorem TiedIn.record {h h' : Handle} (place : B.places h h') (k : PropertyKey) (schema : Schema)
    (v : Value) : B.TiedIn idle f Eq (Eval.record h k schema v) (Eval.record h' k schema v) := by
  refine (Coupling.Tied.ofExcept _).bind fun d => ?_
  refine (Coupling.Tied.modify ?_).bind fun _ => .pure _
  rintro s t ⟨hs, ht⟩
  exact ⟨B.record hs place k d, ht⟩

/-! ### Frames -/

/-- A scope does what its body does with a collection of its own. -/
theorem TiedIn.inScope {body : Activation → Handle → Eval α} {body' : Handle → Eval α}
    (h : ∀ s t, B.Inside idle f s t → K.Tied (B.Inside idle (f.enter t.frame)) (B.Beside idle) Eq
      (body s.activation s.frame) (body' t.frame)) :
    B.TiedIn idle f Eq (inScope body) (newFrame >>= body') := by
  rintro s t ⟨hs, ht⟩
  have enter : B.Inside idle (f.enter t.frame) s.enter (t.enter.withFrames idle) :=
    ⟨B.enter hs, rfl⟩
  have created : exec (newFrame >>= body') t = exec (body' t.frame) (t.enter.withFrames idle) := by
    rw [← ht]
    rfl
  -- both bodies start from states that are alike for the new frame
  rw [exec_inScope, created]
  rcases h s t ⟨hs, ht⟩ _ _ enter with
    ⟨stop, u, e, excuse⟩ | ⟨r, r', u, u', e, e', ends, g, rel, hu⟩
  · rw [e]
    exact .inl ⟨stop, _, rfl, excuse⟩
  · -- the scope puts the stacks back, whatever the frames of its last part were
    have left := B.leave hs rel
    rw [e, e']
    exact .inr ⟨r, r', _, u', rfl, rfl, ends, left, hu⟩

/-- A scope whose body has the same frames to its end. -/
theorem TiedIn.inFrame {body : Activation → Handle → Eval α} {body' : Handle → Eval α}
    (h : ∀ (a : Activation) (g g' : Handle), B.places g g' →
      B.TiedIn idle (f.enter g') Eq (body a g) (body' g')) :
    B.TiedIn idle f Eq (Eval.inScope body) (newFrame >>= body') :=
  TiedIn.inScope fun s t hs =>
    have place : B.places s.frame (t.withFrames f).frame := B.frame hs.1
    (h s.activation s.frame t.frame place).weaken Inside.beside

/-- What comes after a counted loop has the caller stack from outside of it. -/
theorem TiedIn.rebind {s t : State} (hs : B.Inside idle f s t) {g : Handle} {m m' : Eval α}
    (hm : B.TiedIn idle (f.leave g) Eq m m') :
    K.Tied (B.Inside idle (f.enter g)) (B.Beside idle) Eq
      (modifyActivation (fun a => { a with callerStack := s.activation.callerStack }) >>=
        fun _ => m) m' := by
  rintro u u' ⟨hu, idles⟩
  -- the first run goes back to the caller of before, the second never left it
  have left : B.Inside idle (f.leave g) (u.withCaller s.activation.callerStack) u' :=
    ⟨B.rebind hs.1 hu, idles⟩
  exact hm.weaken Inside.beside _ _ left

/-! ### Turns -/

theorem TiedIn.conditionTurn {gate gate' endGate endGate' : Eval Gate} {body body' : Eval Value}
    (hg : B.TiedIn idle f Eq gate gate') (hb : B.TiedIn idle f Eq body body')
    (he : B.TiedIn idle f Eq endGate endGate') {l : ConditionList} (hl : B.lists l)
    {condition : Condition} (member : condition ∈ l.conditions) :
    B.TiedIn idle f Eq (conditionTurn gate body endGate condition)
      (conditionTurn gate' body' endGate' condition) := by
  refine (Coupling.Tied.modify ?_).bind fun _ => hg.gated (hb.bind fun _ => he.gated (.pure _))
  rintro s t ⟨hs, ht⟩
  exact ⟨B.bind hs hl member, ht⟩

theorem TiedIn.elementTurn {gate gate' : Eval Gate} {body body' : Eval Value} {g g' : Handle}
    (place : B.places g g') (hg : B.TiedIn idle f Eq gate gate')
    (hb : B.TiedIn idle f Eq body body') (p : PrototypeId) :
    B.TiedIn idle f Eq (elementTurn g gate body p) (elementTurn g' gate' body' p) := by
  refine hg.gated ((Coupling.Tied.modify ?_).bind fun _ => hb.bind fun _ => .pure _)
  rintro s t ⟨hs, ht⟩
  exact ⟨B.record hs place _ _, ht⟩

/-- The slots of a condition are cleared in both states. -/
theorem TiedIn.closing {bound : Bool} {loop loop' : Eval α} (hl : B.TiedIn idle f Eq loop loop') :
    B.TiedIn idle f Eq (closing bound loop) (closing bound loop') := by
  intro s t hs
  have cleared : ∀ u u', B.Inside idle f u u' →
      B.Inside idle f (u.withActivation u.activation.clearCondition)
        (u'.withActivation u'.activation.clearCondition) :=
    fun u u' hu => ⟨B.clear hu.1, hu.2⟩
  rcases hl s t hs with ⟨stop, u, e, excuse⟩ | ⟨_, _, u, u', e, e', ends, rel⟩
  · rw [exec_closing, e]
    exact .inl ⟨stop, _, rfl, excuse⟩
  · rw [exec_closing, exec_closing, e, e']
    cases ends with
    | ok same => exact .inr ⟨_, _, _, _, rfl, rfl, .ok same, cleared u u' rel⟩
    | error answers =>
      refine .inr ⟨_, _, _, _, rfl, rfl, .error answers, ?_⟩
      -- a loop that fails has cleared the slots only if it has bound some
      cases bound with
      | true => exact cleared u u' rel
      | false => exact rel

/-! ### Optional children -/

variable {settings settings' : Settings} {n n' : Nat}

variable (B idle settings settings' n n') in
/-- Evaluation of `e` is tied to evaluation with any frames for the stacks, whatever
corresponds is kept alive meanwhile. -/
def Follows (e : Expr) : Prop :=
  ∀ f H H', B.held H H' → B.TiedIn idle f Eq (evalWith located n ⟨data, game, settings, H⟩ e)
    (evalIn n' f ⟨data, game, settings', H'⟩ e)

section

variable {H H' : Handle → Bool} (holds : B.held H H')

include holds

theorem evalChild_tied {field : String} {child : Option Expr}
    (h : ∀ c ∈ child.toList, B.Follows idle settings settings' n n' c) :
    B.TiedIn idle f Eq (evalChild located n ⟨data, game, settings, H⟩ field child)
      (evalChildIn n' f ⟨data, game, settings', H'⟩ field child) := by
  rcases child with - | c
  · exact Coupling.Tied.fail _
  · exact h c List.mem_cons_self f H H' holds

theorem evalNumber_tied {field : String} {child : Option Expr}
    (h : ∀ c ∈ child.toList, B.Follows idle settings settings' n n' c) :
    B.TiedIn idle f Eq (evalNumber located n ⟨data, game, settings, H⟩ field child)
      (evalNumberIn n' f ⟨data, game, settings', H'⟩ field child) := by
  rcases child with - | c
  · exact Coupling.Tied.fail _
  · exact (h c List.mem_cons_self f H H' holds).bind fun v => .ofExcept _

theorem evalOptional_tied {absent : Value} {child : Option Expr}
    (h : ∀ c ∈ child.toList, B.Follows idle settings settings' n n' c) :
    B.TiedIn idle f Eq (evalOptional located n ⟨data, game, settings, H⟩ absent child)
      (evalOptionalIn n' f ⟨data, game, settings', H'⟩ absent child) := by
  rcases child with - | c
  · exact Coupling.Tied.pure _
  · exact h c List.mem_cons_self f H H' holds

theorem evalGate_tied {gate : Option Expr}
    (h : ∀ c ∈ gate.toList, B.Follows idle settings settings' n n' c) :
    B.TiedIn idle f Eq (evalGate located n ⟨data, game, settings, H⟩ gate)
      (evalGateIn n' f ⟨data, game, settings', H'⟩ gate) := by
  rcases gate with - | c
  · exact Coupling.Tied.pure _
  · exact (h c List.mem_cons_self f H H' holds).bind fun v => .pure _

/-- A parameter that fails is the default, for whatever reason it fails. -/
theorem evalParam_tied {schema : Schema} {i : Nat} {child : Option Expr}
    (h : ∀ c ∈ child.toList, B.Follows idle settings settings' n n' c) :
    B.TiedIn idle f Eq (evalParam located n ⟨data, game, settings, H⟩ schema i child)
      (evalParamIn n' f ⟨data, game, settings', H'⟩ schema i child) := by
  rcases child with - | c
  · exact Coupling.Tied.pure _
  · unfold evalParam evalParamIn
    split
    · exact Coupling.Tied.pure _
    · split
      · exact Coupling.Tied.fail _
      · -- a failing child is absorbed on both sides, so its message does not matter
        exact (h c List.mem_cons_self f H H' holds).attemptBind (fun v => .pure _)
          fun _ _ _ => .pure _

/-! ### Statements -/

theorem evalBody_tied {body : List Expr}
    (h : ∀ c ∈ body, B.Follows idle settings settings' n n' c) (last : Value) :
    B.TiedIn idle f Eq (evalBody located n ⟨data, game, settings, H⟩ body last)
      (evalBodyIn n' f ⟨data, game, settings', H'⟩ body last) := by
  -- one statement after another, each with the value of the one before
  induction body generalizing last with
  | nil => exact Coupling.Tied.pure _
  | cons e es ih =>
    unfold evalBody evalBodyIn
    refine (h e List.mem_cons_self f H H' holds).bind fun v => ?_
    exact ih (fun c hc => h c (List.mem_cons_of_mem e hc)) v

/-- Statements after failures that are alike; the first of them is the failure of
all. -/
theorem evalStatements_tied {body : List Expr}
    (h : ∀ c ∈ body, B.Follows idle settings settings' n n' c) (last : Value)
    {first first' : Option Failure} (like : Option.Rel K.like first first') :
    B.TiedIn idle f Eq (evalStatements located n ⟨data, game, settings, H⟩ body last first)
      (evalStatementsIn n' f ⟨data, game, settings', H'⟩ body last first') := by
  induction body generalizing last first first' with
  | nil =>
    cases like with
    | none => exact Coupling.Tied.pure _
    | some like => exact Coupling.Tied.throw (.failure like)
  | cons e es ih =>
    unfold evalStatements evalStatementsIn
    have rest := ih fun c hc => h c (List.mem_cons_of_mem e hc)
    refine (h e List.mem_cons_self f H H' holds).attemptBind (fun v => rest v like) ?_
    intro g g' failed
    refine rest last ?_
    -- the first failure is kept if there is one, else this is the first
    cases like with
    | none => exact .some failed
    | some like => exact .some like

end

/-! ### The language -/

/-- **One induction for two runs.** From states that are alike, an expression with
the stacks `f` does to its end, whatever the ending, what evaluation with the frames
`f` does. A context that may hold an entity by name in one run and by pointer in
the other must not be asked for a null pointer, and what becomes of a counted loop
that has used up its allowance matters only if there is one in the expression. -/
theorem evalIn_tied (hK : K.Serves settings settings' n n') (e : Expr)
    (unasked : ∀ c, B.named c → ¬ (Expr.isNull c).Occurs e)
    (out : ∀ x : Expr, x.Occurs e → x.IsCounted → settings.admits n = true →
      K.excused .exhausted ∨ n = n' ∧ K.admitted .exhausted) :
    B.Follows idle settings settings' n n' e := by
  induction e using Expr.childInduction with
  | step e children =>
    -- what occurs in a child occurs in the expression
    have ih : ∀ c ∈ e.children, B.Follows idle settings settings' n n' c :=
      fun c hc => children c hc (fun d hd within => unasked d hd (.child hc within))
        fun x hx => out x (.child hc hx)
    intro f H H' holds
    unfold evalWith evalIn
    refine Coupling.Tied.locating e ?_
    cases e with
    -- literals, and questions about the state
    | int | float | bool | asset | prototype | dynamicCombatLevel => exact .pure _
    | exportError => exact .fail _
    | contextInt c => exact TiedIn.seeing (Query.contextInt c) tied_contextInt
    | contextPrototype c => exact TiedIn.seeing (Query.contextPrototype c) tied_contextPrototype
    | isNull c =>
      have unnamed : ¬ B.named c := fun named => unasked c named .self
      exact TiedIn.seeing (Query.isNull _ c) (tied_isNull unnamed)
    | has c key => exact TiedIn.seeing (Query.has _ c key) (tied_has holds key)
    | load c key => exact TiedIn.seeing (Query.load _ c key) (tied_load holds key)
    | loadFrom c property param =>
      exact TiedIn.seeing (Query.loadFrom _ c property param) (tied_loadFrom holds property param)
    | tierInRange c min max =>
      exact TiedIn.seeing (Query.predicate _)
        (tied_predicate fun s s' hs => tierInRange hs holds c min max)
    | missionActive c id =>
      exact TiedIn.seeing (Query.predicate _)
        (tied_predicate fun s s' hs => missionActive hs c id)
    | missionComplete c id =>
      exact TiedIn.seeing (Query.predicate _)
        (tied_predicate fun s s' hs => missionComplete hs holds c id)
    | hasInInventory c filter label =>
      exact TiedIn.seeing (Query.predicate _)
        (tied_predicate fun s s' hs => hasInInventory hs c filter label)
    -- operators that evaluate their children one after another
    | curve id index =>
      dsimp only
      split
      · exact .fail _
      · rcases index with - | index
        · exact .fail _
        rcases data.curves.get? id with - | curve
        · exact .fail _
        refine (ih index List.mem_cons_self f H H' holds).bind fun v => ?_
        refine (Coupling.Tied.ofExcept _).bind fun i => ?_
        rcases curve.get? (curve.clamp i) with - | v
        · exact .fail _
        · exact .pure _
    | arith op b c =>
      obtain ⟨hb, hc⟩ := List.forall_mem_append.mp ih
      refine (evalNumber_tied holds hb).bind fun x => (evalNumber_tied holds hc).bind fun y => ?_
      exact (Coupling.Tied.ofExcept _).bind fun z => .pure _
    | power b c | compare _ b c =>
      obtain ⟨hb, hc⟩ := List.forall_mem_append.mp ih
      refine (evalNumber_tied holds hb).bind fun x => ?_
      exact (evalNumber_tied holds hc).bind fun y => .pure _
    | equals b c epsilon =>
      obtain ⟨hb, hc⟩ := List.forall_mem_append.mp ih
      refine (evalChild_tied holds hb).bind fun x => (evalChild_tied holds hc).bind fun y => ?_
      exact (Coupling.Tied.ofExcept _).bind fun z => .pure _
    | logic op b c =>
      obtain ⟨hb, hc⟩ := List.forall_mem_append.mp ih
      -- the second operand has to be there before the first is evaluated
      rcases c with - | c
      · exact .fail _
      · refine (evalChild_tied holds hb).bind fun x => (Coupling.Tied.ofExcept _).bind fun t => ?_
        split
        · exact .pure _
        · refine (hc c List.mem_cons_self f H H' holds).bind fun y => ?_
          exact (Coupling.Tied.ofExcept _).bind fun z => .pure _
    | not b =>
      exact (evalChild_tied holds ih).bind fun x => (Coupling.Tied.ofExcept _).bind fun t => .pure _
    | ifElse conditional onTrue onFalse =>
      obtain ⟨hrequired, hfalse⟩ := List.forall_mem_append.mp ih
      obtain ⟨hconditional, htrue⟩ := List.forall_mem_append.mp hrequired
      rcases conditional with - | conditional
      · exact .fail _
      rcases onTrue with - | onTrue
      · exact .fail _
      refine (hconditional conditional List.mem_cons_self f H H' holds).bind fun x => ?_
      refine (Coupling.Tied.ofExcept _).bind fun t => ?_
      split
      · exact htrue onTrue List.mem_cons_self f H H' holds
      · exact evalOptional_tied holds hfalse
    -- scopes and loops, whose children have other frames
    | scope body =>
      dsimp only
      split
      · exact .fail _
      · exact TiedIn.inFrame fun a g g' _ => evalStatements_tied holds ih _ .none
    | forLoop before init condition advance body after =>
      simp only [Expr.children, List.forall_mem_append] at ih
      obtain ⟨⟨⟨⟨⟨hbefore, hinit⟩, hcondition⟩, hadvance⟩, hbody⟩, hafter⟩ := ih
      rcases init with - | init
      · exact .fail _
      rcases advance with - | advance
      · exact .fail _
      rcases condition with - | condition
      · exact .fail _
      dsimp only
      split
      · exact .fail _
      · refine TiedIn.inScope fun s t hs => ?_
        refine (evalOptional_tied holds hbefore).discard.bindTo (fun _ _ _ => ?_) Inside.beside
        have hi := hinit init List.mem_cons_self (f.enter t.frame) H H' holds
        refine hi.discard.bindTo (fun _ _ _ => ?_) Inside.beside
        have hc := hcondition condition List.mem_cons_self (f.enter t.frame) H H' holds
        refine hc.bindTo (fun first _ same => ?_) Inside.beside
        subst same
        -- the last part runs with the caller stack from outside of the loop
        refine Coupling.Tied.concludingTo ?_
          (fun last => TiedIn.rebind hs (evalOptional_tied holds hafter)) Inside.beside
        refine Coupling.Tied.repeatWhile (by exact hK.limit) hc ?_ n n' hK.allowance 0 first
          settings.admits_zero ?_
        · refine (evalBody_tied holds hbody _).discard.bind fun _ => ?_
          exact (hadvance advance List.mem_cons_self _ H H' holds).discard
        · -- the turns use up the allowance: this is where the loop may be exhausted
          rw [Nat.zero_add]
          exact out _ .self trivial
    | forEachCondition c before gate body endGate after =>
      simp only [Expr.children, List.forall_mem_append] at ih
      obtain ⟨⟨⟨⟨hbefore, hgate⟩, hbody⟩, hend⟩, hafter⟩ := ih
      dsimp only
      split
      · exact .fail _
      · refine TiedIn.inFrame fun outer g g' _ => ?_
        refine (evalOptional_tied holds hbefore).bind fun first => ?_
        refine Coupling.Tied.bindWith (TiedIn.seeing (Query.conditionsOf _ c) tied_conditionsOf) ?_
        rintro list _ ⟨rfl, looped⟩
        -- what the loop goes over stays alive to its end
        have holds := B.holdingList holds looped
        dsimp only [Env.holding]
        -- the first turn is admitted in both runs or in neither
        rw [Settings.admits_congr hK.limit]
        refine Coupling.Tied.concluding (TiedIn.closing ?_) fun last =>
          evalOptional_tied holds hafter
        refine Coupling.Tied.forEach (by exact hK.limit) _ (fun condition member => ?_) _ _
        exact TiedIn.conditionTurn (evalGate_tied holds hgate) (evalBody_tied holds hbody _)
          (evalGate_tied holds hend) looped member
    | forEachPrototype c before gate body after =>
      simp only [Expr.children, List.forall_mem_append] at ih
      obtain ⟨⟨⟨hbefore, hgate⟩, hbody⟩, hafter⟩ := ih
      dsimp only
      split
      · exact .fail _
      · refine TiedIn.inFrame fun outer g g' place => ?_
        refine (evalOptional_tied holds hbefore).bind fun first => ?_
        refine (TiedIn.seeing (Query.elementsOf _ c) tied_elementsOf).bind fun elements => ?_
        refine Coupling.Tied.concluding ?_ fun last => evalOptional_tied holds hafter
        refine Coupling.Tied.forEach (by exact hK.limit) _ (fun p _ => ?_) _ _
        exact TiedIn.elementTurn place (evalGate_tied holds hgate) (evalBody_tied holds hbody _) p
    -- properties
    | assign c key value =>
      rcases value with - | value
      · exact .fail _
      · dsimp only
        split
        · exact .fail _
        · refine (ih value List.mem_cons_self f H H' holds).bind fun v => ?_
          refine (Coupling.Tied.ofExcept _).bind fun v => ?_
          refine (TiedIn.seeing (Query.collection _ c _) tied_collection).bindWith ?_
          intro h h' place
          exact (Coupling.Tied.ofExcept _).bind fun schema => TiedIn.record place key schema v
    | assignBy c property p q r t value =>
      simp only [Expr.children, List.forall_mem_append] at ih
      obtain ⟨⟨⟨⟨hp, hq⟩, hr⟩, ht⟩, hvalue⟩ := ih
      rcases value with - | value
      · exact .fail _
      · dsimp only
        split
        · exact .fail _
        · refine (hvalue value List.mem_cons_self f H H' holds).bind fun v => ?_
          refine (Coupling.Tied.ofExcept _).bind fun v => ?_
          refine (TiedIn.seeing (Query.collection _ c _) tied_collection).bindWith ?_
          intro h h' place
          -- the target is kept alive while the parameters are evaluated
          have holds := B.holding holds place
          refine (Coupling.Tied.ofExcept _).bind fun schema => ?_
          refine (Coupling.Tied.keyWith (evalParam_tied holds hp) (evalParam_tied holds hq)
            (evalParam_tied holds hr) (evalParam_tied holds ht)).bind fun k => ?_
          exact TiedIn.record place k schema v
    | loadBy c property p q r t =>
      simp only [Expr.children, List.forall_mem_append] at ih
      obtain ⟨⟨⟨hp, hq⟩, hr⟩, ht⟩ := ih
      dsimp only
      split
      · exact .fail _
      · refine (TiedIn.seeing (Query.collection _ c _) tied_collection).bindWith ?_
        intro h h' place
        have holds := B.holding holds place
        refine (Coupling.Tied.ofExcept _).bind fun schema => ?_
        refine (Coupling.Tied.keyWith (evalParam_tied holds hp) (evalParam_tied holds hq)
          (evalParam_tied holds hr) (evalParam_tied holds ht)).bind fun k => ?_
        exact TiedIn.retrieve holds place k schema
    | reserved call =>
      -- either the abort of the first run is excused or both follow one policy
      rcases hK.reserved with ⟨excuse, policy⟩ | ⟨admitted, same⟩
      · dsimp only
        rw [policy]
        exact .excuse (excuse _)
      · dsimp only
        rw [same]
        cases settings.reserved with
        | fail => exact .fail _
        | abort => exact .throw (.abort (admitted _))

/-- A rule does with its stacks what it does with the frames that they are. -/
theorem tryRun_tied {H H' : Handle → Bool} (holds : B.held H H')
    (hK : K.Serves settings settings' n n') (rule : Option Expr)
    (unasked : ∀ e ∈ rule, ∀ c, B.named c → ¬ (Expr.isNull c).Occurs e)
    (out : ∀ e ∈ rule, ∀ x : Expr, x.Occurs e → x.IsCounted → settings.admits n = true →
      K.excused .exhausted ∨ n = n' ∧ K.admitted .exhausted) :
    B.TiedIn idle f Eq (Env.tryRun n ⟨data, game, settings, H⟩ rule)
      (Env.tryRunIn n' f ⟨data, game, settings', H'⟩ rule) := by
  rcases rule with - | e
  · exact Coupling.Tied.fail _
  · exact evalIn_tied hK e (unasked e rfl) (out e rfl) f H H' holds

end Correspondence

end Rulebook
