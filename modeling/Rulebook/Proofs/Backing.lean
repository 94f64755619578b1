/-
Rulebook/Proofs/Backing.lean

Endings of a step, and a second step that backs its values.  A step is
`Backed` by another if two things hold from every state: its stops are among
given ones, and where it has a value the other has it as well and leaves the
same state.  Of a step that stops nothing is asked, so the other may go on
where the first one fails; and it may also come to an abort that is excused.

With one step on both sides this says what a step can end with and no more.
With two it says that what succeeds under some settings succeeds under others.
As in `Rulebook.Proofs.Guarantee` there is one rule for each thing that
evaluation is built from.
-/
import Rulebook.Proofs.Outcome

namespace Rulebook

/-! ### Results -/

/-- Whether a rule can have a value of a kind. -/
def Kind.isResult : Kind → Bool
  | .undefined | .int | .float | .bool | .asset | .prototype | .entityId => true
  | .error | .key | .entity | .guid | .collection | .conditions | .prototypeList
  | .prototypeVector => false

/-- Whether a value is of a kind that a rule can have. -/
def Value.IsResult (v : Value) : Prop := v.kind.isResult = true

/-- Whether a loop that is left here has a result. -/
def Gate.IsResult : Gate → Prop
  | .leave v => v.IsResult
  | .pass | .stop => True

/-- Whether a loop has a result that goes on from here or is left. -/
def Turn.IsResult : Turn → Prop
  | .next v | .leave v => v.IsResult
  | .stop => True

/-- Whether a loop has a result that has ended so. -/
def Ending.IsResult : Ending → Prop
  | .finished v | .left v => v.IsResult

theorem Gate.isResult_ofValue {v : Value} (hv : v.IsResult) : (Gate.ofValue v).IsResult := by
  unfold Gate.ofValue
  split
  · trivial
  · trivial
  · exact hv

namespace Eval

variable {α β : Type} {stops : Stop → Prop} {excused : String → Prop}

/-! ### Backing -/

/-- Whether a step comes to an abort that is excused. -/
def Aborts (excused : String → Prop) (m : Eval α) (s : State) : Prop :=
  ∃ message t, exec m s = (.error (.abort message), t) ∧ excused message

/-- Whether a step has the value `a` and leaves the state `t`, or comes to an abort
that is excused. -/
def Reaches (excused : String → Prop) (m : Eval α) (s : State) (a : α) (t : State) : Prop :=
  exec m s = (.ok a, t) ∨ Aborts excused m s

/-- From every state the step `m` comes to one of `stops`, or it has a value that
satisfies `post` and that `m'` reaches. -/
def Backed (stops : Stop → Prop) (excused : String → Prop) (m m' : Eval α) (post : α → Prop) :
    Prop :=
  ∀ s, (∃ stop t, exec m s = (.error stop, t) ∧ stops stop) ∨
    ∃ a t, exec m s = (.ok a, t) ∧ post a ∧ Reaches excused m' s a t

/-- What the loops of two runs need to know about their settings: the second run
admits the turns that the first one admits, and a stop of the first is among
`stops` if it says that a turn was refused or that the allowance is used up. -/
structure Outlasts (stops : Stop → Prop) (settings settings' : Settings) : Prop where
  admits : ∀ n, settings.admits n = true → settings'.admits n = true
  refused : ∀ limit, settings.loopLimit = some limit →
    stops (.failure { cause := .loopLimitExceeded limit })
  exhausted : stops .exhausted

theorem Reaches.bind {m' : Eval α} {f' : α → Eval β} {s t u : State} {a : α} {b : β}
    (hm : Reaches excused m' s a t) (hf : Reaches excused (f' a) t b u) :
    Reaches excused (m' >>= f') s b u := by
  rcases hm with e | ⟨message, v, e, excuse⟩
  · unfold Reaches Aborts
    rw [exec_bind_ok e]
    exact hf
  · exact .inr ⟨message, v, exec_bind_error e, excuse⟩

namespace Backed

variable {m m' : Eval α} {post : α → Prop}

theorem imp {stops' : Stop → Prop} {post' : α → Prop} (h : Backed stops excused m m' post)
    (hs : ∀ stop, stops stop → stops' stop) (hp : ∀ a, post a → post' a) :
    Backed stops' excused m m' post' := by
  intro s
  rcases h s with ⟨stop, t, e, admitted⟩ | ⟨a, t, e, ha, reached⟩
  · exact .inl ⟨stop, t, e, hs stop admitted⟩
  · exact .inr ⟨a, t, e, hp a ha, reached⟩

/-! ### Rules -/

theorem pure {a : α} (h : post a) :
    Backed stops excused (Pure.pure a) (Pure.pure a) post :=
  fun s => .inr ⟨a, s, rfl, h, .inl rfl⟩

theorem throw {stop : Stop} (h : stops stop) :
    Backed stops excused (MonadExcept.throw stop) m' post :=
  fun s => .inl ⟨stop, s, rfl, h⟩

theorem fail {c : Cause} (h : stops (.failure { cause := c })) :
    Backed stops excused (Eval.fail c) m' post :=
  throw h

theorem get : Backed stops excused MonadState.get MonadState.get fun _ => True :=
  fun s => .inr ⟨s, s, rfl, trivial, .inl rfl⟩

theorem modify (f : State → State) :
    Backed stops excused (modify f : Eval Unit) (modify f) fun _ => True :=
  fun s => .inr ⟨(), f s, rfl, trivial, .inl rfl⟩

theorem ofExcept {x : Except Cause α} (h : ∀ c, x = .error c → stops (.failure { cause := c })) :
    Backed stops excused (Eval.ofExcept x) (Eval.ofExcept x) fun a => x = .ok a := by
  rcases x with c | a
  · exact fail (h c rfl)
  · exact pure rfl

theorem bind {f f' : α → Eval β} {post' : β → Prop} (hm : Backed stops excused m m' post)
    (hf : ∀ a, post a → Backed stops excused (f a) (f' a) post') :
    Backed stops excused (m >>= f) (m' >>= f') post' := by
  intro s
  rcases hm s with ⟨stop, t, e, admitted⟩ | ⟨a, t, e, ha, reached⟩
  · exact .inl ⟨stop, t, exec_bind_error e, admitted⟩
  · rw [exec_bind_ok e]
    rcases hf a ha t with stopped | ⟨b, u, e', hb, reached'⟩
    · exact .inl stopped
    · exact .inr ⟨b, u, e', hb, reached.bind reached'⟩

/-- What would come after a failure does not matter. -/
theorem failBind {c : Cause} {f : α → Eval β} {m'' : Eval β} {post' : β → Prop}
    (h : stops (.failure { cause := c })) :
    Backed stops excused (Eval.fail c >>= f) m'' post' :=
  fun s => .inl ⟨_, s, exec_bind_error (exec_fail c s), h⟩

theorem discard (hm : Backed stops excused m m' post) :
    Backed stops excused (discard m) (discard m') fun _ => True :=
  hm.bind fun _ _ => pure trivial

theorem locating {stops' : Stop → Prop} (e : Expr) (hm : Backed stops excused m m' post)
    (hf : ∀ f, stops (.failure f) → stops' (.failure (f.locate e)))
    (ha : ∀ message, stops (.abort message) → stops' (.abort message))
    (hx : stops .exhausted → stops' .exhausted) :
    Backed stops' excused (locating e m) (locating e m') post := by
  intro s
  rcases hm s with ⟨stop, t, h, admitted⟩ | ⟨a, t, h, post, reached⟩
  · rw [exec_locating, h]
    cases stop with
    | failure f => exact .inl ⟨_, t, rfl, hf f admitted⟩
    | abort message => exact .inl ⟨_, t, rfl, ha message admitted⟩
    | exhausted => exact .inl ⟨_, t, rfl, hx admitted⟩
  · refine .inr ⟨a, t, by rw [exec_locating, h], post, ?_⟩
    rcases reached with h' | ⟨message, u, h', excuse⟩
    · exact .inl (by rw [exec_locating, h'])
    · exact .inr ⟨message, u, by rw [exec_locating, h'], excuse⟩

/-! ### Steps whose failures are absorbed -/

/-- An attempt is backed only if the second step does what the first one does where
this fails, too. -/
theorem attempt (hm : Backed stops excused m m' post)
    (alike : ∀ s, exec m' s = exec m s ∨ Aborts excused m' s) :
    Backed stops excused (Eval.attempt m) (Eval.attempt m') fun _ => True := by
  intro s
  -- the first step goes on after its failure, so the second has to come to it too
  have reached : ∀ {r t}, exec (Eval.attempt m) s = (.ok r, t) →
      Reaches excused (Eval.attempt m') s r t := by
    intro r t h
    rcases alike s with e | ⟨message, u, e, excuse⟩
    · refine .inl ?_
      rw [exec_attempt, e, ← exec_attempt]
      exact h
    · exact .inr ⟨message, u, exec_attempt_abort e, excuse⟩
  rcases hm s with ⟨stop, t, e, admitted⟩ | ⟨a, t, e, -, -⟩
  · cases stop with
    | failure f =>
      have absorbed := exec_attempt_failure e
      exact .inr ⟨_, t, absorbed, trivial, reached absorbed⟩
    | abort message => exact .inl ⟨_, t, exec_attempt_abort e, admitted⟩
    | exhausted => exact .inl ⟨_, t, exec_attempt_exhausted e, admitted⟩
  · have succeeded := exec_attempt_ok e
    exact .inr ⟨_, t, succeeded, trivial, reached succeeded⟩

/-- Where a failure of an attempt leads to no value, nothing is asked of the second
step after it. -/
theorem attemptBind {f f' : Except Failure α → Eval β} {post' : β → Prop}
    (hm : Backed stops excused m m' post)
    (ok : ∀ a, post a → Backed stops excused (f (.ok a)) (f' (.ok a)) post')
    (error : ∀ g, stops (.failure g) →
      Backed stops excused (f (.error g)) (f' (.error g)) fun _ => False) :
    Backed stops excused (Eval.attempt m >>= f) (Eval.attempt m' >>= f') post' := by
  intro s
  rcases hm s with ⟨stop, t, e, admitted⟩ | ⟨a, t, e, ha, reached⟩
  · -- a failure is handed to the handler, the two other stops pass through it
    cases stop with
    | failure g =>
      rw [exec_bind_ok (exec_attempt_failure e)]
      rcases error g admitted t with stopped | ⟨b, u, -, never, -⟩
      · exact .inl stopped
      · exact never.elim
    | abort message => exact .inl ⟨_, t, exec_bind_error (exec_attempt_abort e), admitted⟩
    | exhausted => exact .inl ⟨_, t, exec_bind_error (exec_attempt_exhausted e), admitted⟩
  · -- an absorbed abort of the attempt is an abort of the whole
    have reached : Reaches excused (Eval.attempt m') s (.ok a) t := by
      rcases reached with e' | ⟨message, u, e', excuse⟩
      · exact .inl (exec_attempt_ok e')
      · exact .inr ⟨message, u, exec_attempt_abort e', excuse⟩
    rw [exec_bind_ok (exec_attempt_ok e)]
    rcases ok a ha t with stopped | ⟨b, u, e', hb, reached'⟩
    · exact .inl stopped
    · exact .inr ⟨b, u, e', hb, reached.bind reached'⟩

/-! ### Frames and conditions -/

theorem inScope {body body' : Activation → Handle → Eval α}
    (h : ∀ a g, Backed stops excused (body a g) (body' a g) post) :
    Backed stops excused (Eval.inScope body) (Eval.inScope body') post := by
  intro s
  rcases h s.activation s.frame s.enter with
    ⟨stop, t, e, admitted⟩ | ⟨a, t, e, ha, reached⟩
  · exact .inl ⟨stop, s.leave t, by rw [exec_inScope, e], admitted⟩
  · refine .inr ⟨a, s.leave t, by rw [exec_inScope, e], ha, ?_⟩
    rcases reached with e' | ⟨message, u, e', excuse⟩
    · exact .inl (by rw [exec_inScope, e'])
    · exact .inr ⟨message, s.leave u, by rw [exec_inScope, e'], excuse⟩

/-- Whether a condition was bound makes a difference only for a loop that stops. -/
theorem closing {bound bound' : Bool} (h : Backed stops excused m m' post) :
    Backed stops excused (Eval.closing bound m) (Eval.closing bound' m') post := by
  intro s
  rcases h s with ⟨stop, t, e, admitted⟩ | ⟨a, t, e, ha, reached⟩
  · exact .inl ⟨stop, _, by rw [exec_closing, e], admitted⟩
  · refine .inr ⟨a, _, by rw [exec_closing, e], ha, ?_⟩
    rcases reached with e' | ⟨message, u, e', excuse⟩
    · exact .inl (by rw [exec_closing, e'])
    · exact .inr ⟨message, _, by rw [exec_closing, e'], excuse⟩

/-! ### Turns -/

variable {env env' : Env}

theorem beginTurn (h : Outlasts stops env.settings env'.settings) (n : Nat) :
    Backed stops excused (Eval.beginTurn env n) (Eval.beginTurn env' n) fun _ => True := by
  by_cases admitted : env.settings.admits n = true
  · rw [beginTurn_of_admits admitted, beginTurn_of_admits (h.admits n admitted)]
    exact pure trivial
  · rw [beginTurn_of_not_admits admitted]
    cases limited : env.settings.loopLimit with
    | none =>
      -- without a limit no turn is refused
      exact absurd (by rw [Settings.admits, limited]) admitted
    | some limit => exact fail (h.refused limit limited)

theorem gated {gate gate' : Eval Gate} {rest rest' : Eval Turn}
    (hg : Backed stops excused gate gate' Gate.IsResult)
    (hr : Backed stops excused rest rest' Turn.IsResult) :
    Backed stops excused (Eval.gated gate rest) (Eval.gated gate' rest') Turn.IsResult := by
  refine hg.bind fun decision left => ?_
  -- the rest runs only if the gate lets it pass
  cases decision with
  | pass => exact hr
  | stop => exact pure trivial
  | leave v => exact pure left

theorem conditionTurn {gate gate' endGate endGate' : Eval Gate} {body body' : Eval Value}
    (hg : Backed stops excused gate gate' Gate.IsResult)
    (hb : Backed stops excused body body' Value.IsResult)
    (he : Backed stops excused endGate endGate' Gate.IsResult) (condition : Condition) :
    Backed stops excused (Eval.conditionTurn gate body endGate condition)
      (Eval.conditionTurn gate' body' endGate' condition) Turn.IsResult :=
  (modify _).bind fun _ _ => hg.gated (hb.bind fun _ last => he.gated (pure last))

theorem elementTurn {frame : Handle} {gate gate' : Eval Gate} {body body' : Eval Value}
    (hg : Backed stops excused gate gate' Gate.IsResult)
    (hb : Backed stops excused body body' Value.IsResult) (p : PrototypeId) :
    Backed stops excused (Eval.elementTurn frame gate body p)
      (Eval.elementTurn frame gate' body' p) Turn.IsResult :=
  hg.gated ((modify _).bind fun _ _ => hb.bind fun _ last => pure last)

/-! ### Loops -/

theorem forEach {turn turn' : α → Eval Turn} (h : Outlasts stops env.settings env'.settings)
    (ht : ∀ x, Backed stops excused (turn x) (turn' x) Turn.IsResult) :
    ∀ (xs : List α) (n : Nat) (last : Value), last.IsResult →
      Backed stops excused (Eval.forEach env turn xs n last) (Eval.forEach env' turn' xs n last)
        Ending.IsResult
  | [], _, _, result => pure result
  | x :: xs, n, _, _ => by
    unfold Eval.forEach
    refine (beginTurn h (n + 1)).bind fun _ _ => (ht x).bind fun ending result => ?_
    -- a turn goes on with its value, stops the loop, or leaves it with a value
    cases ending with
    | next v => exact forEach h ht xs (n + 1) v result
    | stop => exact pure rfl
    | leave v => exact pure result

theorem repeatWhile {condition condition' : Eval Value} {turn turn' : Eval Unit}
    (h : Outlasts stops env.settings env'.settings)
    (hc : Backed stops excused condition condition' Value.IsResult)
    (ht : Backed stops excused turn turn' fun _ => True) :
    ∀ (allowance n : Nat) (v : Value), v.IsResult →
      Backed stops excused (Eval.repeatWhile env condition turn allowance n v)
        (Eval.repeatWhile env' condition' turn' allowance n v) Ending.IsResult := by
  intro allowance
  induction allowance with
  -- out of allowance: a true condition exhausts both, all others end the loop
  | zero =>
    intro n v result
    unfold Eval.repeatWhile
    split
    next same => cases same
    next => exact throw h.exhausted
    next => exact pure rfl
    next => exact pure result
  | succ allowance ih =>
    intro n v result
    unfold Eval.repeatWhile
    split
    next same =>
      cases same
      -- the count, the turn, and the condition again
      refine (beginTurn h _).bind fun _ _ => ht.bind fun _ _ => hc.bind fun w result => ?_
      exact ih _ w result
    next same => cases same
    next => exact pure rfl
    next => exact pure result

theorem concluding {loop loop' : Eval Ending} {after after' : Value → Eval Value}
    (hl : Backed stops excused loop loop' Ending.IsResult)
    (ha : ∀ v, v.IsResult → Backed stops excused (after v) (after' v) Value.IsResult) :
    Backed stops excused (Eval.concluding loop after) (Eval.concluding loop' after')
      Value.IsResult := by
  refine hl.bind fun ending result => ?_
  cases ending with
  | finished last => exact ha last result
  | left v => exact pure result

/-! ### The loops of the language -/

variable {before before' : Eval Value}

theorem forLoop {init init' condition condition' advance advance' body body' : Eval Value}
    {after after' : Value → Eval Value} (h : Outlasts stops env.settings env'.settings)
    (hbefore : Backed stops excused before before' Value.IsResult)
    (hinit : Backed stops excused init init' Value.IsResult)
    (hcondition : Backed stops excused condition condition' Value.IsResult)
    (hadvance : Backed stops excused advance advance' Value.IsResult)
    (hbody : Backed stops excused body body' Value.IsResult)
    (hafter : ∀ v, v.IsResult → Backed stops excused (after v) (after' v) Value.IsResult)
    (allowance : Nat) :
    Backed stops excused (Eval.forLoop env allowance before init condition advance body after)
      (Eval.forLoop env' allowance before' init' condition' advance' body' after')
      Value.IsResult := by
  refine inScope fun outer _ => hbefore.discard.bind fun _ _ => hinit.discard.bind fun _ _ => ?_
  refine hcondition.bind fun first result => ?_
  -- a turn is the body and the advance, whose values are dropped
  have hturn := hbody.discard.bind fun _ _ => hadvance.discard
  refine (hcondition.repeatWhile h hturn allowance 0 first result).concluding fun last result => ?_
  exact (modify _).bind fun _ _ => hafter last result

theorem forEachCondition {c : Context} {gate gate' endGate endGate' : Env → Eval Gate}
    {body body' : Env → Eval Value} {after after' : Env → Value → Eval Value}
    (h : Outlasts stops env.settings env'.settings)
    (hbefore : Backed stops excused before before' Value.IsResult)
    (hlist : Backed stops excused (conditionsOf env c) (conditionsOf env' c) fun _ => True)
    (hgate : ∀ more, Backed stops excused (gate (env.holding more)) (gate' (env'.holding more))
      Gate.IsResult)
    (hbody : ∀ more, Backed stops excused (body (env.holding more)) (body' (env'.holding more))
      Value.IsResult)
    (hend : ∀ more, Backed stops excused (endGate (env.holding more))
      (endGate' (env'.holding more)) Gate.IsResult)
    (hafter : ∀ more v, v.IsResult → Backed stops excused (after (env.holding more) v)
      (after' (env'.holding more) v) Value.IsResult) :
    Backed stops excused (Eval.forEachCondition env c before gate body endGate after)
      (Eval.forEachCondition env' c before' gate' body' endGate' after') Value.IsResult := by
  refine inScope fun _ _ => hbefore.bind fun first result => hlist.bind fun list _ => ?_
  refine (closing ?_).concluding (hafter _)
  refine forEach (by exact h) (fun condition => ?_) _ _ _ result
  exact (hgate _).conditionTurn (hbody _) (hend _) condition

theorem forEachPrototype {c : Context} {gate gate' : Eval Gate} {body body' : Eval Value}
    {after after' : Value → Eval Value} (h : Outlasts stops env.settings env'.settings)
    (hbefore : Backed stops excused before before' Value.IsResult)
    (helements : Backed stops excused (elementsOf env c) (elementsOf env' c) fun _ => True)
    (hgate : Backed stops excused gate gate' Gate.IsResult)
    (hbody : Backed stops excused body body' Value.IsResult)
    (hafter : ∀ v, v.IsResult → Backed stops excused (after v) (after' v) Value.IsResult) :
    Backed stops excused (Eval.forEachPrototype env c before gate body after)
      (Eval.forEachPrototype env' c before' gate' body' after') Value.IsResult := by
  refine inScope fun _ _ => hbefore.bind fun first result => helements.bind fun elements _ => ?_
  exact (forEach h (fun p => hgate.elementTurn hbody p) _ _ _ result).concluding hafter

end Backed

end Eval

end Rulebook
