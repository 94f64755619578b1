/-
Rulebook/Proofs/Guarantee.lean

Guarantees.  A `Guarantee` is what is promised about a step of a run: an
invariant of the states, and a relation between the state before the step
and the state after it, however the step ends.  The relation is reflexive
and transitive, so a guarantee that every part of a program gives is given
by the program.

`Guarantee.Agree` compares two steps.  From every state with the invariant
they have the same outcome, the guarantee is kept on the way, and a value
that comes out satisfies a postcondition.  With one step on both sides this
is a program logic for the guarantee alone; the second step is there for
what is done `around` expressions, which may differ as long as it does not
matter (`Rulebook.Proofs.Discipline`).

There is one rule for each thing that evaluation is built from.
-/
import Rulebook.Proofs.Outcome

namespace Rulebook

/-- An invariant of states, and a relation between the states before and
after a step. -/
structure Guarantee where
  inv : State → Prop
  rel : State → State → Prop
  refl : ∀ s, rel s s
  trans : ∀ {s t u}, rel s t → rel t u → rel s u

open Eval

namespace Guarantee

variable {α β : Type} {G : Guarantee}

/-- From every state with the invariant of `G` two steps end in the same way,
keep `G`, and have a value that satisfies `post` if they have one. -/
def Agree (G : Guarantee) (m m' : Eval α) (post : α → Prop) : Prop :=
  ∀ s, G.inv s → ∃ r t, exec m s = (r, t) ∧ exec m' s = (r, t) ∧ G.inv t ∧ G.rel s t ∧
    ∀ a, r = .ok a → post a

/-! ### Weakening -/

theorem Agree.imp {m m' : Eval α} {p q : α → Prop} (h : G.Agree m m' p) (hpq : ∀ a, p a → q a) :
    G.Agree m m' q := by
  intro s hs
  obtain ⟨r, t, e, e', inv, rel, post⟩ := h s hs
  exact ⟨r, t, e, e', inv, rel, fun a ha => hpq a (post a ha)⟩

/-- A guarantee with the same invariant and a weaker relation is kept as well. -/
theorem Agree.weaken {G' : Guarantee} {m m' : Eval α} {p : α → Prop} (h : G.Agree m m' p)
    (hinv : G'.inv = G.inv) (hrel : ∀ s t, G.rel s t → G'.rel s t) : G'.Agree m m' p := by
  intro s hs
  rw [hinv] at hs ⊢
  obtain ⟨r, t, e, e', inv, rel, post⟩ := h s hs
  exact ⟨r, t, e, e', inv, hrel s t rel, post⟩

/-! ### Rules -/

theorem Agree.pure {a : α} {p : α → Prop} (h : p a) : G.Agree (pure a) (pure a) p := by
  intro s hs
  refine ⟨.ok a, s, rfl, rfl, hs, G.refl s, ?_⟩
  rintro b ⟨⟩
  exact h

theorem Agree.throw {e : Stop} {p : α → Prop} : G.Agree (throw e) (throw e) p := by
  intro s hs
  refine ⟨.error e, s, rfl, rfl, hs, G.refl s, ?_⟩
  rintro a ⟨⟩

theorem Agree.fail {c : Cause} {p : α → Prop} : G.Agree (fail c) (fail c) p :=
  Agree.throw

theorem Agree.bind {m m' : Eval α} {f f' : α → Eval β} {p : α → Prop} {q : β → Prop}
    (hm : G.Agree m m' p) (hf : ∀ a, p a → G.Agree (f a) (f' a) q) :
    G.Agree (m >>= f) (m' >>= f') q := by
  intro s hs
  obtain ⟨stop | a, t, e, e', inv, rel, post⟩ := hm s hs
  · refine ⟨.error stop, t, exec_bind_error e, exec_bind_error e', inv, rel, ?_⟩
    rintro b ⟨⟩
  · obtain ⟨r, u, d, d', inv', rel', post'⟩ := hf a (post a rfl) t inv
    rw [← exec_bind_ok e] at d
    rw [← exec_bind_ok e'] at d'
    exact ⟨r, u, d, d', inv', G.trans rel rel', post'⟩

/-- What would come after a failure does not matter. -/
theorem Agree.failBind {c : Cause} {f f' : α → Eval β} {q : β → Prop} :
    G.Agree (Eval.fail c >>= f) (Eval.fail c >>= f') q :=
  Agree.bind (p := fun _ => False) Agree.fail fun _ h => h.elim

theorem Agree.discard {m m' : Eval α} {p : α → Prop} (hm : G.Agree m m' p) :
    G.Agree (discard m) (discard m') fun _ => True :=
  hm.bind fun _ _ => Agree.pure trivial

theorem Agree.get : G.Agree get get G.inv := by
  intro s hs
  refine ⟨.ok s, s, rfl, rfl, hs, G.refl s, ?_⟩
  rintro t ⟨⟩
  exact hs

theorem Agree.modify {f : State → State} (h : ∀ s, G.inv s → G.inv (f s) ∧ G.rel s (f s)) :
    G.Agree (modify f) (modify f) fun _ => True := by
  intro s hs
  obtain ⟨inv, rel⟩ := h s hs
  exact ⟨.ok (), f s, rfl, rfl, inv, rel, fun _ _ => trivial⟩

theorem Agree.ofExcept {x : Except Cause α} {p : α → Prop} (h : ∀ a, x = .ok a → p a) :
    G.Agree (ofExcept x) (ofExcept x) p := by
  rcases x with c | a
  · exact Agree.fail
  · exact Agree.pure (h a rfl)

theorem Agree.check {x : Except Cause α} :
    G.Agree (Eval.ofExcept x) (Eval.ofExcept x) fun _ => True :=
  Agree.ofExcept fun _ _ => trivial

/-- A question about the state, asked of a state with the invariant. -/
theorem Agree.question {f : State → Except Cause α} {p : α → Prop}
    (h : ∀ s a, G.inv s → f s = .ok a → p a) :
    G.Agree (MonadState.get >>= fun s => Eval.ofExcept (f s))
      (MonadState.get >>= fun s => Eval.ofExcept (f s)) p :=
  Agree.get.bind fun s hs => Agree.ofExcept fun a ha => h s a hs ha

theorem Agree.resolve {env : Env} {c : Context} {access : Access} :
    G.Agree (resolve env c access) (resolve env c access) fun v =>
      ∃ s, G.inv s ∧ s.activation.resolve env.data.globals c access = .ok v :=
  Agree.question fun s _ hs h => ⟨s, hs, h⟩

theorem Agree.attempt {m m' : Eval α} {p : α → Prop} (hm : G.Agree m m' p) :
    G.Agree (attempt m) (attempt m') fun r => ∀ a, r = .ok a → p a := by
  intro s hs
  obtain ⟨stop | a, t, e, e', inv, rel, post⟩ := hm s hs
  · rw [exec_attempt, exec_attempt, e, e']
    cases stop with
    | failure f =>
      refine ⟨_, t, rfl, rfl, inv, rel, ?_⟩
      -- an attempt that came to a failure promises nothing
      rintro r ⟨⟩ a ⟨⟩
    | abort message => exact ⟨_, t, rfl, rfl, inv, rel, by rintro r ⟨⟩⟩
    | exhausted => exact ⟨_, t, rfl, rfl, inv, rel, by rintro r ⟨⟩⟩
  · rw [exec_attempt, exec_attempt, e, e']
    refine ⟨_, t, rfl, rfl, inv, rel, ?_⟩
    rintro r ⟨⟩ b ⟨⟩
    exact post a rfl

theorem Agree.locating {e : Expr} {m m' : Eval α} {p : α → Prop} (hm : G.Agree m m' p) :
    G.Agree (locating e m) (locating e m') p := by
  intro s hs
  obtain ⟨stop | a, t, h, h', inv, rel, post⟩ := hm s hs
  · rw [exec_locating, exec_locating, h, h']
    cases stop with
    | failure f => exact ⟨_, t, rfl, rfl, inv, rel, by rintro a ⟨⟩⟩
    | abort message => exact ⟨_, t, rfl, rfl, inv, rel, by rintro a ⟨⟩⟩
    | exhausted => exact ⟨_, t, rfl, rfl, inv, rel, by rintro a ⟨⟩⟩
  · rw [exec_locating, exec_locating, h, h']
    exact ⟨_, t, rfl, rfl, inv, rel, post⟩

/-! ### Loops -/

variable {env : Env}

theorem Agree.beginTurn {n : Nat} :
    G.Agree (beginTurn env n) (beginTurn env n) fun _ => env.settings.admits n = true := by
  unfold Eval.beginTurn
  split
  next h => exact Agree.pure h
  next => exact Agree.fail

/-- A loop over a list agrees if the turns that it can begin agree. The turn of
the element at place `i` is the `i + 1`-th after the `n` that were taken. -/
theorem Agree.forEach {turn turn' : α → Eval Turn} :
    ∀ (xs : List α) (n : Nat) (last : Value),
      (∀ i x, xs[i]? = some x → env.settings.admits (n + i + 1) →
        G.Agree (turn x) (turn' x) fun _ => True) →
      G.Agree (forEach env turn xs n last) (forEach env turn' xs n last) fun _ => True
  | [], _, _, _ => Agree.pure trivial
  | x :: xs, n, _, h => by
    unfold Eval.forEach
    refine Agree.beginTurn.bind fun _ admitted => ?_
    refine (h 0 x rfl admitted).bind fun ending _ => ?_
    -- the only ending with turns after it is `next`
    cases ending with
    | next v =>
      refine Agree.forEach xs (n + 1) v fun i y hy admitted => h (i + 1) y hy ?_
      rwa [show n + (i + 1) + 1 = n + 1 + i + 1 by omega]
    | stop => exact Agree.pure trivial
    | leave v => exact Agree.pure trivial

theorem Agree.repeatWhile {condition condition' : Eval Value} {turn turn' : Eval Unit}
    (hc : G.Agree condition condition' fun _ => True) (ht : G.Agree turn turn' fun _ => True) :
    ∀ (allowance n : Nat) (v : Value),
      G.Agree (repeatWhile env condition turn allowance n v)
        (repeatWhile env condition' turn' allowance n v) fun _ => True := by
  intro allowance
  induction allowance with
  | zero =>
    intro n v
    unfold Eval.repeatWhile
    split
    -- there is allowance only in the other case
    next same => cases same
    next => exact Agree.throw
    next => exact Agree.pure trivial
    next => exact Agree.pure trivial
  | succ allowance ih =>
    intro n v
    unfold Eval.repeatWhile
    split
    next same =>
      cases same
      refine Agree.beginTurn.bind fun _ _ => ht.bind fun _ _ => hc.bind fun w _ => ?_
      exact ih _ w
    next same => cases same
    next => exact Agree.pure trivial
    next => exact Agree.pure trivial

theorem Agree.concluding {loop loop' : Eval Ending} {after after' : Value → Eval Value}
    (hl : G.Agree loop loop' fun _ => True) (ha : ∀ v, G.Agree (after v) (after' v) fun _ => True) :
    G.Agree (concluding loop after) (concluding loop' after') fun _ => True := by
  refine hl.bind fun ending _ => ?_
  cases ending with
  | finished last => exact ha last
  | left v => exact Agree.pure trivial

theorem Agree.gated {gate gate' : Eval Gate} {rest rest' : Eval Turn}
    (hg : G.Agree gate gate' fun _ => True) (hr : G.Agree rest rest' fun _ => True) :
    G.Agree (gated gate rest) (gated gate' rest') fun _ => True := by
  refine hg.bind fun decision _ => ?_
  cases decision with
  | pass => exact hr
  | stop => exact Agree.pure trivial
  | leave v => exact Agree.pure trivial

end Guarantee

end Rulebook
