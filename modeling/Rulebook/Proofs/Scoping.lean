/-
Rulebook/Proofs/Scoping.lean

The stacks are lexical.  A run saves the stacks of its state, changes them
and puts them back, at every scope and every loop and on every way out.  All
this comes to what `Rulebook.Proofs.Lexical` does by handing frames down
(`tryRun_scopes_lexically`).  No part of a rule can see what an earlier part
left in the stacks, since the other evaluator has nowhere to leave it.

With its own stacks for frames, an expression comes to what it comes to
(`exec_evalIn_frames`).  So what is shown of runs by frames is also true of two
runs of the same evaluator: they agree if their states correspond
(`Correspondence.evalWith_tied`), and from one state they agree under
different settings as far as the coupling lets them (`Coupling.eval_here`).
-/
import Rulebook.Proofs.Simulation

namespace Rulebook

open Eval

/-! ### Runs from the same state -/

/-- The correspondence of every state to itself. -/
def Correspondence.self (K : Coupling) (data : StaticData) (game : Option Game) :
    Correspondence K data game where
  states := Eq
  places := Eq
  lists _ := True
  held := Eq
  named _ := False
  kinds _ named := named.elim
  context := by
    rintro s _ rfl c
    rcases s.activation.value data.globals c with k | b
    · exact .error rfl
    · exact .ok ⟨rfl, .of_self (fun _ _ => rfl) fun _ _ => trivial⟩
  lookup := by rintro s _ H _ h _ rfl rfl rfl k; rfl
  properties _ _ _ _ _ := rfl
  frame := by rintro s _ rfl; rfl
  enter := by rintro s _ rfl; rfl
  leave := by rintro s _ t _ rfl rfl; rfl
  rebind := by rintro s _ t _ rfl rfl; rfl
  record := by rintro s _ h _ rfl rfl k d; rfl
  bind := by rintro s _ l c rfl - -; rfl
  clear := by rintro s _ rfl; rfl
  holding := by rintro H _ h _ rfl rfl; rfl
  holdingList := by rintro H _ l rfl -; rfl

namespace Coupling

variable {K : Coupling}

theorem Answers.eq (same : ∀ f f', K.like f f' → f = f') {stop stop' : Stop}
    (h : K.Answers stop stop') : stop = stop' := by
  cases h with
  | failure like => exact congrArg Stop.failure (same _ _ like)
  | abort | exhausted => rfl

/-- Endings are the same if no two failures are alike that are not the same. -/
theorem eq_of_matched {α : Type} (same : ∀ f f', K.like f f' → f = f') {r r' : Except Stop α}
    (h : Matched K.Answers Eq r r') : r = r' := by
  cases h with
  | ok equal => rw [equal]
  | error answers => rw [answers.eq same]

/-- Steps that are tied for the stacks of a state as they are do the same there, if
no two failures are alike that are not the same. -/
theorem here_of_tied (same : ∀ f f', K.like f f' → f = f') {data : StaticData}
    {game : Option Game} {m m' : Eval Value} {s : State}
    (h : (Correspondence.self K data game).TiedIn s.frames s.frames Eq m m') :
    (∃ stop, (exec m s).1 = .error stop ∧ K.excused stop) ∨
      exec m' s = exec m s ∧ ∀ stop, (exec m s).1 = .error stop → K.Answers stop stop := by
  rcases h s s ⟨rfl, rfl⟩ with ⟨stop, t, e, excuse⟩ | ⟨r, r', t, t', e, e', ends, states, frames⟩
  · rw [e]
    exact .inl ⟨stop, rfl, excuse⟩
  · -- the states agree, and the frames are those of before
    have reached : t' = t := by
      rw [states, ← frames]
      rfl
    rw [e, e', reached]
    cases ends with
    | ok equal =>
      rw [equal]
      exact .inr ⟨rfl, by rintro _ ⟨⟩⟩
    | error answers =>
      obtain rfl := answers.eq same
      exact .inr ⟨rfl, by rintro _ ⟨⟩; exact answers⟩

/-- Evaluation against evaluation with the stacks for its frames. -/
theorem evalIn_here {env : Env} {e : Expr} {settings : Settings} {m n : Nat}
    (same : ∀ f f', K.like f f' → f = f') (hK : K.Serves env.settings settings m n)
    (out : ∀ x : Expr, x.Occurs e → x.IsCounted → env.settings.admits m = true →
      K.excused .exhausted ∨ m = n ∧ K.admitted .exhausted) (s : State) :
    (∃ stop, (exec (eval m env e) s).1 = .error stop ∧ K.excused stop) ∨
      exec (evalIn n s.frames { env with settings } e) s = exec (eval m env e) s ∧
        ∀ stop, (exec (eval m env e) s).1 = .error stop → K.Answers stop stop := by
  have follows : (Correspondence.self K env.data env.game).Follows s.frames env.settings settings
      m n e :=
    Correspondence.evalIn_tied hK e (fun _ named => named.elim) out
  exact here_of_tied same (follows s.frames env.held env.held rfl)

end Coupling

/-- With the stacks for its frames, an expression comes to what it comes to. -/
theorem exec_evalIn_frames (n : Nat) (env : Env) (e : Expr) (s : State) :
    exec (evalIn n s.frames env e) s = exec (eval n env e) s := by
  have serves := Coupling.same.serves_self (fun _ => trivial) env.settings n
  rcases Coupling.evalIn_here (fun _ _ equal => equal) serves (fun _ _ _ _ => .inr ⟨rfl, trivial⟩) s
    with ⟨_, _, excuse⟩ | ⟨same, -⟩
  · exact excuse.elim
  · exact same

/-- Under other settings and with another allowance evaluation does the same, as far
as the coupling lets them differ. -/
theorem Coupling.eval_here {K : Coupling} {env : Env} {e : Expr} {settings : Settings} {m n : Nat}
    (same : ∀ f f', K.like f f' → f = f') (hK : K.Serves env.settings settings m n)
    (out : ∀ x : Expr, x.Occurs e → x.IsCounted → env.settings.admits m = true →
      K.excused .exhausted ∨ m = n ∧ K.admitted .exhausted) (s : State) :
    (∃ stop, (exec (eval m env e) s).1 = .error stop ∧ K.excused stop) ∨
      exec (eval n { env with settings } e) s = exec (eval m env e) s ∧
        ∀ stop, (exec (eval m env e) s).1 = .error stop → K.Answers stop stop := by
  -- passing the frames or keeping them in the state is the same
  rw [← exec_evalIn_frames n { env with settings } e s]
  exact evalIn_here same hK out s

/-! ### Runs from states that correspond -/

/-- **Evaluation keeps correspondences**: from states that are alike an expression
ends alike and leaves such states again. -/
theorem Correspondence.evalWith_tied {K : Coupling} {data : StaticData} {game : Option Game}
    (B : Correspondence K data game) {settings settings' : Settings} {n n' : Nat}
    {H H' : Handle → Bool} (holds : B.held H H') (hK : K.Serves settings settings' n n') (e : Expr)
    (unasked : ∀ c, B.named c → ¬ (Expr.isNull c).Occurs e)
    (out : ∀ x : Expr, x.Occurs e → x.IsCounted → settings.admits n = true →
      K.excused .exhausted ∨ n = n' ∧ K.admitted .exhausted) :
    B.Tied Eq (eval n ⟨data, game, settings, H⟩ e) (eval n' ⟨data, game, settings', H'⟩ e) := by
  intro s s' hs
  -- the second state has its own stacks for frames
  rcases evalIn_tied hK e unasked out s'.frames H H' holds s s' ⟨hs, rfl⟩ with
    excuse | ⟨r, r', t, t', run, run', ends, states, frames⟩
  · exact .inl excuse
  · rw [exec_evalIn_frames] at run'
    rw [← frames] at states
    exact .inr ⟨r, r', t, t', run, run', ends, states⟩

/-! ### Scopes -/

/-- **Scopes are lexical.** A run that swaps its stacks has the ending that the
evaluator with frames has, and it leaves the same collections and the same
slots. The stacks of a state may be anything to that evaluator (`idle`), and
at its end they still are. -/
theorem tryRun_scopes_lexically (allowance : Nat) (env : Env) (rule : Option Expr) (s : State)
    (idle : Frames) :
    exec (env.tryRunIn allowance s.frames rule) (s.withFrames idle) =
      ((exec (env.tryRun allowance rule) s).1,
        (exec (env.tryRun allowance rule) s).2.withFrames idle) := by
  have tied : (Correspondence.self Coupling.same env.data env.game).TiedIn idle s.frames Eq
      (env.tryRun allowance rule) (env.tryRunIn allowance s.frames rule) :=
    Correspondence.tryRun_tied rfl
      (Coupling.same.serves_self (fun _ => trivial) env.settings allowance) rule
      (fun _ _ _ named => named.elim) fun _ _ _ _ _ _ => .inr ⟨rfl, trivial⟩
  rcases tied s (s.withFrames idle) ⟨rfl, rfl⟩ with
    ⟨stop, t, e, excuse⟩ | ⟨r, r', t, t', e, e', ends, states, frames⟩
  · exact excuse.elim
  · -- the second state has the frames of before, whatever the first one has
    have reached : t' = t.withFrames idle := by
      rw [states, ← frames]
      rfl
    rw [e, e', reached, Coupling.eq_of_matched (fun _ _ equal => equal) ends]

end Rulebook
