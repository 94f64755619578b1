/-
Rulebook/Proofs/Policy.lean

Runs under other settings.  The settings decide when loops are stopped and what
becomes of reserved operators, and hosts may tighten or loosen both.  A run that
has a value keeps it when the limit for loops is raised, provided that the rule
evaluates no parameters (`tryRun_ok_of_limitLE`): a stopped loop has no value,
nor has anything around it.

The two policies for reserved operators tell the same runs apart: a run that is
not aborted under the one is the same under the other.  Where one is aborted the
other has no value, unless the reserved expression is in a parameter, where the
failure is absorbed (`tryRun_reserved_policies`, `reserved_param_absorbed`).
-/
import Rulebook.Proofs.Allowance
import Rulebook.Proofs.Provenance
import Rulebook.Proofs.RegistryHistory

namespace Rulebook

open Eval

/-! ### Settings -/

namespace Settings

/-- Whether a limit for loops is at most another one; no limit is the greatest. -/
def LimitLE : Option UInt32 → Option UInt32 → Prop
  | _, none => True
  | some m, some n => m ≤ n
  | none, some _ => False

theorem admits_of_limitLE {s t : Settings} (h : LimitLE s.loopLimit t.loopLimit) {n : Nat}
    (hn : s.admits n = true) : t.admits n = true := by
  unfold admits at hn ⊢
  -- no limit admits every count, and a greater limit admits more of them
  rcases ht : t.loopLimit with - | most
  · rfl
  · rw [ht] at h
    rcases hs : s.loopLimit with - | least
    · rw [hs] at h
      exact h.elim
    · rw [hs] at h hn
      have small : min n 4294967295 ≤ least.toNat := of_decide_eq_true hn
      exact decide_eq_true (Nat.le_trans small (UInt32.le_iff_toNat_le.mp h))

end Settings

namespace Env

/-- The same environment with another limit for loops. -/
def withLimit (env : Env) (limit : Option UInt32) : Env :=
  { env with settings := { env.settings with loopLimit := limit } }

/-- The same environment under a policy for reserved operators. -/
def under (env : Env) (policy : ReservedPolicy) : Env :=
  { env with settings := { env.settings with reserved := policy } }

end Env

variable {n : Nat} {env : Env} {e : Expr} {s : State}

/-! ### Raised limits -/

/-- Whether an expression evaluates parameters. -/
def Expr.EvaluatesParams : Expr → Prop
  | .assignBy .. | .loadBy .. => True
  | _ => False

theorem Expr.params_eq_nil {x : Expr} (h : ¬ x.EvaluatesParams) : x.params = [] := by
  cases x
  case assignBy | loadBy => exact absurd trivial h
  all_goals rfl

/-- Without parameters a value is kept under settings that admit as many turns. -/
theorem eval_ok_of_admits {settings : Settings} {v : Value} {t : State}
    (h : ∀ k, env.settings.admits k = true → settings.admits k = true)
    (plain : ∀ x : Expr, x.Occurs e → ¬ x.EvaluatesParams)
    (run : exec (eval n env e) s = (.ok v, t)) :
    exec (eval n ⟨env.data, env.game, settings, env.held⟩ e) s = (.ok v, t) := by
  have backed : Backed (Stop.Traced env.settings e) (fun _ => False) (eval n env e)
      (eval n ⟨env.data, env.game, settings, env.held⟩ e) Value.IsResult := by
    refine Backing.eval_backed h e (fun x occurs c hc => ?_) env.held
    rw [Expr.params_eq_nil (plain x occurs)] at hc
    cases hc
  -- without parameters to evaluate, a success cannot hide a failed child
  rcases backed s with ⟨stop, u, stopped, -⟩ | ⟨w, u, run', -, reached⟩
  · rw [stopped] at run
    cases run
  · rw [run'] at run
    cases run
    exact reached.resolve_right fun ⟨_, _, _, never⟩ => never

/-- **A greater limit changes no success.** If a rule evaluates no parameters and has
a value under one limit for loops, then it has the same value under any greater
limit or none, and leaves the same state, collections and context alike. -/
theorem tryRun_ok_of_limitLE {rule : Option Expr} {least most : Option UInt32} {v : Value}
    {t : State} (raised : Settings.LimitLE least most)
    (plain : ∀ e ∈ rule, ∀ x : Expr, x.Occurs e → ¬ x.EvaluatesParams)
    (run : exec ((env.withLimit least).tryRun n rule) s = (.ok v, t)) :
    exec ((env.withLimit most).tryRun n rule) s = (.ok v, t) := by
  rcases rule with - | e
  · cases run
  · have admits : ∀ k, (env.withLimit least).settings.admits k = true →
        (env.withLimit most).settings.admits k = true :=
      fun k => Settings.admits_of_limitLE raised
    have kept := eval_ok_of_admits admits (plain e rfl) run
    exact kept

/-- A loop of two turns has the same value under a limit of two and without one. -/
theorem shortLoop_ok_of_limitLE :
    let elements : Value := .prototypeVector (some [⟨3⟩, ⟨4⟩])
    let s : State := ⟨{}, Activation.bind {} .var1 ⟨elements, false⟩⟩
    let rule : Expr := .forEachPrototype (.slot .var1) none none [.bool true, .int 5] none
    let env : Env := ⟨{}, none, {}, fun _ => false⟩
    ∃ t, exec ((env.withLimit (some 2)).tryRun 0 (some rule)) s = (.ok (.int 5), t) ∧
      exec ((env.withLimit none).tryRun 0 (some rule)) s = (.ok (.int 5), t) := by
  intro elements s rule env
  have plain : ∀ e ∈ some rule, ∀ x : Expr, x.Occurs e → ¬ x.EvaluatesParams := by
    rintro _ ⟨⟩ x (_ | ⟨statement, occurs⟩) evaluates
    · exact evaluates
    · rcases List.mem_pair.mp statement with rfl | rfl
      · cases occurs.eq_of_leaf rfl
        exact evaluates
      · cases occurs.eq_of_leaf rfl
        exact evaluates
  have run : exec ((env.withLimit (some 2)).tryRun 0 (some rule)) s =
      (.ok (.int 5), (exec ((env.withLimit (some 2)).tryRun 0 (some rule)) s).2) := rfl
  exact ⟨_, run, tryRun_ok_of_limitLE trivial plain run⟩

/-! ### Policies for reserved operators -/

/-- The coupling for a first run that may be aborted. -/
def Coupling.aborting : Coupling :=
  { Coupling.same with
    excused := fun stop => ∃ message, stop = .abort message
    failure_unexcused := by rintro f ⟨_, ⟨⟩⟩ }

/-- A run that is not aborted is the same under the other policy. -/
theorem eval_policies_agree (n : Nat) (env : Env) (e : Expr) (s : State) :
    (∃ message, (exec (eval n (env.under .abort) e) s).1 = .error (.abort message)) ∨
      exec (eval n (env.under .fail) e) s = exec (eval n (env.under .abort) e) s := by
  -- the two runs part only where one of them aborts
  have serves :
      Coupling.aborting.Serves (env.under .abort).settings (env.under .fail).settings n n :=
    ⟨rfl, Nat.le_refl n, .inl ⟨fun message => ⟨message, rfl⟩, rfl⟩⟩
  rcases Coupling.eval_here (e := e) (fun _ _ equal => equal) serves
    (fun _ _ _ _ => .inr ⟨rfl, trivial⟩) s with ⟨stop, aborted, message, rfl⟩ | ⟨same, -⟩
  · exact .inl ⟨message, aborted⟩
  · exact .inr same

/-- What an abort says is the notice of a reserved expression. -/
theorem notice_of_abort {message : String}
    (aborted : (exec (eval n env e) s).1 = .error (.abort message)) :
    env.settings.reserved = .abort ∧
      ∃ call, (Expr.reserved call).Occurs e ∧ message = call.notice := by
  rcases eval_ends n env e s with ⟨stop, t, run, traced⟩ | ⟨v, t, run, -⟩
  · rw [run] at aborted
    cases aborted
    exact traced
  · rw [run] at aborted
    cases aborted

/-- A run does the same under both policies, or the one aborts it on a reserved
expression that occurs in it. -/
theorem policies_alike_or_aborts (n : Nat) (env : Env) (e : Expr) (s : State) :
    exec (eval n (env.under .abort) e) s = exec (eval n (env.under .fail) e) s ∨
      Aborts (fun message => ∃ call, (Expr.reserved call).Occurs e ∧ message = call.notice)
        (eval n (env.under .abort) e) s := by
  rcases eval_policies_agree n env e s with ⟨message, aborted⟩ | same
  · obtain ⟨-, call, occurs, wording⟩ := notice_of_abort aborted
    exact .inr ⟨message, _, Prod.ext aborted rfl, call, occurs, wording⟩
  · exact .inl same.symm

/-- Whether an expression occurs in a parameter of an expression in `e`. -/
def Expr.OccursInParam (x e : Expr) : Prop :=
  ∃ y c : Expr, y.Occurs e ∧ c ∈ y.params ∧ x.Occurs c

theorem Expr.mem_children_of_mem_params {c x : Expr} (h : c ∈ x.params) : c ∈ x.children := by
  cases x
  case assignBy => exact List.mem_append_left _ h
  case loadBy => exact h
  all_goals cases h

theorem Expr.OccursInParam.occurs {x e : Expr} (h : x.OccursInParam e) : x.Occurs e := by
  obtain ⟨y, c, occurs, param, inside⟩ := h
  have below : x.Occurs y := .child (mem_children_of_mem_params param) inside
  exact below.trans occurs

/-- Where the one policy aborts a run and the other gives it a value, the abort is
on a reserved expression in a parameter. -/
theorem inParam_of_abort_of_ok {k : Nat} {message : String} {v : Value}
    (aborted : (exec (eval n (env.under .abort) e) s).1 = .error (.abort message))
    (succeeded : (exec (eval k (env.under .fail) e) s).1 = .ok v) :
    ∃ call, (Expr.reserved call).OccursInParam e ∧ message = call.notice := by
  let excused : String → Prop := fun message =>
    ∃ call, (Expr.reserved call).OccursInParam e ∧ message = call.notice
  -- both runs are compared under one allowance that leaves either as it is
  have hard : exec (eval (max n k) (env.under .abort) e) s = exec (eval n (env.under .abort) e) s :=
    (eval_mono (Nat.le_max_left n k) _ e s).resolve_left (by rw [aborted]; rintro ⟨⟩)
  have soft : exec (eval (max n k) (env.under .fail) e) s = exec (eval k (env.under .fail) e) s :=
    (eval_mono (Nat.le_max_right n k) _ e s).resolve_left (by rw [succeeded]; rintro ⟨⟩)
  have backed : Backed (Stop.Traced (env.under .fail).settings e) excused
      (eval (max n k) (env.under .fail) e) (eval (max n k) (env.under .abort) e)
      Value.IsResult := by
    have admits : ∀ k, (env.under .fail).settings.admits k = true →
        (env.under .abort).settings.admits k = true := fun _ admitted => admitted
    refine Backing.eval_backed admits e (fun x occurs c param held u => ?_) env.held
    rcases policies_alike_or_aborts (max n k) ⟨env.data, env.game, env.settings, held⟩ c u with
      same | ⟨notice, t, run, call, inside, wording⟩
    · exact .inl same
    · exact .inr ⟨notice, t, run, call, ⟨x, c, occurs, param, inside⟩, wording⟩
  rcases backed s with ⟨stop, t, run, -⟩ | ⟨w, t, -, -, run | ⟨notice, u, run, excuse⟩⟩
  · rw [← soft, run] at succeeded
    cases succeeded
  · rw [← hard, run] at aborted
    cases aborted
  · rw [← hard, run] at aborted
    cases aborted
    exact excuse

/-- **Policies for reserved operators.** Compare a run that is aborted on reserved
operators with one that fails on them. If the first is aborted, then on a reserved
expression of the rule, and with any allowance the second fails or is exhausted,
unless that expression is in a parameter. If the first is not aborted, then both
end in the same way and leave the same state. -/
theorem tryRun_reserved_policies (n : Nat) (env : Env) (rule : Option Expr) (s : State) :
    (∀ message, (exec ((env.under .abort).tryRun n rule) s).1 = .error (.abort message) →
      ∃ e ∈ rule, ∃ call, (Expr.reserved call).Occurs e ∧ message = call.notice ∧
        ((Expr.reserved call).OccursInParam e ∨
          ∀ k, (∃ f, (exec ((env.under .fail).tryRun k rule) s).1 = .error (.failure f)) ∨
            (exec ((env.under .fail).tryRun k rule) s).1 = .error .exhausted)) ∧
    ((∀ message, (exec ((env.under .abort).tryRun n rule) s).1 ≠ .error (.abort message)) →
      exec ((env.under .fail).tryRun n rule) s = exec ((env.under .abort).tryRun n rule) s) := by
  rcases rule with - | e
  · exact ⟨by rintro message ⟨⟩, fun _ => rfl⟩
  · refine ⟨fun message aborted => ⟨e, rfl, ?_⟩, fun finished => ?_⟩
    · -- absorbed or not: a success under the other policy can only be due to a
      -- parameter, as everything else that fails makes the rule fail
      by_cases success : ∃ k v, (exec ((env.under .fail).tryRun k (some e)) s).1 = .ok v
      · obtain ⟨k, v, succeeded⟩ := success
        obtain ⟨call, inParam, wording⟩ := inParam_of_abort_of_ok aborted succeeded
        exact ⟨call, inParam.occurs, wording, .inl inParam⟩
      · obtain ⟨-, call, occurs, wording⟩ := notice_of_abort aborted
        refine ⟨call, occurs, wording, .inr fun k => ?_⟩
        rcases ending : (exec ((env.under .fail).tryRun k (some e)) s).1 with stop | v
        · cases stop with
          | failure f => exact .inl ⟨f, rfl⟩
          | abort message => cases (notice_of_abort ending).1
          | exhausted => exact .inr rfl
        · exact absurd ⟨k, v, ending⟩ success
    · rcases eval_policies_agree n env e s with ⟨message, aborted⟩ | same
      · exact absurd aborted (finished message)
      · exact same

/-- A property with a parameter, which a rule can name by a property prototype. -/
def resistance : Schema where
  property := ⟨8⟩
  name := "Resistance"
  dataType := .integer
  prototype := ⟨12⟩
  params := [{ type := .integer }]

/-- **A parameter hides a reserved operator.** A load whose parameter is reserved is
aborted under the one policy, and under the other it is the value of the key with
the default parameter. -/
theorem reserved_param_absorbed :
    let env : Env :=
      ⟨{ schemas := Registry.builtins.after [.register resistance] }, none, {}, fun _ => false⟩
    let s : State := ⟨⟨#[{}]⟩, { localStack := some ⟨0⟩ }⟩
    let call : Reserved Expr := .randomInt none none
    let rule : Expr := .loadBy .localStack ⟨12⟩ (some (.reserved call)) none none none
    (exec ((env.under .abort).tryRun 0 (some rule)) s).1 = .error (.abort call.notice) ∧
      (exec ((env.under .fail).tryRun 0 (some rule)) s).1 = .ok (.int 0) :=
  ⟨rfl, rfl⟩

end Rulebook
