/-
Rulebook/Proofs/Allowance.lean

Allowances.  An allowance cuts a run short and does nothing else: a run that
is not exhausted is the same with any greater allowance (`eval_mono`).  There
is one that suffices whenever the loops of an expression are bounded, because
no counted loop is among them or because the settings have a limit that the
count of the turns gets past (`eval_not_exhausted`).

Loops are one way to go on for ever and climbs along parent links are the
other, so the allowance is spent on climbs as well (`climbing`).  Runs do not
change parent links; where no collection falls through to itself at the
beginning, no climb takes more than there are collections, and the run is
the one that spends nothing on climbs (`eval_terminates`).
-/
import Rulebook.Proofs.Chain
import Rulebook.Proofs.Preservation
import Rulebook.Proofs.Scoping

namespace Rulebook

open Eval

/-! ### Turns -/

namespace Coupling

/-- The coupling for a first run that may be exhausted. -/
def excusing : Coupling :=
  { same with
    excused := fun stop => stop = .exhausted
    failure_unexcused := by rintro f ⟨⟩ }

/-- The coupling for runs that must not be exhausted. -/
def tireless : Coupling :=
  { same with admitted := fun stop => stop ≠ .exhausted }

end Coupling

variable {env : Env} {e : Expr} {s : State}

/-- A greater allowance changes nothing but an exhausted run. -/
theorem eval_mono {m n : Nat} (h : m ≤ n) (env : Env) (e : Expr) (s : State) :
    (exec (eval m env e) s).1 = .error .exhausted ∨
      exec (eval n env e) s = exec (eval m env e) s := by
  -- the greater allowance serves the smaller one, but for running out
  have serves : Coupling.excusing.Serves env.settings env.settings m n :=
    ⟨rfl, h, .inr ⟨fun _ => trivial, rfl⟩⟩
  rcases Coupling.eval_here (e := e) (fun _ _ equal => equal) serves (fun _ _ _ _ => .inl rfl) s
    with ⟨stop, exhausted, rfl⟩ | ⟨same, -⟩
  · exact .inl exhausted
  · exact .inr same

/-- An allowance is not used up that no counted loop can use up. -/
theorem eval_not_exhausted {n : Nat} (h : ∀ x : Expr, x.Occurs e → x.IsCounted →
    env.settings.admits n = false) (s : State) :
    (exec (eval n env e) s).1 ≠ .error .exhausted := by
  have serves := Coupling.tireless.serves_self (fun _ => by rintro ⟨⟩) env.settings n
  -- an expression that counts its turns would stop at the limit before
  have out : ∀ x : Expr, x.Occurs e → x.IsCounted → env.settings.admits n = true →
      Coupling.tireless.excused .exhausted ∨ n = n ∧ Coupling.tireless.admitted .exhausted := by
    intro x occurs counted admitted
    rw [h x occurs counted] at admitted
    cases admitted
  rcases Coupling.eval_here (fun _ _ equal => equal) serves out s with ⟨_, _, excuse⟩ | ⟨-, stops⟩
  · exact excuse.elim
  · intro exhausted
    cases stops _ exhausted with
    | exhausted tireless => exact tireless rfl

/-- Some allowance suffices for an expression whose loops are bounded. -/
theorem exists_allowance (bounded : (∀ x : Expr, x.Occurs e → ¬ x.IsCounted) ∨
    ∃ limit, env.settings.loopLimit = some limit ∧ limit.toNat < 4294967295) :
    ∃ n, ∀ s, (exec (eval n env e) s).1 ≠ .error .exhausted := by
  rcases bounded with uncounted | ⟨limit, limited, below⟩
  · exact ⟨0, eval_not_exhausted fun x occurs counted => absurd counted (uncounted x occurs)⟩
  · exact ⟨limit.toNat + 1, eval_not_exhausted fun _ _ _ =>
      Settings.admits_limit_succ limited below⟩

/-! ### Climbs -/

namespace Eval

/-- Give up in a state where a look-up would take more than `n` collections, along
collections that are alive in the run and in `live`. -/
def checkClimbs (live : Handle → Bool) (n : Nat) (env : Env) : Eval Unit := do
  let s ← get
  let alive := fun h => live h && env.live s h
  if (List.range s.store.cells.size).all fun i => s.store.endsBy alive n ⟨i⟩ then pure ()
  else throw .exhausted

/-- Check the climbs before and after every expression. -/
def climbing (live : Handle → Bool) (n : Nat) : Around := fun env e m => locating e do
  checkClimbs live n env
  let v ← m
  checkClimbs live n env
  pure v

theorem exec_checkClimbs {live : Handle → Bool} {n : Nat} {s : State}
    (h : ∀ g, s.store.endsBy live n g = true) (env : Env) :
    exec (checkClimbs live n env) s = (.ok (), s) := by
  -- fewer links are taken during the run, so a climb ends no later
  have short : ((List.range s.store.cells.size).all fun i =>
      s.store.endsBy (fun h => live h && env.live s h) n ⟨i⟩) = true := by
    refine List.all_eq_true.mpr fun i _ => Store.endsBy_of_imp (fun g hg => ?_) (h ⟨i⟩)
    exact (Bool.and_eq_true_iff.mp hg).1
  rw [checkClimbs, exec_bind_ok (exec_get s), if_pos short]
  rfl

end Eval

/-- Runs leave the climbs as long as they are. -/
def settling (data : StaticData) (game : Option Game) (settings : Settings)
    (live : Handle → Bool) (n : Nat) : Discipline data game settings where
  inv s := ∀ h, s.store.endsBy live n h = true
  record {s g k d} hs _ _ := by
    refine ⟨fun h => ?_, trivial⟩
    have same : (s.store.set g k d).endsBy live n h = s.store.endsBy live n h :=
      Store.endsBy_congr (fun h => Store.parent_set s.store g h k d) n h
    exact same.trans (hs h)
  enter {s} hs h := by
    have same : s.store.create.1.endsBy live n h = s.store.endsBy live n h :=
      Store.endsBy_congr (fun g => by rw [Store.cell_create]) n h
    exact same.trans (hs h)
  leave _ ht _ := ⟨ht, trivial⟩
  rebind _ ht := ⟨ht, trivial⟩
  bind _ hs _ := ⟨hs, trivial⟩
  clear _ ht _ := ⟨ht, trivial⟩

/-- Where climbs are short enough, to check them makes no difference. -/
theorem keptAround_climbing {data : StaticData} {game : Option Game} {settings : Settings}
    (live : Handle → Bool) (n : Nat) :
    (settling data game settings live n).KeptAround located (climbing live n) := by
  intro held e m m' h
  refine Guarantee.Agree.locating fun s hs => ?_
  obtain ⟨r, t, run, run', inv, rel, post⟩ := h s hs
  refine ⟨r, t, run, ?_, inv, rel, post⟩
  rw [exec_bind_ok (exec_checkClimbs hs _)]
  -- the check passes before and after, so it adds nothing to the run
  rcases r with stop | v
  · exact exec_bind_error run'
  · rw [exec_bind_ok run', exec_bind_ok (exec_checkClimbs inv _)]
    rfl

/-- A run is the same with its climbs checked, if the allowance is greater than
the number of collections and none of them falls through to itself. -/
theorem exec_evalWith_climbing {live : Handle → Bool} (acyclic : s.store.Acyclic live) {n m : Nat}
    (h : s.store.cells.size < m) :
    exec (evalWith (climbing live m) n env e) s = exec (eval n env e) s := by
  have short : ∀ g, s.store.endsBy live m g = true :=
    fun g => Store.endsBy_mono h (acyclic.endsBy g)
  obtain ⟨r, t, run, checked, -⟩ :=
    (settling env.data env.game env.settings live m).evalWith_agree (n := n)
      (keptAround_climbing live m) e env.held s short
  exact checked.trans run.symm

/-! ### Termination -/

/-- **Runs end.** Let no live collection fall through to itself, and let there be
no counted loop in the expression or a limit for loops below the greatest
word. Then some allowance suffices, for the turns of loops and for climbs,
and any greater one leaves the ending what it is. -/
theorem eval_terminates (env : Env) (live : Handle → Bool) (e : Expr) (s : State)
    (acyclic : s.store.Acyclic live)
    (bounded : (∀ x : Expr, x.Occurs e → ¬ x.IsCounted) ∨
      ∃ limit, env.settings.loopLimit = some limit ∧ limit.toNat < 4294967295) :
    ∃ enough r, r.1 ≠ .error .exhausted ∧ ∀ n ≥ enough,
      exec (eval n env e) s = r ∧ exec (evalWith (climbing live n) n env e) s = r := by
  obtain ⟨n₀, suffice⟩ := exists_allowance (e := e) bounded
  -- the one suffices for the loops, the number of collections for the climbs
  refine ⟨max n₀ (s.store.cells.size + 1), exec (eval n₀ env e) s, suffice s, fun n hn => ?_⟩
  have settled : exec (eval n env e) s = exec (eval n₀ env e) s :=
    (eval_mono (le_of_max_le_left hn) env e s).resolve_left (suffice s)
  refine ⟨settled, ?_⟩
  rw [exec_evalWith_climbing acyclic (le_of_max_le_right hn)]
  exact settled

/-- A scope without any limit, and a loop without end in another such loop with a
limit of three, both run where one collection falls through to another. -/
theorem endless_loops_terminate :
    let live : Handle → Bool := fun _ => true
    let s : State := ⟨⟨#[{ parent := some ⟨1⟩ }, {}]⟩, { localStack := some ⟨0⟩ }⟩
    let forever (statement : Expr) : Expr :=
      .forLoop none (some (.int 0)) (some (.bool true)) (some (.int 0)) [statement] none
    let free : Env := ⟨{}, none, {}, fun _ => false⟩
    let limited : Env := ⟨{}, none, { loopLimit := some 3 }, fun _ => false⟩
    s.store.Acyclic live ∧
      (∃ enough r, r.1 ≠ .error .exhausted ∧ ∀ n ≥ enough,
        exec (eval n free (.scope [.int 0])) s = r ∧
          exec (evalWith (climbing live n) n free (.scope [.int 0])) s = r) ∧
      ∃ enough r, r.1 ≠ .error .exhausted ∧ ∀ n ≥ enough,
        exec (eval n limited (forever (forever (.int 0)))) s = r ∧
          exec (evalWith (climbing live n) n limited (forever (forever (.int 0)))) s = r := by
  intro live s forever free limited
  -- two collections, the first attached to the second
  have acyclic : s.store.Acyclic live := by
    have attached : Store.attach live ⟨#[{}, {}]⟩ ⟨0⟩ ⟨1⟩ = .ok s.store := rfl
    exact (Store.Acyclic.empty live).create.create.attach attached
  have uncounted : ∀ x : Expr, x.Occurs (.scope [.int 0]) → ¬ x.IsCounted := by
    rintro x (_ | ⟨member, occurs⟩) counted
    · exact counted
    · cases List.mem_singleton.mp member
      rcases occurs with _ | ⟨none, -⟩
      · exact counted
      · cases none
  refine ⟨acyclic, ?_, ?_⟩
  · exact eval_terminates free live _ s acyclic (.inl uncounted)
  · exact eval_terminates limited live _ s acyclic (.inr ⟨3, rfl, by decide⟩)

end Rulebook
