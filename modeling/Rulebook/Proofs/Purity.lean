/-
Rulebook/Proofs/Purity.lean

Rules without assignments and without loops over conditions, which bind and
clear slots.  Such a rule still creates frames, swaps the stacks and records
the elements of its loops, but all that it writes it has created itself, and
it puts the context back.  So it leaves what was there as it was and adds
collections that nothing refers to (`State.Extends`).

That these make no difference to a rule that is run later is the case of
`Relocation` where all that was there keeps its name.  It takes a store that is
that of a heap, in which whatever the context, the game and the data refer to
is alive (`Heap.Hosts`); every heap is sound, so this asks nothing more.
-/
import Rulebook.Proofs.Footprint
import Rulebook.Proofs.Heap
import Rulebook.Proofs.Relocation

namespace Rulebook

open Eval

/-! ### What a rule without assignments leaves -/

/-- Whether `t` has the context of `s`, and all collections of `s`
as they are there. -/
structure State.Extends (s t : State) : Prop where
  activation : t.activation = s.activation
  size : s.store.cells.size ≤ t.store.cells.size
  cell : ∀ h, h.index < s.store.cells.size → t.store.cell h = s.store.cell h

namespace State.Extends

variable {s t u : State}

theorem refl (s : State) : s.Extends s := ⟨rfl, Nat.le_refl _, fun _ _ => rfl⟩

theorem trans (h : s.Extends t) (h' : t.Extends u) : s.Extends u where
  activation := h'.activation.trans h.activation
  size := Nat.le_trans h.size h'.size
  cell g old := (h'.cell g (Nat.lt_of_lt_of_le old h.size)).trans (h.cell g old)

end State.Extends

/-- Runs without assignments and loops over conditions write only what is created
after `origin`, and put the activation back. -/
def sparing (data : StaticData) (game : Option Game) (settings : Settings) (origin : Store) :
    Conduct data game settings False False where
  inv s := origin.SameOff (fun h => origin.cells.size ≤ h.index) s.store
  writable h := origin.cells.size ≤ h.index
  whole s t := t.activation = s.activation
  inside s t := t.activation.slots = s.activation.slots
  whole_refl _ := rfl
  whole_trans h h' := h'.trans h
  inside_trans h h' := h'.trans h
  inside_of_whole _ _ h := congrArg Activation.slots h
  writable_of_resolve assigns := assigns.elim
  writable_of_conditions binds := binds.elim
  writable_frame h := h.size
  record h hh _ := ⟨h.set _ _ hh, rfl⟩
  enter h := h.create
  leave {s t} _ h rel := by
    refine ⟨h, ?_⟩
    show Activation.mk _ _ _ = Activation.mk _ _ _
    rw [rel]
    rfl
  rebind _ h := ⟨h, rfl⟩
  bind binds := binds.elim
  clear binds := binds.elim

variable {n : Nat} {env : Env} {e : Expr}

theorem eval_extends (pure : e.Within False False) (s : State) :
    s.Extends (exec (eval n env e) s).2 := by
  obtain ⟨same, context⟩ :=
    (sparing env.data env.game env.settings s.store).eval_keeps (n := n) pure (.refl _ s.store)
  refine ⟨context, same.size, fun h old => ?_⟩
  -- entries and parent are those of before, as the collection is an old one
  calc (exec (eval n env e) s).2.store.cell h
    _ = ⟨(s.store.cell h).entries, (s.store.cell h).parent⟩ := by
      rw [← same.entries h (Nat.not_le_of_lt old), ← same.parent h]
    _ = s.store.cell h := rfl

/-! ### Hosts -/

/-- Whether the store is that of the heap `w`, and what is held and what the context,
the data and the game refer to is alive there. -/
structure Heap.Hosts (w : Heap) (env : Env) (s : State) : Prop where
  sound : w.Sound
  store : s.store = w.store
  held : ∀ h, env.held h = true → w.live h = true
  activation : ∀ h, s.activation.refersTo h = true → w.live h = true
  globals : ∀ h, env.data.globals = some h → w.live h = true
  properties : ∀ g, env.game = some g → ∀ e h, g.properties? e = some h → w.live h = true

namespace Heap.Hosts

open Relocation

variable {w : Heap} {s t : State} (hosted : w.Hosts env s)

include hosted

theorem created (h : Handle) (alive : w.live h = true) : h.index < s.store.cells.size := by
  rw [hosted.store]
  exact hosted.sound.created h alive

/-- What was there keeps its name, and `gap` collections come before what is new. -/
def relocation (gap : Nat) : Relocation env.data env.game where
  live := w.live
  base := s.store.cells.size
  gap := gap
  created := hosted.created
  globals := hosted.globals
  properties := hosted.properties

theorem place_of_stack {gap : Nat} {h : Handle} (refers : s.activation.stacksReferTo h = true) :
    (hosted.relocation gap).place h = h :=
  place_of_live (M := hosted.relocation gap)
    (hosted.activation h (Bool.or_eq_true_iff.mpr (.inr refers)))

theorem related (ext : s.Extends t) :
    (hosted.relocation (t.store.cells.size - s.store.cells.size)).Related s t where
  size := (Nat.add_sub_of_le ext.size).symm
  base := Nat.le_refl _
  cell h := by
    -- old collections are where they were, and the further ones are empty
    by_cases old : h.index < s.store.cells.size
    · rw [place_of_lt (M := hosted.relocation _) old, ext.cell h old]
    · have new : s.store.cells.size ≤ h.index := Nat.le_of_not_lt old
      rw [place_of_le (M := hosted.relocation _) new, Store.cell_of_le new, Store.cell_of_le]
      show t.store.cells.size ≤ h.index + (t.store.cells.size - s.store.cells.size)
      omega
  links h p link := by
    rw [hosted.store] at link
    show p.index < s.store.cells.size
    rw [hosted.store]
    exact hosted.sound.links h p link
  acyclic := by
    rw [hosted.store]
    exact hosted.sound.acyclic
  activation := by
    rw [ext.activation, Activation.rename_eq_self fun h refers => hosted.place_of_stack refers]
  slots h refers := hosted.activation h (Bool.or_eq_true_iff.mpr (.inl refers))
  scratch h refers _ := hosted.activation h (Bool.or_eq_true_iff.mpr (.inr refers))

theorem holds (gap : Nat) : (hosted.relocation gap).Holds env.held env.held where
  place h := by
    by_cases old : h.index < s.store.cells.size
    · rw [place_of_lt (M := hosted.relocation gap) old]
    · -- what is alive was there, under either name
      have dead (g : Handle) (new : s.store.cells.size ≤ g.index) : env.held g = false :=
        Bool.eq_false_iff.mpr fun kept =>
          Nat.not_lt.mpr new (hosted.created g (hosted.held g kept))
      have new : s.store.cells.size ≤ h.index := Nat.le_of_not_lt old
      rw [place_of_le (M := hosted.relocation gap) new, dead h new, dead]
      exact Nat.le_add_right_of_le new
  live h kept _ := hosted.held h kept

/-- A run puts the stacks back, so the context after it has no other names. -/
theorem rename_eval (gap m : Nat) (e : Expr) :
    (exec (eval m env e) s).2.activation.rename (hosted.relocation gap).place =
      (exec (eval m env e) s).2.activation := by
  refine Activation.rename_eq_self fun h refers => hosted.place_of_stack ?_
  obtain ⟨caller, here, -⟩ := eval_restores m env e s
  rwa [Activation.stacksReferTo, caller, here] at refers

/-- With more collections that nothing refers to, a rule has the same ending and
does the same to the context and to what was there. -/
theorem tryRun_of_extends (ext : s.Extends t) (m : Nat) (rule : Option Expr) :
    let run := exec (env.tryRun m rule) s
    let later := exec (env.tryRun m rule) t
    later.1 = run.1 ∧ later.2.activation = run.2.activation ∧
      ∀ h, h.index < s.store.cells.size → later.2.store.cell h = run.2.store.cell h := by
  intro run later
  rcases rule with - | e
  · exact ⟨rfl, ext.activation, ext.cell⟩
  · obtain ⟨-, -, -, ⟨⟩⟩ | ⟨r, r', u, u', first, second, ends, related⟩ :=
      eval_tied (hosted.holds _) m e s t (hosted.related ext)
    change run = (r, u) at first
    change later = (r', u') at second
    -- the later run differs from the first by a renaming of new collections,
    -- of which no slot refers to any at the end
    have context := hosted.rename_eval (t.store.cells.size - s.store.cells.size) m e
    change run.2.activation.rename _ = run.2.activation at context
    rw [first] at context
    rw [first, second]
    have same : r = r' := Coupling.eq_of_matched (fun _ _ equal => equal) ends
    refine ⟨same.symm, related.activation.trans context, fun h old => ?_⟩
    have same := related.cell h
    rwa [place_of_lt (M := hosted.relocation _) old] at same

end Heap.Hosts

/-! ### Rules in a row -/

/-- The endings of rules that are run one after another. -/
def Env.endings (env : Env) (n : Nat) : List Expr → State → List (Except Stop Value)
  | [], _ => []
  | e :: es, s =>
    let run := exec (env.tryRun n (some e)) s
    run.1 :: env.endings n es run.2

/-- Without assignments and loops over conditions it does not matter what was run
before: in a row each rule has the ending that it has alone. -/
theorem endings_of_within {w : Heap} {s : State} (hosted : w.Hosts env s) {es : List Expr}
    (pure : ∀ e ∈ es, e.Within False False) :
    env.endings n es s = es.map fun e => (exec (env.tryRun n (some e)) s).1 := by
  -- from whatever state the earlier rules have left
  suffices ∀ t, s.Extends t →
      env.endings n es t = es.map fun e => (exec (env.tryRun n (some e)) s).1 from this s (.refl s)
  induction es with
  | nil => exact fun _ _ => rfl
  | cons e es ih =>
    intro t ext
    have next : s.Extends (exec (eval n env e) t).2 :=
      ext.trans (eval_extends (pure e List.mem_cons_self) t)
    rw [Env.endings, List.map_cons, (hosted.tryRun_of_extends ext n (some e)).1]
    exact congrArg _ (ih (fun c hc => pure c (List.mem_cons_of_mem e hc)) _ next)

/-- **Rules without assignments leave no trace.** Let neither an assignment nor a
loop over conditions occur in a rule. However it ends, the context after it is
the context before it, and the collections that were there are as they were. So
no rule can tell that it was run, itself among them: every rule ends as it does
without it, and leaves the same context and the same in every collection that
was there. -/
theorem assignment_free_leaves_no_trace (pure : e.Within False False) (n : Nat) (env : Env)
    (s : State) :
    let after := (exec (env.tryRun n (some e)) s).2
    s.Extends after ∧
      ∀ w : Heap, w.Hosts env s → ∀ m rule,
        let run := exec (env.tryRun m rule) s
        let later := exec (env.tryRun m rule) after
        later.1 = run.1 ∧ later.2.activation = run.2.activation ∧
          ∀ h, h.index < s.store.cells.size → later.2.store.cell h = run.2.store.cell h := by
  intro after
  have ext : s.Extends after := eval_extends pure s
  exact ⟨ext, fun w hosted m rule => hosted.tryRun_of_extends ext m rule⟩

/-- Two collections, of which the second falls through to the first. -/
def pairHeap : Heap := .after [.create, .create, .attach ⟨1⟩ ⟨0⟩]

/-- The state with the second collection of `pairHeap` in one slot and a list of
prototypes in another. -/
def pairState : State where
  store := pairHeap.store
  activation := (({} : Activation).bind .default ⟨.collection (some ⟨1⟩), false⟩).bind .var1
    ⟨.prototypeList (some [⟨3⟩, ⟨4⟩]), true⟩

/-- A scope with a loop in it creates two frames. It has the same value when it is
run again, and an assignment after it has the same effect. -/
theorem scope_leaves_no_trace :
    let env : Env := ⟨{}, none, {}, fun _ => false⟩
    let e := Expr.scope [.forEachPrototype (.slot .var1) none none [.bool true] none]
    let assign := Expr.assign (.slot .default) (.ofProperty .avatarMissionState) (some (.int 5))
    let after := (exec (env.tryRun 0 (some e)) pairState).2
    after.store.cells.size = 4 ∧ after.store.cell ⟨1⟩ = pairState.store.cell ⟨1⟩ ∧
      (exec (env.tryRun 0 (some e)) after).1 = .ok (.bool true) ∧
      (exec (env.tryRun 0 (some assign)) after).2.store.cell ⟨1⟩ =
        (exec (env.tryRun 0 (some assign)) pairState).2.store.cell ⟨1⟩ := by
  intro env e assign after
  have pure : e.Within False False := by
    refine .of_children nofun nofun fun c hc => ?_
    obtain rfl := List.mem_singleton.mp hc
    refine .of_children nofun nofun fun c hc => ?_
    obtain rfl := List.mem_singleton.mp hc
    exact .of_children nofun nofun nofun
  have hosted : pairHeap.Hosts env pairState := by
    refine ⟨Heap.after_sound _, rfl, nofun, fun h refers => ?_, nofun, nofun⟩
    -- the default slot is the only one that refers to a collection
    have known : h = ⟨1⟩ := by
      rcases Bool.or_eq_true_iff.mp refers with slots | scratch
      · obtain ⟨slot, refers⟩ := Activation.slotsReferTo_iff.mp slots
        cases slot with
        | default => exact (beq_iff_eq.mp refers).symm
        | _ => cases refers
      · cases scratch
    rw [known]
    decide
  obtain ⟨ext, unnoticed⟩ := assignment_free_leaves_no_trace pure 0 env pairState
  obtain ⟨again, -, -⟩ := unnoticed pairHeap hosted 0 (some e)
  obtain ⟨-, -, same⟩ := unnoticed pairHeap hosted 0 (some assign)
  exact ⟨rfl, ext.cell ⟨1⟩ (by decide), again.trans rfl, same ⟨1⟩ (by decide)⟩

end Rulebook
