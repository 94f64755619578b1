/-
Rulebook/Proofs/DefaultPrototypes.lean

Default prototypes.  A catalog keeps the default prototype of every blueprint, the
blueprint of every prototype, and the set of prototypes that count as default ones,
and a new default prototype of a blueprint takes the old one out of the set.  The
set says which prototypes are the default prototype of their own blueprint, as long
as a prototype is filed under one blueprint only.  A prototype of two blueprints may
be counted and not be the default of the one that it was filed under last, or be that
and not be counted, since it was taken out for the sake of the other.

What the set has in it is said here by the history (`Standing`): a prototype counts
if it was made a default prototype and, since it last was, no blueprint that had it
was given a default prototype.  One entry changes the set and what is standing in
the same way (`isDefault_enter`, `standing_concat`).
-/
import Mathlib.Data.List.Induction
import Rulebook.Proofs.CatalogHistory
import Std.Data.TreeSet.Lemmas

namespace Rulebook.Catalog

variable {es : List Entry} {p : PrototypeId}

/-- Whether a prototype is the default prototype of its blueprint: the blueprint that
it was filed under last was last given it as the default prototype. -/
def DefaultOfOwn (es : List Entry) (p : PrototypeId) : Prop :=
  ∃ b, latest? (·.blueprintOf? p) es = some b ∧ latest? (·.defaultOf? b) es = some p

/-- Whether a prototype was made a default prototype and, since it last was, none of
the blueprints that had it then was given a default prototype. -/
def Standing (es : List Entry) (p : PrototypeId) : Prop :=
  ∃ before b since, es = before ++ [.defaultPrototype b p] ++ since ∧
    ∀ b' q, .defaultPrototype b' q ∈ since →
      q ≠ p ∧ latest? (·.defaultOf? b') (before ++ [.defaultPrototype b p]) ≠ some p

/-! ### One entry -/

theorem isDefault_setDefault (c : Catalog) (b : BlueprintId) (q p : PrototypeId) :
    (c.setDefault b q).isDefault p = true ↔
      q = p ∨ c.isDefault p = true ∧ c.defaultOf[b]? ≠ some p := by
  unfold isDefault setDefault
  rw [Std.TreeSet.contains_insert, Bool.or_eq_true, beq_iff_eq,
    Std.LawfulEqOrd.compare_eq_iff_eq]
  -- the former default of the blueprint, if there was one, is struck off
  rcases c.defaultOf[b]? with - | old
  · simp
  · rw [Std.TreeSet.contains_erase, Bool.and_eq_true, bne_iff_ne, ne_eq,
      Std.LawfulEqOrd.compare_eq_iff_eq, ne_eq, Option.some.injEq, and_comm]

/-- An entry makes a prototype count, or leaves it what it was, unless it gives
another default prototype to a blueprint that has this one. -/
theorem isDefault_enter (c : Catalog) (e : Entry) (p : PrototypeId) :
    (c.enter e).isDefault p = true ↔
      (∃ b, e = .defaultPrototype b p) ∨
        c.isDefault p = true ∧ ∀ b q, e = .defaultPrototype b q → c.defaultOf[b]? ≠ some p := by
  -- no other entry touches the set of defaults
  cases e with
  | defaultPrototype b q =>
    refine (c.isDefault_setDefault b q p).trans (or_congr ?_ (and_congr_right fun _ => ?_))
    · simp
    · simp
  | _ => simp [enter, isDefault, addBlueprint, addPrototype, addTier, addMission]

theorem not_standing_nil (p : PrototypeId) : ¬ Standing [] p := by
  rintro ⟨before, b, since, split, -⟩
  cases before <;> cases split

/-- A blueprint that has `p` at last had it before entries that do
not give `p` to any. -/
theorem latest?_defaultOf?_of_append {es since : List Entry} {b : BlueprintId}
    (others : ∀ b' q, .defaultPrototype b' q ∈ since → q ≠ p)
    (h : latest? (·.defaultOf? b) (es ++ since) = some p) :
    latest? (·.defaultOf? b) es = some p := by
  rw [latest?_append] at h
  -- said later it would be another prototype, so it was said before
  rcases said : latest? (·.defaultOf? b) since with - | q
  · rwa [said, Option.none_or] at h
  · rw [said, Option.some_or] at h
    obtain rfl := Option.some.inj h
    obtain ⟨e, mem, told⟩ := exists_of_latest? said
    exact absurd rfl (others b q (Entry.defaultOf?_eq_some_iff.mp told ▸ mem))

/-- A blueprint keeps its default prototype while it is given no other. -/
theorem latest?_defaultOf?_append {es since : List Entry} {b : BlueprintId}
    (silent : ∀ q, .defaultPrototype b q ∉ since) :
    latest? (·.defaultOf? b) (es ++ since) = latest? (·.defaultOf? b) es := by
  have unsaid : latest? (·.defaultOf? b) since = none := by
    refine latest?_eq_none_iff.mpr fun e mem => ?_
    refine Option.eq_none_iff_forall_ne_some.mpr fun q told => ?_
    exact silent q (Entry.defaultOf?_eq_some_iff.mp told ▸ mem)
  rw [latest?_append, unsaid, Option.none_or]

/-- An entry makes a prototype stand in the same way. -/
theorem standing_concat (es : List Entry) (e : Entry) (p : PrototypeId) :
    Standing (es ++ [e]) p ↔
      (∃ b, e = .defaultPrototype b p) ∨
        Standing es p ∧
          ∀ b q, e = .defaultPrototype b q → latest? (·.defaultOf? b) es ≠ some p := by
  constructor
  · rintro ⟨before, b, since, split, kept⟩
    rcases List.eq_nil_or_concat since with rfl | ⟨since, e', rfl⟩
    · -- the entry itself is the one that made `p` a default prototype
      rw [List.append_nil] at split
      obtain ⟨-, last⟩ := List.append_inj' split rfl
      exact .inl ⟨b, (List.cons.inj last).1⟩
    · rw [List.concat_eq_append] at split kept
      rw [← List.append_assoc] at split
      obtain ⟨rfl, last⟩ := List.append_inj' split rfl
      obtain rfl := (List.cons.inj last).1
      have earlier : ∀ b' q, .defaultPrototype b' q ∈ since →
          q ≠ p ∧ latest? (·.defaultOf? b') (before ++ [.defaultPrototype b p]) ≠ some p :=
        fun b' q mem => kept b' q (List.mem_append_left _ mem)
      refine .inr ⟨⟨before, b, since, rfl, earlier⟩, ?_⟩
      rintro b' q rfl had
      have now := kept b' q (List.mem_append_right _ List.mem_cons_self)
      exact now.2 (latest?_defaultOf?_of_append (fun b' q mem => (earlier b' q mem).1) had)
  · intro h
    by_cases again : ∃ b, e = .defaultPrototype b p
    · obtain ⟨b, rfl⟩ := again
      exact ⟨es, b, [], (List.append_nil _).symm, nofun⟩
    · obtain ⟨⟨before, b, since, rfl, kept⟩, others⟩ := h.resolve_left again
      refine ⟨before, b, since ++ [e], List.append_assoc _ since [e], fun b' q mem => ?_⟩
      rcases List.mem_append.mp mem with mem | last
      · exact kept b' q mem
      · obtain rfl := List.mem_singleton.mp last
        refine ⟨fun same => again ⟨b', same ▸ rfl⟩, fun had => others b' q rfl ?_⟩
        -- a blueprint that had `p` then has it still, or `p` would not be standing
        rw [latest?_defaultOf?_append fun q' mem => (kept b' q' mem).2 had]
        exact had

/-! ### Histories -/

theorem isDefault_after_iff (es : List Entry) (p : PrototypeId) :
    (({} : Catalog).after es).isDefault p = true ↔ Standing es p := by
  induction es using List.reverseRecOn with
  | nil => exact iff_of_false Bool.false_ne_true (not_standing_nil p)
  | append_singleton es e ih =>
    rw [after_concat, isDefault_enter, standing_concat, ih]
    simp only [defaultOf_after]

/-- The default prototype that a blueprint was given just now. -/
theorem latest?_defaultOf?_concat (es : List Entry) (b : BlueprintId) (p : PrototypeId) :
    latest? (·.defaultOf? b) (es ++ [.defaultPrototype b p]) = some p := by
  rw [latest?_append, latest?_singleton, Entry.defaultOf?_eq_some_iff.mpr rfl, Option.some_or]

/-- Of a prototype that was filed under one blueprint only, it is the same to be
standing and to be the default prototype of that blueprint. -/
theorem standing_iff_of_one_blueprint {b : BlueprintId}
    (one : ∀ e ∈ es, ∀ b', e.blueprintOf? p = some b' → b' = b) :
    Standing es p ↔ DefaultOfOwn es p := by
  have filed : ∀ b', .defaultPrototype b' p ∈ es → b' = b :=
    fun b' mem => one _ mem b' (if_pos rfl)
  constructor
  · -- standing: the entry that made it a default is about its only blueprint
    rintro ⟨before, b', since, rfl, kept⟩
    have made : .defaultPrototype b' p ∈ before ++ [.defaultPrototype b' p] ++ since := by simp
    obtain rfl := filed b' made
    refine ⟨b', ?_, ?_⟩
    · rcases own : latest? (·.blueprintOf? p) (before ++ [.defaultPrototype b' p] ++ since) with
        - | b''
      · exact nomatch (latest?_eq_none_iff.mp own _ made).symm.trans (if_pos rfl)
      · obtain ⟨e, mem, told⟩ := exists_of_latest? own
        rw [own, one e mem b'' told]
    · have given := latest?_defaultOf?_concat before b' p
      rw [latest?_defaultOf?_append fun q mem => (kept b' q mem).2 given, given]
  · -- default of its own: the latest word on the blueprint is the entry looked for
    rintro ⟨b', -, given⟩
    obtain ⟨before, e, since, rfl, told, silent⟩ := latest?_eq_some_iff.mp given
    obtain rfl := Entry.defaultOf?_eq_some_iff.mp told
    obtain rfl := filed b' (by simp)
    have gone : ∀ q, .defaultPrototype b' q ∉ since := fun q mem =>
      nomatch (silent _ mem).symm.trans (if_pos rfl)
    refine ⟨before, b', since, rfl, fun b'' q mem => ⟨?_, fun had => ?_⟩⟩
    · rintro rfl
      obtain rfl := filed b'' (List.mem_append_right _ mem)
      exact gone q mem
    · obtain ⟨e, held, told⟩ := exists_of_latest? had
      obtain rfl := Entry.defaultOf?_eq_some_iff.mp told
      obtain rfl := filed b'' (List.mem_append_left _ held)
      exact gone q mem

/-- **Default prototypes.** Whatever entries a catalog came about by, a prototype
counts as a default one if and only if it is standing. If it was filed under one
blueprint only, that is to say that it is the default prototype of its blueprint. -/
theorem default_prototypes_after (es : List Entry) (p : PrototypeId) :
    let c := ({} : Catalog).after es
    (c.isDefault p = true ↔ Standing es p) ∧
      (∀ b, (∀ e ∈ es, ∀ b', e.blueprintOf? p = some b' → b' = b) →
        (c.isDefault p = true ↔
          ∃ own, c.blueprintOf? p = some own ∧ latest? (·.defaultOf? own) es = some p)) := by
  intro c
  refine ⟨isDefault_after_iff es p, fun b one => ?_⟩
  rw [isDefault_after_iff, standing_iff_of_one_blueprint one, blueprintOf?_after]
  rfl

/-- Prototypes that were filed under two blueprints. The prototype 5 counts,
though the blueprint that it was filed under last was given no default prototype.
The prototype 6 does not, though it is the default prototype of its blueprint: the
other one that had it was given the prototype 7, which was filed under one
blueprint only and counts. -/
theorem twice_filed_miscounted :
    let es : List Entry := [.defaultPrototype ⟨1⟩ ⟨5⟩, .prototype ⟨5⟩ ⟨2⟩,
      .defaultPrototype ⟨3⟩ ⟨6⟩, .defaultPrototype ⟨4⟩ ⟨6⟩, .defaultPrototype ⟨3⟩ ⟨7⟩]
    let c := ({} : Catalog).after es
    ((∀ e ∈ es, ∀ b, e.blueprintOf? ⟨7⟩ = some b → b = ⟨3⟩) ∧ c.isDefault ⟨7⟩ = true) ∧
      (c.isDefault ⟨5⟩ = true ∧ ¬ DefaultOfOwn es ⟨5⟩) ∧
      ¬ c.isDefault ⟨6⟩ = true ∧ DefaultOfOwn es ⟨6⟩ := by
  intro es c
  have one : ∀ e ∈ es, ∀ b, e.blueprintOf? ⟨7⟩ = some b → b = ⟨3⟩ := by
    intro e mem b told
    simp only [es, List.mem_cons, List.not_mem_nil, or_false] at mem
    rcases mem with rfl | rfl | rfl | rfl | rfl
    · exact nomatch told
    · exact nomatch told
    · exact nomatch told
    · exact nomatch told
    · exact (Option.some.inj told).symm
  have new : c.isDefault ⟨7⟩ = true :=
    ((default_prototypes_after es ⟨7⟩).2 ⟨3⟩ one).mpr ⟨⟨3⟩, rfl, rfl⟩
  -- made a default of the first blueprint, filed under the second one since
  have moved : c.isDefault ⟨5⟩ = true := by
    refine (default_prototypes_after es ⟨5⟩).1.mpr ⟨[], ⟨1⟩, es.tail, rfl, fun b q mem => ?_⟩
    simp only [es, List.tail_cons, List.mem_cons, List.not_mem_nil, or_false, reduceCtorEq,
      Entry.defaultPrototype.injEq, false_or] at mem
    rcases mem with ⟨rfl, rfl⟩ | ⟨rfl, rfl⟩ | ⟨rfl, rfl⟩
    all_goals decide
  refine ⟨⟨one, new⟩, ⟨moved, ?_⟩, by decide +kernel, ⟨4⟩, rfl, rfl⟩
  rintro ⟨b, own, given⟩
  obtain rfl : b = ⟨2⟩ := Option.some.inj (own.symm.trans rfl)
  exact nomatch given

end Rulebook.Catalog
