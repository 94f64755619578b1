/-
Rulebook/Proofs/GameHistory.lean

Histories of games.  A game comes about by changes, which are made one after another
(`Game.after`).  In an orderly history every change is about entities that are in the
game by then (`Game.Orderly`).

Entities are numbered in the order of their creation, so that the next number is
not taken (`Numbered.fresh`) as long as the numbers have not run out
(`Numbered.change`).  Apart from what is put into inventories, a change leaves all
entities with their owner and their items, and whatever it creates holds nothing
(`Retains`, `retains_change`).
-/
import Rulebook.Proofs.HeldItems

namespace Rulebook.Game

/-! ### Changes -/

/-- A change of a game. What is created comes with the collection
of its properties. -/
inductive Change where
  | create (kind : EntityKind) (prototype : PrototypeId) (properties : Handle)
  | createAvatar (player : EntityId) (prototype : PrototypeId) (properties : Handle)
  | setPrimaryAvatar (player avatar : EntityId)
  | addRegion (region : RegionId) (tier : PrototypeId)
  | enterRegion (e : EntityId) (region : RegionId)
  | addToInventory (owner : EntityId) (label : InventoryLabel) (item : EntityId)
  | setGuid (e : EntityId) (guid : DbGuid)
  | setMissionState (player : EntityId) (mission : PrototypeId) (s : MissionState)

/-- The entities that a change is about. -/
def Change.subjects : Change → List EntityId
  | .create .. | .addRegion .. => []
  | .createAvatar player .. => [player]
  | .setPrimaryAvatar player avatar => [player, avatar]
  | .enterRegion e _ => [e]
  | .addToInventory owner _ item => [owner, item]
  | .setGuid e _ => [e]
  | .setMissionState player .. => [player]

/-- The game after a change. -/
def change (g : Game) : Change → Game
  | .create kind prototype h => (g.spawn kind prototype h).1
  | .createAvatar player prototype h => (g.spawnAvatar player prototype h).1
  | .setPrimaryAvatar player avatar => g.setPrimaryAvatar player avatar
  | .addRegion region tier => g.addRegion region tier
  | .enterRegion e region => g.enterRegion e region
  | .addToInventory owner label item => g.addToInventory owner label item
  | .setGuid e guid => g.setGuid e guid
  | .setMissionState player mission s => g.setMissionState player mission s

/-- The game after changes were made one after another. -/
def after (g : Game) (cs : List Change) : Game := cs.foldl change g

/-- Whether each of some changes is about entities that are in the game by then. -/
def Orderly (g : Game) : List Change → Prop
  | [] => True
  | x :: cs => (∀ e ∈ x.subjects, (g.entity? e).isSome = true) ∧ (g.change x).Orderly cs

variable {g g' : Game} {e : EntityId}

theorem entity?_spawn (g : Game) (kind : EntityKind) (prototype : PrototypeId) (h : Handle)
    (e : EntityId) :
    (g.spawn kind prototype h).1.entity? e =
      if e = ⟨g.next⟩ then some { kind, prototype, properties := h } else g.entity? e := by
  unfold spawn entity?
  rw [Std.TreeMap.getElem?_insert, Registry.ite_compare]

/-! ### Numbers of entities -/

/-- Whether all entities of a game have numbers below the next one. -/
structure Numbered (g : Game) : Prop where
  lt_next : ∀ {e r}, g.entity? e = some r → e.raw < g.next

/-- The next number is not taken. -/
theorem Numbered.fresh (numbered : g.Numbered) : g.entity? ⟨g.next⟩ = none := by
  rcases found : g.entity? ⟨g.next⟩ with - | r
  · rfl
  · exact absurd (numbered.lt_next found) (UInt64.lt_irrefl _)

theorem Numbered.modify (numbered : g.Numbered) (e : EntityId) (f : Entity → Entity) :
    (g.modify e f).Numbered where
  lt_next {e' r} found := by
    rw [entity?_modify] at found
    split at found
    next same =>
      subst same
      obtain ⟨r', found', -⟩ := Option.map_eq_some_iff.mp found
      exact numbered.lt_next found'
    next => exact numbered.lt_next found

theorem next_spawn (g : Game) (room : g.next.toNat + 1 < 2 ^ 64) (kind : EntityKind)
    (prototype : PrototypeId) (h : Handle) :
    (g.spawn kind prototype h).1.next.toNat = g.next.toNat + 1 := by
  show (g.next + 1).toNat = _
  rw [UInt64.toNat_add]
  exact Nat.mod_eq_of_lt room

theorem Numbered.spawn (numbered : g.Numbered) (room : g.next.toNat + 1 < 2 ^ 64)
    (kind : EntityKind) (prototype : PrototypeId) (h : Handle) :
    (g.spawn kind prototype h).1.Numbered where
  lt_next {e r} found := by
    rw [UInt64.lt_iff_toNat_lt, g.next_spawn room]
    rw [entity?_spawn] at found
    split at found
    next same =>
      subst same
      exact Nat.lt_succ_self _
    next => exact Nat.lt_succ_of_lt (UInt64.lt_iff_toNat_lt.mp (numbered.lt_next found))

/-- A change numbers what it creates, and takes one number at most. -/
theorem Numbered.change (numbered : g.Numbered) (room : g.next.toNat + 1 < 2 ^ 64) (x : Change) :
    (g.change x).Numbered ∧ (g.change x).next.toNat ≤ g.next.toNat + 1 := by
  -- only the creations use up a number, and that by one
  cases x with
  | create kind prototype h =>
    exact ⟨numbered.spawn room kind prototype h, (g.next_spawn room kind prototype h).le⟩
  | createAvatar player prototype h =>
    exact ⟨((numbered.spawn room .avatar prototype h).modify _ _).modify _ _,
      (g.next_spawn room .avatar prototype h).le⟩
  | setPrimaryAvatar player avatar => exact ⟨numbered.modify _ _, Nat.le_succ _⟩
  | addRegion region tier => exact ⟨⟨numbered.lt_next⟩, Nat.le_succ _⟩
  | enterRegion e region => exact ⟨numbered.modify _ _, Nat.le_succ _⟩
  | addToInventory owner label item =>
    exact ⟨(numbered.modify _ _).modify _ _, Nat.le_succ _⟩
  | setGuid e guid => exact ⟨⟨numbered.lt_next⟩, Nat.le_succ _⟩
  | setMissionState player mission s => exact ⟨⟨numbered.lt_next⟩, Nat.le_succ _⟩

/-! ### Owners and items -/

/-- Whether all entities of `g` are in `g'` with their owner and their items
there, and what else is in `g'` holds nothing. -/
structure Retains (g g' : Game) : Prop where
  kept : ∀ {e r}, g.entity? e = some r →
    ∃ r', g'.entity? e = some r' ∧ r'.owner = r.owner ∧ r'.inventories = r.inventories
  new : ∀ {e r'}, g.entity? e = none → g'.entity? e = some r' → r'.inventories = ∅

namespace Retains

/-- Games with the same entities. -/
theorem of_entities (same : g'.entities = g.entities) : g.Retains g' where
  kept {e r} found := by
    refine ⟨r, ?_, rfl, rfl⟩
    rw [entity?, same]
    exact found
  new {e r'} missing found := by
    rw [entity?, same] at found
    cases missing.symm.trans found

theorem spawn (fresh : g.entity? ⟨g.next⟩ = none) (kind : EntityKind) (prototype : PrototypeId)
    (h : Handle) : g.Retains (g.spawn kind prototype h).1 where
  kept {e r} found := by
    -- the new number is no present entity's
    have other : e ≠ ⟨g.next⟩ := by
      rintro rfl
      cases fresh.symm.trans found
    exact ⟨r, by rw [entity?_spawn, if_neg other, found], rfl, rfl⟩
  new {e r'} missing found := by
    rw [entity?_spawn] at found
    split at found
    next => rw [← Option.some.inj found]
    next => cases missing.symm.trans found

/-- Changes of an entity that keep its items, and its owner too unless
the entity is new. -/
theorem modify (h : g.Retains g') {f : Entity → Entity}
    (items : ∀ r, (f r).inventories = r.inventories)
    (owner : g.entity? e = none ∨ ∀ r, (f r).owner = r.owner) : g.Retains (g'.modify e f) where
  kept {e' r} found := by
    obtain ⟨r', found', owned, holding⟩ := h.kept found
    rw [entity?_modify]
    split
    next same =>
      subst same
      have owner := owner.resolve_left (Option.ne_none_iff_exists'.mpr ⟨r, found⟩)
      exact ⟨f r', by rw [found', Option.map_some], (owner r').trans owned,
        (items r').trans holding⟩
    next => exact ⟨r', found', owned, holding⟩
  new {e' r'} missing found := by
    rw [entity?_modify] at found
    split at found
    next same =>
      subst same
      obtain ⟨r, found', rfl⟩ := Option.map_eq_some_iff.mp found
      exact (items r).trans (h.new missing found')
    next => exact h.new missing found

theorem refl (g : Game) : g.Retains g := of_entities rfl

end Retains

/-- What is not put into an inventory stays where it is, and with whom. -/
theorem retains_change (fresh : g.entity? ⟨g.next⟩ = none) (x : Change)
    (other : ∀ owner label item, x ≠ .addToInventory owner label item) :
    g.Retains (g.change x) := by
  cases x with
  | create kind prototype h => exact .spawn fresh kind prototype h
  | createAvatar player prototype h =>
    -- only the avatar, which is new, is given an owner
    refine ((Retains.spawn fresh .avatar prototype h).modify ?_ (.inl fresh)).modify ?_ (.inr ?_)
    all_goals exact fun _ => rfl
  | setPrimaryAvatar player avatar =>
    refine (Retains.refl g).modify ?_ (.inr ?_)
    all_goals exact fun _ => rfl
  | enterRegion e region =>
    refine (Retains.refl g).modify ?_ (.inr ?_)
    all_goals exact fun _ => rfl
  | addToInventory owner label item => exact absurd rfl (other owner label item)
  | _ => exact .of_entities rfl

end Rulebook.Game
