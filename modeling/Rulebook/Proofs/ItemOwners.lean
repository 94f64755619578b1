/-
Rulebook/Proofs/ItemOwners.lean

Items and their owners.  That an entity holds an item is recorded twice: the
inventory lists the item, and the item has the entity for its owner.  Putting an
item into an inventory changes both, but it does not take the item out of an
inventory that lists it already.  So after every history

* an inventory lists what was ever put into it;
* the owner of an item is the one that it was given to last (`Change.holderOf?`).

The two agree exactly if no item was handed on from one owner to another
(`HandedOn`, `items_and_owners`).  An item that was handed on is listed by both
owners, and found with both.

All this is said by what a game has on record of the changes that it came about by
(`Accounts`): one change keeps the account (`Accounts.change`), and so does a history
(`Accounts.after`).
-/
import Rulebook.Proofs.CatalogHistory
import Rulebook.Proofs.GameHistory

namespace Rulebook

open Eval

namespace Game

variable {g g' : Game} {e owner item : EntityId} {label : InventoryLabel} {past : List Change}

/-- The owner that a change gives an item to. -/
def Change.holderOf? (item : EntityId) : Change → Option EntityId
  | .addToInventory owner _ item' => if item' = item then some owner else none
  | _ => none

theorem Change.holderOf?_eq_some_iff {x : Change} :
    x.holderOf? item = some owner ↔ ∃ label, x = .addToInventory owner label item := by
  cases x with
  | addToInventory owner' label item' => simp [holderOf?, and_comm]
  | _ => simp [holderOf?]

/-- Whether some item was put into inventories of two owners. -/
def HandedOn (past : List Change) : Prop :=
  ∃ item owner label owner' label', .addToInventory owner label item ∈ past ∧
    .addToInventory owner' label' item ∈ past ∧ owner ≠ owner'

/-! ### What is kept -/

theorem Retains.held (h : g.Retains g') (e : EntityId) (label : InventoryLabel) :
    g'.held e label = g.held e label := by
  unfold Game.held inventory?
  rcases found : g.entity? e with - | r
  · rcases found' : g'.entity? e with - | r'
    · rfl
    · -- an entity that is new holds nothing yet
      have nothing : r'.inventories[label]? = none := by
        rw [h.new found found']
        exact Std.TreeMap.getElem?_emptyc
      exact congrArg (Option.getD · []) nothing
  · obtain ⟨r', found', -, same⟩ := h.kept found
    rw [found']
    show (r'.inventories[label]?).getD [] = _
    rw [same]
    rfl

theorem Retains.owner? (h : g.Retains g') (present : (g.entity? e).isSome = true) :
    g'.owner? e = g.owner? e := by
  obtain ⟨r, found⟩ := Option.isSome_iff_exists.mp present
  obtain ⟨r', found', same, -⟩ := h.kept found
  rw [Game.owner?, Game.owner?, found, found']
  exact same

theorem Retains.isSome (h : g.Retains g') (present : (g.entity? e).isSome = true) :
    (g'.entity? e).isSome = true := by
  obtain ⟨r, found⟩ := Option.isSome_iff_exists.mp present
  obtain ⟨r', found', -⟩ := h.kept found
  rw [found', Option.isSome_some]

/-! ### Something is put into an inventory -/

/-- What is not changed of an entity is as before. -/
theorem bind_entity?_modify {α : Type} (g : Game) (e e' : EntityId) {f : Entity → Entity}
    {look : Entity → Option α} (kept : ∀ r, look (f r) = look r) :
    (g.modify e f).entity? e' >>= look = g.entity? e' >>= look := by
  rw [entity?_modify]
  split
  next same =>
    subst same
    rcases g.entity? e' with - | r
    · rfl
    · exact kept r
  next => rfl

theorem isSome_entity?_modify (g : Game) (e e' : EntityId) (f : Entity → Entity) :
    ((g.modify e f).entity? e').isSome = (g.entity? e').isSome := by
  rw [entity?_modify]
  split
  next same => rw [Option.isSome_map, same]
  next => rfl

theorem owner?_addToInventory (owner : EntityId) (label : InventoryLabel)
    (present : (g.entity? item).isSome = true) (e : EntityId) :
    (g.addToInventory owner label item).owner? e =
      if e = item then some owner else g.owner? e := by
  unfold addToInventory owner?
  -- the item has a new owner, every other entity keeps its own
  by_cases same : e = item
  · subst same
    rw [entity?_modify_self, if_pos rfl]
    rw [← isSome_entity?_modify] at present
    obtain ⟨r, found⟩ := Option.isSome_iff_exists.mp present
    rw [found]
    rfl
  · rw [entity?_modify_of_ne _ _ same, if_neg same]
    exact bind_entity?_modify _ _ _ fun _ => rfl

theorem mem_held_addToInventory (label : InventoryLabel) (item : EntityId)
    (present : (g.entity? owner).isSome = true) {e x : EntityId} {label' : InventoryLabel} :
    x ∈ (g.addToInventory owner label item).held e label' ↔
      x ∈ g.held e label' ∨ e = owner ∧ label' = label ∧ x = item := by
  -- the item's new owner is of no account to what anyone holds
  have listed : (g.addToInventory owner label item).held e label' =
      (g.modify owner fun r => { r with
        inventories := r.inventories.insert label (r.held label ++ [item]) }).held e label' :=
    congrArg (Option.getD · []) (bind_entity?_modify _ _ _ fun _ => rfl)
  rw [listed, mem_held_iff, mem_held_iff]
  by_cases same : e = owner
  · subst same
    obtain ⟨r, found⟩ := Option.isSome_iff_exists.mp present
    simp only [entity?_modify_self, found, Option.map_some, Option.some.injEq, exists_eq_left',
      Entity.held_insert, true_and]
    split
    next here => simp [here]
    next elsewhere => simp [elsewhere]
  · simp [entity?_modify_of_ne _ _ same, same]

/-! ### Accounts -/

/-- Whether a game has on record what was done with items in the changes that it came
about by. -/
structure Accounts (past : List Change) (g : Game) : Prop where
  numbered : g.Numbered
  counted : g.next.toNat ≤ past.length + 1
  present : ∀ {owner label item}, .addToInventory owner label item ∈ past →
    (g.entity? item).isSome = true
  listed : ∀ {owner label item},
    item ∈ g.held owner label ↔ .addToInventory owner label item ∈ past
  owned : ∀ {item owner}, latest? (·.holderOf? item) past = some owner →
    g.owner? item = some owner

namespace Accounts

theorem empty : Accounts [] {} where
  numbered := ⟨nofun⟩
  counted := Nat.le_refl 1
  present := nofun
  listed := iff_of_false List.not_mem_nil List.not_mem_nil
  owned := nofun

/-- An item that was given to someone is in the game. -/
theorem present_of_latest (h : Accounts past g)
    (given : latest? (·.holderOf? item) past = some owner) :
    (g.entity? item).isSome = true := by
  obtain ⟨x, mem, told⟩ := exists_of_latest? given
  obtain ⟨label, rfl⟩ := Change.holderOf?_eq_some_iff.mp told
  exact h.present mem

/-- A change that puts nothing into an inventory keeps the account. -/
theorem change_of_retains (h : Accounts past g) {x : Change}
    (other : ∀ owner label item, x ≠ .addToInventory owner label item)
    (numbered : (g.change x).Numbered)
    (counted : (g.change x).next.toNat ≤ (past ++ [x]).length + 1) :
    Accounts (past ++ [x]) (g.change x) := by
  have kept := retains_change h.numbered.fresh x other
  have earlier {owner label item} :
      .addToInventory owner label item ∈ past ++ [x] ↔ .addToInventory owner label item ∈ past := by
    rw [List.mem_append, List.mem_singleton]
    exact or_iff_left fun same => other _ _ _ same.symm
  have silent (item : EntityId) : x.holderOf? item = none := by
    refine Option.eq_none_iff_forall_ne_some.mpr fun owner told => ?_
    obtain ⟨label, same⟩ := Change.holderOf?_eq_some_iff.mp told
    exact other _ _ _ same
  refine ⟨numbered, counted, fun mem => kept.isSome (h.present (earlier.mp mem)), ?_, ?_⟩
  · intro owner label item
    rw [kept.held, h.listed, earlier]
  · intro item owner given
    rw [latest?_append, latest?_singleton, silent, Option.none_or] at given
    -- what was created just now is not the item, which was in the game before
    rw [kept.owner? (h.present_of_latest given), h.owned given]

/-- So does one that puts something into an inventory, as long as
both are in the game. -/
theorem change_addToInventory (h : Accounts past g) {x : Change}
    (put : x = .addToInventory owner label item) (ownerPresent : (g.entity? owner).isSome = true)
    (itemPresent : (g.entity? item).isSome = true) (numbered : (g.change x).Numbered)
    (counted : (g.change x).next.toNat ≤ (past ++ [x]).length + 1) :
    Accounts (past ++ [x]) (g.change x) := by
  subst put
  have later {owner' label' item'} :
      .addToInventory owner' label' item' ∈ past ++ [.addToInventory owner label item] ↔
        .addToInventory owner' label' item' ∈ past ∨
          owner' = owner ∧ label' = label ∧ item' = item := by
    rw [List.mem_append, List.mem_singleton, Change.addToInventory.injEq]
  -- neither the owner nor the item disappears
  have stays {e : EntityId} (present : (g.entity? e).isSome = true) :
      ((g.addToInventory owner label item).entity? e).isSome = true := by
    rwa [addToInventory, isSome_entity?_modify, isSome_entity?_modify]
  refine ⟨numbered, counted, fun mem => ?_, ?_, ?_⟩
  · -- what was put away before is present, and so is this item
    rcases later.mp mem with earlier | ⟨rfl, rfl, rfl⟩
    · exact stays (h.present earlier)
    · exact stays itemPresent
  · intro owner' label' item'
    rw [later, ← h.listed]
    exact mem_held_addToInventory label item ownerPresent
  · intro item' owner' given
    show (g.addToInventory owner label item).owner? item' = some owner'
    rw [owner?_addToInventory owner label itemPresent]
    -- this is the latest change for the item, and says nothing about others
    rw [latest?_append, latest?_singleton] at given
    split
    next same => rwa [Change.holderOf?, if_pos same.symm, Option.some_or] at given
    next other =>
      rw [Change.holderOf?, if_neg (Ne.symm other), Option.none_or] at given
      exact h.owned given

/-- A change keeps the account. -/
theorem change (h : Accounts past g) (room : past.length + 2 < 2 ^ 64) {x : Change}
    (present : ∀ e ∈ x.subjects, (g.entity? e).isSome = true) :
    Accounts (past ++ [x]) (g.change x) := by
  have before := h.counted
  obtain ⟨numbered, one⟩ := h.numbered.change (by omega) x
  have counted : (g.change x).next.toNat ≤ (past ++ [x]).length + 1 := by
    rw [List.length_append, List.length_singleton]
    omega
  -- only one kind of change touches inventories and owners
  by_cases put : ∃ owner label item, x = .addToInventory owner label item
  · obtain ⟨owner, label, item, rfl⟩ := put
    exact h.change_addToInventory rfl (present owner (by simp [Change.subjects]))
      (present item (by simp [Change.subjects])) numbered counted
  · exact h.change_of_retains (fun _ _ _ same => put ⟨_, _, _, same⟩) numbered counted

/-- A history keeps the account. -/
theorem after {cs : List Change} (h : Accounts past g)
    (room : past.length + cs.length + 1 < 2 ^ 64) (orderly : g.Orderly cs) :
    Accounts (past ++ cs) (g.after cs) := by
  induction cs generalizing past g with
  | nil => rwa [List.append_nil]
  | cons x cs ih =>
    rw [List.length_cons] at room
    have one : Accounts (past ++ [x]) (g.change x) := h.change (by omega) orderly.1
    -- the change belongs to the past of those that come after it
    rw [List.append_cons]
    refine ih one ?_ orderly.2
    rw [List.length_append, List.length_singleton]
    omega

end Accounts

/-! ### Owners that hold their items -/

/-- What was put into an inventory was given to someone last. -/
theorem exists_last_holder (put : .addToInventory owner label item ∈ past) :
    ∃ last label', latest? (·.holderOf? item) past = some last ∧
      .addToInventory last label' item ∈ past := by
  -- the item was put somewhere, so the history tells a holder
  rcases given : latest? (·.holderOf? item) past with - | last
  · have silent := latest?_eq_none_iff.mp given _ put
    exact nomatch silent.symm.trans (Change.holderOf?_eq_some_iff.mpr ⟨label, rfl⟩)
  · obtain ⟨x, mem, told⟩ := exists_of_latest? given
    obtain ⟨label', rfl⟩ := Change.holderOf?_eq_some_iff.mp told
    exact ⟨last, label', given, mem⟩

/-- An item that is listed anywhere has the owner that it was given to last. -/
theorem Accounts.owner?_iff (h : Accounts past g) (listed : item ∈ g.held e label) :
    g.owner? item = some owner ↔ latest? (·.holderOf? item) past = some owner := by
  obtain ⟨last, -, given, -⟩ := exists_last_holder (h.listed.mp listed)
  rw [h.owned given, given]

/-- Every item has the entity that holds it for its owner exactly if
none was handed on. -/
theorem Accounts.agree_iff (h : Accounts past g) :
    (∀ owner label item, item ∈ g.held owner label → g.owner? item = some owner) ↔
      ¬ HandedOn past := by
  constructor
  · -- an item in two lists would have two owners
    rintro agree ⟨item, owner, label, owner', label', put, put', differ⟩
    have owned := agree owner label item (h.listed.mpr put)
    have owned' := agree owner' label' item (h.listed.mpr put')
    exact differ (Option.some.inj (owned.symm.trans owned'))
  · -- the last holder is the only one it was given to
    intro stayed owner label item listed
    have put := h.listed.mp listed
    obtain ⟨last, label', given, put'⟩ := exists_last_holder put
    by_cases same : owner = last
    · rw [h.owned given, same]
    · exact absurd ⟨item, owner, label, last, label', put, put', same⟩ stayed

/-- Every item is with one owner at most exactly if none was handed on. -/
theorem Accounts.one_holder_iff (h : Accounts past g) :
    (∀ item owner label owner' label', item ∈ g.held owner label →
      item ∈ g.held owner' label' → owner = owner') ↔ ¬ HandedOn past := by
  constructor
  · rintro one ⟨item, owner, label, owner', label', put, put', differ⟩
    exact differ (one _ _ _ _ _ (h.listed.mpr put) (h.listed.mpr put'))
  · intro stayed item owner label owner' label' listed listed'
    by_cases same : owner = owner'
    · exact same
    · exact absurd ⟨item, owner, label, owner', label', h.listed.mp listed, h.listed.mp listed',
        same⟩ stayed

/-- **Items and their owners.** After every orderly history of a game that does
not run out of numbers, an inventory lists what was put into it, and an item that
is listed by an entity has it for its owner if and only if this was the last to be
given the item. So the inventories agree with the owners, and no item is with two
entities at once, exactly if no item was handed on. Whether an entity holds
something that a filter asks for is answered by what was put into its inventory,
wherever that went later. -/
theorem items_and_owners (cs : List Change) (orderly : ({} : Game).Orderly cs)
    (few : cs.length + 1 < 2 ^ 64) :
    let g := ({} : Game).after cs
    (∀ owner label item,
      item ∈ g.held owner label ↔ .addToInventory owner label item ∈ cs) ∧
    (∀ owner label item, item ∈ g.held owner label →
      (g.owner? item = some owner ↔ latest? (·.holderOf? item) cs = some owner)) ∧
    ((∀ owner label item, item ∈ g.held owner label → g.owner? item = some owner) ↔
      ¬ HandedOn cs) ∧
    ((∀ item owner label owner' label', item ∈ g.held owner label →
      item ∈ g.held owner' label' → owner = owner') ↔ ¬ HandedOn cs) ∧
    (∀ n env s c owner filter label, env.game = some g → env.contextEntity s c g = .ok owner →
      label.isSet = true →
      ∃ b, exec (eval n env (.hasInInventory c filter label)) s = (.ok (.bool b), s) ∧
        (b = true ↔ ∃ item r, .addToInventory owner label item ∈ cs ∧ g.entity? item = some r ∧
          (r.kind = .avatar ∨ r.kind = .worldEntity) ∧
          env.data.catalog.Meets filter r.prototype)) := by
  intro g
  have account : Accounts cs g :=
    Accounts.empty.after (by rwa [List.length_nil, Nat.zero_add]) orderly
  refine ⟨fun _ _ _ => account.listed, fun _ _ _ => account.owner?_iff, account.agree_iff,
    account.one_holder_iff, ?_⟩
  intro n env s c owner filter label bound resolved labelled
  obtain ⟨b, answer, holds⟩ := exec_hasInInventory n filter bound resolved labelled
  refine ⟨b, answer, holds.trans ?_⟩
  constructor
  · rintro ⟨item, listed, r, found, inWorld, meets⟩
    exact ⟨item, r, account.listed.mp listed, found, inWorld, meets⟩
  · rintro ⟨item, r, put, found, inWorld, meets⟩
    exact ⟨item, account.listed.mpr put, r, found, inWorld, meets⟩

/-- A sword that one player hands on to another is listed by both, and is found
with the first as well, which is not its owner any more. -/
theorem sword_handed_on :
    let cs : List Change := [.create .player ⟨50⟩ ⟨0⟩, .create .player ⟨50⟩ ⟨1⟩,
      .create .worldEntity ⟨60⟩ ⟨2⟩, .addToInventory ⟨1⟩ .general ⟨3⟩,
      .addToInventory ⟨2⟩ .general ⟨3⟩]
    let g := ({} : Game).after cs
    let env : Env := ⟨{}, some g, {}, fun _ => false⟩
    let s : State := ⟨⟨#[{}, {}, {}]⟩, ({} : Activation).bind .entity ⟨.entity (some ⟨1⟩), false⟩⟩
    ({} : Game).Orderly cs ∧ cs.length + 1 < 2 ^ 64 ∧
      (⟨3⟩ ∈ g.held ⟨1⟩ .general ∧ ⟨3⟩ ∈ g.held ⟨2⟩ .general) ∧
      (g.owner? ⟨3⟩ = some ⟨2⟩ ∧ g.owner? ⟨3⟩ ≠ some ⟨1⟩) ∧
      exec (eval 0 env (.hasInInventory (.slot .entity) ⟨60⟩ .general)) s =
        (.ok (.bool true), s) := by
  intro cs g env s
  have orderly : ({} : Game).Orderly cs :=
    ⟨by decide, by decide, by decide, by decide +kernel, by decide +kernel, trivial⟩
  have few : cs.length + 1 < 2 ^ 64 := by decide
  obtain ⟨listed, owned, -, -, asked⟩ := items_and_owners cs orderly few
  have first : ⟨3⟩ ∈ g.held ⟨1⟩ .general := (listed _ _ _).mpr (by simp [cs])
  have second : ⟨3⟩ ∈ g.held ⟨2⟩ .general := (listed _ _ _).mpr (by simp [cs])
  refine ⟨orderly, few, ⟨first, second⟩, ⟨(owned _ _ _ second).mpr rfl, fun was => ?_⟩, ?_⟩
  · exact nomatch (owned _ _ _ first).mp was
  · obtain ⟨b, answer, found⟩ := asked 0 env s (.slot .entity) ⟨1⟩ ⟨60⟩ .general rfl rfl rfl
    have yes := found.mpr ⟨⟨3⟩, _, (listed _ _ _).mp first, rfl, .inr rfl, .itself rfl⟩
    rwa [yes] at answer

end Game

end Rulebook
