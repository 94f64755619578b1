/-
Rulebook/Proofs/HeldItems.lean

Items in inventories.  Whether an entity holds what a filter asks for is a question
about a set: it is answered with yes if and only if something in the inventory is of
the world and of a prototype that meets the filter (`Game.Holds`).  The order of the
inventory does not matter, and more items never turn yes into no.

Which prototypes meet a filter is said by `Catalog.Meets`, one constructor for each
way to meet it; the last of them follows the parent links of the blueprints
(`Catalog.isA_iff`).  That the answer depends on no more than it should is said by
`Game.Stocks`: a game has all the entities of another, which hold at least what they
hold there.  Whatever is put into an inventory leads to such a game
(`stocks_supplied`), and so does a new order, in both directions.
-/
import Rulebook.Proofs.Ancestry
import Rulebook.Proofs.Query

namespace Rulebook

open Eval

/-! ### Filters -/

/-- Whether a prototype is what a filter asks for. -/
inductive Catalog.Meets (c : Catalog) (filter p : PrototypeId) : Prop
  | anything (null : filter = .null)
  | itself (same : p = filter)
  | derived {b own : BlueprintId} (isDefault : c.isDefault filter = true)
    (asked : c.blueprintOf? filter = some b) (made : c.blueprintOf? p = some own)
    (derives : own = b ∨ Relation.TransGen c.IsParent own b)

theorem Catalog.isMadeFrom_iff {c : Catalog} {p : PrototypeId} {b : BlueprintId} :
    c.isMadeFrom p b = true ↔
      ∃ own, c.blueprintOf? p = some own ∧ (own = b ∨ Relation.TransGen c.IsParent own b) := by
  simp only [isMadeFrom, Option.any_eq_true, isA_iff, Relation.reflTransGen_iff_eq_or_transGen]
  exact exists_congr fun own => and_congr_right fun _ => or_congr_left eq_comm

theorem Env.matchesFilter_iff {env : Env} {filter p : PrototypeId} :
    env.matchesFilter filter p = true ↔ env.data.catalog.Meets filter p := by
  simp only [matchesFilter, Bool.or_eq_true, Bool.and_eq_true, Bool.not_eq_true',
    Ref.isValid_eq_false_iff, beq_iff_eq, Option.any_eq_true, Catalog.isMadeFrom_iff]
  -- no filter, the prototype itself, and what derives from a default prototype
  constructor
  · rintro ((null | same) | ⟨isDefault, b, asked, own, made, derives⟩)
    · exact .anything null
    · exact .itself same
    · exact .derived isDefault asked made derives
  · rintro (null | same | ⟨isDefault, asked, made, derives⟩)
    · exact .inl (.inl null)
    · exact .inl (.inr same)
    · exact .inr ⟨isDefault, _, asked, _, made, derives⟩

/-! ### What entities hold -/

/-- What an entity holds in one of its inventories. -/
def Entity.held (r : Entity) (label : InventoryLabel) : List EntityId :=
  (r.inventories[label]?).getD []

namespace Game

/-- What an entity holds in one of its inventories, nothing if there
is no such entity. -/
def held (g : Game) (e : EntityId) (label : InventoryLabel) : List EntityId :=
  (g.inventory? e label).getD []

theorem mem_held_iff {g : Game} {e item : EntityId} {label : InventoryLabel} :
    item ∈ g.held e label ↔ ∃ r, g.entity? e = some r ∧ item ∈ r.held label := by
  unfold held inventory? Entity.held
  rcases g.entity? e with - | r
  · simp
  · simp

/-- Whether an entity holds, in one of its inventories, an avatar or another entity
of the world of a prototype that meets a filter. -/
def Holds (g : Game) (c : Catalog) (owner : EntityId) (label : InventoryLabel)
    (filter : PrototypeId) : Prop :=
  ∃ item ∈ g.held owner label, ∃ r, g.entity? item = some r ∧
    (r.kind = .avatar ∨ r.kind = .worldEntity) ∧ c.Meets filter r.prototype

end Game

theorem EntityKind.isInWorld_iff {k : EntityKind} :
    k.isInWorld = true ↔ k = .avatar ∨ k = .worldEntity := by
  cases k <;> simp [isInWorld]

section

variable {env : Env} {s : State} {c : Context} {label : InventoryLabel} {g : Game}
  {owner : EntityId}

/-- The question is answered, and with yes exactly if the entity
holds such an item. -/
theorem Env.hasInInventory_eq_ok (filter : PrototypeId) (bound : env.game = some g)
    (resolved : env.contextEntity s c g = .ok owner) (labelled : label.isSet = true) :
    ∃ b, env.hasInInventory s c filter label = .ok b ∧
      (b = true ↔ g.Holds env.data.catalog owner label filter) := by
  refine ⟨(g.held owner label).any fun item =>
    (g.entity? item).any fun r => r.kind.isInWorld && env.matchesFilter filter r.prototype, ?_, ?_⟩
  · rw [hasInInventory, bind_ok (boundGame_eq_ok_iff.mpr bound), bind_ok resolved, labelled]
    rfl
  · simp only [Game.Holds, List.any_eq_true, Option.any_eq_true, Bool.and_eq_true,
      EntityKind.isInWorld_iff, matchesFilter_iff]

end

/-! ### Games with more in their inventories -/

/-- Whether `r'` is of the kind and prototype of `r` and holds at
least what it holds. -/
structure Entity.Stocks (r r' : Entity) : Prop where
  kind : r'.kind = r.kind
  prototype : r'.prototype = r.prototype
  held : ∀ label, r.held label ⊆ r'.held label

theorem Entity.Stocks.refl (r : Entity) : r.Stocks r := ⟨rfl, rfl, fun _ => List.Subset.refl _⟩

namespace Game

/-- Whether all entities of `g` are in `g'`, have the same durable names there, and
hold at least what they hold in `g`. -/
structure Stocks (g g' : Game) : Prop where
  byGuid? : ∀ id, g'.byGuid? id = g.byGuid? id
  entity? : ∀ {e r}, g.entity? e = some r → ∃ r', g'.entity? e = some r' ∧ r.Stocks r'

variable {g g' g'' : Game}

theorem Stocks.refl (g : Game) : g.Stocks g where
  byGuid? _ := rfl
  entity? {_ r} found := ⟨r, found, .refl r⟩

theorem Stocks.trans (h : g.Stocks g') (h' : g'.Stocks g'') : g.Stocks g'' where
  byGuid? id := (h'.byGuid? id).trans (h.byGuid? id)
  entity? {e r} found := by
    obtain ⟨r', found', first⟩ := h.entity? found
    obtain ⟨r'', found'', second⟩ := h'.entity? found'
    exact ⟨r'', found'', second.kind.trans first.kind, second.prototype.trans first.prototype,
      fun label => List.Subset.trans (first.held label) (second.held label)⟩

/-- More in the inventories never takes away what is held. -/
theorem Holds.mono {c : Catalog} {owner : EntityId} {label : InventoryLabel}
    {filter : PrototypeId} (h : g.Holds c owner label filter) (more : g.Stocks g') :
    g'.Holds c owner label filter := by
  -- the same item is held there, and the same entity is behind it
  obtain ⟨item, mem, r, found, inWorld, meets⟩ := h
  obtain ⟨o, owns, inside⟩ := mem_held_iff.mp mem
  obtain ⟨o', owns', most⟩ := more.entity? owns
  obtain ⟨r', found', same⟩ := more.entity? found
  refine ⟨item, mem_held_iff.mpr ⟨o', owns', most.held label inside⟩, r', found', ?_, ?_⟩
  · rwa [same.kind]
  · rwa [same.prototype]

/-! ### Changes of entities -/

theorem entity?_modify (g : Game) (e e' : EntityId) (f : Entity → Entity) :
    (g.modify e f).entity? e' = if e' = e then (g.entity? e).map f else g.entity? e' := by
  unfold entity? modify
  rw [Std.TreeMap.getElem?_modify, Registry.ite_compare]

theorem byGuid?_modify (g : Game) (e : EntityId) (f : Entity → Entity) (id : DbGuid) :
    (g.modify e f).byGuid? id = g.byGuid? id := by
  unfold byGuid? modify
  congr 1
  funext e'
  exact Std.TreeMap.contains_modify

theorem entity?_modify_self (g : Game) (e : EntityId) (f : Entity → Entity) :
    (g.modify e f).entity? e = (g.entity? e).map f := by
  rw [entity?_modify, if_pos rfl]

theorem entity?_modify_of_ne (g : Game) (f : Entity → Entity) {e e' : EntityId} (h : e' ≠ e) :
    (g.modify e f).entity? e' = g.entity? e' := by
  rw [entity?_modify, if_neg h]

/-- Between games that differ in one entity at most, only that one
is to be compared. -/
theorem stocks_of_others {e : EntityId} (names : ∀ id, g'.byGuid? id = g.byGuid? id)
    (others : ∀ e', e' ≠ e → g'.entity? e' = g.entity? e')
    (h : ∀ r, g.entity? e = some r → ∃ r', g'.entity? e = some r' ∧ r.Stocks r') :
    g.Stocks g' where
  byGuid? := names
  entity? {e' r} found := by
    by_cases same : e' = e
    · subst same
      exact h r found
    · exact ⟨r, (others e' same).trans found, .refl r⟩

theorem stocks_modify {e : EntityId} {f : Entity → Entity}
    (h : ∀ r, g.entity? e = some r → r.Stocks (f r)) : g.Stocks (g.modify e f) := by
  refine stocks_of_others (g.byGuid?_modify e f) (fun _ => g.entity?_modify_of_ne f) ?_
  intro r found
  refine ⟨f r, ?_, h r found⟩
  rw [entity?_modify_self, found, Option.map_some]

theorem modify_stocks {e : EntityId} {f : Entity → Entity}
    (h : ∀ r, g.entity? e = some r → (f r).Stocks r) : (g.modify e f).Stocks g := by
  refine stocks_of_others (fun id => (g.byGuid?_modify e f id).symm)
    (fun _ other => (g.entity?_modify_of_ne f other).symm) ?_
  intro r' changed
  rw [entity?_modify_self] at changed
  obtain ⟨r, found, rfl⟩ := Option.map_eq_some_iff.mp changed
  exact ⟨r, found, h r found⟩

/-- The game with other contents of one inventory. -/
def rearrange (g : Game) (owner : EntityId) (label : InventoryLabel) (items : List EntityId) :
    Game :=
  g.modify owner fun r => { r with inventories := r.inventories.insert label items }

/-- Something that is put into an inventory of an owner. -/
structure Delivery where
  owner : EntityId
  label : InventoryLabel
  item : EntityId

/-- The game after deliveries were made one after another. -/
def supplied (g : Game) (ds : List Delivery) : Game :=
  ds.foldl (fun g d => g.addToInventory d.owner d.label d.item) g

end Game

theorem Entity.held_insert (r : Entity) (label label' : InventoryLabel) (items : List EntityId) :
    ({ r with inventories := r.inventories.insert label items } : Entity).held label' =
      if label' = label then items else r.held label' := by
  unfold held
  rw [Std.TreeMap.getElem?_insert, Registry.ite_compare]
  split
  · rfl
  · rfl

namespace Game

variable {g : Game}

/-- A new order of an inventory leaves all entities holding what they hold. -/
theorem stocks_rearrange {owner : EntityId} {label : InventoryLabel} {items : List EntityId}
    (perm : items.Perm (g.held owner label)) :
    g.Stocks (g.rearrange owner label items) ∧ (g.rearrange owner label items).Stocks g := by
  -- a permutation lists the same items
  have same : ∀ r, g.entity? owner = some r → ∀ item, item ∈ items ↔ item ∈ r.held label := by
    intro r found item
    rw [perm.mem_iff, mem_held_iff, found]
    simp
  constructor
  · refine stocks_modify fun r found => ⟨rfl, rfl, fun label' item mem => ?_⟩
    rw [r.held_insert]
    split
    next here => exact (same r found item).mpr (here ▸ mem)
    next => exact mem
  · refine modify_stocks fun r found => ⟨rfl, rfl, fun label' item mem => ?_⟩
    rw [r.held_insert] at mem
    split at mem
    next here => exact here ▸ (same r found item).mp mem
    next => exact mem

theorem stocks_addToInventory (g : Game) (owner : EntityId) (label : InventoryLabel)
    (item : EntityId) : g.Stocks (g.addToInventory owner label item) := by
  have put : g.Stocks (g.modify owner fun r =>
      { r with inventories := r.inventories.insert label (r.held label ++ [item]) }) := by
    refine stocks_modify fun r _ => ⟨rfl, rfl, fun label' => ?_⟩
    rw [r.held_insert]
    split
    next here => exact here ▸ List.subset_append_left _ _
    next => exact List.Subset.refl _
  -- that the item has a new owner is of no account to what anyone holds
  have owned (g : Game) : g.Stocks (g.modify item fun r => { r with owner := some owner }) :=
    stocks_modify fun r _ => ⟨rfl, rfl, fun _ => List.Subset.refl _⟩
  exact put.trans (owned _)

theorem stocks_supplied (g : Game) (ds : List Delivery) : g.Stocks (g.supplied ds) := by
  induction ds generalizing g with
  | nil => exact .refl g
  | cons d ds ih => exact (g.stocks_addToInventory d.owner d.label d.item).trans (ih _)

end Game

/-! ### The answer to the question -/

/-- The same environment with another game. -/
def Env.playing (env : Env) (g : Game) : Env := { env with game := some g }

theorem Value.entityIn?_congr {v : Value} {g g' : Game} (h : ∀ id, g'.byGuid? id = g.byGuid? id) :
    v.entityIn? g' = v.entityIn? g := by
  cases v with
  | guid id => exact h id
  | _ => rfl

/-- A context points at the same entity in a game with the same durable names. -/
theorem Env.contextEntity_congr {env : Env} {s : State} {c : Context} {g g' : Game}
    (h : ∀ id, g'.byGuid? id = g.byGuid? id) :
    (env.playing g').contextEntity s c g' = env.contextEntity s c g := by
  unfold contextEntity
  simp only [Value.entityIn?_congr h]
  rfl

section

variable {env : Env} {s : State} {c : Context} {filter : PrototypeId} {label : InventoryLabel}
  {g g' : Game} {owner : EntityId}

theorem exec_hasInInventory (n : Nat) (filter : PrototypeId) (bound : env.game = some g)
    (resolved : env.contextEntity s c g = .ok owner) (labelled : label.isSet = true) :
    ∃ b, exec (eval n env (.hasInInventory c filter label)) s = (.ok (.bool b), s) ∧
      (b = true ↔ g.Holds env.data.catalog owner label filter) := by
  obtain ⟨b, answer, holds⟩ := env.hasInInventory_eq_ok filter bound resolved labelled
  refine ⟨b, ?_, holds⟩
  have asked :=
    exec_predicate (.hasInInventory c filter label) (env.hasInInventory · c filter label) s
  rw [answer] at asked
  exact asked

/-- What the answer is in a game where the entity holds such an item as well. -/
theorem exec_hasInInventory_playing (n : Nat) (resolved : env.contextEntity s c g = .ok owner)
    (labelled : label.isSet = true) (names : ∀ id, g'.byGuid? id = g.byGuid? id) {b : Bool}
    (holds : b = true ↔ g'.Holds env.data.catalog owner label filter) :
    exec (eval n (env.playing g') (.hasInInventory c filter label)) s = (.ok (.bool b), s) := by
  have resolved' : (env.playing g').contextEntity s c g' = .ok owner :=
    (Env.contextEntity_congr names).trans resolved
  have bound' : (env.playing g').game = some g' := rfl
  obtain ⟨b', answer, holds'⟩ := exec_hasInInventory n filter bound' resolved' labelled
  -- both answers are decided by the one specification
  rw [answer, Bool.eq_iff_iff.mpr (holds'.trans holds.symm)]

end

/-- **What an entity holds.** For every catalog, game and filter, the question
whether the entity in a context holds what the filter asks for is answered, and
changes nothing. The answer is yes exactly if something in the inventory is an
avatar or another entity of the world and of a prototype that meets the filter. It
is the same whatever the order of the inventory, and stays yes whatever is put
into inventories. -/
theorem inventory_question_decided (n : Nat) (env : Env) (s : State) (c : Context) (g : Game)
    (owner : EntityId) (filter : PrototypeId) (label : InventoryLabel)
    (bound : env.game = some g) (resolved : env.contextEntity s c g = .ok owner)
    (labelled : label.isSet = true) :
    ∃ b, exec (eval n env (.hasInInventory c filter label)) s = (.ok (.bool b), s) ∧
      (b = true ↔ g.Holds env.data.catalog owner label filter) ∧
      (∀ items, items.Perm (g.held owner label) →
        exec (eval n (env.playing (g.rearrange owner label items))
          (.hasInInventory c filter label)) s = (.ok (.bool b), s)) ∧
      (∀ ds, b = true →
        exec (eval n (env.playing (g.supplied ds)) (.hasInInventory c filter label)) s =
          (.ok (.bool true), s)) := by
  obtain ⟨b, answer, holds⟩ := exec_hasInInventory n filter bound resolved labelled
  refine ⟨b, answer, holds, fun items perm => ?_, fun ds yes => ?_⟩
  · -- in another order there is as much on either side
    obtain ⟨more, fewer⟩ := Game.stocks_rearrange perm
    exact exec_hasInInventory_playing n resolved labelled more.byGuid?
      (holds.trans ⟨(·.mono more), (·.mono fewer)⟩)
  · have more := g.stocks_supplied ds
    exact exec_hasInInventory_playing n resolved labelled more.byGuid?
      (iff_of_true rfl ((holds.mp yes).mono more))

/-- A sword is found by the default prototype of the blueprint that
swords derive from. -/
theorem sword_found_in_inventory :
    let catalog := ({} : Catalog).after
      [.blueprint ⟨101⟩ [⟨101⟩, ⟨100⟩], .defaultPrototype ⟨100⟩ ⟨200⟩, .prototype ⟨201⟩ ⟨101⟩]
    let game := (({} : Game).spawn .player ⟨50⟩ ⟨0⟩).1.spawn .worldEntity ⟨201⟩ ⟨1⟩ |>.1
      |>.addToInventory ⟨1⟩ .general ⟨2⟩
    let env : Env := ⟨{ catalog }, some game, {}, fun _ => false⟩
    let s : State := ⟨⟨#[{}, {}]⟩, ({} : Activation).bind .entity ⟨.entity (some ⟨1⟩), false⟩⟩
    env.contextEntity s (.slot .entity) game = .ok ⟨1⟩ ∧
      exec (eval 0 env (.hasInInventory (.slot .entity) ⟨200⟩ .general)) s =
        (.ok (.bool true), s) := by
  intro catalog game env s
  have resolved : env.contextEntity s (.slot .entity) game = .ok ⟨1⟩ := rfl
  obtain ⟨b, answer, holds, -⟩ := inventory_question_decided 0 env s (.slot .entity) game ⟨1⟩
    ⟨200⟩ .general rfl resolved rfl
  have listed : (⟨2⟩ : EntityId) ∈ game.held ⟨1⟩ .general := by decide +kernel
  have link : (⟨100⟩ : BlueprintId) ∈ catalog.parentsOf ⟨101⟩ := by decide +kernel
  have found : game.Holds catalog ⟨1⟩ .general ⟨200⟩ :=
    ⟨⟨2⟩, listed, _, rfl, .inr rfl, .derived rfl rfl rfl (.inr (.single link))⟩
  rw [holds.mpr found] at answer
  exact ⟨resolved, answer⟩

end Rulebook
