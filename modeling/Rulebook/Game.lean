/-
Rulebook/Game.lean

The game: its entities, what they own, where they are, and how far the
players are with their missions.  Entities are numbered from one in the
order of their creation and are never removed.  The properties of an entity
are a collection of a `Store`, which the game refers to by handle.

The second half of the module is what a rule asks of a game: the entity
behind a value, the collection behind a value, and the player that an entity
belongs to.  Owners may run in a circle, so the search for a player gives up
after eight entities.
-/
import Rulebook.Catalog
import Rulebook.InventoryLabel
import Rulebook.Value

namespace Rulebook

/-! ### Entities -/

/-- Broad class of an entity. -/
inductive EntityKind where
  | player
  | avatar
  /-- An entity placed in the world, such as an item or an agent. -/
  | worldEntity
  /-- An entity with no place in the world. -/
  | entity
deriving DecidableEq

namespace EntityKind

/-- Name of a class of entities. -/
def name : EntityKind → String
  | .player => "Player"
  | .avatar => "Avatar"
  | .worldEntity => "WorldEntity"
  | .entity => "Entity"

/-- Whether entities of a class stand in the world, as avatars do. -/
def isInWorld : EntityKind → Bool
  | .avatar | .worldEntity => true
  | _ => false

end EntityKind

/-- An entity. -/
structure Entity where
  kind : EntityKind
  /-- The prototype that it was made from. -/
  prototype : PrototypeId
  properties : Handle
  owner : Option EntityId := none
  region : Option RegionId := none
  /-- The avatar that a player has in play. -/
  primaryAvatar : Option EntityId := none
  inventories : Std.TreeMap InventoryLabel (List EntityId) := ∅

/-- A game. -/
structure Game where
  entities : Std.TreeMap EntityId Entity := ∅
  guids : Std.TreeMap DbGuid EntityId := ∅
  /-- The difficulty tier of each region. -/
  regions : Std.TreeMap RegionId PrototypeId := ∅
  /-- The state of the missions of each player. -/
  missions : Std.TreeMap EntityId (Std.TreeMap PrototypeId MissionState) := ∅
  /-- The number of the next entity. -/
  next : UInt64 := 1

namespace Game

/-- Change an entity; there may be none with this number. -/
def modify (g : Game) (e : EntityId) (f : Entity → Entity) : Game :=
  { g with entities := g.entities.modify e f }

/-- Create an entity whose properties are the collection `h`. -/
def spawn (g : Game) (kind : EntityKind) (prototype : PrototypeId) (h : Handle) :
    Game × EntityId :=
  let id : EntityId := ⟨g.next⟩
  ({ g with
      entities := g.entities.insert id { kind, prototype, properties := h }
      next := g.next + 1 }, id)

/-- Create an avatar of a player. The first avatar of a player is the one in
play. -/
def spawnAvatar (g : Game) (player : EntityId) (prototype : PrototypeId) (h : Handle) :
    Game × EntityId :=
  let (g, avatar) := g.spawn .avatar prototype h
  let g := g.modify avatar fun r => { r with owner := some player }
  (g.modify player fun r => { r with primaryAvatar := r.primaryAvatar <|> some avatar }, avatar)

/-- Choose the avatar that a player has in play. -/
def setPrimaryAvatar (g : Game) (player avatar : EntityId) : Game :=
  g.modify player fun r => { r with primaryAvatar := some avatar }

/-- Enter a region with its difficulty tier. -/
def addRegion (g : Game) (region : RegionId) (tier : PrototypeId) : Game :=
  { g with regions := g.regions.insert region tier }

/-- Move an entity into a region. -/
def enterRegion (g : Game) (e : EntityId) (region : RegionId) : Game :=
  g.modify e fun r => { r with region := some region }

/-- Put an item into an inventory of `owner`, which becomes its owner. -/
def addToInventory (g : Game) (owner : EntityId) (label : InventoryLabel) (item : EntityId) :
    Game :=
  let g := g.modify owner fun r =>
    { r with inventories := r.inventories.insert label ((r.inventories[label]?).getD [] ++ [item]) }
  -- an inventory that lists the item already goes on listing it
  g.modify item fun r => { r with owner := some owner }

/-- Give an entity a durable name. -/
def setGuid (g : Game) (e : EntityId) (guid : DbGuid) : Game :=
  { g with guids := g.guids.insert guid e }

/-- Record the state of a mission of a player. -/
def setMissionState (g : Game) (player : EntityId) (mission : PrototypeId) (s : MissionState) :
    Game :=
  { g with missions := g.missions.insert player (((g.missions[player]?).getD ∅).insert mission s) }

/-! ### Looking things up -/

/-- The entity with a number. -/
def entity? (g : Game) (e : EntityId) : Option Entity := g.entities[e]?

/-- The class of an entity. -/
def kind? (g : Game) (e : EntityId) : Option EntityKind := (g.entity? e).map (·.kind)

/-- The owner of an entity. -/
def owner? (g : Game) (e : EntityId) : Option EntityId := g.entity? e >>= (·.owner)

/-- The avatar that a player has in play. -/
def primaryAvatar? (g : Game) (e : EntityId) : Option EntityId := g.entity? e >>= (·.primaryAvatar)

/-- The region that an entity is in. -/
def region? (g : Game) (e : EntityId) : Option RegionId := g.entity? e >>= (·.region)

/-- The collection of an entity's properties. -/
def properties? (g : Game) (e : EntityId) : Option Handle := (g.entity? e).map (·.properties)

/-- The entity with a durable name, as long as it exists. -/
def byGuid? (g : Game) (guid : DbGuid) : Option EntityId :=
  (g.guids[guid]?).filter g.entities.contains

/-- The difficulty tier of a region, null if it has none. -/
def regionTier (g : Game) (region : RegionId) : PrototypeId := (g.regions[region]?).getD .null

/-- The state of a mission of a player, if the player has met it. -/
def missionState? (g : Game) (player : EntityId) (mission : PrototypeId) : Option MissionState :=
  g.missions[player]? >>= (·[mission]?)

/-- What an entity holds in one of its inventories. -/
def inventory? (g : Game) (e : EntityId) (label : InventoryLabel) : Option (List EntityId) :=
  g.entity? e >>= (·.inventories[label]?)

/-- Whether the properties of some entity are the collection `h`. -/
def refersTo (g : Game) (h : Handle) : Bool := g.entities.any fun _ r => r.properties == h

/-! ### Players -/

/-- The first player among an entity, its owner, the owner's owner and so on,
looking at `n` of them. -/
def playerAbove? (g : Game) : Nat → EntityId → Option EntityId
  | 0, _ => none
  | n + 1, e =>
    match g.kind? e with
    | none => none
    | some .player => some e
    | some _ => g.owner? e >>= g.playerAbove? n

/-- The player that an entity belongs to: the entity itself, or the nearest
player among its owners. -/
def owningPlayer? (g : Game) (e : EntityId) : Option EntityId := g.playerAbove? 8 e

/-- The player that an entity plays for: a player for itself, an avatar for
its owner. Nothing else plays. -/
def playerOf? (g : Game) (e : EntityId) : Option EntityId :=
  match g.kind? e with
  | some .player => some e
  | some .avatar => (g.owner? e).filter fun owner => g.kind? owner = some .player
  | _ => none

end Game

/-! ### What a value stands for in a game -/

/-- The entity that a value points at or has the durable name of. -/
def Value.entityIn? (v : Value) (g : Game) : Option EntityId :=
  match v with
  | .entity e => e
  | .guid id => g.byGuid? id
  | _ => none

/-- The collection that a value points at, or the properties of the entity
that it points at. -/
def Value.collectionIn? (v : Value) (g : Option Game) : Option Handle :=
  match v with
  | .collection h => h
  | .entity (some e) => g >>= (·.properties? e)
  | .guid id => g >>= fun g => g.byGuid? id >>= g.properties?
  | _ => none

end Rulebook
