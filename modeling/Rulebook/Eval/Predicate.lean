/-
Rulebook/Eval/Predicate.lean

What rules ask of the game: whether a place is of a certain difficulty,
whether a mission is active or complete, and whether an entity holds some
item.  A question changes nothing, so each is a function of the environment
and the state with an answer or a cause why there is none.
-/
import Rulebook.Eval.Run

namespace Rulebook.Env

/-- The game that is bound, which most questions need. -/
def boundGame (env : Env) : Except Cause Game :=
  match env.game with
  | some g => .ok g
  | none => .error .noGameBound

/-- The entity that a context points at. -/
def contextEntity (env : Env) (s : State) (c : Context) (g : Game) : Except Cause EntityId := do
  let v ← s.activation.resolve env.data.globals c .read
  match v.entityIn? g with
  | some e => .ok e
  | none =>
    .error (.invalidContextObject
      s!"{c.name} does not reference a live entity, got {v.kind.name}")

/-! ### Difficulty -/

/-- The difficulty tier of a context, null if it has none: for an entity that
of its region, for a collection what is recorded there. -/
def tierOf (env : Env) (s : State) (c : Context) : Except Cause PrototypeId := do
  let v ← s.activation.resolve env.data.globals c .read
  match v with
  | .entity _ | .guid _ =>
    let g ← env.boundGame
    -- a pointer is taken as it is, a durable name has to belong to an entity
    match v.entityIn? g with
    | some e => .ok (((g.region? e).map g.regionTier).getD .null)
    | none => .error (.invalidContextObject s!"{c.name} does not reference a live entity")
  | .collection (some h) =>
    .ok (s.store.getPrototype (env.live s) h (.ofProperty .difficultyTier))
  | v =>
    .error (.invalidContextObject
      s!"expected an entity or a property collection, got {v.kind.name}")

/-- Whether the difficulty tier of a context lies between two tiers; no tier
at all does. -/
def tierInRange (env : Env) (s : State) (c : Context) (min max : PrototypeId) :
    Except Cause Bool := do
  let tier ← env.tierOf s c
  .ok (!tier.isValid || env.data.catalog.tierInRange tier min max)

/-! ### Missions -/

/-- A mission of the catalog. -/
def mission (env : Env) (id : PrototypeId) : Except Cause Mission :=
  match env.data.catalog.mission? id with
  | some m => .ok m
  | none => .error (.unknownMission id)

/-- A player that was looked for. -/
def requirePlayer : Option EntityId → Except Cause EntityId
  | some e => .ok e
  | none => .error (.invalidContextObject "context is not a player")

/-- Whether a mission is active for the player, or the player of the avatar,
that a context points at. -/
def missionActive (env : Env) (s : State) (c : Context) (id : PrototypeId) :
    Except Cause Bool := do
  let g ← env.boundGame
  let e ← env.contextEntity s c g
  let player ← requirePlayer (g.playerOf? e)
  let m ← env.mission id
  .ok (m.isEnabled && g.missionState? player id == some .active)

/-- Whether the properties of an avatar record a mission as complete. -/
def avatarMissionComplete (env : Env) (s : State) (g : Game) (avatar : EntityId)
    (id : PrototypeId) : Bool :=
  let param := env.data.schemas.lookup .avatarMissionState >>= (·.paramOfPrototype 0 id)
  match g.properties? avatar, param with
  | some h, some p =>
    s.store.getInteger (env.live s) h (.ofParam .avatarMissionState p) ==
      MissionState.completed.toRaw
  | _, _ => false

/-- Whether a mission is complete for the player that a context belongs to. A
mission recorded per avatar is asked of an avatar: the one in play has its
progress with the player, any other in its own properties. -/
def missionComplete (env : Env) (s : State) (c : Context) (id : PrototypeId) :
    Except Cause Bool := do
  let g ← env.boundGame
  let e ← env.contextEntity s c g
  let player ← requirePlayer (g.owningPlayer? e)
  let m ← env.mission id
  if !m.isEnabled then
    .ok false
  else if m.perAvatar && g.kind? e != some .avatar then
    .error (.invalidContextObject "mission state is per-avatar but context is not an avatar")
  else if m.perAvatar && g.primaryAvatar? player != some e then
    .ok (env.avatarMissionComplete s g e id)
  else
    .ok (g.missionState? player id == some .completed)

/-! ### Inventories -/

/-- Whether an entity of prototype `p` is what a filter asks for: anything if
the filter is null, its own prototype, or, if it is the default prototype of
a blueprint, whatever is made from that blueprint. -/
def matchesFilter (env : Env) (filter p : PrototypeId) : Bool :=
  let catalog := env.data.catalog
  !filter.isValid || p == filter ||
    (catalog.isDefault filter && (catalog.blueprintOf? filter).any (catalog.isMadeFrom p))

/-- Whether the entity that a context points at holds, in one of its
inventories, an entity of the world that a filter asks for. -/
def hasInInventory (env : Env) (s : State) (c : Context) (filter : PrototypeId)
    (label : InventoryLabel) : Except Cause Bool := do
  let g ← env.boundGame
  let owner ← env.contextEntity s c g
  if !label.isSet then
    .error (.missingField "Inventory")
  else
    let items := (g.inventory? owner label).getD []
    .ok (items.any fun item =>
      (g.entity? item).any fun r => r.kind.isInWorld && env.matchesFilter filter r.prototype)

end Rulebook.Env
