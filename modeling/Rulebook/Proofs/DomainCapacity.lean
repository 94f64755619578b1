/-
Rulebook/Proofs/DomainCapacity.lean

How much of a domain can be used.  A domain may enumerate any number of
references, and an extension is never refused for want of room, but a
parameter has 4095 values other than zero.  So a reference is encoded exactly
if it is null or among the first `ParamSchema.places` of its domain
(`Schema.isSome_paramOfPrototype_iff`), and since no two references share a
parameter, more references than that are never all encoded
(`Schema.exists_unencoded`).

What follows for missions: a mission that is recorded per avatar is found complete
once this is recorded under its parameter, and never if it has none
(`Env.AsksAvatar.missionComplete_eq_true`,
`Env.AsksAvatar.missionComplete_eq_false`).
-/
import Mathlib.Data.Fintype.Card
import Rulebook.Eval.Predicate
import Rulebook.Proofs.Chain
import Rulebook.Proofs.ReferenceParams

namespace Rulebook

/-! ### Places with a parameter -/

namespace ParamSchema

variable {s : ParamSchema} {raw : UInt64}

/-- The number of places that have a parameter; zero stands for no place. -/
def places : Nat := 4095

/-- A reference is encoded exactly if it is null or has a place with a parameter. -/
theorem isSome_encode_iff :
    (s.encode raw).isSome ↔ raw = 0 ∨ raw ∈ s.domain.toList.take places := by
  rw [Option.isSome_iff_exists, List.mem_take_iff_getElem]
  constructor
  · rintro ⟨p, h⟩
    rcases encode_eq_some_iff.mp h with ⟨null, -⟩ | ⟨-, n, place, first⟩
    · exact .inl null
    · obtain ⟨inside, here⟩ := Array.getElem?_eq_some_iff.mp (idxOf?_eq_some_iff.mp first).1
      have room : n < min places s.domain.toList.length := by
        have := p.isLt
        rw [Array.length_toList, places]
        omega
      exact .inr ⟨n, room, here⟩
  · rintro (null | ⟨m, hm, here⟩)
    · exact ⟨.zero, encode_eq_some_iff.mpr (.inl ⟨null, rfl⟩)⟩
    · by_cases null : raw = 0
      · exact ⟨.zero, encode_eq_some_iff.mpr (.inl ⟨null, rfl⟩)⟩
      · rw [Array.length_toList, places] at hm
        have held : s.domain[m]? = some raw := Array.getElem?_eq_some_iff.mpr ⟨by omega, here⟩
        have known : (s.domain.idxOf? raw).isSome :=
          Array.isSome_idxOf?.mpr (Array.mem_iff_getElem?.mpr ⟨m, held⟩)
        obtain ⟨n, first⟩ := Option.isSome_iff_exists.mp known
        -- its first place is no later than the place it has among the first ones
        have early : n ≤ m := by
          refine Nat.le_of_not_lt fun later => ?_
          exact (idxOf?_eq_some_iff.mp first).2 m later held
        have room : n + 1 < 4096 := by omega
        exact ⟨⟨n + 1, room⟩, encode_eq_some_iff.mpr (.inr ⟨null, n, rfl, first⟩)⟩

theorem mem_domain_extend (s : ParamSchema) (raws : List UInt64) :
    raw ∈ (s.extend raws).domain ↔ raw ∈ s.domain ∨ raw ∈ raws := by
  show raw ∈ raws.foldl (fun d raw => if d.contains raw then d else d.push raw) s.domain ↔ _
  generalize s.domain = d
  induction raws generalizing d with
  | nil => simp
  | cons x raws ih =>
    -- an element that is there already is not added again
    have added : raw ∈ (if d.contains x then d else d.push x) ↔ raw ∈ d ∨ raw = x := by
      split
      next known =>
        have known := Array.contains_iff_mem.mp known
        exact ⟨.inl, fun h => h.elim id fun e => e ▸ known⟩
      next => exact Array.mem_push
    rw [List.foldl_cons, ih, added, List.mem_cons, or_assoc]

end ParamSchema

namespace Schema

variable {s : Schema} {i : Nat} {param : ParamSchema}

theorem paramOfPrototype_eq (found : s.paramOf? .prototype i = some param) (id : PrototypeId) :
    s.paramOfPrototype i id = param.encode id.raw := by
  rw [paramOfPrototype, found]
  rfl

/-- Of a parameter that refers to prototypes, the values stand for null and for
the first prototypes of its domain. -/
theorem isSome_paramOfPrototype_iff (found : s.paramOf? .prototype i = some param)
    (id : PrototypeId) :
    (s.paramOfPrototype i id).isSome ↔
      id = .null ∨ id.raw ∈ param.domain.toList.take ParamSchema.places := by
  have null : id = .null ↔ id.raw = 0 := ⟨fun e => e ▸ rfl, fun e => congrArg Ref.mk e⟩
  rw [paramOfPrototype_eq found, ParamSchema.isSome_encode_iff, null]

/-- Zero stands for null alone. -/
theorem eq_null_of_paramOfPrototype {id : PrototypeId} (h : s.paramOfPrototype i id = some .zero) :
    id = .null := by
  have faithful := Codec.faithful_ofParam (k := .prototype) (s.paramOf? .prototype i)
  obtain ⟨param, -, zero⟩ :=
    Codec.decode_ofParam_eq_some_iff.mp (faithful.decode_encode id .zero h)
  -- zero stands for null, and for no place of the domain
  rcases ParamSchema.decode_eq_some_iff.mp zero with ⟨null, -⟩ | ⟨n, place, -⟩
  · exact congrArg Ref.mk null
  · cases place

/-- Of more prototypes than there are places with a parameter, one has none. -/
theorem exists_unencoded (s : Schema) (i : Nat) {ids : List PrototypeId} (distinct : ids.Nodup)
    (nonnull : .null ∉ ids) (many : ParamSchema.places < ids.length) :
    ∃ id ∈ ids, s.paramOfPrototype i id = none := by
  by_contra all
  have encoded (id : PrototypeId) (hid : id ∈ ids) :
      s.paramOfPrototype i id = some ((s.paramOfPrototype i id).getD .zero) := by
    rcases e : s.paramOfPrototype i id with - | p
    · exact absurd ⟨id, hid, e⟩ all
    · rfl
  have faithful := Codec.faithful_ofParam (k := .prototype) (s.paramOf? .prototype i)
  -- zero and the parameters of all the prototypes are too many different parameters
  have params : ((.zero : Param) :: ids.map fun id =>
      (s.paramOfPrototype i id).getD .zero).Nodup := by
    refine List.nodup_cons.mpr ⟨fun zero => ?_, distinct.map_on fun id hid id' hid' same => ?_⟩
    · obtain ⟨id, hid, e⟩ := List.mem_map.mp zero
      have null : id = .null := eq_null_of_paramOfPrototype (e ▸ encoded id hid)
      exact nonnull (null ▸ hid)
    · exact faithful.injective id id' _ (encoded id hid) (same ▸ encoded id' hid')
  have few := params.length_le_card
  rw [List.length_cons, List.length_map, Fintype.card_fin] at few
  unfold ParamSchema.places at many
  omega

end Schema

namespace Registry

/-- The domain of a parameter that refers to prototypes can always be extended,
and then enumerates what was added. -/
theorem exists_extendDomain {r : Registry} {p : Property} {s : Schema} {i : Nat}
    {param : ParamSchema} (registered : r.lookup p = some s)
    (declared : s.paramOf? .prototype i = some param) (ids : List PrototypeId) :
    ∃ r' t param', r.extendDomain p i ids = .ok r' ∧ r'.lookup p = some t ∧
      t.paramOf? .prototype i = some param' ∧ ∀ id ∈ ids, id.raw ∈ param'.domain := by
  have extended : r.extendDomain p i ids =
      .ok { r with schemas := r.schemas.insert p (s.extendParam i ids) } := by
    simp only [extendDomain, registered, declared]
  refine ⟨_, s.extendParam i ids, param.extend (ids.map (·.raw)), extended, ?_, ?_,
    fun id hid => ?_⟩
  · rw [lookup_insert, if_pos rfl]
  · obtain ⟨found, type⟩ := Schema.paramOf?_eq_some_iff.mp declared
    rw [Schema.paramOf?_eq_some_iff, Schema.getElem?_extendParam, found]
    exact ⟨by rw [Option.map_some, if_pos rfl], type⟩
  · rw [ParamSchema.mem_domain_extend]
    exact .inr (List.mem_map_of_mem hid)

end Registry

/-! ### Missions recorded per avatar -/

namespace Env

variable {env : Env} {s : State} {c : Context} {id : PrototypeId} {g : Game} {avatar : EntityId}
  {h : Handle}

/-- Whether the question if a mission is complete is one about the properties of
an avatar: the mission is recorded per avatar, and the avatar is not in play. -/
structure AsksAvatar (env : Env) (s : State) (c : Context) (id : PrototypeId) (g : Game)
    (avatar : EntityId) (h : Handle) : Prop where
  bound : env.game = some g
  entity : env.contextEntity s c g = .ok avatar
  kind : g.kind? avatar = some .avatar
  offDuty : ∃ player, g.owningPlayer? avatar = some player ∧ g.primaryAvatar? player ≠ some avatar
  mission : ∃ m, env.data.catalog.mission? id = some m ∧ m.isEnabled = true ∧ m.perAvatar = true
  properties : g.properties? avatar = some h

/-- Changes of the store do not change who is asked. -/
theorem AsksAvatar.record (asks : env.AsksAvatar s c id g avatar h) (store : Store) :
    env.AsksAvatar { s with store } c id g avatar h :=
  ⟨asks.bound, asks.entity, asks.kind, asks.offDuty, asks.mission, asks.properties⟩

variable {schema : Schema}

/-- An avatar that is asked has completed a mission if the mission has a parameter
and the properties of the avatar say so under it. -/
theorem AsksAvatar.missionComplete_eq (asks : env.AsksAvatar s c id g avatar h)
    (declared : env.data.schemas.lookup .avatarMissionState = some schema) :
    env.missionComplete s c id =
      .ok ((schema.paramOfPrototype 0 id).any fun p =>
        s.store.getInteger (env.live s) h (.ofParam .avatarMissionState p) ==
          MissionState.completed.toRaw) := by
  obtain ⟨player, owned, offDuty⟩ := asks.offDuty
  obtain ⟨m, known, enabled, perAvatar⟩ := asks.mission
  have bound : env.boundGame = .ok g := by rw [boundGame, asks.bound]
  have mission : env.mission id = .ok m := by rw [Env.mission, known]
  -- an avatar that is not in play is asked about its own record
  have asked : env.missionComplete s c id = .ok (env.avatarMissionComplete s g avatar id) := by
    simp only [missionComplete, bound, asks.entity, owned, requirePlayer, mission, Bind.bind,
      Except.bind, enabled, Bool.not_true, Bool.false_eq_true, if_false, perAvatar, asks.kind,
      bne_self_eq_false, Bool.and_false, Bool.true_and, bne_iff_ne, ne_eq, offDuty,
      not_false_eq_true, if_true]
  have param : (some schema >>= (·.paramOfPrototype 0 id)) = schema.paramOfPrototype 0 id := rfl
  rw [asked, avatarMissionComplete, declared, asks.properties, param]
  rcases schema.paramOfPrototype 0 id with - | p <;> rfl

/-- A mission without a parameter is not complete, whatever is recorded. -/
theorem AsksAvatar.missionComplete_eq_false (asks : env.AsksAvatar s c id g avatar h)
    (declared : env.data.schemas.lookup .avatarMissionState = some schema)
    (unencoded : schema.paramOfPrototype 0 id = none) :
    env.missionComplete s c id = .ok false := by
  rw [asks.missionComplete_eq declared, unencoded, Option.any_none]

/-- A mission is complete once this is recorded under its parameter. -/
theorem AsksAvatar.missionComplete_eq_true (asks : env.AsksAvatar s c id g avatar h)
    (declared : env.data.schemas.lookup .avatarMissionState = some schema) {p : Param}
    (encoded : schema.paramOfPrototype 0 id = some p)
    (recorded : s.store.getLocal? h (.ofParam .avatarMissionState p) =
      some (.integer MissionState.completed.toRaw)) :
    env.missionComplete s c id = .ok true := by
  have found := Store.get?_of_getLocal? (env.live s) recorded
  have integer : s.store.getInteger (env.live s) h (.ofParam .avatarMissionState p) =
      MissionState.completed.toRaw := by
    rw [Store.getInteger, found]
    rfl
  rw [asks.missionComplete_eq declared, encoded, Option.any_some, integer, beq_self_eq_true]

end Env

namespace Registry

/-- **The first prototypes of a domain can be used.** Of a parameter that refers
to prototypes, whatever updates its registry has seen, null and the first 4095
prototypes of the domain are encoded, and no others. An extension is accepted,
and what it adds is in the domain; it is encoded as long as the domain is no
larger than that, and never all of it if it is more. A mission recorded per
avatar that is encoded is found complete once the properties of the avatar say
so, and one that is not encoded is never found complete. -/
theorem domain_encoded_to_capacity (r : Registry) :
    (∀ p s i param, r.lookup p = some s → s.paramOf? .prototype i = some param →
      (∀ id, (s.paramOfPrototype i id).isSome ↔
        id = .null ∨ id.raw ∈ param.domain.toList.take 4095) ∧
      ∀ ids, ∃ r' t param', r.extendDomain p i ids = .ok r' ∧ r'.lookup p = some t ∧
        t.paramOf? .prototype i = some param' ∧ (∀ id ∈ ids, id.raw ∈ param'.domain) ∧
        (param'.domain.size ≤ 4095 → ∀ id ∈ ids, (t.paramOfPrototype i id).isSome) ∧
        (ids.Nodup → .null ∉ ids → 4095 < ids.length →
          ∃ id ∈ ids, t.paramOfPrototype i id = none)) ∧
    ∀ (env : Env) (s : State) c id g avatar h schema, env.data.schemas = r →
      r.lookup .avatarMissionState = some schema → env.AsksAvatar s c id g avatar h →
      (schema.paramOfPrototype 0 id = none → env.missionComplete s c id = .ok false) ∧
      ∀ p, schema.paramOfPrototype 0 id = some p → h.index < s.store.cells.size →
        env.missionComplete
          ⟨s.store.set h (.ofParam .avatarMissionState p) (.integer MissionState.completed.toRaw),
            s.activation⟩ c id = .ok true := by
  refine ⟨fun p s i param registered declared => ?_, ?_⟩
  · refine ⟨Schema.isSome_paramOfPrototype_iff declared, fun ids => ?_⟩
    obtain ⟨r', t, param', extended, lookup, found, added⟩ :=
      exists_extendDomain registered declared ids
    refine ⟨r', t, param', extended, lookup, found, added, fun small id hid => ?_,
      t.exists_unencoded i⟩
    -- a domain that fits is encoded as a whole
    have whole : param'.domain.toList.take ParamSchema.places = param'.domain.toList :=
      List.take_of_length_le small
    rw [Schema.isSome_paramOfPrototype_iff found, whole]
    exact .inr (Array.mem_toList_iff.mpr (added id hid))
  · rintro env s c id g avatar h schema rfl declared asks
    refine ⟨asks.missionComplete_eq_false declared, fun p encoded inside => ?_⟩
    exact (asks.record _).missionComplete_eq_true declared encoded
      (Store.getLocal?_set_self s.store _ _ inside)

/-- A player with two avatars, of which the second is not in play. -/
def twoAvatars : Game :=
  ((({} : Game).spawn .player ⟨50⟩ ⟨0⟩).1.spawnAvatar ⟨1⟩ ⟨51⟩ ⟨1⟩).1.spawnAvatar ⟨1⟩ ⟨52⟩ ⟨2⟩ |>.1

/-- The first mission of a domain, recorded per avatar, can be found complete for
an avatar that is not in play. -/
theorem firstMission_found_complete :
    let r := ({} : Registry).after [.register twoMissions]
    let catalog := ({} : Catalog).addMission { id := ⟨70⟩, perAvatar := true }
    let env : Env := ⟨{ schemas := r, catalog }, some twoAvatars, {}, fun _ => false⟩
    let activation := ({} : Activation).bind .entity ⟨.entity (some ⟨3⟩), false⟩
    (twoMissions.paramOfPrototype 0 ⟨70⟩).isSome ∧
      ∃ p, twoMissions.paramOfPrototype 0 ⟨70⟩ = some p ∧
        env.missionComplete ⟨Store.set ⟨#[{}, {}, {}]⟩ ⟨2⟩ (.ofParam .avatarMissionState p)
          (.integer 4), activation⟩ (.slot .entity) ⟨70⟩ = .ok true := by
  intro r catalog env activation
  have registered : r.lookup .avatarMissionState = some twoMissions := rfl
  obtain ⟨used, complete⟩ := domain_encoded_to_capacity r
  have first := ((used .avatarMissionState twoMissions 0 _ registered rfl).1 ⟨70⟩).mpr
    (.inr (by decide))
  obtain ⟨p, encoded⟩ := Option.isSome_iff_exists.mp first
  have inPlay : twoAvatars.primaryAvatar? ⟨1⟩ = some ⟨2⟩ := rfl
  have asks : env.AsksAvatar ⟨⟨#[{}, {}, {}]⟩, activation⟩ (.slot .entity) ⟨70⟩ twoAvatars
      ⟨3⟩ ⟨2⟩ :=
    { bound := rfl
      entity := rfl
      kind := rfl
      offDuty := ⟨⟨1⟩, rfl, by rw [inPlay]; decide⟩
      mission := ⟨{ id := ⟨70⟩, perAvatar := true }, rfl, rfl, rfl⟩
      properties := rfl }
  obtain ⟨-, found⟩ := complete env _ _ _ _ _ _ _ rfl registered asks
  exact ⟨first, p, encoded, found p encoded (by decide)⟩

end Registry

end Rulebook
