/-
Rulebook/Proofs/MissionStages.lean

The stages of missions, as the two questions about missions see them.  One
asks whether a mission is active, the other whether it is complete, and they
do not look in the same place:

* the player asked is for the first the entity itself or its owner, for the
  second the nearest player above it.  Where the first finds a player the
  second finds the same (`Game.owningPlayer?_of_playerOf?`);
* for the second, the stage of a mission recorded per avatar is in the
  properties of the avatar, unless the avatar is in play
  (`Mission.StagedBy`).  The first asks the player whatever is recorded there.

So for an avatar that is not in play a mission has two stages, and may be
active and complete at once.  There is no other way to this
(`active_and_complete_iff`).
-/
import Rulebook.Proofs.DomainCapacity
import Rulebook.Proofs.Query

namespace Rulebook

open Eval

/-! ### The player that is asked -/

namespace Game

variable {g : Game} {e player : EntityId}

/-- A player plays for itself, and an avatar for the player that owns it. -/
theorem playerOf?_eq_some_iff :
    g.playerOf? e = some player ↔
      g.kind? e = some .player ∧ e = player ∨
      g.kind? e = some .avatar ∧ g.owner? e = some player ∧ g.kind? player = some .player := by
  unfold playerOf?
  -- a player, an avatar, and all other kinds
  split
  next itself => simp [itself]
  next avatar => simp [avatar, Option.filter_eq_some_iff]
  next noPlayer noAvatar =>
    refine ⟨nofun, ?_⟩
    rintro (⟨itself, -⟩ | ⟨avatar, -⟩)
    · exact absurd itself noPlayer
    · exact absurd avatar noAvatar

/-- The search among the owners ends at the player that an entity plays for. -/
theorem owningPlayer?_of_playerOf? (plays : g.playerOf? e = some player) :
    g.owningPlayer? e = some player := by
  rcases playerOf?_eq_some_iff.mp plays with ⟨itself, rfl⟩ | ⟨avatar, owned, above⟩
  · show g.playerAbove? 8 e = some e
    rw [playerAbove?, itself]
  · show g.playerAbove? 8 e = some player
    rw [playerAbove?, avatar]
    show (g.owner? e).bind (g.playerAbove? 7) = some player
    rw [owned, Option.bind_some, playerAbove?, above]

end Game

/-! ### The stage that is looked at -/

/-- Whether the stage of a mission is to be found in the properties of an
entity of a player: the mission is recorded per avatar, and the entity is not
the avatar in play. -/
structure Mission.StagedBy (m : Mission) (g : Game) (player e : EntityId) : Prop where
  perAvatar : m.perAvatar = true
  offDuty : g.primaryAvatar? player ≠ some e

theorem Mission.stagedBy_iff {m : Mission} {g : Game} {player e : EntityId} :
    (m.perAvatar && g.primaryAvatar? player != some e) = true ↔ m.StagedBy g player e := by
  rw [Bool.and_eq_true, bne_iff_ne]
  exact ⟨fun h => ⟨h.1, h.2⟩, fun h => ⟨h.perAvatar, h.offDuty⟩⟩

namespace Env

variable {env : Env} {s : State} {c : Context} {id : PrototypeId} {g : Game}
  {e player : EntityId} {m : Mission}

/-- A context points at an entity of the game that is bound, and the mission
asked about is on offer. -/
structure AsksMission (env : Env) (s : State) (c : Context) (id : PrototypeId) (g : Game)
    (e : EntityId) (m : Mission) : Prop where
  bound : env.game = some g
  entity : env.contextEntity s c g = .ok e
  known : env.data.catalog.mission? id = some m
  enabled : m.isEnabled = true

theorem mission_eq_ok_iff : env.mission id = .ok m ↔ env.data.catalog.mission? id = some m := by
  unfold mission
  split
  next m' known => simp [known]
  next unknown => simp [unknown]

theorem requirePlayer_eq_ok_iff {found : Option EntityId} :
    requirePlayer found = .ok player ↔ found = some player := by
  cases found <;> simp [requirePlayer]

/-- A mission is active if the player has it among the active ones. -/
theorem missionActive_eq_true_iff :
    env.missionActive s c id = .ok true ↔
      ∃ g e m player, env.AsksMission s c id g e m ∧ g.playerOf? e = some player ∧
        g.missionState? player id = some .active := by
  simp only [missionActive, bind_eq_ok_iff, boundGame_eq_ok_iff, requirePlayer_eq_ok_iff,
    mission_eq_ok_iff, Except.ok.injEq, Bool.and_eq_true, beq_iff_eq]
  constructor
  · rintro ⟨g, bound, e, entity, player, plays, m, known, enabled, active⟩
    exact ⟨g, e, m, player, ⟨bound, entity, known, enabled⟩, plays, active⟩
  · rintro ⟨g, e, m, player, asks, plays, active⟩
    exact ⟨g, asks.bound, e, asks.entity, player, plays, m, asks.known, asks.enabled, active⟩

/-- A mission is complete if the player has it among the complete ones, or, where
its stage is in the properties of an avatar, if these say so. -/
theorem missionComplete_eq_true_iff :
    env.missionComplete s c id = .ok true ↔
      ∃ g e m player, env.AsksMission s c id g e m ∧ g.owningPlayer? e = some player ∧
        (m.perAvatar = true → g.kind? e = some .avatar) ∧
        (m.StagedBy g player e ∧ env.avatarMissionComplete s g e id = true ∨
          ¬ m.StagedBy g player e ∧ g.missionState? player id = some .completed) := by
  simp only [missionComplete, bind_eq_ok_iff, boundGame_eq_ok_iff, requirePlayer_eq_ok_iff,
    mission_eq_ok_iff]
  constructor
  · rintro ⟨g, bound, e, entity, player, owned, m, known, answer⟩
    -- a mission has to be enabled, to fit the entity, and to be staged or not
    split at answer
    next => cases answer
    next disabled =>
      have asks : env.AsksMission s c id g e m := ⟨bound, entity, known, by simpa using disabled⟩
      split at answer
      next => cases answer
      next fits =>
        have fits : m.perAvatar = true → g.kind? e = some .avatar := by simpa using fits
        refine ⟨g, e, m, player, asks, owned, fits, ?_⟩
        split at answer
        next staged => exact .inl ⟨Mission.stagedBy_iff.mp staged, Except.ok.inj answer⟩
        next unstaged =>
          have unstaged : ¬ m.StagedBy g player e := fun h => unstaged (Mission.stagedBy_iff.mpr h)
          exact .inr ⟨unstaged, beq_iff_eq.mp (Except.ok.inj answer)⟩
  · rintro ⟨g, e, m, player, asks, owned, fits, answer⟩
    refine ⟨g, asks.bound, e, asks.entity, player, owned, m, asks.known, ?_⟩
    have fits : ¬ (m.perAvatar && g.kind? e != some .avatar) = true := by simpa using fits
    rw [asks.enabled, Bool.not_true, if_neg Bool.false_ne_true, if_neg fits]
    rcases answer with ⟨staged, complete⟩ | ⟨unstaged, complete⟩
    · rw [if_pos (Mission.stagedBy_iff.mpr staged), complete]
    · rw [if_neg fun h => unstaged (Mission.stagedBy_iff.mp h), complete, beq_self_eq_true]

/-- The entity and the mission asked about are determined by the question. -/
theorem AsksMission.unique {g' : Game} {e' : EntityId} {m' : Mission}
    (asks : env.AsksMission s c id g e m) (asks' : env.AsksMission s c id g' e' m') :
    g' = g ∧ e' = e ∧ m' = m := by
  obtain rfl : g' = g := Option.some.inj (asks'.bound.symm.trans asks.bound)
  obtain rfl : e' = e := Except.ok.inj (asks'.entity.symm.trans asks.entity)
  exact ⟨rfl, rfl, Option.some.inj (asks'.known.symm.trans asks.known)⟩

end Env

/-! ### Active and complete -/

/-- A predicate of the game holds if the question it asks has that answer. -/
theorem exec_predicate_iff (e : Expr) (ask : State → Except Cause Bool) (s : State) :
    (exec (locating e do return Value.bool (← ofExcept (ask (← MonadState.get)))) s).1 =
      .ok (.bool true) ↔ ask s = .ok true := by
  rw [exec_predicate]
  rcases ask s with c | b
  · simp [Except.map, Expr.ending, Except.mapError]
  · simp [Except.map, Expr.ending, Except.mapError]

/-- **Active and complete at once.** Both questions about a mission are answered
with yes in one state exactly for an avatar that is not the one in play of the
player that owns it, of a mission that is recorded per avatar, is active for the
player, and is complete by the properties of the avatar. In particular a mission
that is recorded per player is never both, and no mission is for a player or for
an avatar in play. -/
theorem active_and_complete_iff (n : Nat) (env : Env) (s : State) (c : Context)
    (id : PrototypeId) :
    (exec (eval n env (.missionActive c id)) s).1 = .ok (.bool true) ∧
      (exec (eval n env (.missionComplete c id)) s).1 = .ok (.bool true) ↔
    ∃ g avatar m player, env.AsksMission s c id g avatar m ∧ g.kind? avatar = some .avatar ∧
      g.owner? avatar = some player ∧ g.kind? player = some .player ∧
      m.StagedBy g player avatar ∧ g.missionState? player id = some .active ∧
      env.avatarMissionComplete s g avatar id = true := by
  have active : (exec (eval n env (.missionActive c id)) s).1 = .ok (.bool true) ↔
      env.missionActive s c id = .ok true := exec_predicate_iff _ (env.missionActive · c id) s
  have complete : (exec (eval n env (.missionComplete c id)) s).1 = .ok (.bool true) ↔
      env.missionComplete s c id = .ok true := exec_predicate_iff _ (env.missionComplete · c id) s
  rw [active, complete, Env.missionActive_eq_true_iff, Env.missionComplete_eq_true_iff]
  constructor
  · -- both questions are about the same mission, and end up at the same player
    rintro ⟨⟨g, e, m, player, asks, plays, active⟩, g', e', m', player', asks', owned, fits, answer⟩
    obtain ⟨rfl, rfl, rfl⟩ := asks.unique asks'
    obtain rfl : player' = player :=
      Option.some.inj (owned.symm.trans (Game.owningPlayer?_of_playerOf? plays))
    rcases answer with ⟨staged, complete⟩ | ⟨-, complete⟩
    · rcases Game.playerOf?_eq_some_iff.mp plays with ⟨itself, -⟩ | ⟨avatar, owned, above⟩
      · cases itself.symm.trans (fits staged.perAvatar)
      · exact ⟨_, _, _, _, asks, avatar, owned, above, staged, active, complete⟩
    · -- unstaged, the mission of the player would be active and completed at once
      cases active.symm.trans complete
  · rintro ⟨g, avatar, m, player, asks, kind, owned, above, staged, active, complete⟩
    -- the player of an avatar is the first of its owners as well
    have plays : g.playerOf? avatar = some player :=
      Game.playerOf?_eq_some_iff.mpr (.inr ⟨kind, owned, above⟩)
    exact ⟨⟨g, avatar, m, player, asks, plays, active⟩, g, avatar, m, player, asks,
      Game.owningPlayer?_of_playerOf? plays, fun _ => kind, .inl ⟨staged, complete⟩⟩

/-- The second avatar of a player has completed the mission that the
player has active. -/
theorem secondAvatar_active_and_complete :
    let game := Registry.twoAvatars.setMissionState ⟨1⟩ ⟨70⟩ .active
    let schemas := ({} : Registry).after [.register Registry.twoMissions]
    let catalog := ({} : Catalog).addMission { id := ⟨70⟩, perAvatar := true }
    let env : Env := ⟨{ schemas, catalog }, some game, {}, fun _ => false⟩
    let store := Store.set ⟨#[{}, {}, {}]⟩ ⟨2⟩ (.ofParam .avatarMissionState 1) (.integer 4)
    let s : State := ⟨store, ({} : Activation).bind .entity ⟨.entity (some ⟨3⟩), false⟩⟩
    (exec (eval 0 env (.missionActive (.slot .entity) ⟨70⟩)) s).1 = .ok (.bool true) ∧
      (exec (eval 0 env (.missionComplete (.slot .entity) ⟨70⟩)) s).1 = .ok (.bool true) := by
  intro game schemas catalog env store s
  refine (active_and_complete_iff 0 env s _ _).mpr ⟨game, ⟨3⟩, { id := ⟨70⟩, perAvatar := true },
    ⟨1⟩, ⟨rfl, rfl, rfl, rfl⟩, rfl, rfl, rfl, ⟨rfl, ?_⟩, rfl, ?_⟩
  · have inPlay : game.primaryAvatar? ⟨1⟩ = some ⟨2⟩ := rfl
    rw [inPlay]
    decide
  · decide +kernel

end Rulebook
