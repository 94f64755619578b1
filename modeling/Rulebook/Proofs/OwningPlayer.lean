/-
Rulebook/Proofs/OwningPlayer.lean

The player that an entity belongs to.  An entity may have an owner, which may
have an owner in turn: the line of owners of the entity (`Game.ownerAt?`).
Nothing keeps this line short or free of circles, and it may lead to an entity
that is not in the game.

The search for a player looks at the first eight of the line, and no further.  So
it ends on every line, and it comes to a player if there is one among the eight
and all before it are in the game; of several it takes the first
(`playerAbove?_eq_some_iff`, `playerAbove?_eq_none_iff`).  The one step of the
search is mirrored by the line: a player is above an entity if the entity is one,
or if one is above its owner (`playerAt_succ`, `firstPlayerAt_succ`).

A mission that is recorded per player is complete for an entity as this player has it
(`mission_complete_by_owning_player`).
-/
import Rulebook.Proofs.MissionStages

namespace Rulebook

open Eval

namespace Game

variable {g : Game} {e player : EntityId} {i n : Nat}

/-! ### The line of owners -/

/-- The entity that is `i` owners above another. -/
def ownerAt? (g : Game) (e : EntityId) : Nat → Option EntityId
  | 0 => some e
  | i + 1 => g.ownerAt? e i >>= g.owner?

/-- The line of owners goes on from the owner as it does from the entity. -/
theorem ownerAt?_succ (g : Game) (e : EntityId) (i : Nat) :
    g.ownerAt? e (i + 1) = g.owner? e >>= (g.ownerAt? · i) := by
  -- the line grows at its far end, while the search leaves it from the near one
  induction i with
  | zero => exact (Option.bind_some ..).trans (Option.bind_fun_some ..).symm
  | succ i ih =>
    show g.ownerAt? e (i + 1) >>= g.owner? = _
    rw [ih]
    exact Option.bind_assoc ..

/-- Only an entity of the game has an owner. -/
theorem exists_of_owner? {o : EntityId} (owned : g.owner? e = some o) :
    ∃ r, g.entity? e = some r := by
  obtain ⟨r, found, -⟩ := Option.bind_eq_some_iff.mp owned
  exact ⟨r, found⟩

theorem exists_of_kind? {k : EntityKind} (kind : g.kind? e = some k) :
    ∃ r, g.entity? e = some r := by
  obtain ⟨r, found, -⟩ := Option.map_eq_some_iff.mp kind
  exact ⟨r, found⟩

/-! ### Players on the line -/

/-- Whether the entity `i` owners above `e` is a player, and all of the line up to it
are in the game. -/
structure PlayerAt (g : Game) (e : EntityId) (i : Nat) (player : EntityId) : Prop where
  above : g.ownerAt? e i = some player
  isPlayer : g.kind? player = some .player
  present : ∀ j ≤ i, ∃ o r, g.ownerAt? e j = some o ∧ g.entity? o = some r

/-- Whether the entity `i` owners above `e` is the first such player. -/
structure FirstPlayerAt (g : Game) (e : EntityId) (i : Nat) (player : EntityId) : Prop where
  playerAt : g.PlayerAt e i player
  first : ∀ j < i, ∀ other, ¬ g.PlayerAt e j other

theorem playerAt_zero : g.PlayerAt e 0 player ↔ g.kind? e = some .player ∧ e = player := by
  constructor
  · rintro ⟨above, isPlayer, -⟩
    obtain rfl := Option.some.inj above
    exact ⟨isPlayer, rfl⟩
  · rintro ⟨isPlayer, rfl⟩
    obtain ⟨r, found⟩ := exists_of_kind? isPlayer
    refine ⟨rfl, isPlayer, fun j le => ⟨e, r, ?_, found⟩⟩
    rw [Nat.le_zero.mp le]
    rfl

theorem playerAt_succ :
    g.PlayerAt e (i + 1) player ↔ ∃ o, g.owner? e = some o ∧ g.PlayerAt o i player := by
  constructor
  · rintro ⟨above, isPlayer, present⟩
    rw [ownerAt?_succ] at above
    obtain ⟨o, owned, above⟩ := Option.bind_eq_some_iff.mp above
    refine ⟨o, owned, above, isPlayer, fun j le => ?_⟩
    obtain ⟨o', r, at', found⟩ := present (j + 1) (Nat.succ_le_succ le)
    rw [ownerAt?_succ, owned] at at'
    exact ⟨o', r, at', found⟩
  · rintro ⟨o, owned, above, isPlayer, present⟩
    refine ⟨?_, isPlayer, fun j le => ?_⟩
    · rw [ownerAt?_succ, owned]
      exact above
    · cases j with
      | zero =>
        -- the entity itself is in the game, for it has an owner
        obtain ⟨r, found⟩ := exists_of_owner? owned
        exact ⟨e, r, rfl, found⟩
      | succ j =>
        obtain ⟨o', r, at', found⟩ := present j (Nat.le_of_succ_le_succ le)
        refine ⟨o', r, ?_, found⟩
        rw [ownerAt?_succ, owned]
        exact at'

theorem firstPlayerAt_zero :
    g.FirstPlayerAt e 0 player ↔ g.kind? e = some .player ∧ e = player := by
  rw [← playerAt_zero]
  exact ⟨(·.playerAt), fun h => ⟨h, fun j lt => absurd lt (Nat.not_lt_zero j)⟩⟩

theorem firstPlayerAt_succ :
    g.FirstPlayerAt e (i + 1) player ↔
      g.kind? e ≠ some .player ∧ ∃ o, g.owner? e = some o ∧ g.FirstPlayerAt o i player := by
  constructor
  · rintro ⟨playerAt, first⟩
    obtain ⟨o, owned, playerAt⟩ := playerAt_succ.mp playerAt
    refine ⟨fun itself => ?_, o, owned, playerAt, fun j lt other h => ?_⟩
    · exact first 0 (Nat.succ_pos i) e (playerAt_zero.mpr ⟨itself, rfl⟩)
    · exact first (j + 1) (Nat.succ_lt_succ lt) other (playerAt_succ.mpr ⟨o, owned, h⟩)
  · rintro ⟨noPlayer, o, owned, playerAt, first⟩
    refine ⟨playerAt_succ.mpr ⟨o, owned, playerAt⟩, fun j lt other h => ?_⟩
    -- nearer than the owner's player: the entity itself, or one of the owner's line
    cases j with
    | zero => exact noPlayer (playerAt_zero.mp h).1
    | succ j =>
      obtain ⟨o', owned', h⟩ := playerAt_succ.mp h
      obtain rfl := Option.some.inj (owned.symm.trans owned')
      exact first j (Nat.lt_of_succ_lt_succ lt) other h

/-- Where there is a player on the line, there is a first one. -/
theorem PlayerAt.exists_first (h : g.PlayerAt e i player) :
    ∃ j ≤ i, ∃ first, g.FirstPlayerAt e j first := by
  induction i using Nat.strong_induction_on generalizing player with
  | _ i ih =>
    by_cases earlier : ∃ j < i, ∃ other, g.PlayerAt e j other
    · obtain ⟨j, lt, other, h'⟩ := earlier
      obtain ⟨k, le, first, h''⟩ := ih j lt h'
      exact ⟨k, le.trans lt.le, first, h''⟩
    · exact ⟨i, le_rfl, player, h, fun j lt other h' => earlier ⟨j, lt, other, h'⟩⟩

/-! ### The search -/

/-- The search that looks at `n` of the line finds the first player among them. -/
theorem playerAbove?_eq_some_iff :
    g.playerAbove? n e = some player ↔ ∃ i < n, g.FirstPlayerAt e i player := by
  induction n generalizing e with
  | zero => exact ⟨nofun, fun ⟨i, lt, _⟩ => absurd lt (Nat.not_lt_zero i)⟩
  | succ n ih =>
    -- the line starts with the entity itself and goes on with that of its owner
    have line : (∃ i < n + 1, g.FirstPlayerAt e i player) ↔
        (g.kind? e = some .player ∧ e = player) ∨
          g.kind? e ≠ some .player ∧
            ∃ o, g.owner? e = some o ∧ g.playerAbove? n o = some player := by
      rw [Nat.exists_lt_succ_left, firstPlayerAt_zero]
      refine or_congr_right ?_
      simp only [firstPlayerAt_succ, ih]
      constructor
      · rintro ⟨i, lt, noPlayer, o, owned, h⟩
        exact ⟨noPlayer, o, owned, i, lt, h⟩
      · rintro ⟨noPlayer, o, owned, i, lt, h⟩
        exact ⟨i, lt, noPlayer, o, owned, h⟩
    rw [line, playerAbove?]
    split
    next missing =>
      -- where there is no entity, the line ends
      have noOwner : ∀ o, g.owner? e ≠ some o := by
        intro o owned
        obtain ⟨r, found⟩ := exists_of_owner? owned
        simp [kind?, found] at missing
      simp [missing, noOwner]
    next itself => simp [itself]
    next k other kind =>
      have noPlayer : g.kind? e ≠ some .player := by
        rw [kind]
        exact fun same => other (Option.some.inj same)
      simp [noPlayer, Option.bind_eq_some_iff]

/-- The search finds no player if there is none among those that it looks at. -/
theorem playerAbove?_eq_none_iff :
    g.playerAbove? n e = none ↔ ∀ i < n, ∀ player, ¬ g.PlayerAt e i player := by
  rw [Option.eq_none_iff_forall_ne_some]
  constructor
  · intro unfound i lt player h
    -- a player on the line would make some player the first one
    obtain ⟨j, le, first, h'⟩ := h.exists_first
    exact unfound first (playerAbove?_eq_some_iff.mpr ⟨j, le.trans_lt lt, h'⟩)
  · intro nobody player found
    obtain ⟨i, lt, h⟩ := playerAbove?_eq_some_iff.mp found
    exact nobody i lt player h.playerAt

end Game

/-! ### Missions of the owning player -/

namespace Env

variable {env : Env} {s : State} {c : Context} {id : PrototypeId} {g : Game}
  {e player : EntityId} {m : Mission}

/-- A mission that is recorded per player is complete as the owning player has it. -/
theorem AsksMission.complete_of_player (asks : env.AsksMission s c id g e m)
    (perPlayer : m.perAvatar = false) (owning : g.owningPlayer? e = some player) :
    env.missionComplete s c id = .ok (g.missionState? player id == some .completed) := by
  rw [missionComplete, bind_ok (boundGame_eq_ok_iff.mpr asks.bound), bind_ok asks.entity,
    bind_ok (requirePlayer_eq_ok_iff.mpr owning), bind_ok (mission_eq_ok_iff.mpr asks.known)]
  simp [asks.enabled, perPlayer]

/-- Without an owning player there is no answer. -/
theorem AsksMission.complete_of_no_player (asks : env.AsksMission s c id g e m)
    (nobody : g.owningPlayer? e = none) :
    env.missionComplete s c id = .error (.invalidContextObject "context is not a player") := by
  rw [missionComplete, bind_ok (boundGame_eq_ok_iff.mpr asks.bound), bind_ok asks.entity, nobody]
  rfl

end Env

/-- **The player whose mission it is.** Whatever owns what, the question whether a
mission that is recorded per player is complete for an entity comes to an end. If
one of the first eight of the line of owners is a player, and all up to it are in
the game, the answer is how the first such player has the mission, and else the
question fails for want of a player. -/
theorem mission_complete_by_owning_player (n : Nat) (env : Env) (s : State) (c : Context)
    (id : PrototypeId) (g : Game) (e : EntityId) (m : Mission)
    (asks : env.AsksMission s c id g e m) (perPlayer : m.perAvatar = false) :
    (∀ i player, i < 8 → g.FirstPlayerAt e i player →
      ∃ b, exec (eval n env (.missionComplete c id)) s = (.ok (.bool b), s) ∧
        (b = true ↔ g.missionState? player id = some .completed)) ∧
    ((∀ i player, i < 8 → ¬ g.PlayerAt e i player) →
      exec (eval n env (.missionComplete c id)) s =
        ((Expr.missionComplete c id).ending
          (.error (.invalidContextObject "context is not a player")), s)) := by
  have asked := exec_predicate (.missionComplete c id) (env.missionComplete · c id) s
  constructor
  · intro i player lt h
    have owning : g.owningPlayer? e = some player := Game.playerAbove?_eq_some_iff.mpr ⟨i, lt, h⟩
    rw [asks.complete_of_player perPlayer owning] at asked
    exact ⟨_, asked, beq_iff_eq⟩
  · intro noPlayer
    have nobody : g.owningPlayer? e = none :=
      Game.playerAbove?_eq_none_iff.mpr fun i lt player => noPlayer i player lt
    rw [asks.complete_of_no_player nobody] at asked
    exact asked

/-- A player that holds an entity, which holds another, and so on down to a depth. -/
def Game.nested : Nat → Game
  | 0 => (({} : Game).spawn .player ⟨50⟩ ⟨0⟩).1
  | depth + 1 =>
    let (g, e) := (nested depth).spawn .entity ⟨60⟩ ⟨0⟩
    g.addToInventory ⟨e.raw - 1⟩ .general e

/-- Seven owners below the player, the mission is complete as the player has it. One
owner further down the player is out of reach. -/
theorem eighth_owner_not_asked :
    let game := (Game.nested 8).setMissionState ⟨1⟩ ⟨70⟩ .completed
    let catalog := ({} : Catalog).addMission { id := ⟨70⟩ }
    let env : Env := ⟨{ catalog }, some game, {}, fun _ => false⟩
    let s : State := ⟨{}, (({} : Activation).bind .entity ⟨.entity (some ⟨8⟩), false⟩).bind
      .other ⟨.entity (some ⟨9⟩), false⟩⟩
    let asked (c : Context) : Expr := .missionComplete c ⟨70⟩
    exec (eval 0 env (asked (.slot .entity))) s = (.ok (.bool true), s) ∧
      exec (eval 0 env (asked (.slot .other))) s = ((asked (.slot .other)).ending
        (.error (.invalidContextObject "context is not a player")), s) := by
  intro game catalog env s asked
  have asks (slot : Slot) (e : EntityId) (entity : env.contextEntity s (.slot slot) game = .ok e) :
      env.AsksMission s (.slot slot) ⟨70⟩ game e { id := ⟨70⟩ } := ⟨rfl, entity, rfl, rfl⟩
  constructor
  · have found : game.playerAbove? 8 ⟨8⟩ = some ⟨1⟩ := rfl
    obtain ⟨i, lt, first⟩ := Game.playerAbove?_eq_some_iff.mp found
    obtain ⟨b, answer, complete⟩ := (mission_complete_by_owning_player 0 env s _ _ game ⟨8⟩ _
      (asks .entity ⟨8⟩ rfl) rfl).1 i ⟨1⟩ lt first
    rwa [complete.mpr rfl] at answer
  · have nobody : game.playerAbove? 8 ⟨9⟩ = none := rfl
    exact (mission_complete_by_owning_player 0 env s _ _ game ⟨9⟩ _ (asks .other ⟨9⟩ rfl) rfl).2
      fun i player lt => Game.playerAbove?_eq_none_iff.mp nobody i lt player

end Rulebook
