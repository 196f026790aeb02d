import DungeonCrawler.Common.GameState
import DungeonCrawler.Domain.Entity

/-!
A dungeon: spawning, the queue of player commands, and the tick.

Whatever the source leaves to chance is an argument: the positions drawn for spawning, the
numbers and directions drawn in a tick, and the orders in which the tables are visited.
-/

namespace DungeonCrawler

/-- The positions that the generator yields, and how many of them were taken. -/
structure PositionGenerator where
  draws : ℕ → Position
  taken : ℕ

def PositionGenerator.generate (gen : PositionGenerator) : Position × PositionGenerator :=
  (gen.draws gen.taken, { gen with taken := gen.taken + 1 })

def CollisionChecker.isAvailable (map_ : GameMap) (players_ : EntityManager PlayerId)
    (monsters_ : EntityManager MobId) (pos : Position) : Bool :=
  map_.isAvailable pos && !players_.isOccupied pos && !monsters_.isOccupied pos

namespace Spawner

variable {Id : Type} [DecidableEq Id]

def kMaxSpawnAttempts : ℕ := 100

/-- The loop that draws positions until one is available or the attempts are used up. -/
def drawLoop (isAvailable : Position → Bool) (attempts : ℕ) (pos : Position)
    (gen : PositionGenerator) : Position × PositionGenerator :=
  if !isAvailable pos ∧ attempts ≤ kMaxSpawnAttempts then
    let (pos, gen) := gen.generate
    drawLoop isAvailable (attempts + 1) pos gen
  else (pos, gen)
termination_by kMaxSpawnAttempts + 1 - attempts

def spawnEntity (isAvailable : Position → Bool) (data : EntityData)
    (manager : EntityManager Id) (id : Id) (gen : PositionGenerator) :
    Bool × EntityManager Id × PositionGenerator :=
  if (manager.getEntity id).isSome then (false, manager, gen)
  else
    let (pos, gen) := gen.generate
    let (pos, gen) := drawLoop isAvailable 1 pos gen
    if !isAvailable pos then (false, manager, gen)
    else
      let (ok, manager) := manager.addEntity data id pos
      (ok, manager, gen)

end Spawner

inductive Command
  | attack (player_id : PlayerId) (damage : HP)
  | move (player_id : PlayerId) (direction : Direction)

structure Dungeon where
  game_map_ : GameMap
  players_ : EntityManager PlayerId
  monsters_ : EntityManager MobId
  pos_gen_ : PositionGenerator
  command_queue_ : List Command
  mob_id_counter_ : UInt64

/-- What chance decides in one tick. -/
structure TickOutcomes where
  moveCount : ℕ
  attackCount : ℕ
  /-- the monster and the direction drawn for each move -/
  moves : ℕ → ℕ × Direction
  /-- the monster drawn for each attack -/
  attacks : ℕ → ℕ
  playerOrder : IterOrder PlayerId
  monsterOrder : IterOrder MobId
  barrierOrder : IterOrder Position

namespace Dungeon

def isAvailable (d : Dungeon) (pos : Position) : Bool :=
  CollisionChecker.isAvailable d.game_map_ d.players_ d.monsters_ pos

/-! ### Construction -/

def spawnPlayer (cfg : Gameplay) (d : Dungeon) (playerId : PlayerId) : Dungeon :=
  let (_, players, gen) :=
    Spawner.spawnEntity d.isAvailable (getCfgPlayerData cfg) d.players_ playerId d.pos_gen_
  { d with players_ := players, pos_gen_ := gen }

def spawnMonster (cfg : Gameplay) (d : Dungeon) : Dungeon :=
  let mobId : MobId := ⟨d.mob_id_counter_⟩
  let (_, monsters, gen) :=
    Spawner.spawnEntity d.isAvailable (getCfgMonsterData cfg) d.monsters_ mobId d.pos_gen_
  { d with monsters_ := monsters, pos_gen_ := gen, mob_id_counter_ := d.mob_id_counter_ + 1 }

def create (cfg : Gameplay) (game_map : GameMap) (initial_players : List PlayerId)
    (pos_gen : PositionGenerator) : Dungeon :=
  let d : Dungeon := ⟨game_map, .empty, .empty, pos_gen, [], 0⟩
  let d := initial_players.foldl (spawnPlayer cfg) d
  let totalMonsters := initial_players.length * cfg.monsters_per_player.toNat
  (spawnMonster cfg)^[totalMonsters] d

/-! ### Commands -/

def addPlayerAttackCommand (d : Dungeon) (player_id : PlayerId) (damage : HP) : Dungeon :=
  { d with command_queue_ := d.command_queue_ ++ [.attack player_id damage] }

def addMovePlayerCommand (d : Dungeon) (player_id : PlayerId) (direction : Direction) :
    Dungeon :=
  { d with command_queue_ := d.command_queue_ ++ [.move player_id direction] }

def runCommand (monsterOrder : IterOrder MobId) (d : Dungeon) : Command → Dungeon
  | .attack player_id damage =>
    match d.players_.getEntity player_id with
    | none => d
    | some player =>
      if !player.isAlive then d
      else
        match EntityManager.findClosestTarget monsterOrder player.position_
            player.data_.radius_attack.toUInt64 d.monsters_ with
        | none => d
        | some targetId =>
          { d with monsters_ := d.monsters_.modifyEntity targetId (·.damage damage) }
  | .move player_id direction =>
    match d.players_.getEntity player_id with
    | none => d
    | some player =>
      if !player.isAlive then d
      else
        let newPos := player.position_ + positionOffsetFromDirection direction
        if d.isAvailable newPos then
          { d with players_ := (d.players_.moveEntity player_id direction newPos).2 }
        else d

/-! ### Monsters -/

/-- One round of the loop that moves monsters. -/
def moveMonster (monsterOrder : IterOrder MobId) (d : Dungeon) (draw : ℕ × Direction) :
    Dungeon :=
  let (idx, dir) := draw
  match (monsterOrder.entries d.monsters_.entities_)[idx]? with
  | none => d
  | some (id, monster) =>
    if !monster.isAlive then d
    else
      let newPos := monster.position_ + positionOffsetFromDirection dir
      if d.isAvailable newPos then
        { d with monsters_ := (d.monsters_.moveEntity id dir newPos).2 }
      else d

def moveRandomMonsters (outcomes : TickOutcomes) (maxMoves : ℕ) (d : Dungeon) : Dungeon :=
  let moves := min maxMoves d.monsters_.entities_.size
  (List.range moves).foldl
    (fun d i => moveMonster outcomes.monsterOrder d (outcomes.moves i)) d

/-- One round of the loop in which monsters attack. -/
def attackPlayer (outcomes : TickOutcomes) (attackPower : HP) (d : Dungeon) (idx : ℕ) :
    Dungeon :=
  match (outcomes.monsterOrder.entries d.monsters_.entities_)[idx]? with
  | none => d
  | some (_, monster) =>
    if !monster.isAlive then d
    else
      match EntityManager.findClosestTarget outcomes.playerOrder monster.position_
          monster.data_.radius_attack.toUInt64 d.players_ with
      | none => d
      | some targetId =>
        { d with players_ := d.players_.modifyEntity targetId fun targetPlayer =>
            if targetPlayer.isAlive then targetPlayer.damage attackPower else targetPlayer }

def performRandomAttacks (outcomes : TickOutcomes) (attackPower : HP) (maxAttacks : ℕ)
    (d : Dungeon) : Dungeon :=
  let attacks := min maxAttacks d.monsters_.entities_.size
  (List.range attacks).foldl
    (fun d i => attackPlayer outcomes attackPower d (outcomes.attacks i)) d

/-! ### The tick -/

/-- The keys in the order of the table. -/
def getPlayers (ord : IterOrder PlayerId) (d : Dungeon) : List PlayerId :=
  ord.list d.players_.entities_.keys

def isGameOver (d : Dungeon) : Bool :=
  ∀ id ∈ d.players_.entities_.keys, (d.players_.entities_.lookup id).all fun player =>
    !player.isAlive

end Dungeon

structure DungeonState where
  game_map : GameMap
  players : Finmap fun _ : PlayerId => Entity PlayerId
  monsters : Finmap fun _ : MobId => Entity MobId

def makeEntitySnapshot {Tag : Type} (id : StrongId Tag) (entity : Entity (StrongId Tag))
    (type : UInt8) : EntitySnapshot where
  type := type
  state := (if entity.isAlive then EntityState.Alive else EntityState.Dead).toUint8
  id := id.get
  pos_x := entity.position_.x.toUInt64
  pos_y := entity.position_.y.toUInt64
  hp := entity.data_.health

def createGameStateDTO (outcomes : TickOutcomes) (state : DungeonState) : DungeonSnapshot :=
  let map_size := state.game_map.map_size_
  { game_map :=
      { blc_x := map_size.bottom_left_corner_.x.toUInt64
        blc_y := map_size.bottom_left_corner_.y.toUInt64
        trc_x := map_size.top_right_corner_.x.toUInt64
        trc_y := map_size.top_right_corner_.y.toUInt64
        barriers := (outcomes.barrierOrder.list state.game_map.barriers_).map fun pos =>
          ⟨pos.x.toUInt64, pos.y.toUInt64⟩ }
    players := (outcomes.playerOrder.entries state.players).map fun (id, player) =>
      makeEntitySnapshot id player 0
    mobs := (outcomes.monsterOrder.entries state.monsters).map fun (id, monster) =>
      makeEntitySnapshot id monster 1 }

namespace Dungeon

/-- The part of the tick that moves the monsters and lets them attack. -/
def monsterTurn (cfg : Gameplay) (outcomes : TickOutcomes) (d : Dungeon) : Dungeon :=
  if d.monsters_.entities_.size > 0 then
    let d := moveRandomMonsters outcomes outcomes.moveCount d
    performRandomAttacks outcomes cfg.monster_default_attack outcomes.attackCount d
  else d

def processTick (cfg : Gameplay) (outcomes : TickOutcomes) (d : Dungeon) :
    Option DungeonSnapshot × Dungeon :=
  let commands := d.command_queue_
  let d := commands.foldl (runCommand outcomes.monsterOrder) { d with command_queue_ := [] }
  let d := monsterTurn cfg outcomes d
  if d.isGameOver then (none, d)
  else
    let state : DungeonState :=
      ⟨d.game_map_, d.players_.entities_, d.monsters_.entities_⟩
    (some (createGameStateDTO outcomes state), d)

/-- Some player of the dungeon is alive. -/
def SomeoneAlive (d : Dungeon) : Prop :=
  ∃ p player, d.players_.getEntity p = some player ∧ player.isAlive

lemma isGameOver_iff {d : Dungeon} : d.isGameOver ↔ ¬ d.SomeoneAlive := by
  simp only [isGameOver, decide_eq_true_eq, SomeoneAlive, EntityManager.getEntity, not_exists,
    not_and]
  constructor
  · intro h p player hp
    have := h p (Finmap.mem_keys.mpr (Finmap.mem_of_lookup_eq_some hp))
    simpa [hp] using this
  · intro h p _
    cases hp : d.players_.entities_.lookup p with
    | none => rfl
    | some player => simpa using h p player hp

/-- What a tick returns is read off the dungeon after it. -/
lemma processTick_fst (cfg : Gameplay) (outcomes : TickOutcomes) (d : Dungeon) :
    (d.processTick cfg outcomes).1 =
      let d' := (d.processTick cfg outcomes).2
      if d'.isGameOver then none else some (createGameStateDTO outcomes
        ⟨d'.game_map_, d'.players_.entities_, d'.monsters_.entities_⟩) := by
  unfold processTick
  dsimp only
  split_ifs <;> rfl

/-- A call on a dungeon, with the outcomes of chance where it has any. -/
inductive Call
  | addPlayerAttackCommand (player_id : PlayerId) (damage : HP)
  | addMovePlayerCommand (player_id : PlayerId) (direction : Direction)
  | processTick (outcomes : TickOutcomes)

def step (cfg : Gameplay) (d : Dungeon) : Call → Dungeon
  | .addPlayerAttackCommand player_id damage => d.addPlayerAttackCommand player_id damage
  | .addMovePlayerCommand player_id direction => d.addMovePlayerCommand player_id direction
  | .processTick outcomes => (d.processTick cfg outcomes).2

end Dungeon

end DungeonCrawler
