import DungeonCrawler.Domain.DungeonPlayers
import DungeonCrawler.Server.GameManager

/-!
The start of a game as one transaction over the registries of lobbies and dungeons, in every
state that requests, ticks and commands lead to.
-/

namespace DungeonCrawler

namespace Games

open Finmap Runs

/-- What the handlers of lobbies and games take, with what is left to chance. -/
inductive Input
  | request (input : Lobbies.Input)
  | gameTick (ord : IterOrder GameId) (outcomes : GameId → TickOutcomes)
  | moveRequest (player_id : PlayerId) (direction : Direction)
  | attackRequest (player_id : PlayerId)

def step (cfg : Gameplay) (w : Lobbies) : Input → Lobbies
  | .request input => Lobbies.step cfg w input
  | .gameTick ord outcomes =>
    let (events, dungeons) :=
      GameManager.onGameTickEvent cfg ord outcomes w.dungeon_registry_
    ⟨w.lobby_registry_, dungeons, w.published ++ events⟩
  | .moveRequest player_id direction =>
    { w with dungeon_registry_ :=
        GameManager.onMoveRequestEvent w.dungeon_registry_ player_id direction }
  | .attackRequest player_id =>
    { w with dungeon_registry_ :=
        GameManager.onAttackRequestEvent cfg w.dungeon_registry_ player_id }

/-! ### Both registries stay sound -/

structure Sound (cfg : Gameplay) (w : Lobbies) : Prop where
  lobbies : w.lobby_registry_.Sound cfg.lobby_max_players
  dungeons : w.dungeon_registry_.Sound

variable {cfg : Gameplay} {max : UInt16} {w : Lobbies} {r r' : LobbyRegistry}
variable {d d' : DungeonRegistry} {p : PlayerId} {ord : IterOrder PlayerId}
variable {pos_gen : PositionGenerator}

lemma sound_onCreateLobbyRequest (h : r.Sound max) (ord : IterOrder PlayerId) (p : PlayerId) :
    (LobbyManager.onCreateLobbyRequest max ord r p).2.Sound max := by
  rcases LobbyManager.onCreateLobbyRequest_cases h ord p with
    ⟨-, he⟩ | ⟨-, -, he⟩ | ⟨hp, hid, hm, he⟩ <;> rw [he]
  · exact h
  · exact LobbyManager.sound_advanced h
  · exact LobbyManager.sound_opened h hp hid hm

/-- A start that changes the dungeons at all calls the registry once. -/
lemma onStartGameRequestEvent_dungeons (cfg : Gameplay) (ord : IterOrder PlayerId)
    (pos_gen : PositionGenerator) (r : LobbyRegistry) (d : DungeonRegistry) (p : PlayerId) :
    (GameManager.onStartGameRequestEvent cfg ord pos_gen r d p).2 = d ∨
      ∃ players, (GameManager.onStartGameRequestEvent cfg ord pos_gen r d p).2 =
        (d.addDungeon cfg (.ofCfg cfg) players pos_gen).2 := by
  unfold GameManager.onStartGameRequestEvent
  split
  · exact Or.inl rfl
  · split
    · exact Or.inl rfl
    · rename_i lobby _
      refine Or.inr ⟨lobby.getAllPlayers ord, ?_⟩
      split <;> rename_i h <;> rw [h]

lemma sound_handle (h : Sound cfg w) (i : Lobbies.Input) : Sound cfg (Lobbies.step cfg w i) := by
  obtain ⟨request, playerOrder, lobbyOrder, pos_gen⟩ := i
  have hl := h.lobbies
  cases request with
  | createLobbyRequest p => exact ⟨sound_onCreateLobbyRequest hl playerOrder p, h.dungeons⟩
  | joinLobbyRequest p l => exact ⟨(LobbyManager.keeps_onJoinLobbyRequest hl).sound, h.dungeons⟩
  | leaveLobbyRequest p => exact ⟨(LobbyManager.keeps_onLeaveLobbyRequest hl).sound, h.dungeons⟩
  | playerReadyRequest p b =>
    exact ⟨(LobbyManager.keeps_onPlayerReadyRequest hl).sound, h.dungeons⟩
  | startGameRequest p =>
    refine ⟨(GameManager.keeps_onStartGameRequestEvent hl).sound, ?_⟩
    show (GameManager.onStartGameRequestEvent cfg playerOrder pos_gen w.lobby_registry_
      w.dungeon_registry_ p).2.Sound
    rcases onStartGameRequestEvent_dungeons cfg playerOrder pos_gen w.lobby_registry_
      w.dungeon_registry_ p with he | ⟨players, he⟩ <;> rw [he]
    · exact h.dungeons
    · exact h.dungeons.addDungeon
  | _ => exact ⟨hl, h.dungeons⟩

lemma sound_tickDungeon {outcomes : GameId → TickOutcomes}
    {acc : List Event × List GameId × DungeonRegistry} (h : acc.2.2.Sound) (g : GameId) :
    (GameManager.tickDungeon cfg outcomes acc g).2.2.Sound := by
  obtain ⟨events, removals, d⟩ := acc
  unfold GameManager.tickDungeon
  dsimp only
  split
  · exact h
  · rename_i hg
    have hmem : g ∈ d.dungeons_ := mem_of_lookup_eq_some hg
    split <;> exact DungeonRegistry.Sound.withDungeon h hmem _

lemma sound_onGameTickEvent (h : d.Sound) (ord : IterOrder GameId)
    (outcomes : GameId → TickOutcomes) :
    (GameManager.onGameTickEvent cfg ord outcomes d).2.Sound := by
  have ticked : ((ord.list d.getAllDungeons.keys).foldl (GameManager.tickDungeon cfg outcomes)
      ([], [], d)).2.2.Sound :=
    run_inv (I := fun acc : List Event × List GameId × DungeonRegistry => acc.2.2.Sound)
      (fun _ g h => sound_tickDungeon h g) h _
  exact run_inv (I := DungeonRegistry.Sound) (fun _ g h => h.removeDungeon g) ticked _

lemma sound_commandDungeon (h : d.Sound) (p : PlayerId) (command : Dungeon → Dungeon) :
    (GameManager.commandDungeon d p command).Sound := by
  unfold GameManager.commandDungeon
  split
  · exact h
  · split
    · exact h
    · rename_i dungeon hg
      exact h.withDungeon (mem_of_lookup_eq_some hg) _

lemma Sound.step (h : Sound cfg w) (i : Input) : Sound cfg (step cfg w i) := by
  cases i with
  | request input => exact sound_handle h input
  | gameTick ord outcomes => exact ⟨h.lobbies, sound_onGameTickEvent h.dungeons ord outcomes⟩
  | moveRequest p direction => exact ⟨h.lobbies, sound_commandDungeon h.dungeons p _⟩
  | attackRequest p => exact ⟨h.lobbies, sound_commandDungeon h.dungeons p _⟩

lemma sound_run (cfg : Gameplay) (inputs : List Input) :
    Sound cfg (run (step cfg) Lobbies.init inputs) :=
  run_inv (fun _ i h => h.step i) ⟨LobbyRegistry.sound_empty, DungeonRegistry.sound_empty⟩ inputs

/-! ### The start of a game -/

/-- The player is in no lobby, or a member of the player's lobby is in a dungeon. -/
def Refusable (r : LobbyRegistry) (d : DungeonRegistry) (p : PlayerId) : Prop :=
  r.getPlayerLobby p = none ∨ ∃ l lobby q, r.getPlayerLobby p = some l ∧
    r.findLobby l = some lobby ∧ lobby.containsPlayer q ∧ (d.findPlayerDungeon q).isSome

/-- The lobby `l` of the player became the dungeon `g`, and nothing else changed. -/
structure Moved (r r' : LobbyRegistry) (d d' : DungeonRegistry) (p : PlayerId) (l : LobbyId)
    (lobby : Lobby) (g : GameId) : Prop where
  lobby_of_player : r.getPlayerLobby p = some l
  lobby_found : r.findLobby l = some lobby
  new_game : d.findDungeon g = none
  lobby_gone : r'.findLobby l = none ∧ r'.lobby_players_.lookup l = none
  members_out : ∀ q, r'.getPlayerLobby q =
    if lobby.containsPlayer q then none else r.getPlayerLobby q
  other_lobbies : ∀ l', l' ≠ l → r'.findLobby l' = r.findLobby l' ∧
    r'.lobby_players_.lookup l' = r.lobby_players_.lookup l'
  lobby_counter : r'.next_id_ = r.next_id_
  members_in : ∀ q, d'.findPlayerDungeon q =
    if lobby.containsPlayer q then some g else d.findPlayerDungeon q
  player_list : ∃ players, d'.dungeon_to_players_.lookup g = some players ∧
    ∀ q, q ∈ players ↔ lobby.containsPlayer q
  game_running : (d'.findDungeon g).isSome
  other_games : ∀ g', g' ≠ g → d'.findDungeon g' = d.findDungeon g' ∧
    d'.dungeon_to_players_.lookup g' = d.dungeon_to_players_.lookup g'

lemma mem_getAllPlayers {lobby : Lobby} {q : PlayerId} :
    q ∈ lobby.getAllPlayers ord ↔ lobby.containsPlayer q := by
  rw [Lobby.mem_getAllPlayers, Lobby.containsPlayer, decide_eq_true_eq]

/-- The dungeon was added and the lobby is emptied. -/
lemma moved_of_admissible {l : LobbyId} {lobby : Lobby} (hr : r.Sound max) (hd : d.Sound)
    (hp : r.getPlayerLobby p = some l) (hl : r.findLobby l = some lobby)
    (ha : d.Admissible (lobby.getAllPlayers ord)) (hid : d.next_game_id_ ∉ d.dungeons_) :
    Moved r ((lobby.getAllPlayers ord).foldl (fun r q => (r.removePlayerFromLobby ord q).2) r)
      d (d.added cfg (.ofCfg cfg) (lobby.getAllPlayers ord) pos_gen) p l lobby
      d.next_game_id_ := by
  have members : ∀ q ∈ lobby.getAllPlayers ord, r.player_to_lobby_.lookup q = some l :=
    fun q hq => hr.lobbyFibers.lookup_eq hl (mem_getAllPlayers.mp hq)
  have emptied := hr.emptied ord ha.nodup members
  have sound' := (hr.keeps_removePlayers ord (lobby.getAllPlayers ord)).sound
  have gone := emptied.gone hr sound' hl fun q hq =>
    mem_getAllPlayers.mpr (by simpa [Lobby.containsPlayer] using hq)
  have hlist : d.next_game_id_ ∉ d.dungeon_to_players_ := fun hm =>
    hid ((hd.same_keys _).mpr hm)
  refine ⟨hp, hl, lookup_eq_none.mpr hid, ⟨lookup_eq_none.mpr gone, ?_⟩, fun q => ?_,
    fun l' hl' => ⟨emptied.lobbies l' hl', emptied.sets l' hl'⟩, emptied.next_id, fun q => ?_,
    ⟨lobby.getAllPlayers ord, ?_, fun q => mem_getAllPlayers⟩, ?_, fun g' hg' => ⟨?_, ?_⟩⟩
  · exact lookup_eq_none.mpr fun hm => gone ((sound'.same_keys l).mpr hm)
  · rw [LobbyRegistry.getPlayerLobby, emptied.players]
    simp only [mem_getAllPlayers, LobbyRegistry.getPlayerLobby]
  · rw [DungeonRegistry.findPlayerDungeon, DungeonRegistry.added, lookup_foldl_emplace _ ha.free]
    simp only [mem_getAllPlayers, DungeonRegistry.findPlayerDungeon]
  · rw [DungeonRegistry.added, emplace_of_notMem hlist, lookup_insert]
  · rw [DungeonRegistry.findDungeon, DungeonRegistry.added, lookup_insert]
    rfl
  · exact lookup_insert_of_ne _ hg'
  · rw [DungeonRegistry.added, emplace_of_notMem hlist]
    exact lookup_insert_of_ne _ hg'

/-- Players of a lobby are refused a dungeon only because one of them is in another. -/
lemma busy_of_not_admissible {l : LobbyId} {lobby : Lobby} (hr : r.Sound max)
    (hl : r.findLobby l = some lobby) (ha : ¬ d.Admissible (lobby.getAllPlayers ord)) :
    ∃ q, lobby.containsPlayer q ∧ (d.findPlayerDungeon q).isSome := by
  by_contra hno
  refine ha ⟨?_, ord.nodup_list _, fun q hq hqd => hno ⟨q, mem_getAllPlayers.mp hq, ?_⟩⟩
  · exact List.ne_nil_of_mem (mem_getAllPlayers.mpr (hr.leader_inside l lobby hl))
  · rw [DungeonRegistry.findPlayerDungeon, lookup_isSome]
    exact hqd

/-- **A start moves a lobby as a whole.** In every reachable state, a request to start either
leaves both registries as they were, because the player is in no lobby or a member of the
lobby is in a dungeon; or, when the number handed out still names a running dungeon, only
advances the counter of games; or moves exactly the members of the lobby to one new dungeon
and changes nothing else. -/
theorem start_all_or_nothing (cfg : Gameplay) (inputs : List Input) (ord : IterOrder PlayerId)
    (pos_gen : PositionGenerator) (p : PlayerId) :
    let w := run (step cfg) Lobbies.init inputs
    let r := w.lobby_registry_
    let d := w.dungeon_registry_
    let (r', d') := GameManager.onStartGameRequestEvent cfg ord pos_gen r d p
    (r' = r ∧ d' = d ∧ Refusable r d p) ∨
      (r' = r ∧ d.SameTables d' ∧ (d.findDungeon d.next_game_id_).isSome ∧
        d'.next_game_id_ = ⟨d.next_game_id_.value + 1⟩) ∨
      ∃ l lobby, Moved r r' d d' p l lobby d.next_game_id_ := by
  obtain ⟨hr, hd⟩ := sound_run cfg inputs
  generalize run (step cfg) Lobbies.init inputs = w at hr hd
  dsimp only
  cases hp : w.lobby_registry_.getPlayerLobby p with
  | none =>
    rw [show GameManager.onStartGameRequestEvent cfg ord pos_gen w.lobby_registry_
      w.dungeon_registry_ p = (w.lobby_registry_, w.dungeon_registry_) by
        simp only [GameManager.onStartGameRequestEvent, hp]]
    exact Or.inl ⟨rfl, rfl, Or.inl hp⟩
  | some l =>
    obtain ⟨lobby, -, hl, -, -⟩ := hr.filed.lobby_of_member hp
    rw [GameManager.onStartGameRequestEvent_of_member hp hl]
    rcases DungeonRegistry.addDungeon_cases cfg w.dungeon_registry_ (.ofCfg cfg)
      (lobby.getAllPlayers ord) pos_gen with ⟨ha, he⟩ | ⟨-, hid, he⟩ | ⟨ha, hid, he⟩ <;>
      rw [he]
    · obtain ⟨q, hq, hqd⟩ := busy_of_not_admissible hr hl ha
      exact Or.inl ⟨rfl, rfl, Or.inr ⟨l, lobby, q, hp, hl, hq, hqd⟩⟩
    · refine Or.inr (Or.inl ⟨rfl, ⟨rfl, rfl, rfl⟩, ?_, rfl⟩)
      rw [DungeonRegistry.findDungeon, lookup_isSome]
      exact hid
    · exact Or.inr (Or.inr ⟨l, lobby, moved_of_admissible hr hd hp hl ha hid⟩)

/-! ### A number that comes up again -/

section LastNumber

open Dungeon LobbyManager Lobbies

/-- Settings under which one attack kills a player. -/
def deadly : Gameplay :=
  { Gameplay.default with monsters_per_player := 2, monster_default_attack := 100 }

/-- The four positions nearest the corner of the map, over and over. -/
def corner : PositionGenerator := ⟨fun n => ⟨Int64.ofNat (n % 2), Int64.ofNat (n / 2 % 2)⟩, 0⟩

def monsterAt (id : UInt64) (pos : Position) : Entity MobId :=
  ⟨⟨id⟩, pos, getCfgMonsterData deadly, .Alive⟩

/-- A new dungeon of one player. -/
def lone (p : PlayerId) : Dungeon where
  game_map_ := .ofCfg deadly
  players_ := ⟨(∅ : Finmap _).insert p ⟨p, ⟨0, 0⟩, getCfgPlayerData deadly, .Alive⟩⟩
  monsters_ := ⟨((∅ : Finmap _).insert ⟨0⟩ (monsterAt 0 ⟨1, 0⟩)).insert ⟨1⟩ (monsterAt 1 ⟨0, 1⟩)⟩
  pos_gen_ := ⟨corner.draws, 3⟩
  command_queue_ := []
  mob_id_counter_ := 2

variable {p : PlayerId}

/-- The dungeon while it is made: one player, and the monsters given. -/
def making (p : PlayerId) (monsters : Finmap fun _ : MobId => Entity MobId) (n : ℕ)
    (counter : UInt64) : Dungeon :=
  { lone p with monsters_ := ⟨monsters⟩, pos_gen_ := ⟨corner.draws, n⟩, mob_id_counter_ := counter }

lemma create_lone (hp : p = ⟨1⟩ ∨ p = ⟨2⟩) :
    Dungeon.create deadly (.ofCfg deadly) [p] corner = lone p := by
  have player : spawnPlayer deadly ⟨.ofCfg deadly, .empty, .empty, corner, [], 0⟩ p =
    making p ∅ 1 0 := (spawnPlayer_now notMem_empty (by decide)).trans rfl
  have first : spawnMonster deadly (making p ∅ 1 0) =
      making p ((∅ : Finmap _).insert ⟨0⟩ (monsterAt 0 ⟨1, 0⟩)) 2 1 := by
    rw [spawnMonster_now notMem_empty]
    · simp [making, lone, corner, monsterAt]
    · rcases hp with rfl | rfl <;> decide
  have second : spawnMonster deadly
      (making p ((∅ : Finmap _).insert ⟨0⟩ (monsterAt 0 ⟨1, 0⟩)) 2 1) = lone p := by
    rw [spawnMonster_now]
    · simp [making, lone, corner, monsterAt]
    · simp [making, mem_insert, notMem_empty]
    · rcases hp with rfl | rfl <;> decide
  calc Dungeon.create deadly (.ofCfg deadly) [p] corner
      = spawnMonster deadly (spawnMonster deadly
          (spawnPlayer deadly ⟨.ofCfg deadly, .empty, .empty, corner, [], 0⟩ p)) := rfl
    _ = lone p := by rw [player, first, second]

/-- A tick in which the monsters stay and `attacks` of them attack, each time the first. -/
noncomputable def outcomes (attacks : ℕ) : TickOutcomes where
  moveCount := 0
  attackCount := attacks
  moves _ := (0, Direction.kUp)
  attacks _ := 0
  playerOrder := default
  monsterOrder := default
  barrierOrder := default

lemma monsters_lone : (lone p).monsters_.entities_.size = 2 := rfl

lemma monsterTurn_lone (n : ℕ) : (lone p).monsterTurn deadly (outcomes n) =
    (List.range (min n 2)).foldl (fun d _ => d.attackPlayer (outcomes n) 100 0) (lone p) := by
  unfold monsterTurn
  rw [if_pos (by rw [monsters_lone]; omega)]
  simp [moveRandomMonsters, performRandomAttacks, outcomes, monsters_lone, deadly]

/-- There are no commands, so the tick is the turn of the monsters. -/
lemma processTick_lone (n : ℕ) : (lone p).processTick deadly (outcomes n) =
    let d := (lone p).monsterTurn deadly (outcomes n)
    if d.isGameOver then (none, d)
    else (some (createGameStateDTO (outcomes n)
      ⟨d.game_map_, d.players_.entities_, d.monsters_.entities_⟩), d) := rfl

/-- Nobody attacks and the dungeon stays as it is. -/
lemma processTick_idle : ∃ snapshot,
    (lone p).processTick deadly (outcomes 0) = (some snapshot, lone p) := by
  have alive : (lone p).isGameOver = false := by
    simp [isGameOver, lone, keys_insert, Entity.isAlive]
  have still : (lone p).monsterTurn deadly (outcomes 0) = lone p := by
    rw [monsterTurn_lone]
    rfl
  simp only [processTick_lone, still, alive]
  exact ⟨_, rfl⟩

/-- Both monsters are alive, one step from the player, and reach two. -/
lemma monster_near {id : MobId} {m : Entity MobId}
    (h : (lone p).monsters_.entities_.lookup id = some m) :
    m.isAlive = true ∧ m.position_.manhattanDistance ⟨0, 0⟩ = 1 ∧
      m.data_.radius_attack.toUInt64 = 2 := by
  have either : m = monsterAt 0 ⟨1, 0⟩ ∨ m = monsterAt 1 ⟨0, 1⟩ := by
    simp only [lone, lookup_insert_ite] at h
    split_ifs at h
    · exact Or.inr (Option.some.inj h).symm
    · exact Or.inl (Option.some.inj h).symm
    · cases h
  rcases either with rfl | rfl <;> decide

/-- The first monster, whichever it is, finds the player. -/
lemma attack_lone : ((lone p).attackPlayer (outcomes 1) 100 0).isGameOver = true := by
  obtain ⟨⟨id, m⟩, hm⟩ : ∃ x, ((outcomes 1).monsterOrder.entries
      (lone p).monsters_.entities_)[0]? = some x :=
    ⟨_, List.getElem?_eq_getElem (by rw [IterOrder.length_entries, monsters_lone]; omega)⟩
  obtain ⟨alive, dist, radius⟩ :=
    monster_near ((outcomes 1).monsterOrder.mem_entries.mp (List.mem_of_getElem? hm))
  have target : EntityManager.findClosestTarget (outcomes 1).playerOrder m.position_
      m.data_.radius_attack.toUInt64 (lone p).players_ = some p := by
    rw [EntityManager.findClosestTarget, lone, IterOrder.entries_singleton, radius]
    simp [EntityManager.closestTargetLoop, Entity.isAlive, dist]
  have dead (player : Entity PlayerId) (hs : player.isAlive) (hp : player.data_.health ≤ 100) :
      (if player.isAlive then player.damage 100 else player).isAlive = false := by
    rw [if_pos hs]
    exact Entity.not_isAlive_damage hp
  simp only [attackPlayer, hm, alive, target]
  simpa [isGameOver, lone, EntityManager.modifyEntity, modify_of_lookup (lookup_insert _),
    keys_insert] using dead _ rfl (UInt32.le_refl 100)

/-- One attack is deadly. -/
lemma processTick_deadly : ∃ d,
    (lone p).processTick deadly (outcomes 1) = (none, d) := by
  have turn : (lone p).monsterTurn deadly (outcomes 1) =
      (lone p).attackPlayer (outcomes 1) 100 0 := by
    rw [monsterTurn_lone]
    rfl
  simp only [processTick_lone, turn, attack_lone]
  exact ⟨_, rfl⟩

/-- The first game is still running, and the counter is at `next`. -/
def base (next : GameId) : DungeonRegistry where
  dungeons_ := (∅ : Finmap _).insert ⟨1⟩ (lone ⟨1⟩)
  player_to_dungeon_ := (∅ : Finmap _).insert ⟨1⟩ ⟨1⟩
  dungeon_to_players_ := (∅ : Finmap _).insert ⟨1⟩ [⟨1⟩]
  next_game_id_ := next

variable {next : UInt64} {g : GameId} {d : DungeonRegistry}

/-- A player alone in a lobby starts a game. -/
lemma start_alone (ord : IterOrder PlayerId) (hp : p ∉ d.player_to_dungeon_) :
    GameManager.onStartGameRequestEvent deadly ord corner (opened (vacant next) p) d p =
      if d.next_game_id_ ∈ d.dungeons_ then (opened (vacant next) p, d.generateNextId.2)
      else (vacant (next + 1), d.added deadly (.ofCfg deadly) [p] corner) := by
  obtain ⟨hlobby, hfind⟩ := find_opened (p := p) next
  have all : (Lobby.getAllPlayers ord ⟨⟨next⟩, (∅ : Finmap _).insert p ⟨false⟩, p⟩) = [p] := by
    rw [Lobby.getAllPlayers, keys_insert, keys_empty, insert_empty_eq, ord.list_singleton]
  have admissible : d.Admissible [p] :=
    ⟨List.cons_ne_nil p [], List.nodup_singleton p, fun q hq => by
      rwa [List.mem_singleton.mp hq]⟩
  rw [GameManager.onStartGameRequestEvent_of_member hlobby hfind, all]
  rcases DungeonRegistry.addDungeon_cases deadly d (.ofCfg deadly) [p] corner with
    ⟨ha, -⟩ | ⟨-, hid, he⟩ | ⟨-, hid, he⟩
  · exact absurd admissible ha
  · rw [he, if_pos hid]
    rfl
  · rw [he, if_neg hid, List.foldl_cons, remove_opened]
    rfl

/-- The tick in which the second game ends and the first goes on. -/
noncomputable def lastTick (id : GameId) : TickOutcomes :=
  if id = ⟨1⟩ then outcomes 0 else outcomes 1

lemma withDungeon_of_lookup {dungeon : Dungeon} (h : d.findDungeon g = some dungeon) :
    d.withDungeon g dungeon = d := by
  have : d.dungeons_.insert g dungeon = d.dungeons_ := by
    refine ext_lookup fun g' => ?_
    rw [lookup_insert_ite]
    split_ifs with hg
    · rw [hg]
      exact h.symm
    · rfl
  simp only [DungeonRegistry.withDungeon, this]

lemma tick_first (events : List Event) (removals : List GameId)
    (h : d.findDungeon ⟨1⟩ = some (lone ⟨1⟩)) :
    ∃ events', GameManager.tickDungeon deadly lastTick (events, removals, d) ⟨1⟩ =
      (events', removals, d) := by
  obtain ⟨snapshot, hs⟩ := processTick_idle (p := ⟨1⟩)
  simp only [GameManager.tickDungeon, h, lastTick, if_true, hs, withDungeon_of_lookup h]
  exact ⟨_, rfl⟩

lemma tick_second (events : List Event) (removals : List GameId) (hg : g ≠ ⟨1⟩)
    (h : d.findDungeon g = some (lone p)) :
    ∃ events' dungeon, GameManager.tickDungeon deadly lastTick (events, removals, d) g =
      (events', removals ++ [g], d.withDungeon g dungeon) := by
  obtain ⟨dungeon, hd⟩ := processTick_deadly (p := p)
  simp only [GameManager.tickDungeon, h, lastTick, if_neg hg, hd]
  exact ⟨_, _, rfl⟩

lemma second_free (next : GameId) : (⟨2⟩ : PlayerId) ∉ (base next).player_to_dungeon_ := by
  simp [base, mem_insert, notMem_empty]

lemma number_free (hg : g ≠ ⟨1⟩) (next : GameId) :
    g ∉ (base next).dungeons_ ∧ g ∉ (base next).dungeon_to_players_ := by
  simpa [base, mem_insert, notMem_empty] using hg

/-- The registry with both games running. -/
lemma added_base (hg : g ≠ ⟨1⟩) : (base g).added deadly (.ofCfg deadly) [⟨2⟩] corner =
    { dungeons_ := (base g).dungeons_.insert g (lone ⟨2⟩)
      player_to_dungeon_ := (base g).player_to_dungeon_.insert ⟨2⟩ g
      dungeon_to_players_ := (base g).dungeon_to_players_.insert g [⟨2⟩]
      next_game_id_ := ⟨g.value + 1⟩ } := by
  simp only [DungeonRegistry.added, create_lone (Or.inr rfl), List.foldl_cons, List.foldl_nil]
  rw [emplace_of_notMem (second_free g), show (base g).next_game_id_ = g from rfl,
    emplace_of_notMem (number_free hg g).2]

/-- The second game is gone after the tick. -/
lemma tick_added (hg : g ≠ ⟨1⟩) (ord : IterOrder GameId) :
    ∃ events, GameManager.onGameTickEvent deadly ord lastTick
      ((base g).added deadly (.ofCfg deadly) [⟨2⟩] corner) = (events, base ⟨g.value + 1⟩) := by
  rw [added_base hg]
  generalize hd : (⟨_, _, _, _⟩ : DungeonRegistry) = d
  have first : d.findDungeon ⟨1⟩ = some (lone ⟨1⟩) := by
    rw [← hd, DungeonRegistry.findDungeon, lookup_insert_of_ne _ hg.symm]
    rfl
  have second : d.findDungeon g = some (lone ⟨2⟩) := by
    rw [← hd]
    exact lookup_insert _
  have order : ord.list d.getAllDungeons.keys = [⟨1⟩, g] ∨
      ord.list d.getAllDungeons.keys = [g, ⟨1⟩] := by
    have keys : d.getAllDungeons.keys = {⟨1⟩, g} := by
      rw [← hd, DungeonRegistry.getAllDungeons, keys_insert, base, keys_insert, keys_empty,
        insert_empty_eq, Finset.pair_comm]
    rw [keys]
    exact ord.list_pair hg.symm
  obtain ⟨events, dungeon, ticked⟩ : ∃ events dungeon, (ord.list d.getAllDungeons.keys).foldl
      (GameManager.tickDungeon deadly lastTick) ([], [], d) =
        (events, [g], d.withDungeon g dungeon) := by
    rcases order with ho | ho <;> rw [ho, List.foldl_cons, List.foldl_cons, List.foldl_nil]
    · obtain ⟨events, he⟩ := tick_first [] [] first
      obtain ⟨events', dungeon, he'⟩ := tick_second events [] hg second
      exact ⟨events', dungeon, by rw [he, he']; rfl⟩
    · obtain ⟨events, dungeon, he⟩ := tick_second [] [] hg second
      obtain ⟨events', he'⟩ := tick_first (d := d.withDungeon g dungeon) events [g]
        ((lookup_insert_of_ne _ hg.symm).trans first)
      exact ⟨events', dungeon, by rw [he]; exact he'⟩
  refine ⟨events, ?_⟩
  have gone : (d.withDungeon g dungeon).removeDungeon g = (true, base ⟨g.value + 1⟩) := by
    have players : (d.withDungeon g dungeon).dungeon_to_players_.lookup g = some [⟨2⟩] := by
      rw [← hd]
      exact lookup_insert _
    obtain ⟨new, list⟩ := number_free hg g
    rw [DungeonRegistry.removeDungeon_of_lookup (mem_insert.mpr (Or.inl rfl)) players, ← hd]
    simp only [DungeonRegistry.removed, DungeonRegistry.withDungeon, insert_insert,
      erase_insert_of_notMem new, List.foldl_cons, List.foldl_nil,
      erase_insert_of_notMem (second_free g), erase_insert_of_notMem list]
    rfl
  simp only [GameManager.onGameTickEvent, ticked, List.foldl_cons, List.foldl_nil, gone]

/-- The positions drawn lie in the map of new games. -/
def InMap (cfg : Gameplay) (gen : PositionGenerator) : Prop :=
  ∀ n, (GameMap.ofCfg cfg).isInMap (gen.draws n)

def Input.InMap (cfg : Gameplay) : Input → Prop
  | .request input => Games.InMap cfg input.pos_gen
  | _ => True

lemma corner_inMap : InMap deadly corner := by
  intro n
  show (GameMap.ofCfg deadly).isInMap ⟨Int64.ofNat (n % 2), Int64.ofNat (n / 2 % 2)⟩
  rcases Nat.mod_two_eq_zero_or_one n with hx | hx <;>
    rcases Nat.mod_two_eq_zero_or_one (n / 2) with hy | hy <;> rw [hx, hy] <;> decide

noncomputable def ask (e : Event) : Input := .request ⟨e, default, default, corner⟩

lemma create_alone (p : PlayerId) (next : UInt64) (d : DungeonRegistry)
    (published : List Event) :
    ∃ published', step deadly ⟨vacant next, d, published⟩ (ask (.createLobbyRequest p)) =
      ⟨opened (vacant next) p, d, published'⟩ := by
  have places : deadly.lobby_max_players.toNat ≠ 0 := by decide
  have hcreate := create_vacant (p := p) default places next
  simp only [step, ask, Lobbies.step, handle, hcreate]
  exact ⟨_, rfl⟩

lemma ask_start (next : UInt64) (hp : p ∉ d.player_to_dungeon_)
    (hid : d.next_game_id_ ∉ d.dungeons_) (published : List Event) :
    step deadly ⟨opened (vacant next) p, d, published⟩ (ask (.startGameRequest p)) =
      ⟨vacant (next + 1), d.added deadly (.ofCfg deadly) [p] corner, published ++ []⟩ := by
  simp only [step, ask, Lobbies.step, handle, start_alone default hp, if_neg hid]

/-- The first game. -/
lemma added_empty : DungeonRegistry.empty.added deadly (.ofCfg deadly) [⟨1⟩] corner =
    base ⟨2⟩ := by
  simp only [DungeonRegistry.added, create_lone (Or.inl rfl), List.foldl_cons, List.foldl_nil]
  rw [emplace_of_notMem (m := DungeonRegistry.empty.player_to_dungeon_) notMem_empty,
    emplace_of_notMem (m := DungeonRegistry.empty.dungeon_to_players_) notMem_empty]
  rfl

/-- One game goes on while others come and go. -/
lemma exists_rounds (n : ℕ) (hn : n < 2 ^ 64) : ∃ inputs, (∀ i ∈ inputs, Input.InMap deadly i) ∧
    ∃ next published, run (step deadly) init inputs =
      ⟨vacant next, base ⟨UInt64.ofNat (n + 2)⟩, published⟩ := by
  induction n with
  | zero =>
    refine ⟨[ask (.createLobbyRequest ⟨1⟩), ask (.startGameRequest ⟨1⟩)], ?_, 2, ?_⟩
    · simp [ask, Input.InMap, corner_inMap]
    · obtain ⟨published, hc⟩ := create_alone ⟨1⟩ 1 .empty []
      have hs := ask_start (p := ⟨1⟩) (d := .empty) 1 notMem_empty notMem_empty published
      refine ⟨published ++ [], ?_⟩
      rw [run_cons, run_cons, run_nil, show init = ⟨vacant 1, .empty, []⟩ from rfl, hc, hs,
        added_empty]
      rfl
  | succ n ih =>
    obtain ⟨inputs, legal, next, published, hr⟩ := ih (by omega)
    have hg : (⟨UInt64.ofNat (n + 2)⟩ : GameId) ≠ ⟨1⟩ := by
      intro he
      have := congrArg (fun g : GameId => g.value.toNat) he
      simp at this
      omega
    obtain ⟨published', hc⟩ := create_alone ⟨2⟩ next
      (base ⟨UInt64.ofNat (n + 2)⟩) published
    have hs := ask_start next (second_free ⟨UInt64.ofNat (n + 2)⟩)
      (number_free hg ⟨UInt64.ofNat (n + 2)⟩).1 published'
    obtain ⟨events, ht⟩ := tick_added hg default
    refine ⟨inputs ++ [ask (.createLobbyRequest ⟨2⟩), ask (.startGameRequest ⟨2⟩),
      .gameTick default lastTick], ?_, next + 1, published' ++ [] ++ events, ?_⟩
    · intro i hi
      rcases List.mem_append.mp hi with hi | hi
      · exact legal i hi
      · simp only [List.mem_cons, List.not_mem_nil, or_false] at hi
        rcases hi with rfl | rfl | rfl
        · exact corner_inMap
        · exact corner_inMap
        · trivial
    · rw [run_append, hr, run_cons, run_cons, run_cons, run_nil, hc, hs]
      simp only [step, ht, UInt64.ofNat_add (n + 2) 1, Nat.add_right_comm n 1 2]
      rfl

/-- A number that comes up again while its game is running is lost, though nobody in the
lobby is in a dungeon. -/
theorem start_may_lose_number :
    ¬ ∀ (cfg : Gameplay) (inputs : List Input) (ord : IterOrder PlayerId)
      (pos_gen : PositionGenerator) (p : PlayerId),
      (∀ i ∈ inputs, Input.InMap cfg i) → InMap cfg pos_gen →
      let w := run (step cfg) init inputs
      let r := w.lobby_registry_
      let d := w.dungeon_registry_
      let (r', d') := GameManager.onStartGameRequestEvent cfg ord pos_gen r d p
      (r' = r ∧ d' = d ∧ Refusable r d p) ∨ ∃ l lobby g, Moved r r' d d' p l lobby g := by
  intro h
  obtain ⟨inputs, legal, next, published, hr⟩ := exists_rounds (2 ^ 64 - 1) (by omega)
  obtain ⟨published', hc⟩ := create_alone ⟨2⟩ next
    (base ⟨UInt64.ofNat (2 ^ 64 - 1 + 2)⟩) published
  have hstart := h deadly (inputs ++ [ask (.createLobbyRequest ⟨2⟩)]) default corner ⟨2⟩
    (fun i hi => by
      rcases List.mem_append.mp hi with hi | hi
      · exact legal i hi
      · rw [List.mem_singleton.mp hi]
        exact corner_inMap) corner_inMap
  have taken : (base ⟨UInt64.ofNat (2 ^ 64 - 1 + 2)⟩).next_game_id_ ∈
      (base ⟨UInt64.ofNat (2 ^ 64 - 1 + 2)⟩).dungeons_ := by
    simp [base, mem_insert]
  rw [run_snoc, hr, hc] at hstart
  simp only [start_alone default (second_free _), if_pos taken] at hstart
  rcases hstart with ⟨-, hd, -⟩ | ⟨l, lobby, g, moved⟩
  · have := congrArg DungeonRegistry.next_game_id_ hd
    simp [DungeonRegistry.generateNextId, base] at this
  · have := moved.lobby_found.symm.trans moved.lobby_gone.1
    cases this

end LastNumber

end Games

end DungeonCrawler
