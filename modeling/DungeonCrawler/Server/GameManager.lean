import DungeonCrawler.Domain.DungeonRegistry
import DungeonCrawler.Domain.LobbyManager
import DungeonCrawler.Lib.Runs

/-!
The start of games, their ticks and commands, and the lobbies over whole runs of the
handlers of lobby requests.

Each handler is executed from its first line to its last. Orders of iteration and the
positions drawn for a new dungeon come with the request.
-/

namespace DungeonCrawler

namespace GameManager

open LobbyRegistry

/-- The handler publishes nothing; it changes the two registries. -/
def onStartGameRequestEvent (cfg : Gameplay) (ord : IterOrder PlayerId)
    (pos_gen : PositionGenerator) (lobby_registry : LobbyRegistry)
    (dungeon_registry : DungeonRegistry) (player_id : PlayerId) :
    LobbyRegistry × DungeonRegistry :=
  match lobby_registry.getPlayerLobby player_id with
  | none => (lobby_registry, dungeon_registry)
  | some lobby_id =>
    match lobby_registry.findLobby lobby_id with
    | none => (lobby_registry, dungeon_registry)
    | some lobby =>
      match dungeon_registry.addDungeon cfg (.ofCfg cfg) (lobby.getAllPlayers ord) pos_gen with
      | (false, dungeon_registry) => (lobby_registry, dungeon_registry)
      | (true, dungeon_registry) =>
        ((lobby.getAllPlayers ord).foldl
          (fun r pid => (r.removePlayerFromLobby ord pid).2) lobby_registry, dungeon_registry)

/-- What a request to start does is up to the registry of dungeons, once the lobby is found. -/
lemma onStartGameRequestEvent_of_member {cfg : Gameplay} {ord : IterOrder PlayerId}
    {pos_gen : PositionGenerator} {r : LobbyRegistry} {d : DungeonRegistry} {p : PlayerId}
    {l : LobbyId} {lobby : Lobby} (hp : r.getPlayerLobby p = some l)
    (hl : r.findLobby l = some lobby) :
    onStartGameRequestEvent cfg ord pos_gen r d p =
      (if (d.addDungeon cfg (.ofCfg cfg) (lobby.getAllPlayers ord) pos_gen).1 then
        (lobby.getAllPlayers ord).foldl (fun r pid => (r.removePlayerFromLobby ord pid).2) r
      else r, (d.addDungeon cfg (.ofCfg cfg) (lobby.getAllPlayers ord) pos_gen).2) := by
  simp only [onStartGameRequestEvent, hp, hl]
  split <;> rename_i h <;> simp [h]

/-- One round of the loop over the dungeons, with the events published and the dungeons to
remove so far. -/
def tickDungeon (cfg : Gameplay) (outcomes : GameId → TickOutcomes)
    (acc : List Event × List GameId × DungeonRegistry) (game_id : GameId) :
    List Event × List GameId × DungeonRegistry :=
  let (events, dungeons_to_remove, r) := acc
  match r.findDungeon game_id with
  | none => acc
  | some dungeon =>
    match dungeon.processTick cfg (outcomes game_id) with
    | (none, dungeon) =>
      (events ++ (dungeon.getPlayers (outcomes game_id).playerOrder).map .gameOver,
        dungeons_to_remove ++ [game_id], r.withDungeon game_id dungeon)
    | (some snapshot, dungeon) =>
      (events ++ [.gameStateUpdate game_id (some snapshot)], dungeons_to_remove,
        r.withDungeon game_id dungeon)

/-- The dungeons come in the order of the table; what chance decides in each is given. -/
def onGameTickEvent (cfg : Gameplay) (ord : IterOrder GameId)
    (outcomes : GameId → TickOutcomes) (dungeon_registry : DungeonRegistry) :
    List Event × DungeonRegistry :=
  let (events, dungeons_to_remove, dungeon_registry) :=
    (ord.list dungeon_registry.getAllDungeons.keys).foldl (tickDungeon cfg outcomes)
      ([], [], dungeon_registry)
  (events, dungeons_to_remove.foldl (fun r game_id => (r.removeDungeon game_id).2)
    dungeon_registry)

/-- The dungeon of a player takes a command, if there is one. -/
def commandDungeon (dungeon_registry : DungeonRegistry) (player_id : PlayerId)
    (command : Dungeon → Dungeon) : DungeonRegistry :=
  match dungeon_registry.findPlayerDungeon player_id with
  | none => dungeon_registry
  | some game_id =>
    match dungeon_registry.findDungeon game_id with
    | none => dungeon_registry
    | some dungeon => dungeon_registry.withDungeon game_id (command dungeon)

def onMoveRequestEvent (dungeon_registry : DungeonRegistry) (player_id : PlayerId)
    (direction : Direction) : DungeonRegistry :=
  commandDungeon dungeon_registry player_id (·.addMovePlayerCommand player_id direction)

def onAttackRequestEvent (cfg : Gameplay) (dungeon_registry : DungeonRegistry)
    (player_id : PlayerId) : DungeonRegistry :=
  commandDungeon dungeon_registry player_id
    (·.addPlayerAttackCommand player_id cfg.player_default_attack)

lemma keeps_onStartGameRequestEvent {cfg : Gameplay} {ord : IterOrder PlayerId}
    {pos_gen : PositionGenerator} {r : LobbyRegistry} {d : DungeonRegistry} {p : PlayerId}
    {max : UInt16} (h : r.Sound max) :
    Keeps max r (onStartGameRequestEvent cfg ord pos_gen r d p).1 := by
  unfold onStartGameRequestEvent
  split
  · exact h.keeps_self
  · split
    · exact h.keeps_self
    · split
      · exact h.keeps_self
      · exact h.keeps_removePlayers ord _

end GameManager

/-- The registries that the handlers of lobbies and games share, and all the events
published so far. -/
structure Lobbies where
  lobby_registry_ : LobbyRegistry
  dungeon_registry_ : DungeonRegistry
  published : List Event

namespace Lobbies

open Finmap Runs LobbyRegistry LobbyManager

def init : Lobbies := ⟨.empty, .empty, []⟩

/-- A request with what is left to chance while it is handled. -/
structure Input where
  request : Event
  playerOrder : IterOrder PlayerId
  lobbyOrder : IterOrder LobbyId
  pos_gen : PositionGenerator

def handle (cfg : Gameplay) (w : Lobbies) (i : Input) :
    List Event × LobbyRegistry × DungeonRegistry :=
  let r := w.lobby_registry_
  let d := w.dungeon_registry_
  match i.request with
  | .createLobbyRequest p =>
    let (events, r) := onCreateLobbyRequest cfg.lobby_max_players i.playerOrder r p
    (events, r, d)
  | .joinLobbyRequest p l =>
    let (events, r) := onJoinLobbyRequest cfg.lobby_max_players i.playerOrder r p l
    (events, r, d)
  | .leaveLobbyRequest p =>
    let (events, r) := onLeaveLobbyRequest i.playerOrder r p
    (events, r, d)
  | .playerReadyRequest p is_ready =>
    let (events, r) := onPlayerReadyRequest i.playerOrder r p is_ready
    (events, r, d)
  | .listLobbiesRequest p =>
    let (events, r) := onListLobbiesRequest i.lobbyOrder r p
    (events, r, d)
  | .startGameRequest p =>
    ([], GameManager.onStartGameRequestEvent cfg i.playerOrder i.pos_gen r d p)
  | _ => ([], r, d)

def step (cfg : Gameplay) (w : Lobbies) (i : Input) : Lobbies :=
  let (events, r, d) := w.handle cfg i
  ⟨r, d, w.published ++ events⟩

/-- What is published for a request tells a player what has become of it: the player who made
it. -/
lemma answer_of_handle (cfg : Gameplay) (w : Lobbies) (i : Input) :
    ∀ e ∈ (w.handle cfg i).1, ∃ p, lobbyAnswer e = some p ∧
      ∀ q, i.request.requestPlayer = some q → q = p := by
  obtain ⟨request, playerOrder, lobbyOrder, pos_gen⟩ := i
  intro e he
  cases request with
  | createLobbyRequest p =>
    exact ⟨p, answer_onCreateLobbyRequest _ _ _ p e he, fun q hq => (Option.some.inj hq).symm⟩
  | joinLobbyRequest p l =>
    exact ⟨p, answer_onJoinLobbyRequest _ _ _ p l e he, fun q hq => (Option.some.inj hq).symm⟩
  | leaveLobbyRequest p =>
    exact ⟨p, answer_onLeaveLobbyRequest _ _ p e he, fun q hq => (Option.some.inj hq).symm⟩
  | playerReadyRequest p is_ready =>
    exact ⟨p, answer_onPlayerReadyRequest _ _ p is_ready e he, fun q hq => by cases hq⟩
  | listLobbiesRequest p =>
    rw [List.mem_singleton.mp he]
    exact ⟨p, rfl, fun q hq => (Option.some.inj hq).symm⟩
  | _ => cases he

def isCreation : Event → Bool
  | .lobbyCreatedResponse _ _ => true
  | _ => false

/-- The number of lobbies created so far. -/
def creations (w : Lobbies) : ℕ := w.published.countP isCreation

/-- The registry of lobbies is sound, and while fewer than `2 ^ 64 - 1` lobbies were created
the identifiers in use are below the next one. -/
structure Lawful (max : UInt16) (w : Lobbies) : Prop where
  sound : w.lobby_registry_.Sound max
  ids_below : w.creations < 2 ^ 64 - 1 →
    ∀ l ∈ w.lobby_registry_.lobbies_, l.value < w.lobby_registry_.next_id_.value

/-- The counter is one ahead of the creations, as long as lobbies can be created at all. -/
structure Counted (max : UInt16) (w : Lobbies) : Prop extends Lawful max w where
  counter : max.toNat ≠ 0 → w.creations < 2 ^ 64 - 1 →
    w.lobby_registry_.next_id_.value.toNat = w.creations + 1

variable {cfg : Gameplay} {max : UInt16} {w : Lobbies} {events : List Event}
variable {r : LobbyRegistry} {d : DungeonRegistry} {p : PlayerId}

lemma counted_init : init.Counted max where
  sound := sound_empty
  ids_below _ _ hl := absurd hl notMem_empty
  counter _ _ := rfl

lemma creations_step (hn : events.countP isCreation = 0) :
    creations ⟨r, d, w.published ++ events⟩ = w.creations := by
  simp [creations, List.countP_append, hn]

/-- A handler that opens no lobby keeps the count. -/
lemma Counted.keeps (h : w.Counted max) (hk : Keeps max w.lobby_registry_ r)
    (hn : events.countP isCreation = 0) :
    Counted max ⟨r, d, w.published ++ events⟩ := by
  have hc := creations_step (w := w) (r := r) (d := d) hn
  refine ⟨⟨hk.sound, fun hlt l hl => ?_⟩, fun hm hlt => ?_⟩
  · rw [hc] at hlt
    rw [hk.next_id]
    exact h.ids_below hlt l (hk.keys l hl)
  · rw [hc] at hlt ⊢
    rw [hk.next_id]
    exact h.counter hm hlt

lemma no_lobby_of_no_place (h : r.Sound max) (hm : max.toNat = 0) (l : LobbyId) :
    l ∉ r.lobbies_ := fun hl => by
  obtain ⟨lobby, hlobby⟩ := mem_iff.mp hl
  have h1 := h.has_player l lobby hlobby
  have h2 := h.at_most_max l lobby hlobby
  omega

/-- A creation that fails after a number was handed out. The number is lost only where no
lobby can be opened, or after the counter wrapped. -/
lemma Counted.advance (h : w.Counted max)
    (hid : w.lobby_registry_.next_id_ ∈ w.lobby_registry_.lobbies_ ∨ max.toNat = 0)
    (hn : events.countP isCreation = 0) :
    Counted max ⟨advanced w.lobby_registry_, d, w.published ++ events⟩ := by
  have hc : creations ⟨advanced w.lobby_registry_, d, w.published ++ events⟩ =
    w.creations := creations_step hn
  have no_place (hlt : w.creations < 2 ^ 64 - 1) : max.toNat = 0 := by
    rcases hid with hid | hm
    · exact absurd (h.ids_below hlt _ hid) (UInt64.lt_irrefl _)
    · exact hm
  refine ⟨⟨sound_advanced h.sound, fun hlt l hl => ?_⟩, fun hm hlt => ?_⟩
  · rw [hc] at hlt
    exact absurd hl (no_lobby_of_no_place h.sound (no_place hlt) l)
  · rw [hc] at hlt
    exact absurd (no_place hlt) hm

/-- A lobby opened takes the identifier that the counter was at. -/
lemma Counted.create (h : w.Counted max) (hp : p ∉ w.lobby_registry_.player_to_lobby_)
    (hid : w.lobby_registry_.next_id_ ∉ w.lobby_registry_.lobbies_) (hm : max.toNat ≠ 0) :
    Counted max ⟨opened w.lobby_registry_ p, d, w.published ++
      [.lobbyCreatedResponse p w.lobby_registry_.next_id_]⟩ := by
  have hc : creations ⟨opened w.lobby_registry_ p, d, w.published ++
      [.lobbyCreatedResponse p w.lobby_registry_.next_id_]⟩ = w.creations + 1 := by
    simp [creations, List.countP_append, isCreation]
  have next (hlt : w.creations + 1 < 2 ^ 64 - 1) :
      w.lobby_registry_.next_id_.value.toNat = w.creations + 1 ∧
        (w.lobby_registry_.next_id_.value + 1).toNat = w.creations + 2 := by
    have hcount := h.counter hm (by omega)
    refine ⟨hcount, ?_⟩
    rw [UInt64.toNat_add, hcount, UInt64.toNat_one]
    omega
  refine ⟨⟨sound_opened h.sound hp hid hm, fun hlt l hl => ?_⟩, fun _ hlt => ?_⟩
  · rw [hc] at hlt
    obtain ⟨hn, hn'⟩ := next hlt
    rw [UInt64.lt_iff_toNat_lt]
    show l.value.toNat < (w.lobby_registry_.next_id_.value + 1).toNat
    rw [hn']
    rcases mem_insert.mp hl with rfl | hl
    · omega
    · have := UInt64.lt_iff_toNat_lt.mp (h.ids_below (by omega) l hl)
      omega
  · rw [hc] at hlt ⊢
    exact (next hlt).2

lemma counted_onCreateLobbyRequest (h : w.Counted max) (ord : IterOrder PlayerId)
    (p : PlayerId) :
    Counted max ⟨(onCreateLobbyRequest max ord w.lobby_registry_ p).2, d,
      w.published ++ (onCreateLobbyRequest max ord w.lobby_registry_ p).1⟩ := by
  rcases onCreateLobbyRequest_cases h.sound ord p with
    ⟨-, he⟩ | ⟨-, hid, he⟩ | ⟨hp, hid, hm, he⟩ <;> rw [he]
  · exact h.keeps h.sound.keeps_self rfl
  · exact h.advance hid rfl
  · exact h.create hp hid hm

lemma countP_onJoinLobbyRequest {ord : IterOrder PlayerId} {l : LobbyId} :
    (onJoinLobbyRequest max ord r p l).1.countP isCreation = 0 := by
  unfold onJoinLobbyRequest
  split
  · rfl
  · split_ifs
    · rfl
    · split <;> rfl

lemma countP_onLeaveLobbyRequest {ord : IterOrder PlayerId} :
    (onLeaveLobbyRequest ord r p).1.countP isCreation = 0 := by
  unfold onLeaveLobbyRequest
  split
  · rfl
  · rfl
  · split <;> rfl

lemma countP_onPlayerReadyRequest {ord : IterOrder PlayerId} {b : Bool} :
    (onPlayerReadyRequest ord r p b).1.countP isCreation = 0 := by
  unfold onPlayerReadyRequest
  split
  · rfl
  · rfl
  · split <;> rfl

lemma Counted.step (h : w.Counted cfg.lobby_max_players) (i : Input) :
    (step cfg w i).Counted cfg.lobby_max_players := by
  unfold Lobbies.step handle
  obtain ⟨request, playerOrder, lobbyOrder, pos_gen⟩ := i
  cases request with
  | createLobbyRequest p => exact counted_onCreateLobbyRequest h playerOrder p
  | joinLobbyRequest p l =>
    exact h.keeps (keeps_onJoinLobbyRequest h.sound) countP_onJoinLobbyRequest
  | leaveLobbyRequest p =>
    exact h.keeps (keeps_onLeaveLobbyRequest h.sound) countP_onLeaveLobbyRequest
  | playerReadyRequest p b =>
    exact h.keeps (keeps_onPlayerReadyRequest h.sound) countP_onPlayerReadyRequest
  | listLobbiesRequest p => exact h.keeps h.sound.keeps_self rfl
  | startGameRequest p =>
    exact h.keeps (GameManager.keeps_onStartGameRequestEvent h.sound) rfl
  | _ => exact h.keeps h.sound.keeps_self rfl

/-- **Lobbies stay sound.** In every state of every run of the handlers the three records of
membership agree, every lobby is stored under its own identifier, has a player, is not
overfull and is led by one of its players; and every identifier in use is below the next
one while fewer than `2 ^ 64 - 1` lobbies were created. -/
theorem always_lawful (cfg : Gameplay) (inputs : List Input) :
    Always (step cfg) (Lawful cfg.lobby_max_players) init inputs := by
  intro us _ _
  exact (run_inv (I := Counted cfg.lobby_max_players) (fun w i h => h.step i) counted_init
    us).toLawful

/-! ### The last identifier -/

/-- A registry without lobbies, at some value of the counter. -/
def vacant (next : UInt64) : LobbyRegistry := ⟨∅, ∅, ∅, ⟨next⟩⟩

lemma sound_vacant (next : UInt64) : (vacant next).Sound max :=
  ⟨Fibers.empty, Fibers.empty, fun _ => iff_of_false notMem_empty notMem_empty,
    by simp [vacant, findLobby], by simp [vacant, findLobby], by simp [vacant, findLobby],
    by simp [vacant, findLobby]⟩

lemma create_vacant (ord : IterOrder PlayerId) (hm : max.toNat ≠ 0) (next : UInt64) :
    onCreateLobbyRequest max ord (vacant next) p =
      ([.lobbyCreatedResponse p ⟨next⟩], opened (vacant next) p) := by
  have hsound : (vacant next).Sound max := sound_vacant next
  rcases onCreateLobbyRequest_cases hsound ord p with
    ⟨hp, -⟩ | ⟨-, hid | hm', -⟩ | ⟨-, -, -, he⟩
  · exact absurd hp notMem_empty
  · exact absurd hid notMem_empty
  · exact absurd hm' hm
  · exact he

/-- The only player of the only lobby is found in it. -/
lemma find_opened (next : UInt64) :
    (opened (vacant next) p).getPlayerLobby p = some ⟨next⟩ ∧
      (opened (vacant next) p).findLobby ⟨next⟩ =
        some ⟨⟨next⟩, (∅ : Finmap _).insert p ⟨false⟩, p⟩ :=
  ⟨lookup_insert _, lookup_insert _⟩

/-- The only player of the only lobby is removed. -/
lemma remove_opened (ord : IterOrder PlayerId) (next : UInt64) :
    (opened (vacant next) p).removePlayerFromLobby ord p = (true, vacant (next + 1)) := by
  obtain ⟨hp, hl⟩ := find_opened (p := p) next
  have hs : (opened (vacant next) p).lobby_players_.lookup ⟨next⟩ = some {p} :=
    lookup_insert _
  obtain ⟨leader, hr, -⟩ := Lobby.removePlayer_of_mem
    (l := ⟨⟨next⟩, (∅ : Finmap _).insert p ⟨false⟩, p⟩) ord (mem_insert.mpr (Or.inl rfl))
  rw [removePlayerFromLobby_of_member hp hl hs hr, erase_insert_of_notMem notMem_empty,
    if_pos (by simp [Lobby.isEmpty, size])]
  simp [departed, without, opened, vacant, insert_insert, erase_insert_of_notMem notMem_empty]

/-- The only player of the only lobby leaves. -/
lemma leave_opened (ord : IterOrder PlayerId) (next : UInt64) :
    onLeaveLobbyRequest ord (opened (vacant next) p) p =
      ([.leaveLobbyResponse p], vacant (next + 1)) := by
  obtain ⟨hp, hl⟩ := find_opened (p := p) next
  simp only [onLeaveLobbyRequest, getLobbyForPlayer, hp, hl, remove_opened]

noncomputable def request (e : Event) : Input := ⟨e, default, default, ⟨fun _ => ⟨0, 0⟩, 0⟩⟩

lemma places_default : Gameplay.default.lobby_max_players.toNat ≠ 0 := by decide

/-- A player may open a lobby and leave it as often as there are identifiers. -/
lemma exists_round_trips (n : ℕ) :
    ∃ inputs, (run (step .default) init inputs).lobby_registry_ = vacant (UInt64.ofNat (n + 1)) ∧
      (run (step .default) init inputs).creations = n := by
  induction n with
  | zero => exact ⟨[], rfl, rfl⟩
  | succ n ih =>
    obtain ⟨inputs, hr, hc⟩ := ih
    refine ⟨inputs ++ [request (.createLobbyRequest ⟨1⟩), request (.leaveLobbyRequest ⟨1⟩)], ?_⟩
    rw [run_append]
    generalize run (step .default) init inputs = w at hr hc
    have hcreate := create_vacant (p := ⟨1⟩) default places_default (UInt64.ofNat (n + 1))
    have hleave := leave_opened (p := ⟨1⟩) default (UInt64.ofNat (n + 1))
    simp only [run_cons, run_nil, step, handle, request, hr, hcreate, hleave]
    refine ⟨by rw [UInt64.ofNat_add (n + 1) 1]; rfl, ?_⟩
    simp [creations, List.countP_append, List.countP_cons, isCreation, ← hc]

/-- The lobby that gets the last identifier is not below the counter, which has wrapped. -/
theorem last_identifier_not_below :
    ¬ ∀ (cfg : Gameplay) (inputs : List Input),
      Always (step cfg) (fun w => w.lobby_registry_.Sound cfg.lobby_max_players ∧
        (w.creations < 2 ^ 64 → ∀ l ∈ w.lobby_registry_.lobbies_,
          l.value < w.lobby_registry_.next_id_.value)) init inputs := by
  intro h
  obtain ⟨inputs, hr, hc⟩ := exists_round_trips (2 ^ 64 - 2)
  have hl := (h .default (inputs ++ [request (.createLobbyRequest ⟨1⟩)])).last.2
  rw [run_snoc] at hl
  generalize run (step .default) init inputs = w at hr hc hl
  have hcreate := create_vacant (p := ⟨1⟩) default places_default
    (UInt64.ofNat (2 ^ 64 - 2 + 1))
  simp only [step, handle, request, hr, hcreate] at hl
  have hin := hl (by simp [creations, List.countP_append, isCreation] at hc ⊢; omega)
    ⟨UInt64.ofNat (2 ^ 64 - 2 + 1)⟩ (mem_insert.mpr (Or.inl rfl))
  exact absurd hin (by decide)

end Lobbies

end DungeonCrawler
