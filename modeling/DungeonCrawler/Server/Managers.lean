import DungeonCrawler.Server.GameManager

/-!
The start of a game beside the handlers that create, join and leave lobbies.

The two managers share the registry of lobbies and run on strands of their own. A strand makes
one call on a registry or on a lobby at a time, and the calls of the other strand come in
between. A lobby that was found is held by a shared pointer: its holder sees what becomes of
it, and keeps it when the registry drops it.
-/

namespace DungeonCrawler

/-- A lobby that was found, as it is by now, and whether the registry still holds it. -/
structure LobbyPtr where
  lobby_id : LobbyId
  lobby : Lobby
  stored : Bool

/-- The removal of a player by the start of a game: whether the player was in the lobby then,
and what the call returned. -/
structure Removal where
  player : PlayerId
  member : Bool
  removed : Bool

/-- A start of a game from the second reading of the members on: the players that were put
into the dungeon, those still to be removed, and the removals made. -/
structure Start where
  players : List PlayerId
  left : List PlayerId
  removals : List Removal

namespace Managers

/-- The call that the strand of the game manager makes next, with the variables of the
handler. -/
inductive Starting
  | idle
  | getPlayerLobby (player_id : PlayerId)
  | findLobby (lobby_id : LobbyId)
  | getAllPlayers (lobby : LobbyPtr)
  | addDungeon (lobby : LobbyPtr) (players : List PlayerId)
  | getAllPlayersAgain (lobby : LobbyPtr) (players : List PlayerId)
  | removePlayers (lobby : LobbyPtr) (start : Start)

/-- The call that the strand of the lobby manager makes next. -/
inductive Handling
  | idle
  -- create
  | isPlayerInLobby (player_id : PlayerId)
  | generateNextLobbyId (player_id : PlayerId)
  | addLobby (player_id : PlayerId) (newId : LobbyId)
  | addCreator (player_id : PlayerId) (newId : LobbyId)
  | removeLobby (player_id : PlayerId) (newId : LobbyId)
  -- join
  | findLobby (player_id : PlayerId) (lobby_id : LobbyId)
  | isFull (player_id : PlayerId) (lobby : LobbyPtr)
  | addPlayerToLobby (player_id : PlayerId) (lobby_id : LobbyId)
  -- leave
  | getPlayerLobby (player_id : PlayerId)
  | findPlayerLobby (player_id : PlayerId) (lobby_id : LobbyId)
  | removeStale (player_id : PlayerId)
  | removePlayerFromLobby (player_id : PlayerId)

end Managers

/-- The two strands, the registries and the events published. The starts of games that have
returned are kept, and so are the players who left the lobby since the start that is under
way found it, and have not come back. -/
structure Managers where
  lobby_registry_ : LobbyRegistry
  dungeon_registry_ : DungeonRegistry
  game : Managers.Starting
  lobby : Managers.Handling
  published : List Event
  returned : List Start
  away : Finset PlayerId

/-- The lobby after a call that left the registry `r`; `last` is what the call makes of a lobby
that it takes out of the registry. -/
def LobbyPtr.after (r : LobbyRegistry) (last : Lobby → Lobby) (ptr : LobbyPtr) : LobbyPtr :=
  if ptr.stored then
    match r.findLobby ptr.lobby_id with
    | some lobby => { ptr with lobby }
    | none => { ptr with lobby := last ptr.lobby, stored := false }
  else ptr

namespace Managers

open LobbyRegistry LobbyManager Runs

def init : Managers := ⟨.empty, .empty, .idle, .idle, [], [], ∅⟩

/-- The lobby that the strand holds. -/
def Starting.ptr : Starting → Option LobbyPtr
  | .getAllPlayers lobby | .addDungeon lobby _ | .getAllPlayersAgain lobby _
  | .removePlayers lobby _ => some lobby
  | _ => none

def Starting.map (f : LobbyPtr → LobbyPtr) : Starting → Starting
  | .getAllPlayers lobby => .getAllPlayers (f lobby)
  | .addDungeon lobby players => .addDungeon (f lobby) players
  | .getAllPlayersAgain lobby players => .getAllPlayersAgain (f lobby) players
  | .removePlayers lobby start => .removePlayers (f lobby) start
  | g => g

def Handling.map (f : LobbyPtr → LobbyPtr) : Handling → Handling
  | .isFull player_id lobby => .isFull player_id (f lobby)
  | h => h

/-- The registry has changed, and with it what the strands see of the lobbies they hold. -/
def share (m : Managers) (r : LobbyRegistry) (last : Lobby → Lobby) : Managers :=
  { m with
    lobby_registry_ := r
    game := m.game.map (LobbyPtr.after r last)
    lobby := m.lobby.map (LobbyPtr.after r last) }

/-- The start under way holds the lobby that the registry has under the identifier. -/
def holds (m : Managers) (lobby_id : LobbyId) : Bool :=
  m.game.ptr.any fun ptr => ptr.stored && ptr.lobby_id = lobby_id

/-- The player is added to the lobby, and comes back to it if it had left. -/
def addPlayerToLobby (max : UInt16) (ord : IterOrder PlayerId) (m : Managers)
    (player_id : PlayerId) (lobby_id : LobbyId) : Bool × Managers :=
  let (added, r) := m.lobby_registry_.addPlayerToLobby max ord player_id lobby_id
  (added, { m.share r id with
    away := if added && m.holds lobby_id then m.away.erase player_id else m.away })

/-- The player leaves the lobby it is in. -/
def removePlayerFromLobby (ord : IterOrder PlayerId) (m : Managers) (player_id : PlayerId) :
    Bool × Managers :=
  let (removed, r) := m.lobby_registry_.removePlayerFromLobby ord player_id
  let held := (m.lobby_registry_.getPlayerLobby player_id).any m.holds
  (removed, { m.share r (fun lobby => (lobby.removePlayer ord player_id).2) with
    away := if removed && held then insert player_id m.away else m.away })

/-- The handler publishes its answer and returns. -/
def reply (m : Managers) (event : Event) : Managers :=
  { m with lobby := .idle, published := m.published ++ [event] }

/-- The next call of the lobby manager. -/
def lobbyCall (max : UInt16) (ord : IterOrder PlayerId) (m : Managers) : Managers :=
  match m.lobby with
  | .idle => m
  | .isPlayerInLobby p =>
    if m.lobby_registry_.isPlayerInLobby p then m.reply (.lobbyCreationFailedResponse p)
    else { m with lobby := .generateNextLobbyId p }
  | .generateNextLobbyId p =>
    let (newId, r) := m.lobby_registry_.generateNextLobbyId
    { m.share r id with lobby := .addLobby p newId }
  | .addLobby p newId =>
    match m.lobby_registry_.addLobby (Lobby.create newId p) with
    | (false, r) => (m.share r id).reply (.lobbyCreationFailedResponse p)
    | (true, r) => { m.share r id with lobby := .addCreator p newId }
  | .addCreator p newId =>
    match m.addPlayerToLobby max ord p newId with
    | (false, m) => { m with lobby := .removeLobby p newId }
    | (true, m) => m.reply (.lobbyCreatedResponse p newId)
  | .removeLobby p newId =>
    (m.share (m.lobby_registry_.removeLobby ord newId).2 id).reply
      (.lobbyCreationFailedResponse p)
  | .findLobby p lobby_id =>
    match m.lobby_registry_.findLobby lobby_id with
    | none => m.reply (.joinLobbyNotExistsResponse p)
    | some lobby => { m with lobby := .isFull p ⟨lobby_id, lobby, true⟩ }
  | .isFull p ptr =>
    if ptr.lobby.isFull max then m.reply (.joinLobbyFullResponse p)
    else { m with lobby := .addPlayerToLobby p ptr.lobby_id }
  | .addPlayerToLobby p lobby_id =>
    match m.addPlayerToLobby max ord p lobby_id with
    | (true, m) => m.reply (.joinLobbyResponse p)
    | (false, m) => m.reply (.joinLobbyFailedResponse p)
  | .getPlayerLobby p =>
    match m.lobby_registry_.getPlayerLobby p with
    | none => m.reply (.leaveLobbyNotConsistsInLobbyResponse p)
    | some lobby_id => { m with lobby := .findPlayerLobby p lobby_id }
  | .findPlayerLobby p lobby_id =>
    match m.lobby_registry_.findLobby lobby_id with
    | none => { m with lobby := .removeStale p }
    | some _ => { m with lobby := .removePlayerFromLobby p }
  | .removeStale p => (m.removePlayerFromLobby ord p).2.reply (.leaveLobbyFailedResponse p)
  | .removePlayerFromLobby p =>
    match m.removePlayerFromLobby ord p with
    | (true, m) => m.reply (.leaveLobbyResponse p)
    | (false, m) => m.reply (.leaveLobbyFailedResponse p)

/-- The next call of the game manager. -/
def gameCall (cfg : Gameplay) (ord : IterOrder PlayerId) (pos_gen : PositionGenerator)
    (m : Managers) : Managers :=
  match m.game with
  | .idle => m
  | .getPlayerLobby player_id =>
    match m.lobby_registry_.getPlayerLobby player_id with
    | none => { m with game := .idle }
    | some lobby_id => { m with game := .findLobby lobby_id }
  | .findLobby lobby_id =>
    match m.lobby_registry_.findLobby lobby_id with
    | none => { m with game := .idle }
    | some lobby => { m with game := .getAllPlayers ⟨lobby_id, lobby, true⟩, away := ∅ }
  | .getAllPlayers ptr => { m with game := .addDungeon ptr (ptr.lobby.getAllPlayers ord) }
  | .addDungeon ptr players =>
    match m.dungeon_registry_.addDungeon cfg (.ofCfg cfg) players pos_gen with
    | (false, d) => { m with dungeon_registry_ := d, game := .idle }
    | (true, d) => { m with dungeon_registry_ := d, game := .getAllPlayersAgain ptr players }
  | .getAllPlayersAgain ptr players =>
    { m with game := .removePlayers ptr ⟨players, ptr.lobby.getAllPlayers ord, []⟩ }
  | .removePlayers _ ⟨players, [], removals⟩ =>
    { m with game := .idle, returned := m.returned ++ [⟨players, [], removals⟩] }
  | .removePlayers ptr ⟨players, pid :: left, removals⟩ =>
    let (removed, r) := m.lobby_registry_.removePlayerFromLobby ord pid
    let removal : Removal := ⟨pid, ptr.lobby.containsPlayer pid, removed⟩
    let m := { m with game := .removePlayers ptr ⟨players, left, removals ++ [removal]⟩ }
    m.share r fun lobby => (lobby.removePlayer ord pid).2

/-- A request is taken up by a strand that is idle, or a strand makes its next call. -/
inductive Step
  | startGame (player_id : PlayerId)
  | create (player_id : PlayerId)
  | join (player_id : PlayerId) (lobby_id : LobbyId)
  | leave (player_id : PlayerId)
  | game (ord : IterOrder PlayerId) (pos_gen : PositionGenerator)
  | lobby (ord : IterOrder PlayerId)

/-- The lobby manager takes up a request. -/
def handle (m : Managers) (handling : Handling) : Managers :=
  match m.lobby with
  | .idle => { m with lobby := handling }
  | _ => m

def step (cfg : Gameplay) (m : Managers) : Step → Managers
  | .startGame p =>
    match m.game with
    | .idle => { m with game := .getPlayerLobby p }
    | _ => m
  | .create p => m.handle (.isPlayerInLobby p)
  | .join p lobby_id => m.handle (.findLobby p lobby_id)
  | .leave p => m.handle (.getPlayerLobby p)
  | .game ord pos_gen => m.gameCall cfg ord pos_gen
  | .lobby ord => m.lobbyCall cfg.lobby_max_players ord

/-! ### A handler that is not interrupted

Where no call of the other strand comes in between, the calls of a handler are the handler
executed from its first line to its last.
-/

variable {cfg : Gameplay} {ord : IterOrder PlayerId} {pos_gen : PositionGenerator}
variable {m : Managers} {ptr : LobbyPtr} {players left : List PlayerId} {pid : PlayerId}
variable {removals : List Removal}

/-- What a request to the lobby manager has done when its handler has returned. -/
structure Answered (m m' : Managers) (answer : List Event × LobbyRegistry) : Prop where
  idle : m'.lobby = .idle
  lobby_registry : m'.lobby_registry_ = answer.2
  published : m'.published = m.published ++ answer.1

lemma run_join (h : m.lobby = .idle) (p : PlayerId) (l : LobbyId) :
    Answered m (run (step cfg) m [.join p l, .lobby ord, .lobby ord, .lobby ord])
      (onJoinLobbyRequest cfg.lobby_max_players ord m.lobby_registry_ p l) := by
  simp only [run_cons, run_nil, step, handle, h, onJoinLobbyRequest]
  cases hl : m.lobby_registry_.findLobby l with
  | none => constructor <;> simp [lobbyCall, hl, reply]
  | some lobby =>
    cases hf : lobby.isFull cfg.lobby_max_players with
    | true => constructor <;> simp [lobbyCall, hl, hf, reply]
    | false =>
      rcases hr : m.lobby_registry_.addPlayerToLobby cfg.lobby_max_players ord p l with
        ⟨_ | _, r⟩ <;>
      constructor <;> simp [lobbyCall, hl, hf, addPlayerToLobby, hr, reply, share]

lemma run_leave (h : m.lobby = .idle) (p : PlayerId) :
    Answered m (run (step cfg) m [.leave p, .lobby ord, .lobby ord, .lobby ord])
      (onLeaveLobbyRequest ord m.lobby_registry_ p) := by
  simp only [run_cons, run_nil, step, handle, h, onLeaveLobbyRequest, getLobbyForPlayer]
  cases hp : m.lobby_registry_.getPlayerLobby p with
  | none => constructor <;> simp [lobbyCall, hp, reply]
  | some l =>
    rcases hr : m.lobby_registry_.removePlayerFromLobby ord p with ⟨_ | _, r⟩ <;>
      cases hl : m.lobby_registry_.findLobby l <;>
        constructor <;> simp [lobbyCall, hp, hl, removePlayerFromLobby, hr, reply, share]

lemma run_create (h : m.lobby = .idle) (p : PlayerId) :
    Answered m
      (run (step cfg) m [.create p, .lobby ord, .lobby ord, .lobby ord, .lobby ord, .lobby ord])
      (onCreateLobbyRequest cfg.lobby_max_players ord m.lobby_registry_ p) := by
  simp only [run_cons, run_nil, step, handle, h, onCreateLobbyRequest]
  cases hp : m.lobby_registry_.isPlayerInLobby p with
  | true => constructor <;> simp [lobbyCall, hp, reply]
  | false =>
    simp only [generateNextLobbyId, Lobby.create]
    generalize hid : m.lobby_registry_.next_id_ = newId
    generalize hr0 : LobbyRegistry.mk _ _ _ _ = r0
    rcases ha : r0.addLobby ⟨newId, ∅, p⟩ with ⟨_ | _, r⟩
    · constructor <;>
      simp [lobbyCall, hp, generateNextLobbyId, hid, hr0, Lobby.create, ha, reply, share]
    · rcases hr : r.addPlayerToLobby cfg.lobby_max_players ord p newId with ⟨_ | _, r'⟩ <;>
      constructor <;>
      simp [lobbyCall, hp, generateNextLobbyId, hid, hr0, Lobby.create, ha, addPlayerToLobby, hr,
        reply, share]

/-- A start of a game that runs to its end has done what the handler does. -/
structure Started (m' : Managers) (registries : LobbyRegistry × DungeonRegistry) : Prop where
  idle : m'.game = .idle
  lobby_registry : m'.lobby_registry_ = registries.1
  dungeon_registry : m'.dungeon_registry_ = registries.2

/-- The start removes a player. -/
lemma gameCall_remove
    (h : m.game = .removePlayers ptr ⟨players, pid :: left, removals⟩) :
    m.gameCall cfg ord pos_gen =
      let (removed, r) := m.lobby_registry_.removePlayerFromLobby ord pid
      let last := fun lobby : Lobby => (lobby.removePlayer ord pid).2
      { m.share r last with
        game := .removePlayers (ptr.after r last) ⟨players, left,
          removals ++ [⟨pid, ptr.lobby.containsPlayer pid, removed⟩]⟩ } := by
  simp only [gameCall, h, share, Starting.map]

lemma run_removePlayers (h : m.game = .removePlayers ptr ⟨players, left, removals⟩) :
    Started (run (step cfg) m (List.replicate (left.length + 1) (.game ord pos_gen)))
      (left.foldl (fun r pid => (r.removePlayerFromLobby ord pid).2) m.lobby_registry_,
        m.dungeon_registry_) := by
  induction left generalizing m ptr removals with
  | nil => constructor <;> simp [step, gameCall, h]
  | cons pid left ih =>
    rw [List.length_cons, List.replicate_succ, run_cons, List.foldl_cons]
    rw [show step cfg m (.game ord pos_gen) = _ from gameCall_remove h]
    exact ih rfl

lemma run_startGame (h : m.game = .idle) (p : PlayerId) :
    ∃ n, Started (run (step cfg) m (.startGame p :: List.replicate n (.game ord pos_gen)))
      (GameManager.onStartGameRequestEvent cfg ord pos_gen m.lobby_registry_
        m.dungeon_registry_ p) := by
  simp only [run_cons, step, h, GameManager.onStartGameRequestEvent]
  cases hp : m.lobby_registry_.getPlayerLobby p with
  | none => exact ⟨1, by constructor <;> simp [step, gameCall, hp]⟩
  | some l =>
    cases hl : m.lobby_registry_.findLobby l with
    | none => exact ⟨2, by constructor <;> simp [List.replicate, step, gameCall, hp, hl]⟩
    | some lobby =>
      rcases hd : m.dungeon_registry_.addDungeon cfg (.ofCfg cfg) (lobby.getAllPlayers ord) pos_gen
        with ⟨_ | _, d⟩
      · exact ⟨4, by constructor <;> simp [List.replicate, step, gameCall, hp, hl, hd]⟩
      · refine ⟨5 + ((lobby.getAllPlayers ord).length + 1), ?_⟩
        rw [List.replicate_add, run_append]
        have five : (run (step cfg) { m with game := .getPlayerLobby p }
          (List.replicate 5 (.game ord pos_gen))) = { m with
            dungeon_registry_ := d
            game := .removePlayers ⟨l, lobby, true⟩
              ⟨lobby.getAllPlayers ord, lobby.getAllPlayers ord, []⟩
            away := ∅ } := by
          simp [List.replicate, step, gameCall, hp, hl, hd]
        rw [five]
        simp only [hl, hd]
        exact run_removePlayers rfl

end Managers

end DungeonCrawler
