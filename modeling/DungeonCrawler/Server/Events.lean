import DungeonCrawler.Common.GameState

/-!
The events of the server's bus that the modelled components create or handle.

A constructor has the name of the event's class and its arguments in the order of the
class's constructor.
-/

namespace DungeonCrawler

/-- A shared pointer to a session, not null: the object and the identifier it was given. -/
structure SessionPtr where
  object : ℕ
  session_id : SessionId
  deriving DecidableEq

inductive Event
  -- the network; the pointers to sessions may be null
  | clientConnected (session : Option SessionPtr)
  | clientDisconnected (session : Option SessionPtr)
  | rawMessageReceived (session_id : SessionId) (message : ByteBuffer)
  -- connection and authentication
  | authRequested (session_id : SessionId) (player_id : PlayerId)
  | playerAuthenticated (session_id : SessionId) (player_id : PlayerId)
  | playerAuthenticationFailed (session_id : SessionId) (player_id : PlayerId)
  | reconnectRequested (session_id : SessionId) (player_id : PlayerId)
  | playerReconnected (session_id : SessionId) (player_id : PlayerId)
  | playerReconnectionFailed (session_id : SessionId) (player_id : PlayerId)
  -- lobbies
  | createLobbyRequest (player_id : PlayerId)
  | lobbyCreatedResponse (player_id : PlayerId) (lobby_id : LobbyId)
  | lobbyCreationFailedResponse (player_id : PlayerId)
  | listLobbiesRequest (player_id : PlayerId)
  | listLobbiesResponse (player_id : PlayerId) (lobby_ids : List LobbyId)
  | listLobbiesFailedResponse (player_id : PlayerId)
  | joinLobbyRequest (player_id : PlayerId) (lobby_id : LobbyId)
  | joinLobbyResponse (player_id : PlayerId)
  | joinLobbyFailedResponse (player_id : PlayerId)
  | joinLobbyNotExistsResponse (player_id : PlayerId)
  | joinLobbyFullResponse (player_id : PlayerId)
  | leaveLobbyRequest (player_id : PlayerId)
  | leaveLobbyResponse (player_id : PlayerId)
  | leaveLobbyFailedResponse (player_id : PlayerId)
  | leaveLobbyNotConsistsInLobbyResponse (player_id : PlayerId)
  | playerReadyRequest (player_id : PlayerId) (is_ready : Bool)
  | playerReadyResponse (player_id : PlayerId)
  | playerReadyFailedResponse (player_id : PlayerId)
  -- games
  | startGameRequest (player_id : PlayerId)
  | startGameResponse (player_id : PlayerId) (game_id : GameId)
  | startGameLobbyNotReadyResponse (player_id : PlayerId)
  | startGameNotTheLeaderResponse (player_id : PlayerId)
  | moveRequest (player_id : PlayerId) (direction : Direction)
  | atackRequest (player_id : PlayerId)
  | gameStateUpdate (game_id : GameId) (dungeon_snapshot : Option DungeonSnapshot)
  | gameOver (player_id : PlayerId)
  deriving DecidableEq

/-- The player on whose behalf a lobby or game request is made. -/
def Event.requestPlayer : Event → Option PlayerId
  | .createLobbyRequest p | .listLobbiesRequest p | .joinLobbyRequest p _
  | .leaveLobbyRequest p | .startGameRequest p | .moveRequest p _ | .atackRequest p => some p
  | _ => none

end DungeonCrawler
