import DungeonCrawler.Common.SerderRoundTrip
import DungeonCrawler.Server.Games
import DungeonCrawler.Server.MsgRouter
import DungeonCrawler.Server.ResponseSender

/-!
The reply to a request about lobbies, from the bytes received on a session to the bytes sent
on it.

The router makes an event of the message, a handler publishes responses, and the sender turns
those it has subscribed to into messages. Handlers publish a response at every exit but the
sender does not know them all.
-/

namespace DungeonCrawler

namespace Replies

open Finmap Runs LobbyRegistry LobbyManager

inductive Request
  | createLobby
  | listLobby
  | joinLobby (lobby_id : LobbyId)
  | leaveLobby
  | startGame

/-- The well-formed message of a request. -/
def Request.message : Request → DeserializedRawMessage
  | .createLobby => ⟨.app .kCreateParty, []⟩
  | .listLobby => ⟨.app .kListParties, []⟩
  | .joinLobby lobby_id => ⟨.app .kJoinParty, [lobby_id.get]⟩
  | .leaveLobby => ⟨.app .kLeaveParty, []⟩
  | .startGame => ⟨.app .kStartGame, []⟩

/-- The event of a request that a player makes. -/
def Request.event (p : PlayerId) : Request → Event
  | .createLobby => .createLobbyRequest p
  | .listLobby => .listLobbiesRequest p
  | .joinLobby lobby_id => .joinLobbyRequest p lobby_id
  | .leaveLobby => .leaveLobbyRequest p
  | .startGame => .startGameRequest p

/-- The kind of reply to a request that took effect. -/
def Request.success : Request → AppMessageType
  | .createLobby => .kPartyCreated
  | .listLobby => .kListPartiesCreated
  | .joinLobby _ => .kPlayerJoinedParty
  | .leaveLobby => .kPlayerLeavedParty
  | .startGame => .kGameStarted

/-- The kinds of reply to a request that did not. -/
def Request.failures : Request → List AppMessageType
  | .createLobby => [.kPartyNotCreated]
  | .listLobby => [.kListPartiesNotCreated]
  | .joinLobby _ =>
    [.kPlayerNotJoinedParty, .kPlayerNotJoinedFullParty, .kPlayerNotJoinedNotExistParty]
  | .leaveLobby => [.kPlayerNotLeavedParty]
  | .startGame => [.kGameNotStarted]

/-- What the request is for came about between two states. To list the lobbies changes
nothing and always does what it is for. -/
def Request.TookEffect (p : PlayerId) (before after : Lobbies) : Request → Prop
  | .createLobby => before.lobby_registry_.getPlayerLobby p = none ∧
      ∃ l, l ∉ before.lobby_registry_.lobbies_ ∧
        after.lobby_registry_.getPlayerLobby p = some l
  | .listLobby => True
  | .joinLobby lobby_id => before.lobby_registry_.getPlayerLobby p = none ∧
      after.lobby_registry_.getPlayerLobby p = some lobby_id
  | .leaveLobby => before.lobby_registry_.isPlayerInLobby p ∧
      after.lobby_registry_.getPlayerLobby p = none
  | .startGame => ∃ g, g ∉ before.dungeon_registry_.dungeons_ ∧
      after.dungeon_registry_.findPlayerDungeon p = some g

/-- The registries of sessions, lobbies and dungeons. -/
structure Server where
  sessions : SessionRegistry
  games : Lobbies

/-- The registries after any calls on sessions, requests, ticks and commands. -/
structure Reachable (cfg : Gameplay) (w : Server) : Prop where
  sessions : ∃ calls, w.sessions = run SessionRegistry.step .empty calls
  games : ∃ inputs, w.games = run (Games.step cfg) .init inputs

/-- What chance decides while a request is handled. -/
structure Chance where
  sessionOrder : IterOrder SessionId
  playerOrder : IterOrder PlayerId
  lobbyOrder : IterOrder LobbyId
  pos_gen : PositionGenerator

/-- A message is received on a session: what is sent, and the registries of lobbies and
dungeons after the handlers have run. -/
def receive (cfg : Gameplay) (lib : Libcbor) (chance : Chance) (w : Server) (s : SessionId)
    (buffer : ByteBuffer) : List (SessionPtr × ByteBuffer) × Lobbies :=
  match MessageRouter.onRawMessage lib w.sessions s buffer with
  | none => ([], w.games)
  | some request =>
    let (events, r, d) := w.games.handle cfg
      ⟨request, chance.playerOrder, chance.lobbyOrder, chance.pos_gen⟩
    (events.flatMap (ResponseSender.onEvent lib chance.sessionOrder w.sessions),
      ⟨r, d, w.games.published ++ events⟩)

/-- What is passed to the `send` of the session. -/
def sentTo (s : SessionId) (sent : List (SessionPtr × ByteBuffer)) : List ByteBuffer :=
  (sent.filter fun m => m.1.session_id = s).map Prod.snd

/-- One message was sent, and it tells whether the request took effect. -/
def RepliedOnce (lib : Libcbor) (request : Request) (effect : Prop)
    (messages : List ByteBuffer) : Prop :=
  ∃ bytes kind args, messages = [bytes] ∧
    deserializeBufferToMessage lib bytes = some ⟨.app kind, args⟩ ∧
    ((effect ∧ kind = request.success) ∨ (¬ effect ∧ kind ∈ request.failures))

/-- The request ends at an exit whose response is sent: any request to create or to list, one
to join a lobby that is there and has a place, one to leave from a player in a lobby. -/
def Request.Answered (cfg : Gameplay) (w : Lobbies) (p : PlayerId) : Request → Prop
  | .createLobby | .listLobby => True
  | .joinLobby lobby_id => ∃ lobby, w.lobby_registry_.findLobby lobby_id = some lobby ∧
      lobby.isFull cfg.lobby_max_players = false
  | .leaveLobby => w.lobby_registry_.isPlayerInLobby p
  | .startGame => False

/-! ### The request -/

variable {cfg : Gameplay} {lib : Libcbor} {chance : Chance} {w : Server} {s : SessionId}
variable {p : PlayerId} {request : Request} {buffer : ByteBuffer} {effect : Prop}

lemma onRawMessage_request (hs : w.sessions.getPlayerIdBySessionId s = some p)
    (hb : deserializeBufferToMessage lib buffer = some request.message) :
    MessageRouter.onRawMessage lib w.sessions s buffer = some (request.event p) := by
  have ht : MessageRouter.IsPlayerRequest request.message.type := by cases request <;> trivial
  simp only [MessageRouter.onRawMessage, hb]
  rw [MessageRouter.slotArgs_playerRequest ht, hs]
  cases request <;> rfl

/-- The handlers are given the request of the player. -/
lemma receive_request (hs : w.sessions.getPlayerIdBySessionId s = some p)
    (hb : deserializeBufferToMessage lib buffer = some request.message)
    {events : List Event} {r : LobbyRegistry} {d : DungeonRegistry}
    (hh : w.games.handle cfg ⟨request.event p, chance.playerOrder, chance.lobbyOrder,
      chance.pos_gen⟩ = (events, r, d)) :
    receive cfg lib chance w s buffer =
      (events.flatMap (ResponseSender.onEvent lib chance.sessionOrder w.sessions),
        ⟨r, d, w.games.published ++ events⟩) := by
  simp only [receive, onRawMessage_request hs hb, hh]

/-! ### The reply -/

/-- The session that a player is bound to is found and is the one that leads to the player. -/
lemma Reachable.session_of_bound (hw : Reachable cfg w)
    (hs : w.sessions.getPlayerIdBySessionId s = some p)
    (hp : w.sessions.getSessionIdByPlayerId p = some s) :
    ∃ session, w.sessions.findSessionByPlayerId p = some session ∧ session.session_id = s := by
  obtain ⟨calls, hcalls⟩ := hw.sessions
  have leaders := SessionRegistry.leadersRegistered_run calls
  rw [← hcalls] at leaders
  obtain ⟨session, hsession⟩ := mem_iff.mp (leaders s (mem_of_lookup_eq_some hs))
  refine ⟨session, ?_, w.sessions.keyed s session hsession⟩
  rw [SessionRegistry.getSessionIdByPlayerId] at hp
  simp [SessionRegistry.findSessionByPlayerId, SessionRegistry.findSessionBySID, hp, hsession]

lemma Reachable.sound (hw : Reachable cfg w) : Games.Sound cfg w.games := by
  obtain ⟨inputs, hinputs⟩ := hw.games
  rw [hinputs]
  exact Games.sound_run cfg inputs

/-- A response of a real kind is one message to the session, and is read as what it is. -/
lemma sentTo_sendResponse (h : lib.RoundTripsOn CborItem.UintArray) {session : SessionPtr}
    (hid : session.session_id = s) {t : MessageTypeVariant} (ht : t.IsReal)
    (args : MessageArgs) :
    ∃ bytes, sentTo s (ResponseSender.sendResponse lib (some session) t args) = [bytes] ∧
      deserializeBufferToMessage lib bytes = some ⟨t, args⟩ := by
  obtain ⟨bytes, hser, hdes⟩ := message_roundTrip h ht args
  exact ⟨bytes, by simp [ResponseSender.sendResponse, hser, sentTo, hid], hdes⟩

/-- A response that the sender knows is the reply, of the kind that it is sent as. -/
lemma repliedOnce_of_known (h : lib.RoundTripsOn CborItem.UintArray)
    (hp : ∃ session, w.sessions.findSessionByPlayerId p = some session ∧ session.session_id = s)
    {e : Event} {kind : AppMessageType} {args : MessageArgs}
    (he : ResponseSender.onEvent lib chance.sessionOrder w.sessions e =
      ResponseSender.sendResponse lib (w.sessions.findSessionByPlayerId p) (.app kind) args)
    (hreal : kind ≠ .kMax)
    (hkind : (effect ∧ kind = request.success) ∨ (¬ effect ∧ kind ∈ request.failures)) :
    RepliedOnce lib request effect
      (sentTo s ([e].flatMap (ResponseSender.onEvent lib chance.sessionOrder w.sessions))) := by
  obtain ⟨session, hfind, hid⟩ := hp
  rw [List.flatMap_singleton, he, hfind]
  have ht : (MessageTypeVariant.app kind).IsReal := hreal
  obtain ⟨bytes, hsent, hdes⟩ := sentTo_sendResponse h hid ht args
  exact ⟨bytes, kind, args, hsent, hdes, hkind⟩

/-- Nothing sent is no reply. -/
lemma not_repliedOnce_nil : ¬ RepliedOnce lib request effect [] := by
  rintro ⟨bytes, kind, args, h, -⟩
  cases h

/-- **When a request is replied to.** In every reachable state a well-formed request on a
session bound to a player, in both directions, is replied to by exactly one message that
tells whether it took effect, exactly when it ends at an exit whose response is sent. -/
theorem repliedOnce_iff (cfg : Gameplay) (lib : Libcbor)
    (h : lib.RoundTripsOn CborItem.UintArray) (chance : Chance) (w : Server)
    (hw : Reachable cfg w) (s : SessionId) (p : PlayerId)
    (hs : w.sessions.getPlayerIdBySessionId s = some p)
    (hp : w.sessions.getSessionIdByPlayerId p = some s) (request : Request)
    (buffer : ByteBuffer) (hb : deserializeBufferToMessage lib buffer = some request.message) :
    RepliedOnce lib request
        (request.TookEffect p w.games (receive cfg lib chance w s buffer).2)
        (sentTo s (receive cfg lib chance w s buffer).1) ↔
      request.Answered cfg w.games p := by
  have sound := hw.sound.lobbies
  have session := hw.session_of_bound hs hp
  cases request with
  | createLobby =>
    refine iff_of_true ?_ trivial
    rcases onCreateLobbyRequest_cases sound chance.playerOrder p with
      ⟨hin, he⟩ | ⟨hin, -, he⟩ | ⟨hin, hid', -, he⟩ <;>
      rw [receive_request hs hb (by simp only [Lobbies.handle, Request.event, he]; rfl)]
    · refine repliedOnce_of_known h session rfl (by decide)
        (Or.inr ⟨?_, by simp [Request.failures]⟩)
      rintro ⟨hnone, -⟩
      exact lookup_eq_none.mp hnone hin
    · refine repliedOnce_of_known h session rfl (by decide)
        (Or.inr ⟨?_, by simp [Request.failures]⟩)
      rintro ⟨-, l, -, hl⟩
      exact hin (mem_of_lookup_eq_some hl)
    · refine repliedOnce_of_known h session rfl (by decide)
        (Or.inl ⟨⟨lookup_eq_none.mpr hin, _, hid', ?_⟩, rfl⟩)
      exact lookup_insert _
  | listLobby =>
    refine iff_of_true ?_ trivial
    rw [receive_request hs hb rfl]
    exact repliedOnce_of_known h session rfl (by decide) (Or.inl ⟨trivial, rfl⟩)
  | joinLobby l =>
    rcases onJoinLobbyRequest_cases sound chance.playerOrder p l with ⟨hl, he⟩ |
      ⟨lobby, hl, ⟨hf, he⟩ | ⟨hf, hin, he⟩ | ⟨hf, hin, he⟩⟩ <;>
      rw [receive_request hs hb (by simp only [Lobbies.handle, Request.event, he]; rfl)]
    · refine iff_of_false not_repliedOnce_nil ?_
      rintro ⟨lobby, hl', -⟩
      rw [hl] at hl'
      cases hl'
    · refine iff_of_false not_repliedOnce_nil ?_
      rintro ⟨lobby', hl', hf'⟩
      obtain rfl := Option.some.inj (hl.symm.trans hl')
      rw [hf] at hf'
      cases hf'
    · refine iff_of_true ?_ ⟨lobby, hl, hf⟩
      refine repliedOnce_of_known h session rfl (by decide)
        (Or.inr ⟨?_, by simp [Request.failures]⟩)
      rintro ⟨hnone, -⟩
      exact lookup_eq_none.mp hnone hin
    · refine iff_of_true ?_ ⟨lobby, hl, hf⟩
      exact repliedOnce_of_known h session rfl (by decide)
        (Or.inl ⟨⟨lookup_eq_none.mpr hin, lookup_insert _⟩, rfl⟩)
  | leaveLobby =>
    rcases onLeaveLobbyRequest_cases sound chance.playerOrder p with ⟨hin, he⟩ | ⟨l, hl, he⟩ <;>
      rw [receive_request hs hb (by simp only [Lobbies.handle, Request.event, he]; rfl)]
    · refine iff_of_false not_repliedOnce_nil ?_
      simpa [Request.Answered, isPlayerInLobby] using hin
    · have hin : w.games.lobby_registry_.isPlayerInLobby p := by
        simpa [isPlayerInLobby] using mem_of_lookup_eq_some hl
      have gone := (sound.emptied_one chance.playerOrder hl).2.players p
      rw [if_pos (List.mem_singleton_self p)] at gone
      refine iff_of_true ?_ hin
      exact repliedOnce_of_known h session rfl (by decide) (Or.inl ⟨⟨hin, gone⟩, rfl⟩)
  | startGame =>
    rw [receive_request hs hb rfl]
    exact iff_of_false not_repliedOnce_nil id

/-- One session is connected and bound to a player, and nobody has opened a lobby. -/
def onePlayer : Server where
  sessions := run SessionRegistry.step .empty
    [.addSession (some ⟨1, ⟨1⟩⟩), .bindPlayerToSession ⟨7⟩ ⟨1⟩]
  games := .init

lemma onePlayer_reachable : Reachable cfg onePlayer :=
  ⟨⟨_, rfl⟩, [], rfl⟩

noncomputable def someChance : Chance := ⟨default, default, default, ⟨fun _ => ⟨0, 0⟩, 0⟩⟩

def listLobbyBytes : ByteBuffer := [0x81, 0x1B, 0, 0, 0, 0, 0, 0, 1, 3]

def joinLobbyBytes : ByteBuffer :=
  [0x82, 0x1B, 0, 0, 0, 0, 0, 0, 1, 6, 0x1B, 0, 0, 0, 0, 0, 0, 0, 9]

/-- A request to list is replied to. -/
theorem list_replied :
    RepliedOnce .definite .listLobby True
      (sentTo ⟨1⟩ (receive .default .definite someChance onePlayer ⟨1⟩ listLobbyBytes).1) :=
  (repliedOnce_iff .default .definite Libcbor.definite_roundTrips.uintArrays someChance onePlayer
    onePlayer_reachable ⟨1⟩ ⟨7⟩ (by decide) (by decide) .listLobby listLobbyBytes
    (by decide)).mpr trivial

/-- A request to join a lobby that is not there is not replied to. -/
theorem missing_lobby_not_replied :
    ¬ ∀ (cfg : Gameplay) (lib : Libcbor), lib.RoundTripsOn CborItem.UintArray →
      ∀ (chance : Chance) (w : Server), Reachable cfg w → ∀ (s : SessionId) (p : PlayerId),
      w.sessions.getPlayerIdBySessionId s = some p →
      w.sessions.getSessionIdByPlayerId p = some s → ∀ (request : Request) (buffer : ByteBuffer),
      deserializeBufferToMessage lib buffer = some request.message →
      RepliedOnce lib request
        (request.TookEffect p w.games (receive cfg lib chance w s buffer).2)
        (sentTo s (receive cfg lib chance w s buffer).1) := by
  intro h
  have hb : deserializeBufferToMessage .definite joinLobbyBytes =
      some (Request.joinLobby ⟨9⟩).message := by decide
  have hs : onePlayer.sessions.getPlayerIdBySessionId ⟨1⟩ = some ⟨7⟩ := by decide
  have hreply := h .default .definite Libcbor.definite_roundTrips.uintArrays someChance onePlayer
    onePlayer_reachable ⟨1⟩ ⟨7⟩ hs (by decide) (.joinLobby ⟨9⟩) joinLobbyBytes hb
  rw [receive_request hs hb rfl] at hreply
  exact not_repliedOnce_nil hreply

end Replies

end DungeonCrawler
