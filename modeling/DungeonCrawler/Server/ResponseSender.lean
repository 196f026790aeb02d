import DungeonCrawler.Server.SessionRegistry

/-!
The sender of responses: which session gets which bytes.

A message passed to the `send` of a session is a pair of the session and the bytes. The
order in which the table of sessions is visited is not specified and is an argument.
-/

namespace DungeonCrawler

namespace ResponseSender

open Finmap

/-- The loop over the sessions. The buffer is moved into the first message; a buffer moved
from is empty. -/
def sendToAll (game_state_msg : ByteBuffer) : List SessionPtr → List (SessionPtr × ByteBuffer)
  | [] => []
  | session :: sessions => (session, game_state_msg) :: sendToAll [] sessions

def onGameStateUpdate (lib : Libcbor) (ord : IterOrder SessionId) (registry : SessionRegistry)
    (dungeon_snapshot : Option DungeonSnapshot) : List (SessionPtr × ByteBuffer) :=
  match dungeon_snapshot with
  | none => []
  | some snapshot =>
    if snapshot.players.isEmpty then []
    else
      match serializeGameState lib snapshot with
      | none => []
      | some game_state_msg => sendToAll game_state_msg (registry.getAllSessions ord)

/-- A response is dropped when there is no session for it or it does not serialize. -/
def sendResponse (lib : Libcbor) (session : Option SessionPtr) (msg_type : MessageTypeVariant)
    (args : MessageArgs) : List (SessionPtr × ByteBuffer) :=
  match session with
  | none => []
  | some session =>
    match serializeMessageToBuffer lib msg_type args with
    | none => []
    | some buf => [(session, buf)]

/-- What the sender does for an event it has subscribed to; other events do not reach it. An
event with a session goes there, one with a player only goes to the player's session. -/
def onEvent (lib : Libcbor) (ord : IterOrder SessionId) (registry : SessionRegistry)
    (event : Event) : List (SessionPtr × ByteBuffer) :=
  let toSession (sid : SessionId) := sendResponse lib (registry.findSessionBySessionId sid)
  let toPlayer (pid : PlayerId) := sendResponse lib (registry.findSessionByPlayerId pid)
  match event with
  | .playerAuthenticated sid _ => toSession sid (.network .kWelcome) []
  | .playerReconnected sid _ => toSession sid (.network .kReconnected) []
  | .playerReconnectionFailed sid _ => toSession sid (.network .kNotReconnected) []
  | .playerAuthenticationFailed sid pid => toSession sid (.network .kAuthFailed) [pid.get]
  | .lobbyCreatedResponse pid lobby_id => toPlayer pid (.app .kPartyCreated) [lobby_id.get]
  | .lobbyCreationFailedResponse pid => toPlayer pid (.app .kPartyNotCreated) []
  | .listLobbiesFailedResponse pid => toPlayer pid (.app .kListPartiesNotCreated) []
  | .listLobbiesResponse pid lobby_ids =>
    toPlayer pid (.app .kListPartiesCreated) (lobby_ids.map StrongId.get)
  | .joinLobbyResponse pid => toPlayer pid (.app .kPlayerJoinedParty) []
  | .joinLobbyFailedResponse pid => toPlayer pid (.app .kPlayerNotJoinedParty) []
  | .leaveLobbyResponse pid => toPlayer pid (.app .kPlayerLeavedParty) []
  | .leaveLobbyFailedResponse pid => toPlayer pid (.app .kPlayerNotLeavedParty) []
  | .startGameResponse pid _ => toPlayer pid (.app .kStartGame) []
  | .gameStateUpdate _ dungeon_snapshot => onGameStateUpdate lib ord registry dungeon_snapshot
  | _ => []

/-- The messages sent to one session, in order. -/
def messagesTo (session : SessionPtr) (sent : List (SessionPtr × ByteBuffer)) :
    List ByteBuffer :=
  (sent.filter fun m => m.1 = session).map Prod.snd

/-- The session is registered and bound to a player of the snapshot. -/
def Addressee (registry : SessionRegistry) (snapshot : DungeonSnapshot)
    (session : SessionPtr) : Prop :=
  registry.findSessionBySessionId session.session_id = some session ∧
    ∃ p, registry.getPlayerIdBySessionId session.session_id = some p ∧
      ∃ e ∈ snapshot.players, e.id = p.get

/-- Every addressee is sent exactly one message, the serialized snapshot. -/
def Broadcast (lib : Libcbor) (ord : IterOrder SessionId) (registry : SessionRegistry)
    (snapshot : DungeonSnapshot) : Prop :=
  ∀ session, Addressee registry snapshot session →
    ∃ bytes, serializeGameState lib snapshot = some bytes ∧
      messagesTo session (onGameStateUpdate lib ord registry (some snapshot)) = [bytes]

variable {session : SessionPtr} {sessions : List SessionPtr} {msg : ByteBuffer}

/-- The loop gives to a session the message or the buffer moved from. -/
lemma mem_sendToAll {m : SessionPtr × ByteBuffer} (hm : m ∈ sendToAll msg sessions) :
    m.1 ∈ sessions ∧ (m.2 = msg ∨ m.2 = []) := by
  induction sessions generalizing msg with
  | nil => cases hm
  | cons a l ih =>
    rcases List.mem_cons.mp hm with rfl | hm
    · exact ⟨List.mem_cons_self .., Or.inl rfl⟩
    · obtain ⟨hl, hempty⟩ := ih hm
      exact ⟨List.mem_cons_of_mem _ hl, Or.inr (hempty.elim id id)⟩

lemma messagesTo_sendToAll_of_notMem (msg : ByteBuffer) (h : session ∉ sessions) :
    messagesTo session (sendToAll msg sessions) = [] := by
  induction sessions generalizing msg with
  | nil => rfl
  | cons a l ih =>
    obtain ⟨ha, hl⟩ := List.ne_and_not_mem_of_not_mem_cons h
    simpa [sendToAll, messagesTo, Ne.symm ha] using ih [] hl

/-- The first session gets the message and every other session an empty one. -/
lemma messagesTo_sendToAll (msg : ByteBuffer) (hn : sessions.Nodup) (h : session ∈ sessions) :
    messagesTo session (sendToAll msg sessions) =
      if sessions.head? = some session then [msg] else [[]] := by
  induction sessions generalizing msg with
  | nil => cases h
  | cons a l ih =>
    obtain ⟨hal, hn⟩ := List.nodup_cons.mp hn
    by_cases ha : a = session
    · subst ha
      simpa [sendToAll, messagesTo] using messagesTo_sendToAll_of_notMem [] hal
    · have hl : session ∈ l := (List.mem_cons.mp h).resolve_left (Ne.symm ha)
      simpa [sendToAll, messagesTo, ha] using ih [] hn hl

variable {lib : Libcbor} {ord : IterOrder SessionId} {registry : SessionRegistry}
variable {snapshot : DungeonSnapshot} {session : SessionPtr} {bytes : ByteBuffer}

/-- A response goes to the session, as it was serialized. -/
lemma mem_sendResponse {session : Option SessionPtr} {t : MessageTypeVariant}
    {args : MessageArgs} {m : SessionPtr × ByteBuffer}
    (hm : m ∈ sendResponse lib session t args) :
    session = some m.1 ∧ serializeMessageToBuffer lib t args = some m.2 := by
  unfold sendResponse at hm
  split at hm
  · cases hm
  · split at hm
    · cases hm
    · rename_i buf hbuf
      obtain rfl := List.mem_singleton.mp hm
      exact ⟨rfl, hbuf⟩

lemma Addressee.players_ne_nil (h : Addressee registry snapshot session) :
    snapshot.players ≠ [] := by
  obtain ⟨-, p, -, e, he, -⟩ := h
  exact List.ne_nil_of_mem he

lemma messagesTo_addressee (h : Addressee registry snapshot session)
    (hb : serializeGameState lib snapshot = some bytes) :
    messagesTo session (onGameStateUpdate lib ord registry (some snapshot)) =
      if ord.first registry.sessions_.keys = some session.session_id then [bytes]
      else [[]] := by
  have hp : snapshot.players.isEmpty = false := by simpa using h.players_ne_nil
  have hs := h.1
  simp only [onGameStateUpdate, hp, hb, Bool.false_eq_true, if_false]
  rw [messagesTo_sendToAll bytes SessionRegistry.nodup_getAllSessions
    (SessionRegistry.mem_getAllSessions.mpr hs)]
  simp only [SessionRegistry.head_getAllSessions hs]

/-- An addressee that is served rightly is the first session visited. -/
lemma Broadcast.first (h : Broadcast lib ord registry snapshot)
    (ha : Addressee registry snapshot session) :
    ord.first registry.sessions_.keys = some session.session_id := by
  obtain ⟨bytes, hb, hm⟩ := h session ha
  rw [messagesTo_addressee ha hb] at hm
  split_ifs at hm with hf
  · exact hf
  · exact absurd (List.singleton_inj.mp hm).symm (cborToMessage_ne_nil hb)

/-- **When every player gets the snapshot.** Every registered session bound to a player of
the snapshot is sent the serialized snapshot once and nothing else, exactly when there is no
such session, or the snapshot serializes and the only such session is the first one visited
in the table. -/
theorem broadcast_iff (lib : Libcbor) (ord : IterOrder SessionId) (registry : SessionRegistry)
    (snapshot : DungeonSnapshot) :
    Broadcast lib ord registry snapshot ↔
      ∀ session, Addressee registry snapshot session →
        (serializeGameState lib snapshot).isSome ∧
          ord.first registry.sessions_.keys = some session.session_id := by
  constructor
  · intro h session ha
    obtain ⟨bytes, hb, -⟩ := h session ha
    exact ⟨by simp [hb], h.first ha⟩
  · intro h session ha
    obtain ⟨hs, hf⟩ := h session ha
    obtain ⟨bytes, hb⟩ := Option.isSome_iff_exists.mp hs
    exact ⟨bytes, hb, by rw [messagesTo_addressee ha hb, if_pos hf]⟩

/-- Of two players on two sessions one is sent an empty message. -/
theorem second_player_gets_nothing :
    ¬ ∀ lib ord registry snapshot, snapshot.players ≠ [] →
      Broadcast lib ord registry snapshot := by
  intro h
  let player (id : UInt64) : EntitySnapshot := ⟨0, 0, id, 1, 1, 100⟩
  let snapshot : DungeonSnapshot := ⟨⟨0, 0, 9, 9, []⟩, [player 7, player 8], []⟩
  let registry := [SessionRegistry.Call.addSession (some ⟨1, ⟨1⟩⟩),
    .addSession (some ⟨2, ⟨2⟩⟩), .bindPlayerToSession ⟨7⟩ ⟨1⟩,
    .bindPlayerToSession ⟨8⟩ ⟨2⟩].foldl SessionRegistry.step .empty
  have hb := h .flat default registry snapshot (by simp [snapshot])
  have ha₁ : Addressee registry snapshot ⟨1, ⟨1⟩⟩ :=
    ⟨by decide, ⟨7⟩, by decide, player 7, by simp [snapshot], rfl⟩
  have ha₂ : Addressee registry snapshot ⟨2, ⟨2⟩⟩ :=
    ⟨by decide, ⟨8⟩, by decide, player 8, by simp [snapshot], rfl⟩
  have he := (hb.first ha₁).symm.trans (hb.first ha₂)
  exact absurd he (by decide)

end ResponseSender

end DungeonCrawler
