import DungeonCrawler.Common.SerderRoundTrip
import DungeonCrawler.Common.Strings
import DungeonCrawler.Lib.Words
import DungeonCrawler.Server.MsgRouter

/-!
The commands a player types, and what the server makes of them.

A line is read word by word. The command it types is one of seven, with the word after it
where it needs one; words after that do not matter. What the client sends for it, the
server's router publishes as the request of that command.
-/

namespace DungeonCrawler

namespace Ui

namespace Commands

def kJoin : Text := "JOIN".toList
def kCreateLobby : Text := "CREATE_LOBBY".toList
def kListLobby : Text := "LIST_LOBBY".toList
def kJoinLobby : Text := "JOIN_LOBBY".toList
def kStartGame : Text := "START_GAME".toList
def kMove : Text := "MOVE".toList
def kAttack : Text := "ATTACK".toList
def kUnknown : Text := "UNKNOWN_COMMAND".toList

end Commands

def commandFromMessageType : MessageTypeVariant → Text
  | .network .kJoin => Commands.kJoin
  | .app .kCreateParty => Commands.kCreateLobby
  | .app .kListParties => Commands.kListLobby
  | .app .kJoinParty => Commands.kJoinLobby
  | .app .kStartGame => Commands.kStartGame
  | .domain .kMove => Commands.kMove
  | .domain .kAttack => Commands.kAttack
  | _ => Commands.kUnknown

/-- The lines put out, and the message, if there is one. -/
abbrev Routed := List Text × Option ByteBuffer

def trySerialize (lib : Libcbor) (type : MessageTypeVariant) (args : MessageArgs) : Routed :=
  match serializeMessageToBuffer lib type args with
  | none =>
    (["Failed to serialize ".toList ++ commandFromMessageType type ++ " message".toList], none)
  | some buffer => ([], some buffer)

def kUsage : Text := "Usage:".toList
def kUsername : Text := "<username>".toList
def kLobbyID : Text := "<lobbyID>".toList
def kDirection : Text := "<direction>".toList

def kMinLenPlayerName : ℕ := 4
def kMaxLenPlayerName : ℕ := 10

def handleJoin (lib : Libcbor) (name : Text) : Routed :=
  if name.length < kMinLenPlayerName ∨ name.length > kMaxLenPlayerName then
    (["Invalid name: must be >".toList ++ decimal kMinLenPlayerName ++ " & <=".toList ++
      decimal kMaxLenPlayerName ++ " english alphanumeric characters".toList], none)
  else
    match encodeString name with
    | none =>
      (["Failed to encode player ID. tip: only english alphanumeric characters.".toList], none)
    | some playerId => trySerialize lib (.network .kJoin) [playerId]

def handleJoinLobby (lib : Libcbor) (lobby : Text) : Routed :=
  match convertStringToUint64 lobby with
  | none => (["Invalid lobby ID. tip: positive number under uint64_t.".toList], none)
  | some lobbyId => trySerialize lib (.app .kJoinParty) [lobbyId]

/-- The next word of a stream. -/
def extract (iss : Text) : Option (Text × Text) := Words.takeWord isWhitespace iss

/-- A stream without a word leaves the command empty. -/
def routeCommand (lib : Libcbor) (line : Text) : Routed :=
  let (cmd, iss) := (extract line).getD ([], [])
  if cmd = Commands.kJoin then
    match extract iss with
    | none => ([joinWithSpace [kUsage, Commands.kJoin, kUsername]], none)
    | some (name, _) => handleJoin lib name
  else if cmd = Commands.kCreateLobby then trySerialize lib (.app .kCreateParty) []
  else if cmd = Commands.kListLobby then trySerialize lib (.app .kListParties) []
  else if cmd = Commands.kJoinLobby then
    match extract iss with
    | none => ([joinWithSpace [kUsage, Commands.kJoinLobby, kLobbyID]], none)
    | some (lobby, _) => handleJoinLobby lib lobby
  else if cmd = Commands.kStartGame then trySerialize lib (.app .kStartGame) []
  else if cmd = Commands.kMove then
    match extract iss with
    | none => ([joinWithSpace [kUsage, Commands.kMove, kDirection]], none)
    | some (dir_str, _) =>
      match (directionFromString dir_str).bind directionToByte with
      | some byte => trySerialize lib (.domain .kMove) [byte.toUInt64]
      | none => ([Commands.kUnknown], none)
  else if cmd = Commands.kAttack then trySerialize lib (.domain .kAttack) []
  else ([Commands.kUnknown], none)

/-! ### What is typed -/

/-- A command, with the name, the number or the direction that belongs to it. -/
inductive Typed
  | join (name : Text)
  | createLobby
  | listLobby
  | joinLobby (number : ℕ)
  | startGame
  | move (direction : Direction)
  | attack

/-- The words type the command. -/
inductive Types : List Text → Typed → Prop
  | join (name : Text) (rest : List Text) : Types ("JOIN".toList :: name :: rest) (.join name)
  | createLobby (rest : List Text) : Types ("CREATE_LOBBY".toList :: rest) .createLobby
  | listLobby (rest : List Text) : Types ("LIST_LOBBY".toList :: rest) .listLobby
  | joinLobby {lobby : Text} {number : ℕ} (rest : List Text) (h : Denotes lobby number) :
    Types ("JOIN_LOBBY".toList :: lobby :: rest) (.joinLobby number)
  | startGame (rest : List Text) : Types ("START_GAME".toList :: rest) .startGame
  | move {name : Text} {direction : Direction} (rest : List Text)
    (h : directionToString direction = some name) :
    Types ("MOVE".toList :: name :: rest) (.move direction)
  | attack (rest : List Text) : Types ("ATTACK".toList :: rest) .attack

/-- The session may send the command for the player: any session may join under a name, the
other commands take the player that the session is bound to. -/
def Typed.MaySend (registry : SessionRegistry) (s : SessionId) (p : PlayerId) : Typed → Prop
  | .join _ => True
  | _ => registry.getPlayerIdBySessionId s = some p

/-- The event is the request of the command, made on the session by the player. -/
def Typed.Requests (s : SessionId) (p : PlayerId) : Typed → Event → Prop
  | .join name, .authRequested session_id player_id =>
    session_id = s ∧ encodeString name = some player_id.get
  | .createLobby, .createLobbyRequest player_id => player_id = p
  | .listLobby, .listLobbiesRequest player_id => player_id = p
  | .joinLobby number, .joinLobbyRequest player_id lobby_id =>
    player_id = p ∧ lobby_id.get.toNat = number
  | .startGame, .startGameRequest player_id => player_id = p
  | .move direction, .moveRequest player_id direction' =>
    player_id = p ∧ direction' = direction
  | .attack, .atackRequest player_id => player_id = p
  | _, _ => False

/-! ### From the line to the message -/

/-- The type and the arguments of the message for a command. -/
inductive Typed.Sent : Typed → MessageTypeVariant → MessageArgs → Prop
  | join {name : Text} {playerId : UInt64} (h : encodeString name = some playerId) :
    Sent (.join name) (.network .kJoin) [playerId]
  | createLobby : Sent .createLobby (.app .kCreateParty) []
  | listLobby : Sent .listLobby (.app .kListParties) []
  | joinLobby (lobbyId : UInt64) : Sent (.joinLobby lobbyId.toNat) (.app .kJoinParty) [lobbyId]
  | startGame : Sent .startGame (.app .kStartGame) []
  | move (direction : Direction) :
    Sent (.move direction) (.domain .kMove) [direction.byte.toUInt64]
  | attack : Sent .attack (.domain .kAttack) []

variable {lib : Libcbor} {line iss word : Text} {bytes : ByteBuffer}
variable {t : MessageTypeVariant} {args : MessageArgs} {typed : Typed}

lemma trySerialize_message (h : (trySerialize lib t args).2 = some bytes) :
    serializeMessageToBuffer lib t args = some bytes := by
  unfold trySerialize at h
  split at h
  · cases h
  · rename_i buffer hbuffer
    rw [hbuffer]
    exact h

lemma handleJoin_message (h : (handleJoin lib word).2 = some bytes) :
    ∃ playerId, encodeString word = some playerId ∧
      serializeMessageToBuffer lib (.network .kJoin) [playerId] = some bytes := by
  unfold handleJoin at h
  split_ifs at h
  split at h
  · cases h
  · exact ⟨_, ‹_›, trySerialize_message h⟩

lemma handleJoinLobby_message (h : (handleJoinLobby lib word).2 = some bytes) :
    ∃ lobbyId, convertStringToUint64 word = some lobbyId ∧
      serializeMessageToBuffer lib (.app .kJoinParty) [lobbyId] = some bytes := by
  unfold handleJoinLobby at h
  split at h
  · cases h
  · exact ⟨_, ‹_›, trySerialize_message h⟩

/-- A word that was extracted has no whitespace and is the first of the words. -/
lemma extract_word {stream : Text} (h : extract stream = some (word, iss)) :
    (∀ c ∈ word, isWhitespace c = false) ∧
      Words.words isWhitespace stream = word :: Words.words isWhitespace iss :=
  ⟨(Words.takeWord_spec h).2.2.1, Words.words_of_takeWord h⟩

/-- A message is sent for a command that was typed. -/
lemma routeCommand_message (h : (routeCommand lib line).2 = some bytes) :
    ∃ typed t args, Types (Words.words isWhitespace line) typed ∧ typed.Sent t args ∧
      serializeMessageToBuffer lib t args = some bytes := by
  unfold routeCommand at h
  cases hline : extract line with
  | none => rw [hline] at h; cases h
  | some cmd =>
    obtain ⟨cmd, iss⟩ := cmd
    rw [hline] at h
    rw [(extract_word hline).2]
    simp only [Option.getD_some] at h
    split_ifs at h with hjoin hcreate hlist hlobby hstart hmove hattack
    · split at h
      · cases h
      · rename_i name rest hname
        obtain ⟨playerId, henc, hser⟩ := handleJoin_message h
        rw [hjoin, (extract_word hname).2]
        exact ⟨_, _, _, .join name _, .join henc, hser⟩
    · rw [hcreate]
      exact ⟨_, _, _, .createLobby _, .createLobby, trySerialize_message h⟩
    · rw [hlist]
      exact ⟨_, _, _, .listLobby _, .listLobby, trySerialize_message h⟩
    · split at h
      · cases h
      · rename_i lobby rest hlobby'
        obtain ⟨lobbyId, hconv, hser⟩ := handleJoinLobby_message h
        obtain ⟨hword, hwords⟩ := extract_word hlobby'
        rw [hlobby, hwords]
        have hnumber := denotes_of_convertStringToUint64 hword hconv
        exact ⟨_, _, _, .joinLobby _ hnumber, .joinLobby lobbyId, hser⟩
    · rw [hstart]
      exact ⟨_, _, _, .startGame _, .startGame, trySerialize_message h⟩
    · split at h
      · cases h
      · rename_i name rest hname
        split at h
        · rename_i byte hbyte
          obtain ⟨direction, hdir, hbyte⟩ := Option.bind_eq_some_iff.mp hbyte
          obtain ⟨hstring, hbyte'⟩ := directionFromString_eq_some hdir
          obtain rfl := Option.some.inj (hbyte'.symm.trans hbyte)
          rw [hmove, (extract_word hname).2]
          exact ⟨_, _, _, .move _ hstring, .move direction, trySerialize_message h⟩
        · cases h
    · rw [hattack]
      exact ⟨_, _, _, .attack _, .attack, trySerialize_message h⟩

/-! ### From the message to the event -/

open MessageRouter

variable {registry : SessionRegistry} {s : SessionId} {p : PlayerId}

lemma Typed.Sent.isReal (h : typed.Sent t args) : t.IsReal := by
  cases h <;> exact fun h => nomatch h

/-- The router sees the message that was serialized. -/
lemma onRawMessage_serialized (h : lib.RoundTripsOn CborItem.UintArray) (ht : t.IsReal)
    (hb : serializeMessageToBuffer lib t args = some bytes) :
    onRawMessage lib registry s bytes = makeEvent t (slotArgs registry s t ++ args) := by
  obtain ⟨bytes', hser, hdes⟩ := message_roundTrip h ht args
  obtain rfl : bytes' = bytes := Option.some.inj (hser.symm.trans hb)
  simp only [onRawMessage, hdes]

lemma Typed.Sent.event (h : typed.Sent t args) (hs : typed.MaySend registry s p) :
    ∃ e, makeEvent t (slotArgs registry s t ++ args) = some e ∧ typed.Requests s p e := by
  have own (ht : IsPlayerRequest t) (hp : registry.getPlayerIdBySessionId s = some p) :
      slotArgs registry s t = [p.get] := by
    rw [slotArgs_playerRequest ht, hp]
    rfl
  cases h with
  | join henc => exact ⟨_, rfl, rfl, henc⟩
  | createLobby =>
    rw [own trivial hs]
    exact ⟨_, rfl, rfl⟩
  | listLobby =>
    rw [own trivial hs]
    exact ⟨_, rfl, rfl⟩
  | joinLobby lobbyId =>
    rw [own trivial hs]
    exact ⟨_, rfl, rfl, rfl⟩
  | startGame =>
    rw [own trivial hs]
    exact ⟨_, rfl, rfl⟩
  | move direction =>
    rw [own trivial hs]
    have hlt : direction.byte.toUInt64.toNat < 256 := direction.byte.toNat_lt
    have hcast : safeArgumentCast direction.byte.toUInt64 = some direction := by
      show (if _ then _ else _) = _
      rw [if_pos hlt, UInt8.toUInt8_toUInt64]
    refine ⟨.moveRequest p direction, ?_, rfl, rfl⟩
    exact createEvent₂_eq_some.mpr ⟨_, _, p, direction, rfl, rfl, hcast, rfl⟩
  | attack =>
    rw [own trivial hs]
    exact ⟨_, rfl, rfl⟩

/-- **Commands arrive as they were typed.** When a line makes the client send a message, the
line types a command, and on every session that may send it the router publishes the request
of that command for the message, and nothing else. -/
theorem commands_agree (lib : Libcbor) (h : lib.RoundTripsOn CborItem.UintArray) (line : Text)
    (bytes : ByteBuffer) (hsent : (routeCommand lib line).2 = some bytes) :
    ∃ typed, Types (Words.words isWhitespace line) typed ∧
      ∀ registry s p, typed.MaySend registry s p →
        ∃ e, onRawMessage lib registry s bytes = some e ∧ typed.Requests s p e := by
  obtain ⟨typed, t, args, htypes, hargs, hser⟩ := routeCommand_message hsent
  refine ⟨typed, htypes, fun registry s p hs => ?_⟩
  rw [onRawMessage_serialized h hargs.isReal hser]
  exact hargs.event hs

/-- A lobby is joined by its number. -/
theorem joins_lobby_7 : ∃ bytes, (routeCommand .definite " JOIN_LOBBY 7 now".toList).2 =
    some bytes ∧ ∃ typed, Types (Words.words isWhitespace " JOIN_LOBBY 7 now".toList) typed ∧
      ∀ registry s p, typed.MaySend registry s p →
        ∃ e, onRawMessage .definite registry s bytes = some e ∧ typed.Requests s p e := by
  have hsent : (routeCommand .definite " JOIN_LOBBY 7 now".toList).2 =
      some [0x82, 0x1B, 0, 0, 0, 0, 0, 0, 1, 6, 0x1B, 0, 0, 0, 0, 0, 0, 0, 7] := by decide
  exact ⟨_, hsent, commands_agree .definite Libcbor.definite_roundTrips.uintArrays _ _ hsent⟩

end Ui

end DungeonCrawler
