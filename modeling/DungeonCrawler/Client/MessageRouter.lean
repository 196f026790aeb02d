import DungeonCrawler.Client.RenderGameState
import DungeonCrawler.Common.SerderRoundTrip
import DungeonCrawler.Domain.Snapshot

/-!
What the client makes of a buffer it receives: a game state if it reads as one, a message
otherwise.
-/

namespace DungeonCrawler

namespace Ui

def kMalformed : Text := "malformed message argumnets".toList
def kUnknown : Text := "unknown argumnets type".toList
def kPlayerIdDecodeError : Text := "PlayerID decode error".toList

def kAuthFailed : Text := "AUTHENTICATION FAILED".toList
def kLobbyCreated : Text := "LOBBY CREATED".toList
def kLobbyListCreated : Text := "LOBBY LIST CREATED".toList

def kPlayerId : Text := "PlayerId".toList
def kLobbyId : Text := "LobbyId".toList
def kLobbyList : Text := "LobbyList".toList

def listText (args : MessageArgs) : Text :=
  [','].intercalate (args.map fun arg => decimal arg.toNat)

def formatOutput (pre : Text) (args : MessageArgs) (id_type : Text) : Text :=
  match args with
  | [] => joinWithSpace [pre, kMalformed]
  | arg :: _ =>
    if id_type = kPlayerId then
      match decodeString arg with
      | some name => joinWithSpace [pre, id_type, name]
      | none => joinWithSpace [pre, kPlayerIdDecodeError]
    else if id_type = kLobbyId then joinWithSpace [pre, id_type, decimal arg.toNat]
    else if id_type = kLobbyList then joinWithSpace [pre, id_type, listText args]
    else joinWithSpace [pre, kUnknown]

/-- The line for a message. -/
def messageLine (parsed : DeserializedRawMessage) : Text :=
  match parsed.type with
  | .network .kWelcome => "WELCOME".toList
  | .network .kAuthFailed => formatOutput kAuthFailed parsed.args kPlayerId
  | .network _ => "Unknown network message".toList
  | .app .kPartyCreated => formatOutput kLobbyCreated parsed.args kLobbyId
  | .app .kPartyNotCreated => "LOBBY NOT CREATED".toList
  | .app .kListPartiesCreated => formatOutput kLobbyListCreated parsed.args kLobbyList
  | .app .kListPartiesNotCreated => "LOBBY LIST NOT CREATED".toList
  | .app .kPlayerJoinedParty => "JOIN LOBBY SUCCESS".toList
  | .app .kPlayerNotJoinedParty => "JOIN LOBBY FAILED".toList
  | .app .kPlayerNotJoinedFullParty => "JOIN LOBBY FAILED - LOBBY FULL".toList
  | .app .kPlayerNotJoinedNotExistParty => "JOIN LOBBY FAILED - LOBBY NOT EXIST".toList
  | .app .kGameStarted => "START GAME SUCCESS".toList
  | .app .kGameNotStarted => "START GAME FAILED".toList
  | .app _ => "Unknown app message".toList
  | .domain _ | .monostate => "Unsupported message level".toList

/-- What a buffer is taken for. -/
inductive Incoming
  | gameState (snapshot : DungeonSnapshot)
  | message (parsed : DeserializedRawMessage)
  | unreadable
  deriving DecidableEq

/-- The first attempt that succeeds decides. -/
def readIncoming (lib : Libcbor) (buffer : ByteBuffer) : Incoming :=
  match deserializeGameState lib buffer with
  | some game_state => .gameState game_state
  | none =>
    match deserializeBufferToMessage lib buffer with
    | some parsed => .message parsed
    | none => .unreadable

/-- The lines that are put out, if drawing the map has a result. -/
def routeMessage (lib : Libcbor) (buffer : ByteBuffer) : Option (List Text) :=
  match readIncoming lib buffer with
  | .gameState game_state => renderGameState game_state
  | .message parsed => some [messageLine parsed]
  | .unreadable => some ["Failed to parse incoming message".toList]

/-! ### What is written is taken for what it is -/

section

variable {lib : Libcbor} {t : MessageTypeVariant} {args : MessageArgs} {bytes : ByteBuffer}
variable {snapshot : DungeonSnapshot}

lemma readIncoming_message (h : lib.RoundTrips) (ht : t.IsReal)
    (hb : serializeMessageToBuffer lib t args = some bytes) :
    readIncoming lib bytes = .message ⟨t, args⟩ := by
  obtain ⟨bytes', hser, hdes⟩ := message_roundTrip h.uintArrays ht args
  obtain rfl : bytes' = bytes := Option.some.inj (hser.symm.trans hb)
  simp only [readIncoming, message_not_gameState h.uintArrays hb, hdes]

lemma readIncoming_gameState (h : lib.RoundTrips)
    (hb : serializeGameState lib snapshot = some bytes) :
    readIncoming lib bytes = .gameState snapshot := by
  obtain ⟨bytes', hser, hdes⟩ := gameState_roundTrip h snapshot
  obtain rfl : bytes' = bytes := Option.some.inj (hser.symm.trans hb)
  simp only [readIncoming, hdes]

/-- The line of a message is put out, whatever its arguments are. -/
lemma routeMessage_message (h : lib.RoundTrips) (ht : t.IsReal)
    (hb : serializeMessageToBuffer lib t args = some bytes) :
    routeMessage lib bytes = some [messageLine ⟨t, args⟩] := by
  rw [routeMessage, readIncoming_message h ht hb]

lemma routeMessage_gameState (h : lib.RoundTrips)
    (hb : serializeGameState lib snapshot = some bytes) :
    routeMessage lib bytes = renderGameState snapshot := by
  rw [routeMessage, readIncoming_gameState h hb]

end

/-- Messages of real types and snapshots of dungeons are read back as they were written, and
the client takes each for what it is. -/
structure FormatsAgree (lib : Libcbor) : Prop where
  message : ∀ (t : MessageTypeVariant) (args : MessageArgs), t.IsReal →
    ∃ bytes, serializeMessageToBuffer lib t args = some bytes ∧
      deserializeBufferToMessage lib bytes = some ⟨t, args⟩
  game_state : ∀ (outcomes : TickOutcomes) (state : DungeonState), ∃ bytes snapshot,
    serializeGameState lib (createGameStateDTO outcomes state) = some bytes ∧
      deserializeGameState lib bytes = some snapshot ∧ snapshot.Shows state
  reads_message : ∀ (t : MessageTypeVariant) (args : MessageArgs) (bytes : ByteBuffer),
    t.IsReal → serializeMessageToBuffer lib t args = some bytes →
      readIncoming lib bytes = .message ⟨t, args⟩
  never_game_state : ∀ (t : MessageTypeVariant) (args : MessageArgs) (bytes : ByteBuffer),
    serializeMessageToBuffer lib t args = some bytes →
      ∀ snapshot, readIncoming lib bytes ≠ .gameState snapshot
  reads_game_state : ∀ (snapshot : DungeonSnapshot) (bytes : ByteBuffer),
    serializeGameState lib snapshot = some bytes →
      readIncoming lib bytes = .gameState snapshot

/-- **The formats agree.** With any library that loads what it serialized. -/
theorem formats_agree (lib : Libcbor) (h : lib.RoundTrips) : FormatsAgree lib where
  message _ args ht := message_roundTrip h.uintArrays ht args
  game_state outcomes state := by
    obtain ⟨bytes, hser, hdes⟩ := gameState_roundTrip h (createGameStateDTO outcomes state)
    exact ⟨bytes, _, hser, hdes, createGameStateDTO_shows outcomes state⟩
  reads_message _ _ _ ht hb := readIncoming_message h ht hb
  never_game_state t args bytes hb snapshot := by
    simp only [readIncoming, message_not_gameState h.uintArrays hb]
    split <;> exact Incoming.noConfusion
  reads_game_state _ _ hb := readIncoming_gameState h hb

/-- The library that writes definite trees keeps both formats. -/
theorem definite_formats_agree : FormatsAgree .definite :=
  formats_agree .definite Libcbor.definite_roundTrips

end Ui

end DungeonCrawler
