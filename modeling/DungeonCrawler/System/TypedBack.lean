import DungeonCrawler.Client.CommandRouter
import DungeonCrawler.Client.MessageRouter
import DungeonCrawler.Common.Names
import DungeonCrawler.Server.ResponseSender

/-!
From the answers of the server to the screen and back to the server.

An answer that has arguments is printed with them, numbers in decimal and a player by name. What
is printed can be typed after a command and then stands for what the server meant.
-/

namespace DungeonCrawler

namespace TypedBack

open Ui MessageRouter ResponseSender

/-- The word can be typed. -/
def IsWord (word : Text) : Prop := word ≠ [] ∧ ∀ c ∈ word, isWhitespace c = false

/-- A line that begins with the command and the word makes the client send a message that the
router publishes as the event, on every session that meets the condition. -/
def Asks (lib : Libcbor) (command word : Text)
    (event : SessionRegistry → SessionId → Option Event) : Prop :=
  IsWord word ∧ ∀ line rest, Words.words isWhitespace line = command :: word :: rest →
    ∃ bytes, (routeCommand lib line).2 = some bytes ∧ ∀ registry s e, event registry s = some e →
      onRawMessage lib registry s bytes = some e

/-- Typed after the command to join a lobby, the word stands for the lobby. -/
def NamesLobby (lib : Libcbor) (word : Text) (l : LobbyId) : Prop :=
  Asks lib Commands.kJoinLobby word fun registry s =>
    (registry.getPlayerIdBySessionId s).map (.joinLobbyRequest · l)

/-- Typed after the command to join, the word stands for the player. -/
def NamesPlayer (lib : Libcbor) (word : Text) (p : PlayerId) : Prop :=
  Asks lib Commands.kJoin word fun _ s => some (.authRequested s p)

/-- What the client prints for an answer with arguments, and what it can be typed for. A list of no
lobbies is not told from a malformed one, and a name is too short to be typed if it has less than
four characters. -/
def Printed (lib : Libcbor) (lines : Option (List Text)) : Event → Prop
  | .lobbyCreatedResponse _ l => ∃ word, NamesLobby lib word l ∧
    lines = some [joinWithSpace [kLobbyCreated, kLobbyId, word]]
  | .listLobbiesResponse _ [] => lines = some [joinWithSpace [kLobbyListCreated, kMalformed]]
  | .listLobbiesResponse _ ls => ∃ list, List.Forall₂ (NamesLobby lib) (list.splitOn ',') ls ∧
    lines = some [joinWithSpace [kLobbyListCreated, kLobbyList, list]]
  | .playerAuthenticationFailed _ p =>
    match decodeString p.get with
    | none => lines = some [joinWithSpace [kAuthFailed, kPlayerIdDecodeError]]
    | some name => (kMinLenPlayerName ≤ name.length → NamesPlayer lib name p) ∧
      lines = some [joinWithSpace [kAuthFailed, kPlayerId, name]]
  | _ => True

variable {lib : Libcbor} {word line : Text} {rest : List Text} {l : LobbyId} {p : PlayerId}

/-! ### Typing a word -/

lemma routeCommand_joinLobby
    (h : Words.words isWhitespace line = Commands.kJoinLobby :: word :: rest) :
    routeCommand lib line = handleJoinLobby lib word := by
  obtain ⟨iss, hcmd, hrest⟩ := Words.takeWord_of_words h
  obtain ⟨iss', hword, -⟩ := Words.takeWord_of_words hrest
  have hcmd : extract line = some (Commands.kJoinLobby, iss) := hcmd
  have hword : extract iss = some (word, iss') := hword
  simp only [routeCommand, hcmd, Option.getD_some]
  rw [if_neg (by decide), if_neg (by decide), if_neg (by decide), if_pos trivial]
  simp only [hword]

lemma routeCommand_join (h : Words.words isWhitespace line = Commands.kJoin :: word :: rest) :
    routeCommand lib line = handleJoin lib word := by
  obtain ⟨iss, hcmd, hrest⟩ := Words.takeWord_of_words h
  obtain ⟨iss', hword, -⟩ := Words.takeWord_of_words hrest
  have hcmd : extract line = some (Commands.kJoin, iss) := hcmd
  have hword : extract iss = some (word, iss') := hword
  simp only [routeCommand, hcmd, Option.getD_some]
  rw [if_pos trivial]
  simp only [hword]

/-- The decimals of a lobby's number name the lobby. -/
lemma namesLobby_decimal (h : lib.RoundTripsOn CborItem.UintArray) (l : LobbyId) :
    NamesLobby lib (decimal l.get.toNat) l := by
  have hd := denotes_decimal l.get.toNat
  refine ⟨⟨hd.ne_nil, hd.word⟩, fun line rest hline => ?_⟩
  have ht : (MessageTypeVariant.app .kJoinParty).IsReal := by simp [MessageTypeVariant.IsReal]
  obtain ⟨bytes, hser, -⟩ := message_roundTrip h ht [l.get]
  refine ⟨bytes, ?_, fun registry s e he => ?_⟩
  · rw [routeCommand_joinLobby hline]
    simp [handleJoinLobby, convertStringToUint64_of_denotes hd, trySerialize, hser]
  · obtain ⟨p, hp, rfl⟩ := Option.map_eq_some_iff.mp he
    have hslot : slotArgs registry s (.app .kJoinParty) = [p.get] := by
      rw [slotArgs_playerRequest (t := .app .kJoinParty) trivial, hp]
      rfl
    rw [onRawMessage_serialized h ht hser, hslot]
    rfl

/-- The name that a player's number packs names the player, if it is long enough to be typed. -/
lemma namesPlayer_decoded (h : lib.RoundTripsOn CborItem.UintArray) {name : Text}
    (hname : decodeString p.get = some name) (hlen : kMinLenPlayerName ≤ name.length) :
    NamesPlayer lib name p := by
  have hpack := decodeString_eq_some_iff.mp hname
  have hle : name.length ≤ kMaxLenPlayerName := hpack.length_le
  obtain ⟨idxs, hspell, -⟩ := hpack.digits
  have hword : ∀ c ∈ kCharset, isWhitespace c = false :=
    List.forall_iff_forall_mem.mp (by decide)
  refine ⟨⟨?_, fun c hc => hword c (hspell.mem_charset c hc)⟩, fun line rest hline => ?_⟩
  · rintro rfl
    simp [kMinLenPlayerName] at hlen
  have ht : (MessageTypeVariant.network .kJoin).IsReal := by simp [MessageTypeVariant.IsReal]
  obtain ⟨bytes, hser, -⟩ := message_roundTrip h ht [p.get]
  refine ⟨bytes, ?_, fun registry s e he => ?_⟩
  · rw [routeCommand_join hline, handleJoin, if_neg (by omega)]
    simp only [encodeString_eq_some_iff.mpr hpack, trySerialize, hser]
  · rw [onRawMessage_serialized h ht hser]
    exact he

/-! ### What is printed -/

lemma comma_notMem_decimal (n : ℕ) : ',' ∉ decimal n := fun h =>
  absurd ((denotes_decimal n).digits _ h) (by decide)

/-- The list that is printed has the decimals of the lobbies between its commas. -/
lemma splitOn_listText {args : MessageArgs} (h : args ≠ []) :
    (listText args).splitOn ',' = args.map fun arg => decimal arg.toNat := by
  refine List.splitOn_intercalate ',' (fun word hword => ?_) (by simpa using h)
  obtain ⟨arg, -, rfl⟩ := List.mem_map.mp hword
  exact comma_notMem_decimal _

lemma namesLobby_listText (h : lib.RoundTripsOn CborItem.UintArray) {ls : List LobbyId}
    (hls : ls ≠ []) :
    List.Forall₂ (NamesLobby lib) ((listText (ls.map StrongId.get)).splitOn ',') ls := by
  rw [splitOn_listText (by simpa using hls), List.map_map, List.forall₂_map_left_iff]
  exact List.forall₂_same.mpr fun l _ => namesLobby_decimal h l

/-- **Answers can be typed back.** Whatever event the sender of responses handles, what the client
prints for the bytes it sends stands for the lobbies or the player of the event: each lobby's
number, typed after the command to join a lobby, reaches the server as a request for this lobby,
and the name, typed after the command to join, as a request for this player. -/
theorem answers_can_be_typed (lib : Libcbor) (h : lib.RoundTrips) (ord : IterOrder SessionId)
    (registry : SessionRegistry) (e : Event) :
    ∀ m ∈ onEvent lib ord registry e, Printed lib (routeMessage lib m.2) e := by
  intro m hm
  have line {session : Option SessionPtr} {t : MessageTypeVariant} {args : MessageArgs}
      (ht : t.IsReal) (hm : m ∈ sendResponse lib session t args) :
      routeMessage lib m.2 = some [messageLine ⟨t, args⟩] :=
    routeMessage_message h ht (mem_sendResponse hm).2
  cases e with
  | lobbyCreatedResponse p l =>
    exact ⟨_, namesLobby_decimal h.uintArrays l, line (by simp [MessageTypeVariant.IsReal]) hm⟩
  | listLobbiesResponse p ls =>
    have hline := line (by simp [MessageTypeVariant.IsReal]) hm
    cases ls with
    | nil => exact hline
    | cons l ls => exact ⟨_, namesLobby_listText h.uintArrays (List.cons_ne_nil l ls), hline⟩
  | playerAuthenticationFailed s p =>
    have hline := line (by simp [MessageTypeVariant.IsReal]) hm
    simp only [messageLine, formatOutput, if_true] at hline
    cases hname : decodeString p.get with
    | none => simpa only [Printed, hname] using hline
    | some name =>
      simp only [Printed, hname] at hline ⊢
      exact ⟨namesPlayer_decoded h.uintArrays hname, hline⟩
  | _ => trivial

/-- A list of two lobbies, and the name of a player whose authentication failed. -/
theorem answers_can_be_typed_two :
    let registry := [SessionRegistry.Call.addSession (some ⟨1, ⟨1⟩⟩),
      .bindPlayerToSession ⟨7⟩ ⟨1⟩].foldl SessionRegistry.step .empty
    let list := Event.listLobbiesResponse ⟨7⟩ [⟨3⟩, ⟨12⟩]
    let failed := Event.playerAuthenticationFailed ⟨1⟩ ⟨0x4000000000CC2040⟩
    (∃ m ∈ onEvent .definite default registry list,
      Printed .definite (routeMessage .definite m.2) list) ∧
    ∃ m ∈ onEvent .definite default registry failed,
      Printed .definite (routeMessage .definite m.2) failed := by
  intro registry list failed
  have sent (e : Event) (hlen : (onEvent .definite default registry e).length = 1) :
      ∃ m ∈ onEvent .definite default registry e,
        Printed .definite (routeMessage .definite m.2) e := by
    obtain ⟨m, hm⟩ := List.exists_mem_of_length_pos (hlen ▸ Nat.one_pos)
    refine ⟨m, hm, ?_⟩
    exact answers_can_be_typed .definite Libcbor.definite_roundTrips default registry e m hm
  exact ⟨sent list (by decide), sent failed (by decide)⟩

end TypedBack

end DungeonCrawler
