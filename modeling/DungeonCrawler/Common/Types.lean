import Mathlib.Tactic

/-!
The types both programs share: byte buffers, identifiers, directions and message types.

A message type travels as one 16-bit number, the level above the number within the level.
-/

namespace DungeonCrawler

abbrev ByteBuffer := List UInt8

/-- A string of the programs: its bytes, each as the character of its number. -/
abbrev Text := List Char

/-- An identifier. The tag keeps identifiers of different things apart. -/
@[ext] structure StrongId (Tag : Type) where
  value : UInt64

namespace StrongId

variable {Tag : Type}

instance : DecidableEq (StrongId Tag) := fun a b =>
  decidable_of_iff (a.value = b.value) StrongId.ext_iff.symm

def get (id : StrongId Tag) : UInt64 := id.value

end StrongId

structure SessionIdTag
structure PlayerIdTag
structure MobIdTag
structure LobbyIdTag
structure GameIdTag

abbrev SessionId := StrongId SessionIdTag
abbrev PlayerId := StrongId PlayerIdTag
abbrev MobId := StrongId MobIdTag
abbrev LobbyId := StrongId LobbyIdTag
abbrev GameId := StrongId GameIdTag

/-- A direction is any byte: the enumeration has a fixed underlying type and values outside
its four enumerators reach the program. -/
structure Direction where
  byte : UInt8
  deriving DecidableEq

namespace Direction

def kUp : Direction := ⟨0⟩
def kDown : Direction := ⟨1⟩
def kLeft : Direction := ⟨2⟩
def kRight : Direction := ⟨3⟩

end Direction

def directionToString (dir : Direction) : Option Text :=
  if dir = .kUp then some "UP".toList
  else if dir = .kDown then some "DOWN".toList
  else if dir = .kLeft then some "LEFT".toList
  else if dir = .kRight then some "RIGHT".toList
  else none

def directionFromString (str : Text) : Option Direction :=
  if str = "UP".toList then some .kUp
  else if str = "DOWN".toList then some .kDown
  else if str = "LEFT".toList then some .kLeft
  else if str = "RIGHT".toList then some .kRight
  else none

def directionToByte (dir : Direction) : Option UInt8 :=
  if dir = .kUp ∨ dir = .kDown ∨ dir = .kLeft ∨ dir = .kRight then some dir.byte else none

/-- A direction that was read has the name it was read from, and a byte. -/
lemma directionFromString_eq_some {str : Text} {dir : Direction}
    (h : directionFromString str = some dir) :
    directionToString dir = some str ∧ directionToByte dir = some dir.byte := by
  unfold directionFromString at h
  split_ifs at h <;> cases h <;> subst_vars <;> decide

inductive Level
  | kNetwork | kApp | kDomain | kUnknown
  deriving DecidableEq

inductive NetworkMessageType
  | kPing | kPong | kJoin | kWelcome | kAuthFailed | kReconnect | kReconnected
  | kNotReconnected | kMax
  deriving DecidableEq

inductive AppMessageType
  | kCreateParty | kPartyCreated | kPartyNotCreated | kListParties | kListPartiesCreated
  | kListPartiesNotCreated | kJoinParty | kPlayerJoinedParty | kPlayerNotJoinedParty
  | kLeaveParty | kPlayerLeavedParty | kPlayerNotLeavedParty | kStartGame | kGameStarted
  | kGameNotStarted | kPlayerNotJoinedFullParty | kPlayerNotJoinedNotExistParty | kMax
  deriving DecidableEq

inductive DomainMessageType
  | kMove | kPlayerMoved | kPlayerNotMoved | kAttack | kPlayerAttacked | kPlayerNotAttacked
  | kStateUpdate | kStateNotUpdated | kGameOver | kMax
  deriving DecidableEq

inductive MessageTypeVariant
  | monostate
  | network (type : NetworkMessageType)
  | app (type : AppMessageType)
  | domain (type : DomainMessageType)
  deriving DecidableEq

/-- The enumerators in the order of their numbers; the sentinel ends each list. -/
def NetworkMessageType.enumerators : List NetworkMessageType :=
  [.kPing, .kPong, .kJoin, .kWelcome, .kAuthFailed, .kReconnect, .kReconnected,
    .kNotReconnected, .kMax]

def AppMessageType.enumerators : List AppMessageType :=
  [.kCreateParty, .kPartyCreated, .kPartyNotCreated, .kListParties, .kListPartiesCreated,
    .kListPartiesNotCreated, .kJoinParty, .kPlayerJoinedParty, .kPlayerNotJoinedParty,
    .kLeaveParty, .kPlayerLeavedParty, .kPlayerNotLeavedParty, .kStartGame, .kGameStarted,
    .kGameNotStarted, .kPlayerNotJoinedFullParty, .kPlayerNotJoinedNotExistParty, .kMax]

def DomainMessageType.enumerators : List DomainMessageType :=
  [.kMove, .kPlayerMoved, .kPlayerNotMoved, .kAttack, .kPlayerAttacked, .kPlayerNotAttacked,
    .kStateUpdate, .kStateNotUpdated, .kGameOver, .kMax]

def NetworkMessageType.toUint8 (t : NetworkMessageType) : UInt8 :=
  UInt8.ofNat (enumerators.idxOf t)
def AppMessageType.toUint8 (t : AppMessageType) : UInt8 := UInt8.ofNat (enumerators.idxOf t)
def DomainMessageType.toUint8 (t : DomainMessageType) : UInt8 :=
  UInt8.ofNat (enumerators.idxOf t)

-- A number is cast to an enumeration only below the sentinel.
def NetworkMessageType.ofUint8 (id : UInt8) : NetworkMessageType :=
  enumerators.getD id.toNat .kMax
def AppMessageType.ofUint8 (id : UInt8) : AppMessageType := enumerators.getD id.toNat .kMax
def DomainMessageType.ofUint8 (id : UInt8) : DomainMessageType :=
  enumerators.getD id.toNat .kMax

def kLevelShift : UInt16 := 8
def kIdMask : UInt16 := 0xFF

/-- Every level has a number below the mask of two bits. -/
def levelToUint8 : Level → Option UInt8
  | .kNetwork => some 0
  | .kApp => some 1
  | .kDomain => some 2
  | .kUnknown => some 3

def uint8ToLevel (raw : UInt8) : Option Level :=
  match raw.toNat with
  | 0 => some .kNetwork
  | 1 => some .kApp
  | 2 => some .kDomain
  | 3 => some .kUnknown
  | _ => none

structure LevelId where
  level : Level
  id : UInt8

def getLevelId (v : MessageTypeVariant) : Option LevelId :=
  match v with
  | .monostate => none
  | .network t => some ⟨.kNetwork, t.toUint8⟩
  | .app t => some ⟨.kApp, t.toUint8⟩
  | .domain t => some ⟨.kDomain, t.toUint8⟩

def makeVariantFromLevelId (level : Level) (id : UInt8) : Option MessageTypeVariant :=
  match level with
  | .kNetwork =>
    if id ≥ NetworkMessageType.kMax.toUint8 then none
    else some (.network (NetworkMessageType.ofUint8 id))
  | .kApp =>
    if id ≥ AppMessageType.kMax.toUint8 then none
    else some (.app (AppMessageType.ofUint8 id))
  | .kDomain =>
    if id ≥ DomainMessageType.kMax.toUint8 then none
    else some (.domain (DomainMessageType.ofUint8 id))
  | .kUnknown => none

def isNetworkMessage (v : MessageTypeVariant) : Bool :=
  match getLevelId v with
  | some info => info.level = .kNetwork
  | none => false

def isAppMessage (v : MessageTypeVariant) : Bool :=
  match getLevelId v with
  | some info => info.level = .kApp
  | none => false

def isDomainMessage (v : MessageTypeVariant) : Bool :=
  match getLevelId v with
  | some info => info.level = .kDomain
  | none => false

def asNetworkMessage : MessageTypeVariant → Option NetworkMessageType
  | .network t => some t
  | _ => none

def asAppMessage : MessageTypeVariant → Option AppMessageType
  | .app t => some t
  | _ => none

def asDomainMessage : MessageTypeVariant → Option DomainMessageType
  | .domain t => some t
  | _ => none

def packLevelId (level : Level) (id : UInt8) : Option UInt16 :=
  match levelToUint8 level with
  | none => none
  | some lvlU8 => some (lvlU8.toUInt16 <<< kLevelShift ||| id.toUInt16)

def packMessageType (v : MessageTypeVariant) : Option UInt16 :=
  match getLevelId v with
  | none => none
  | some info => packLevelId info.level info.id

def unpackMessageType (code : UInt16) : Option MessageTypeVariant :=
  let lvlRaw := (code >>> kLevelShift).toUInt8
  let id := (code &&& kIdMask).toUInt8
  match uint8ToLevel lvlRaw with
  | none => none
  | some level => makeVariantFromLevelId level id

/-- A type of message that is sent: no sentinel of a level and not the empty variant. -/
def MessageTypeVariant.IsReal : MessageTypeVariant → Prop
  | .monostate => False
  | .network t => t ≠ .kMax
  | .app t => t ≠ .kMax
  | .domain t => t ≠ .kMax

/-- The type of a message survives its packing. -/
lemma unpack_packMessageType {t : MessageTypeVariant} (ht : t.IsReal) :
    ∃ code, packMessageType t = some code ∧ unpackMessageType code = some t := by
  cases t with
  | monostate => exact absurd ht id
  | network t => cases t <;> first | exact absurd rfl ht | exact ⟨_, rfl, by decide⟩
  | app t => cases t <;> first | exact absurd rfl ht | exact ⟨_, rfl, by decide⟩
  | domain t => cases t <;> first | exact absurd rfl ht | exact ⟨_, rfl, by decide⟩

example : unpackMessageType 0x0100 = some (.app .kCreateParty) := by decide

end DungeonCrawler
