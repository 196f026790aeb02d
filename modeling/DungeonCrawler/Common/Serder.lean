import DungeonCrawler.Common.Types

/-!
Messages as CBOR arrays: the packed type first, the arguments after it.

The CBOR library is a parameter. What the program sees of it is the item a buffer loads to,
with the report of the load, and the bytes of a serialized item; items themselves are the
data types of the library.
-/

namespace DungeonCrawler

abbrev MessageArgs := List UInt64

/-- An item of the CBOR library. -/
inductive CborItem
  | uint8 (value : UInt8)
  | uint16 (value : UInt16)
  | uint32 (value : UInt32)
  | uint64 (value : UInt64)
  | negint (value : UInt64)
  | bytestring (data : ByteBuffer)
  | string (definite : Bool) (data : ByteBuffer)
  | array (items : List CborItem)
  | map (pairs : List (CborItem × CborItem))
  | tag (number : UInt64) (item : CborItem)
  | floatCtrl (bits : UInt64)

inductive CborErrorCode
  | none | notEnoughData | noData | malformed | memError | syntaxError
  deriving DecidableEq

structure CborLoadResult where
  error : CborErrorCode
  read : ℕ

/-- The two functions of the CBOR library that read and write bytes. A serialization of
length zero reports a failure. -/
structure Libcbor where
  cborLoad : ByteBuffer → Option CborItem × CborLoadResult
  cborSerializeAlloc : CborItem → ByteBuffer

def CborItem.isaUint : CborItem → Bool
  | .uint8 _ | .uint16 _ | .uint32 _ | .uint64 _ => true
  | _ => false

def readCborUint : CborItem → Option UInt64
  | .uint8 v => some v.toUInt64
  | .uint16 v => some v.toUInt64
  | .uint32 v => some v.toUInt64
  | .uint64 v => some v
  | _ => none

/-- The item of a buffer that holds exactly one, and the report of the load. -/
def bufferToCbor (lib : Libcbor) (buffer : ByteBuffer) : Option CborItem × CborLoadResult :=
  let (root, result) := lib.cborLoad buffer
  if root.isNone ∨ result.error ≠ .none ∨ result.read ≠ buffer.length then (none, result)
  else (root, result)

def cborToMessage (lib : Libcbor) (root : CborItem) : Option ByteBuffer :=
  let data := lib.cborSerializeAlloc root
  if data.length = 0 then none else some data

lemma cborToMessage_ne_nil {lib : Libcbor} {root : CborItem} {bytes : ByteBuffer}
    (h : cborToMessage lib root = some bytes) : bytes ≠ [] := by
  unfold cborToMessage at h
  dsimp only at h
  split_ifs at h with hl
  rintro rfl
  rw [Option.some.inj h] at hl
  exact hl rfl

def getMsgArgsFromCborArray : CborItem → Option MessageArgs
  | .array (_ :: items) =>
    items.mapM fun item => if item.isaUint then readCborUint item else none
  | _ => none

/-- An item pushed to a definite array of a size; a full one takes no more. -/
def cborArrayPush (size : ℕ) (items : List CborItem) (item : CborItem) :
    Option (List CborItem) :=
  if items.length < size then some (items ++ [item]) else none

def addArgToArray (size : ℕ) (items : List CborItem) (value : UInt64) :
    Option (List CborItem) := cborArrayPush size items (.uint64 value)

/-- The array of a message with its type in front; room is left for the arguments. -/
def createMessageArray (msg_type : MessageTypeVariant) (numArgs : ℕ) :
    Option (List CborItem) :=
  if msg_type = .monostate then none
  else
    match packMessageType msg_type with
    | none => none
    | some packed => cborArrayPush (1 + numArgs) [] (.uint64 packed.toUInt64)

def serializeMessageToBuffer (lib : Libcbor) (msg_type : MessageTypeVariant)
    (args : MessageArgs) : Option ByteBuffer := do
  let msg_array ← createMessageArray msg_type args.length
  let msg_array ← args.foldlM (addArgToArray (1 + args.length)) msg_array
  cborToMessage lib (.array msg_array)

structure DeserializedRawMessage where
  type : MessageTypeVariant
  args : MessageArgs
  deriving DecidableEq

def deserializeBufferToMessage (lib : Libcbor) (buffer : ByteBuffer) :
    Option DeserializedRawMessage :=
  match bufferToCbor lib buffer with
  | (some (.array (msg_type_item :: items)), load_result) =>
    if load_result.error ≠ .none then none
    else if !msg_type_item.isaUint then none
    else do
      let packed ← readCborUint msg_type_item
      let packed_type := packed.toUInt16
      let msg_type ← unpackMessageType packed_type
      let msg_args ← getMsgArgsFromCborArray (.array (msg_type_item :: items))
      return ⟨msg_type, msg_args⟩
  | _ => none

/-! ### A library to run the program with -/

/-- The last bytes of a number, in network byte order. -/
def bytesBE (count n : ℕ) : ByteBuffer :=
  ((List.range count).map fun i => UInt8.ofNat (n >>> (8 * i))).reverse

/-- The unsigned integer at the front of a buffer, in the shortest forms, and the rest. -/
def loadUint : ByteBuffer → Option (CborItem × ByteBuffer)
  | [] => none
  | head :: rest =>
    if head < 24 then some (.uint8 head, rest)
    else match head.toNat, rest with
      | 24, a :: rest => some (.uint8 a, rest)
      | 25, a :: b :: rest => some (.uint16 (a.toUInt16 <<< 8 ||| b.toUInt16), rest)
      | _, _ => none

def loadUints : ℕ → ByteBuffer → Option (List CborItem × ByteBuffer)
  | 0, buffer => some ([], buffer)
  | n + 1, buffer => do
    let (item, rest) ← loadUint buffer
    let (items, rest) ← loadUints n rest
    return (item :: items, rest)

/-- The loader on arrays of at most 23 unsigned integers below `2 ^ 16`; every other buffer
is reported as malformed. -/
def loadFlat (buffer : ByteBuffer) : Option CborItem × CborLoadResult :=
  match buffer with
  | head :: rest =>
    if 0x80 ≤ head ∧ head < 0x98 then
      match loadUints (head.toNat - 0x80) rest with
      | some (items, rest) =>
        (some (.array items), ⟨.none, buffer.length - rest.length⟩)
      | none => (none, ⟨.malformed, 0⟩)
    else (none, ⟨.malformed, 0⟩)
  | [] => (none, ⟨.noData, 0⟩)

/-- The head of an item: the major type and, in the shortest form, a number. -/
def encodeHead (major : UInt8) (n : ℕ) : ByteBuffer :=
  if n < 24 then [major + UInt8.ofNat n]
  else if n < 2 ^ 8 then [major + 24, UInt8.ofNat n]
  else if n < 2 ^ 16 then (major + 25) :: bytesBE 2 n
  else if n < 2 ^ 32 then (major + 26) :: bytesBE 4 n
  else (major + 27) :: bytesBE 8 n

mutual

/-- An integer is written in the width of its item. -/
def serializeItem : CborItem → ByteBuffer
  | .uint8 v => encodeHead 0x00 v.toNat
  | .uint16 v => 0x19 :: bytesBE 2 v.toNat
  | .uint32 v => 0x1A :: bytesBE 4 v.toNat
  | .uint64 v => 0x1B :: bytesBE 8 v.toNat
  | .negint v => 0x3B :: bytesBE 8 v.toNat
  | .bytestring data => encodeHead 0x40 data.length ++ data
  | .string true data => encodeHead 0x60 data.length ++ data
  | .string false data => 0x7F :: (encodeHead 0x60 data.length ++ data ++ [0xFF])
  | .array items => encodeHead 0x80 items.length ++ serializeItems items
  | .map pairs => encodeHead 0xA0 pairs.length ++ serializePairs pairs
  | .tag number item => encodeHead 0xC0 number.toNat ++ serializeItem item
  | .floatCtrl bits => 0xFB :: bytesBE 8 bits.toNat

def serializeItems : List CborItem → ByteBuffer
  | [] => []
  | item :: items => serializeItem item ++ serializeItems items

def serializePairs : List (CborItem × CborItem) → ByteBuffer
  | [] => []
  | (key, value) :: pairs => serializeItem key ++ serializeItem value ++ serializePairs pairs

end

/-- A library that serializes every item and loads short flat arrays. -/
def Libcbor.flat : Libcbor where
  cborLoad := loadFlat
  cborSerializeAlloc := serializeItem

example : deserializeBufferToMessage .flat [0x82, 0x19, 0x01, 0x00, 0x05] =
    some ⟨.app .kCreateParty, [5]⟩ := by decide

end DungeonCrawler
