import DungeonCrawler.Common.Types
import DungeonCrawler.Lib.BigEndian

/-!
Messages with a header of two bytes: the type, packed, and the payload behind it.

What is parsed is what was made: a buffer is taken for a message exactly when it is the one made
of its type and payload, and only types of messages that are sent are taken.
-/

namespace DungeonCrawler

open BigEndian

def kPackedTypeSize : ℕ := 2

/-- The high byte first. -/
def appendPackedType (packed : UInt16) (out : ByteBuffer) : ByteBuffer :=
  out ++ [(packed >>> 8).toUInt8, (packed &&& 0xFF).toUInt8]

def readPackedType (buffer : ByteBuffer) (offset : ℕ) : Option UInt16 :=
  if offset + kPackedTypeSize > buffer.length then none
  else some ((buffer.getD offset 0).toUInt16 <<< 8 ||| (buffer.getD (offset + 1) 0).toUInt16)

/-- A type that cannot be packed makes an empty message. -/
def makeMessage (type : MessageTypeVariant) (payload : ByteBuffer) : ByteBuffer :=
  match packMessageType type with
  | none => []
  | some packed => appendPackedType packed [] ++ payload

structure ParsedRawMessage where
  type : MessageTypeVariant
  payload : ByteBuffer
  deriving DecidableEq

def parseMessage (data : ByteBuffer) : Option ParsedRawMessage :=
  if data.length < kPackedTypeSize then none
  else
    match readPackedType data 0 with
    | none => none
    | some packed =>
      match unpackMessageType packed with
      | none => none
      | some type => some ⟨type, data.drop kPackedTypeSize⟩

/-! ### Types and their codes -/

variable {code : UInt16} {t : MessageTypeVariant}

/-- The numbers below that of the sentinel are those of the enumerators before it. -/
lemma getD_enumerators {T : Type} [DecidableEq T] {enumerators : List T} {kMax : T}
    (hnodup : enumerators.Nodup) {id : UInt8} (h : id < .ofNat (enumerators.idxOf kMax)) :
    enumerators.getD id.toNat kMax ≠ kMax ∧
      UInt8.ofNat (enumerators.idxOf (enumerators.getD id.toNat kMax)) = id := by
  have hidx : id.toNat < enumerators.idxOf kMax :=
    (UInt8.lt_iff_toNat_lt.mp h).trans_le (Nat.mod_le _ _)
  have hlen : id.toNat < enumerators.length := hidx.trans_le List.idxOf_le_length
  rw [List.getD_eq_getElem _ _ hlen]
  refine ⟨fun hmax => ?_, ?_⟩
  · rw [← hmax, hnodup.idxOf_getElem] at hidx
    exact lt_irrefl _ hidx
  · rw [hnodup.idxOf_getElem, UInt8.ofNat_toNat]

/-- What a level and a number are taken for is packed into them again. -/
lemma getLevelId_of_makeVariant {level : Level} {id : UInt8}
    (h : makeVariantFromLevelId level id = some t) :
    t.IsReal ∧ getLevelId t = some ⟨level, id⟩ := by
  unfold makeVariantFromLevelId at h
  cases level with
  | kUnknown => cases h
  | kNetwork =>
    dsimp only at h
    split_ifs at h with hid
    obtain rfl := Option.some.inj h
    obtain ⟨hreal, hnumber⟩ := getD_enumerators (by decide) (UInt8.not_le.mp hid)
    exact ⟨hreal, congrArg (fun number => some (LevelId.mk .kNetwork number)) hnumber⟩
  | kApp =>
    dsimp only at h
    split_ifs at h with hid
    obtain rfl := Option.some.inj h
    obtain ⟨hreal, hnumber⟩ := getD_enumerators (by decide) (UInt8.not_le.mp hid)
    exact ⟨hreal, congrArg (fun number => some (LevelId.mk .kApp number)) hnumber⟩
  | kDomain =>
    dsimp only at h
    split_ifs at h with hid
    obtain rfl := Option.some.inj h
    obtain ⟨hreal, hnumber⟩ := getD_enumerators (by decide) (UInt8.not_le.mp hid)
    exact ⟨hreal, congrArg (fun number => some (LevelId.mk .kDomain number)) hnumber⟩

lemma levelToUint8_of_uint8ToLevel {raw : UInt8} {level : Level}
    (h : uint8ToLevel raw = some level) : levelToUint8 level = some raw := by
  unfold uint8ToLevel at h
  split at h <;> cases h <;> rename_i hraw <;>
    exact congrArg some (UInt8.toNat_inj.mp hraw).symm

/-- A code is unpacked to the type it is the code of, if that is one of a message. -/
lemma unpackMessageType_eq_some_iff :
    unpackMessageType code = some t ↔ t.IsReal ∧ packMessageType t = some code := by
  constructor
  · intro h
    simp only [unpackMessageType] at h
    split at h
    · cases h
    · rename_i level hlevel
      obtain ⟨hreal, hid⟩ := getLevelId_of_makeVariant h
      refine ⟨hreal, ?_⟩
      rw [packMessageType, hid]
      simp only [packLevelId, levelToUint8_of_uint8ToLevel hlevel]
      exact congrArg some (join16_high_low code)
  · rintro ⟨hreal, hpack⟩
    obtain ⟨code', hpack', hunpack⟩ := unpack_packMessageType hreal
    obtain rfl := Option.some.inj (hpack.symm.trans hpack')
    exact hunpack

/-! ### The format -/

lemma readPackedType_append (packed : UInt16) (payload : ByteBuffer) :
    readPackedType (appendPackedType packed [] ++ payload) 0 = some packed := by
  have hlen : ¬ 0 + kPackedTypeSize > (appendPackedType packed [] ++ payload).length := by
    simp [appendPackedType, kPackedTypeSize]
  rw [readPackedType, if_neg hlen]
  exact congrArg some (join16_high_low packed)

/-- The first two bytes are those of the number read. -/
lemma appendPackedType_read {data : ByteBuffer} {packed : UInt16}
    (h : readPackedType data 0 = some packed) :
    appendPackedType packed [] ++ data.drop kPackedTypeSize = data := by
  unfold readPackedType at h
  split_ifs at h with hlen
  match data, hlen with
  | a :: b :: payload, _ =>
    obtain rfl : join16 a b = packed := Option.some.inj h
    show [high16 _, low16 _] ++ payload = _
    rw [high16_join, low16_join]
    rfl
  | [], hlen => simp [kPackedTypeSize] at hlen
  | [_], hlen => simp [kPackedTypeSize] at hlen

/-- What is made of a type that can be packed is parsed to what its code is unpacked to. -/
lemma parseMessage_makeMessage {packed : UInt16} {payload : ByteBuffer}
    (h : packMessageType t = some packed) :
    parseMessage (makeMessage t payload) = (unpackMessageType packed).map (⟨·, payload⟩) := by
  have hmake : makeMessage t payload = appendPackedType packed [] ++ payload := by
    simp only [makeMessage, h]
  have hlen : ¬ (appendPackedType packed [] ++ payload).length < kPackedTypeSize := by
    simp [appendPackedType, kPackedTypeSize]
  rw [hmake, parseMessage, if_neg hlen, readPackedType_append]
  simp only
  cases unpackMessageType packed <;> rfl

lemma parseMessage_eq_some_iff {data : ByteBuffer} {parsed : ParsedRawMessage} :
    parseMessage data = some parsed ↔
      parsed.type.IsReal ∧ makeMessage parsed.type parsed.payload = data := by
  constructor
  · intro h
    unfold parseMessage at h
    split_ifs at h
    split at h
    · cases h
    · rename_i packed hread
      split at h
      · cases h
      · rename_i type htype
        obtain rfl := Option.some.inj h
        obtain ⟨hreal, hpack⟩ := unpackMessageType_eq_some_iff.mp htype
        refine ⟨hreal, ?_⟩
        simp only [makeMessage, hpack]
        exact appendPackedType_read hread
  · rintro ⟨hreal, rfl⟩
    obtain ⟨packed, hpack, hunpack⟩ := unpack_packMessageType hreal
    rw [parseMessage_makeMessage hpack, hunpack]
    rfl

/-- What is made of no type is empty, and no level takes the number of its sentinel. -/
lemma parseMessage_of_not_real {payload : ByteBuffer} (h : ¬ t.IsReal) :
    parseMessage (makeMessage t payload) = none := by
  cases t with
  | monostate => rfl
  | network t =>
    obtain rfl : t = .kMax := not_not.mp h
    rw [parseMessage_makeMessage (show packMessageType _ = some 0x0008 from rfl)]
    rfl
  | app t =>
    obtain rfl : t = .kMax := not_not.mp h
    rw [parseMessage_makeMessage (show packMessageType _ = some 0x0111 from rfl)]
    rfl
  | domain t =>
    obtain rfl : t = .kMax := not_not.mp h
    rw [parseMessage_makeMessage (show packMessageType _ = some 0x0209 from rfl)]
    rfl

/-- **Messages with a header are parsed as they were made.** A buffer is taken for a message
exactly when it is the one made of this type and this payload, so no two messages are made the
same; what is made of no type, or of the sentinel of a level, is never taken for a message. -/
theorem parses_what_was_made (data payload : ByteBuffer) (type : MessageTypeVariant) :
    (∀ parsed, parseMessage data = some parsed ↔
      parsed.type.IsReal ∧ makeMessage parsed.type parsed.payload = data) ∧
    (type.IsReal ∧ parseMessage (makeMessage type payload) = some ⟨type, payload⟩ ∨
      ¬ type.IsReal ∧ parseMessage (makeMessage type payload) = none) := by
  refine ⟨fun parsed => parseMessage_eq_some_iff, ?_⟩
  by_cases hreal : type.IsReal
  · exact Or.inl ⟨hreal, parseMessage_eq_some_iff.mpr ⟨hreal, rfl⟩⟩
  · exact Or.inr ⟨hreal, parseMessage_of_not_real hreal⟩

end DungeonCrawler
