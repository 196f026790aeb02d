import DungeonCrawler.Common.Cbor
import DungeonCrawler.Common.GameState
import DungeonCrawler.Lib.MapM

/-!
Both wire formats are read back as they were written, and neither is taken for the other.
-/

namespace DungeonCrawler

variable {lib : Libcbor} {t : MessageTypeVariant} {args : MessageArgs} {bytes : ByteBuffer}

/-! ### Messages -/

/-- The array of a message. -/
def messageItem (code : UInt16) (args : MessageArgs) : CborItem :=
  .array (.uint64 code.toUInt64 :: args.map .uint64)

lemma messageItem_uintArray (code : UInt16) (args : MessageArgs) :
    (messageItem code args).UintArray := by
  intro item hitem
  rcases List.mem_cons.mp hitem with rfl | hitem
  · rfl
  · obtain ⟨v, -, rfl⟩ := List.mem_map.mp hitem
    rfl

lemma foldlM_addArgToArray {size : ℕ} {items : List CborItem}
    (h : items.length + args.length ≤ size) :
    args.foldlM (addArgToArray size) items = some (items ++ args.map .uint64) := by
  induction args generalizing items with
  | nil => simp
  | cons v args ih =>
    rw [List.length_cons] at h
    have hpush : addArgToArray size items v = some (items ++ [.uint64 v]) := if_pos (by omega)
    rw [List.foldlM_cons, hpush, Option.bind_eq_bind, Option.bind_some,
      ih (by rw [List.length_append, List.length_singleton]; omega), List.append_assoc]
    rfl

/-- What is serialized of a message, if anything is, is its array. -/
lemma serializeMessage_item (h : serializeMessageToBuffer lib t args = some bytes) :
    ∃ code, packMessageType t = some code ∧
      cborToMessage lib (messageItem code args) = some bytes := by
  obtain ⟨array, harray, h⟩ := Option.bind_eq_some_iff.mp h
  obtain ⟨items, hitems, h⟩ := Option.bind_eq_some_iff.mp h
  unfold createMessageArray at harray
  split_ifs at harray
  split at harray
  · cases harray
  · rename_i code hcode
    obtain rfl : [.uint64 code.toUInt64] = array := by
      simpa [cborArrayPush] using harray
    rw [foldlM_addArgToArray (by simp)] at hitems
    obtain rfl := Option.some.inj hitems
    exact ⟨code, hcode, h⟩

lemma serializeMessage_eq {code : UInt16} (hcode : packMessageType t = some code) :
    serializeMessageToBuffer lib t args = cborToMessage lib (messageItem code args) := by
  have hne : t ≠ .monostate := by
    rintro rfl
    cases hcode
  have hcreate : createMessageArray t args.length = some [.uint64 code.toUInt64] := by
    simp [createMessageArray, hne, hcode, cborArrayPush]
  simp only [serializeMessageToBuffer, hcreate, Option.bind_eq_bind, Option.bind_some]
  rw [foldlM_addArgToArray (by simp)]
  rfl

/-- A message of a real type is serialized and read back. -/
lemma message_roundTrip (h : lib.RoundTripsOn CborItem.UintArray) (ht : t.IsReal)
    (args : MessageArgs) :
    ∃ bytes, serializeMessageToBuffer lib t args = some bytes ∧
      deserializeBufferToMessage lib bytes = some ⟨t, args⟩ := by
  obtain ⟨code, hpack, hunpack⟩ := unpack_packMessageType ht
  have hd := messageItem_uintArray code args
  have hb := h.cborToMessage hd
  have hargs : getMsgArgsFromCborArray (messageItem code args) = some args :=
    List.mapM_map_of_forall args fun v _ => rfl
  refine ⟨_, (serializeMessage_eq hpack).trans hb, ?_⟩
  rw [deserializeBufferToMessage, h.bufferToCbor hd hb]
  show ((unpackMessageType code.toUInt64.toUInt16).bind fun msg_type =>
    (getMsgArgsFromCborArray (messageItem code args)).bind fun msg_args =>
      some (DeserializedRawMessage.mk msg_type msg_args)) = some ⟨t, args⟩
  rw [hargs, UInt16.toUInt16_toUInt64, hunpack]
  rfl

/-! ### Snapshots -/

lemma buildArray_definite (values : List UInt64) : (buildArray values).Definite := by
  refine .array _ fun item hitem => ?_
  obtain ⟨v, -, rfl⟩ := List.mem_map.mp hitem
  exact .uint64 v

lemma serializeVector_definite {α : Type} {serialize : α → CborItem}
    (h : ∀ a, (serialize a).Definite) (as : List α) :
    (CborItem.array (as.map serialize)).Definite := by
  refine .array _ fun item hitem => ?_
  obtain ⟨a, -, rfl⟩ := List.mem_map.mp hitem
  exact h a

lemma GameMapSnapshot.serialize_definite (map : GameMapSnapshot) : map.serialize.Definite := by
  refine .array _ fun item hitem => ?_
  simp only [List.mem_cons, List.not_mem_nil, or_false] at hitem
  rcases hitem with rfl | rfl | rfl | rfl | rfl
  · exact .uint64 _
  · exact .uint64 _
  · exact .uint64 _
  · exact .uint64 _
  · exact serializeVector_definite (fun _ => buildArray_definite _) map.barriers

/-- The narrower fields of an entity survive their widening. -/
lemma EntitySnapshot.deserialize_serialize (entity : EntitySnapshot) :
    deserialize entity.serialize = some entity := by
  show some (EntitySnapshot.mk entity.type.toUInt64.toUInt8 entity.state.toUInt64.toUInt8
    entity.id entity.pos_x entity.pos_y entity.hp.toUInt64.toUInt32) = some entity
  rw [UInt8.toUInt8_toUInt64, UInt8.toUInt8_toUInt64, UInt32.toUInt32_toUInt64]

lemma deserializeVector_serializeVector {α : Type} {serialize : α → CborItem}
    {deserialize : CborItem → Option α} (h : ∀ a, deserialize (serialize a) = some a)
    (as : List α) : deserializeVector deserialize (.array (as.map serialize)) = some as :=
  List.mapM_map_of_forall as fun a _ => h a

lemma GameMapSnapshot.deserialize_serialize (map : GameMapSnapshot) :
    deserialize map.serialize = some map := by
  have barrier (b : BarrierSnapshot) : BarrierSnapshot.deserialize b.serialize = some b := rfl
  have hbarriers := deserializeVector_serializeVector barrier map.barriers
  show ((deserializeVector BarrierSnapshot.deserialize
    (.array (map.barriers.map BarrierSnapshot.serialize))).bind fun barriers =>
      some (GameMapSnapshot.mk map.blc_x map.blc_y map.trc_x map.trc_y barriers)) = some map
  rw [hbarriers]
  rfl

/-- The map of a snapshot. -/
def snapshotItem (snapshot : DungeonSnapshot) : CborItem :=
  .map [(.string true kMap, snapshot.game_map.serialize),
    (.string true kPlayers, .array (snapshot.players.map EntitySnapshot.serialize)),
    (.string true kMobs, .array (snapshot.mobs.map EntitySnapshot.serialize))]

lemma snapshotItem_definite (snapshot : DungeonSnapshot) : (snapshotItem snapshot).Definite := by
  have entity (e : EntitySnapshot) : e.serialize.Definite := buildArray_definite _
  have entities (as : List EntitySnapshot) := serializeVector_definite entity as
  refine .map _ (fun pair hpair => ?_) fun pair hpair => ?_ <;>
    simp only [List.mem_cons, List.not_mem_nil, or_false] at hpair <;>
    rcases hpair with rfl | rfl | rfl
  · exact .string _
  · exact .string _
  · exact .string _
  · exact snapshot.game_map.serialize_definite
  · exact entities _
  · exact entities _

/-- A snapshot is serialized and read back. -/
lemma gameState_roundTrip (h : lib.RoundTrips) (snapshot : DungeonSnapshot) :
    ∃ bytes, serializeGameState lib snapshot = some bytes ∧
      deserializeGameState lib bytes = some snapshot := by
  have hd := snapshotItem_definite snapshot
  have hb := h.cborToMessage hd
  refine ⟨_, hb, ?_⟩
  rw [deserializeGameState, h.bufferToCbor hd hb]
  have entities (as : List EntitySnapshot) := deserializeVector_serializeVector
    EntitySnapshot.deserialize_serialize as
  show ((GameMapSnapshot.deserialize snapshot.game_map.serialize).bind fun game_map =>
    (deserializeVector EntitySnapshot.deserialize
      (.array (snapshot.players.map EntitySnapshot.serialize))).bind fun players =>
    (deserializeVector EntitySnapshot.deserialize
      (.array (snapshot.mobs.map EntitySnapshot.serialize))).bind fun mobs =>
    some (DungeonSnapshot.mk game_map players mobs)) = some snapshot
  rw [GameMapSnapshot.deserialize_serialize, entities, entities]
  rfl

/-! ### Telling them apart -/

/-- What is serialized of a message is no game state, whatever its type. -/
lemma message_not_gameState (h : lib.RoundTripsOn CborItem.UintArray)
    (hb : serializeMessageToBuffer lib t args = some bytes) :
    deserializeGameState lib bytes = none := by
  obtain ⟨code, -, hitem⟩ := serializeMessage_item hb
  rw [deserializeGameState, h.bufferToCbor (messageItem_uintArray code args) hitem]
  rfl

end DungeonCrawler
