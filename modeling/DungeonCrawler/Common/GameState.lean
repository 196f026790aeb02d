import DungeonCrawler.Common.Serder

/-!
The snapshot of a dungeon and its form on the wire: a CBOR map of the game map, the players
and the mobs.
-/

namespace DungeonCrawler

structure EntitySnapshot where
  type : UInt8
  state : UInt8
  id : UInt64
  pos_x : UInt64
  pos_y : UInt64
  hp : UInt32
  deriving DecidableEq

structure BarrierSnapshot where
  pos_x : UInt64
  pos_y : UInt64
  deriving DecidableEq

structure GameMapSnapshot where
  blc_x : UInt64
  blc_y : UInt64
  trc_x : UInt64
  trc_y : UInt64
  barriers : List BarrierSnapshot
  deriving DecidableEq

structure DungeonSnapshot where
  game_map : GameMapSnapshot
  players : List EntitySnapshot
  mobs : List EntitySnapshot
  deriving DecidableEq

-- The keys of the map in ASCII.
def kMap : ByteBuffer := [0x6D, 0x61, 0x70]
def kPlayers : ByteBuffer := [0x70, 0x6C, 0x61, 0x79, 0x65, 0x72, 0x73]
def kMobs : ByteBuffer := [0x6D, 0x6F, 0x62, 0x73]

/-- Every number is written as 64 bits. -/
def buildArray (values : List UInt64) : CborItem := .array (values.map .uint64)

def BarrierSnapshot.serialize (barrier : BarrierSnapshot) : CborItem :=
  buildArray [barrier.pos_x, barrier.pos_y]

def EntitySnapshot.serialize (entity : EntitySnapshot) : CborItem :=
  buildArray [entity.type.toUInt64, entity.state.toUInt64, entity.id, entity.pos_x,
    entity.pos_y, entity.hp.toUInt64]

def GameMapSnapshot.serialize (map : GameMapSnapshot) : CborItem :=
  let barriers_cbor := CborItem.array (map.barriers.map BarrierSnapshot.serialize)
  .array [.uint64 map.blc_x, .uint64 map.blc_y, .uint64 map.trc_x, .uint64 map.trc_y,
    barriers_cbor]

def serializeGameState (lib : Libcbor) (snapshot : DungeonSnapshot) : Option ByteBuffer :=
  let root := CborItem.map
    [(.string true kMap, snapshot.game_map.serialize),
      (.string true kPlayers, .array (snapshot.players.map EntitySnapshot.serialize)),
      (.string true kMobs, .array (snapshot.mobs.map EntitySnapshot.serialize))]
  cborToMessage lib root

/-! ### Reading -/

def BarrierSnapshot.deserialize : CborItem → Option BarrierSnapshot
  | .array [x, y] => do
    let x ← readCborUint x
    let y ← readCborUint y
    return { pos_x := x, pos_y := y }
  | _ => none

/-- The type, the state and the health are cast to their narrower types. -/
def EntitySnapshot.deserialize : CborItem → Option EntitySnapshot
  | .array [type, state, id, pos_x, pos_y, hp] => do
    let type ← readCborUint type
    let state ← readCborUint state
    let id ← readCborUint id
    let pos_x ← readCborUint pos_x
    let pos_y ← readCborUint pos_y
    let hp ← readCborUint hp
    return { type := type.toUInt8, state := state.toUInt8, id, pos_x, pos_y, hp := hp.toUInt32 }
  | _ => none

def deserializeVector {α : Type} (deserialize : CborItem → Option α) :
    CborItem → Option (List α)
  | .array items => items.mapM deserialize
  | _ => none

def GameMapSnapshot.deserialize : CborItem → Option GameMapSnapshot
  | .array [blc_x, blc_y, trc_x, trc_y, barriers_item] => do
    let blc_x ← readCborUint blc_x
    let blc_y ← readCborUint blc_y
    let trc_x ← readCborUint trc_x
    let trc_y ← readCborUint trc_y
    let barriers ← deserializeVector BarrierSnapshot.deserialize barriers_item
    return { blc_x, blc_y, trc_x, trc_y, barriers }
  | _ => none

/-- The value of the first definite string equal to the key. -/
def cborMapGet : CborItem → ByteBuffer → Option CborItem
  | .map pairs, key =>
    (pairs.find? fun pair => match pair.1 with
      | .string true data => data = key
      | _ => false).map Prod.snd
  | _, _ => none

def deserializeGameState (lib : Libcbor) (message : ByteBuffer) : Option DungeonSnapshot :=
  match bufferToCbor lib message with
  | (some (.map pairs), load_result) =>
    if load_result.error ≠ .none then none
    else do
      let root := CborItem.map pairs
      let game_map ← (cborMapGet root kMap).bind GameMapSnapshot.deserialize
      let players ← (cborMapGet root kPlayers).bind (deserializeVector EntitySnapshot.deserialize)
      let mobs ← (cborMapGet root kMobs).bind (deserializeVector EntitySnapshot.deserialize)
      return { game_map, players, mobs }
  | _ => none

end DungeonCrawler
