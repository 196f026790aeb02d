import DungeonCrawler.Common.GameState
import DungeonCrawler.Common.SerderGrammar

/-!
The numbers of a snapshot on the wire and the numbers that are read of it.

On the wire every number may have 64 bits. The fields of an entity for its type, its state
and its health are narrower, and the decoder casts to them without a check, so a number that
does not fit its field is accepted and changed.
-/

namespace DungeonCrawler

/-! ### The numbers on the wire -/

structure RawBarrier where
  pos_x : ℕ
  pos_y : ℕ

structure RawEntity where
  type : ℕ
  state : ℕ
  id : ℕ
  pos_x : ℕ
  pos_y : ℕ
  hp : ℕ

structure RawMap where
  blc_x : ℕ
  blc_y : ℕ
  trc_x : ℕ
  trc_y : ℕ
  barriers : List RawBarrier

structure RawSnapshot where
  game_map : RawMap
  players : List RawEntity
  mobs : List RawEntity

/-- The item is an array, and its items are those of the list. -/
def CborItem.IsVector {ρ : Type} (Is : CborItem → ρ → Prop) (item : CborItem)
    (raws : List ρ) : Prop :=
  ∃ items, item = .array items ∧ List.Forall₂ Is items raws

def CborItem.IsBarrier (item : CborItem) (raw : RawBarrier) : Prop :=
  ∃ x y, item = .array [x, y] ∧ x.IsUint raw.pos_x ∧ y.IsUint raw.pos_y

def CborItem.IsEntity (item : CborItem) (raw : RawEntity) : Prop :=
  ∃ type state id x y hp, item = .array [type, state, id, x, y, hp] ∧
    type.IsUint raw.type ∧ state.IsUint raw.state ∧ id.IsUint raw.id ∧
    x.IsUint raw.pos_x ∧ y.IsUint raw.pos_y ∧ hp.IsUint raw.hp

def CborItem.IsMap (item : CborItem) (raw : RawMap) : Prop :=
  ∃ x y x' y' barriers, item = .array [x, y, x', y', barriers] ∧
    x.IsUint raw.blc_x ∧ y.IsUint raw.blc_y ∧ x'.IsUint raw.trc_x ∧ y'.IsUint raw.trc_y ∧
    barriers.IsVector IsBarrier raw.barriers

/-- The item is a map, and the first entry of the key has the value. -/
def CborItem.Binds (item : CborItem) (key : ByteBuffer) (value : CborItem) : Prop :=
  ∃ before after, item = .map (before ++ (.string true key, value) :: after) ∧
    ∀ pair ∈ before, pair.1 ≠ .string true key

def CborItem.IsSnapshot (item : CborItem) (raw : RawSnapshot) : Prop :=
  (∃ value, item.Binds kMap value ∧ value.IsMap raw.game_map) ∧
  (∃ value, item.Binds kPlayers value ∧ value.IsVector IsEntity raw.players) ∧
  ∃ value, item.Binds kMobs value ∧ value.IsVector IsEntity raw.mobs

/-- The numbers fit the fields of an entity. -/
structure RawEntity.Fits (raw : RawEntity) : Prop where
  type : raw.type < 2 ^ 8
  state : raw.state < 2 ^ 8
  hp : raw.hp < 2 ^ 32

structure RawSnapshot.Fits (raw : RawSnapshot) : Prop where
  players : ∀ player ∈ raw.players, player.Fits
  mobs : ∀ mob ∈ raw.mobs, mob.Fits

/-! ### The numbers of a snapshot -/

def BarrierSnapshot.raw (b : BarrierSnapshot) : RawBarrier := ⟨b.pos_x.toNat, b.pos_y.toNat⟩

def EntitySnapshot.raw (e : EntitySnapshot) : RawEntity :=
  ⟨e.type.toNat, e.state.toNat, e.id.toNat, e.pos_x.toNat, e.pos_y.toNat, e.hp.toNat⟩

def GameMapSnapshot.raw (m : GameMapSnapshot) : RawMap :=
  ⟨m.blc_x.toNat, m.blc_y.toNat, m.trc_x.toNat, m.trc_y.toNat,
    m.barriers.map BarrierSnapshot.raw⟩

def DungeonSnapshot.raw (s : DungeonSnapshot) : RawSnapshot :=
  ⟨s.game_map.raw, s.players.map EntitySnapshot.raw, s.mobs.map EntitySnapshot.raw⟩

/-- A snapshot that is read has the numbers of the item, and an item with a number that does
not fit its field is rejected. -/
def NeverAlters (lib : Libcbor) (buffer : ByteBuffer) : Prop :=
  (∀ snapshot, deserializeGameState lib buffer = some snapshot →
    ∃ item, lib.Reads buffer item ∧ item.IsSnapshot snapshot.raw) ∧
  ∀ item raw, lib.Reads buffer item → item.IsSnapshot raw → ¬ raw.Fits →
    deserializeGameState lib buffer = none

/-! ### What is read -/

def RawBarrier.narrow (raw : RawBarrier) : BarrierSnapshot :=
  ⟨UInt64.ofNat raw.pos_x, UInt64.ofNat raw.pos_y⟩

def RawEntity.narrow (raw : RawEntity) : EntitySnapshot :=
  ⟨UInt8.ofNat raw.type, UInt8.ofNat raw.state, UInt64.ofNat raw.id, UInt64.ofNat raw.pos_x,
    UInt64.ofNat raw.pos_y, UInt32.ofNat raw.hp⟩

def RawMap.narrow (raw : RawMap) : GameMapSnapshot :=
  ⟨UInt64.ofNat raw.blc_x, UInt64.ofNat raw.blc_y, UInt64.ofNat raw.trc_x,
    UInt64.ofNat raw.trc_y, raw.barriers.map RawBarrier.narrow⟩

def RawSnapshot.narrow (raw : RawSnapshot) : DungeonSnapshot :=
  ⟨raw.game_map.narrow, raw.players.map RawEntity.narrow, raw.mobs.map RawEntity.narrow⟩

/-- The decoder of a kind of item reads what the item holds, narrowed to the fields. -/
def Narrows {ρ α : Type} (deserialize : CborItem → Option α) (Is : CborItem → ρ → Prop)
    (narrow : ρ → α) : Prop :=
  ∀ item a, deserialize item = some a ↔ ∃ raw, Is item raw ∧ narrow raw = a

lemma narrows_barrier :
    Narrows BarrierSnapshot.deserialize CborItem.IsBarrier RawBarrier.narrow := by
  intro item b
  constructor
  · intro h
    unfold BarrierSnapshot.deserialize at h
    split at h
    · rename_i x y
      obtain ⟨vx, hx, h⟩ := Option.bind_eq_some_iff.mp h
      obtain ⟨vy, hy, h⟩ := Option.bind_eq_some_iff.mp h
      obtain rfl := Option.some.inj h
      exact ⟨⟨vx.toNat, vy.toNat⟩, ⟨x, y, rfl, readCborUint_eq_some_iff.mp hx,
        readCborUint_eq_some_iff.mp hy⟩, by simp [RawBarrier.narrow]⟩
    · cases h
  · rintro ⟨raw, ⟨x, y, rfl, hx, hy⟩, rfl⟩
    simp [BarrierSnapshot.deserialize, hx.read.1, hy.read.1, RawBarrier.narrow]

lemma narrows_entity :
    Narrows EntitySnapshot.deserialize CborItem.IsEntity RawEntity.narrow := by
  intro item e
  constructor
  · intro h
    unfold EntitySnapshot.deserialize at h
    split at h
    · rename_i type state id x y hp
      obtain ⟨vtype, htype, h⟩ := Option.bind_eq_some_iff.mp h
      obtain ⟨vstate, hstate, h⟩ := Option.bind_eq_some_iff.mp h
      obtain ⟨vid, hid, h⟩ := Option.bind_eq_some_iff.mp h
      obtain ⟨vx, hx, h⟩ := Option.bind_eq_some_iff.mp h
      obtain ⟨vy, hy, h⟩ := Option.bind_eq_some_iff.mp h
      obtain ⟨vhp, hhp, h⟩ := Option.bind_eq_some_iff.mp h
      obtain rfl := Option.some.inj h
      exact ⟨⟨vtype.toNat, vstate.toNat, vid.toNat, vx.toNat, vy.toNat, vhp.toNat⟩,
        ⟨type, state, id, x, y, hp, rfl, readCborUint_eq_some_iff.mp htype,
          readCborUint_eq_some_iff.mp hstate, readCborUint_eq_some_iff.mp hid,
          readCborUint_eq_some_iff.mp hx, readCborUint_eq_some_iff.mp hy,
          readCborUint_eq_some_iff.mp hhp⟩, by simp [RawEntity.narrow]⟩
    · cases h
  · rintro ⟨raw, ⟨type, state, id, x, y, hp, rfl, htype, hstate, hid, hx, hy, hhp⟩, rfl⟩
    simp [EntitySnapshot.deserialize, htype.read.1, hstate.read.1, hid.read.1, hx.read.1,
      hy.read.1, hhp.read.1, RawEntity.narrow]

/-- A vector is read item by item. -/
lemma Narrows.vector {ρ α : Type} {deserialize : CborItem → Option α}
    {Is : CborItem → ρ → Prop} {narrow : ρ → α} (h : Narrows deserialize Is narrow) :
    Narrows (deserializeVector deserialize) (CborItem.IsVector Is) (List.map narrow) := by
  have hitems : ∀ items as, List.Forall₂ (fun item a => deserialize item = some a) items as ↔
      ∃ raws, List.Forall₂ Is items raws ∧ raws.map narrow = as := by
    intro items
    induction items with
    | nil => simp [eq_comm]
    | cons item items ih =>
      intro as
      simp only [List.forall₂_cons_left_iff, ih, h item]
      constructor
      · rintro ⟨_, _, ⟨raw, hraw, rfl⟩, ⟨raws, hraws, rfl⟩, rfl⟩
        exact ⟨raw :: raws, ⟨raw, raws, hraw, hraws, rfl⟩, rfl⟩
      · rintro ⟨_, ⟨raw, raws, hraw, hraws, rfl⟩, rfl⟩
        exact ⟨_, _, ⟨raw, hraw, rfl⟩, ⟨raws, hraws, rfl⟩, rfl⟩
  intro item as
  constructor
  · intro hread
    unfold deserializeVector at hread
    split at hread
    · rename_i items
      obtain ⟨raws, hraws, has⟩ := (hitems items as).mp (List.mapM_eq_some_iff.mp hread)
      exact ⟨raws, ⟨items, rfl, hraws⟩, has⟩
    · cases hread
  · rintro ⟨raws, ⟨items, rfl, hraws⟩, has⟩
    exact List.mapM_eq_some_iff.mpr ((hitems items as).mpr ⟨raws, hraws, has⟩)

lemma narrows_map : Narrows GameMapSnapshot.deserialize CborItem.IsMap RawMap.narrow := by
  intro item m
  constructor
  · intro h
    unfold GameMapSnapshot.deserialize at h
    split at h
    · rename_i x y x' y' barriers
      obtain ⟨vx, hx, h⟩ := Option.bind_eq_some_iff.mp h
      obtain ⟨vy, hy, h⟩ := Option.bind_eq_some_iff.mp h
      obtain ⟨vx', hx', h⟩ := Option.bind_eq_some_iff.mp h
      obtain ⟨vy', hy', h⟩ := Option.bind_eq_some_iff.mp h
      obtain ⟨bs, hbs, h⟩ := Option.bind_eq_some_iff.mp h
      obtain ⟨raws, hraws, rfl⟩ := (narrows_barrier.vector barriers bs).mp hbs
      obtain rfl := Option.some.inj h
      exact ⟨⟨vx.toNat, vy.toNat, vx'.toNat, vy'.toNat, raws⟩, ⟨x, y, x', y', barriers, rfl,
        readCborUint_eq_some_iff.mp hx, readCborUint_eq_some_iff.mp hy,
        readCborUint_eq_some_iff.mp hx', readCborUint_eq_some_iff.mp hy', hraws⟩,
        by simp [RawMap.narrow]⟩
    · cases h
  · rintro ⟨raw, ⟨x, y, x', y', barriers, rfl, hx, hy, hx', hy', hbs⟩, rfl⟩
    have hread := (narrows_barrier.vector barriers _).mpr ⟨_, hbs, rfl⟩
    simp [GameMapSnapshot.deserialize, hx.read.1, hy.read.1, hx'.read.1, hy'.read.1, hread,
      RawMap.narrow]

lemma find?_key {isKey : CborItem × CborItem → Bool} {key : ByteBuffer} {value : CborItem}
    (h : ∀ pair, isKey pair ↔ pair.1 = .string true key) {pairs : List (CborItem × CborItem)} :
    (pairs.find? isKey).map Prod.snd = some value ↔
      ∃ before after, pairs = before ++ (.string true key, value) :: after ∧
        ∀ pair ∈ before, pair.1 ≠ .string true key := by
  have hnot : ∀ pair, !isKey pair ↔ pair.1 ≠ .string true key := by
    intro pair
    rw [Bool.not_eq_true', ← Bool.not_eq_true, h]
  rw [Option.map_eq_some_iff]
  simp only [List.find?_eq_some_iff_append, h, hnot]
  constructor
  · rintro ⟨⟨k, v⟩, ⟨rfl, before, after, heq, hbefore⟩, rfl⟩
    exact ⟨before, after, heq, hbefore⟩
  · rintro ⟨before, after, heq, hbefore⟩
    exact ⟨(.string true key, value), ⟨rfl, before, after, heq, hbefore⟩, rfl⟩

/-- The value found under a key is that of its first entry. -/
lemma cborMapGet_eq_some_iff {item value : CborItem} {key : ByteBuffer} :
    cborMapGet item key = some value ↔ item.Binds key value := by
  unfold cborMapGet CborItem.Binds
  split
  · rename_i pairs key
    simp only [CborItem.map.injEq]
    refine find?_key fun pair => ?_
    split <;> simp_all
  · rename_i hmap
    refine iff_of_false (by simp) ?_
    rintro ⟨before, after, rfl, -⟩
    exact hmap _ rfl

/-- A value of the map, read by the decoder of its kind. -/
lemma Narrows.field {ρ α : Type} {deserialize : CborItem → Option α}
    {Is : CborItem → ρ → Prop} {narrow : ρ → α} (h : Narrows deserialize Is narrow)
    (item : CborItem) (key : ByteBuffer) (a : α) :
    (cborMapGet item key).bind deserialize = some a ↔
      ∃ raw, (∃ value, item.Binds key value ∧ Is value raw) ∧ narrow raw = a := by
  simp only [Option.bind_eq_some_iff, cborMapGet_eq_some_iff, h _ a]
  constructor
  · rintro ⟨value, hb, raw, hraw, ha⟩
    exact ⟨raw, ⟨value, hb, hraw⟩, ha⟩
  · rintro ⟨raw, ⟨value, hb, hraw⟩, ha⟩
    exact ⟨value, hb, raw, hraw, ha⟩

variable {lib : Libcbor} {buffer : ByteBuffer}

/-- What is read of a buffer are the numbers of its item, narrowed to the fields. -/
lemma deserializeGameState_eq_some_iff {snapshot : DungeonSnapshot} :
    deserializeGameState lib buffer = some snapshot ↔
      ∃ item raw, lib.Reads buffer item ∧ item.IsSnapshot raw ∧ raw.narrow = snapshot := by
  have map := narrows_map.field
  have entities := narrows_entity.vector.field
  unfold deserializeGameState
  constructor
  · intro h
    split at h
    · rename_i pairs result hload
      obtain ⟨hreads, rfl⟩ := bufferToCbor_eq_some_iff.mp hload
      rw [if_neg (not_not.mpr rfl)] at h
      obtain ⟨m, hm, h⟩ := Option.bind_eq_some_iff.mp h
      obtain ⟨players, hplayers, h⟩ := Option.bind_eq_some_iff.mp h
      obtain ⟨mobs, hmobs, h⟩ := Option.bind_eq_some_iff.mp h
      obtain rfl := Option.some.inj h
      obtain ⟨rawMap, isMap, rfl⟩ := (map _ _ _).mp hm
      obtain ⟨rawPlayers, arePlayers, rfl⟩ := (entities _ _ _).mp hplayers
      obtain ⟨rawMobs, areMobs, rfl⟩ := (entities _ _ _).mp hmobs
      exact ⟨_, ⟨rawMap, rawPlayers, rawMobs⟩, hreads, ⟨isMap, arePlayers, areMobs⟩, rfl⟩
    · cases h
  · rintro ⟨item, raw, hreads, ⟨hm, hplayers, hmobs⟩, rfl⟩
    have hm := (map item kMap _).mpr ⟨_, hm, rfl⟩
    have hplayers := (entities item kPlayers _).mpr ⟨_, hplayers, rfl⟩
    have hmobs := (entities item kMobs _).mpr ⟨_, hmobs, rfl⟩
    obtain ⟨pairs, rfl⟩ : ∃ pairs, item = .map pairs := by
      obtain ⟨value, hv, -⟩ := Option.bind_eq_some_iff.mp hm
      obtain ⟨before, after, heq, -⟩ := cborMapGet_eq_some_iff.mp hv
      exact ⟨_, heq⟩
    rw [bufferToCbor_eq_some_iff.mpr ⟨hreads, rfl⟩]
    simp only [ne_eq, not_true_eq_false, if_false, hm, hplayers, hmobs, Option.bind_eq_bind,
      Option.bind_some]
    rfl

/-! ### Numbers that fit -/

lemma RawBarrier.raw_narrow {item : CborItem} {raw : RawBarrier} (h : item.IsBarrier raw) :
    raw.narrow.raw = raw := by
  obtain ⟨x, y, -, hx, hy⟩ := h
  simp only [narrow, BarrierSnapshot.raw, UInt64.toNat_ofNat', Nat.mod_eq_of_lt hx.read.2,
    Nat.mod_eq_of_lt hy.read.2]

lemma RawEntity.raw_narrow {item : CborItem} {raw : RawEntity} (h : item.IsEntity raw)
    (hf : raw.Fits) : raw.narrow.raw = raw := by
  obtain ⟨type, state, id, x, y, hp, -, -, -, hid, hx, hy, -⟩ := h
  simp only [narrow, EntitySnapshot.raw, UInt8.toNat_ofNat', UInt32.toNat_ofNat',
    UInt64.toNat_ofNat', Nat.mod_eq_of_lt hf.type, Nat.mod_eq_of_lt hf.state,
    Nat.mod_eq_of_lt hf.hp, Nat.mod_eq_of_lt hid.read.2, Nat.mod_eq_of_lt hx.read.2,
    Nat.mod_eq_of_lt hy.read.2]

lemma CborItem.IsVector.map_map {ρ α : Type} {Is : CborItem → ρ → Prop} {narrow : ρ → α}
    {wide : α → ρ} {item : CborItem} {raws : List ρ} (h : item.IsVector Is raws)
    (hw : ∀ raw ∈ raws, ∀ item, Is item raw → wide (narrow raw) = raw) :
    (raws.map narrow).map wide = raws := by
  obtain ⟨items, -, h⟩ := h
  induction h with
  | nil => rfl
  | cons hraw _ ih =>
    obtain ⟨hhead, htail⟩ := List.forall_mem_cons.mp hw
    rw [List.map_cons, List.map_cons, hhead _ hraw, ih htail]

lemma RawMap.raw_narrow {item : CborItem} {raw : RawMap} (h : item.IsMap raw) :
    raw.narrow.raw = raw := by
  obtain ⟨x, y, x', y', barriers, -, hx, hy, hx', hy', hbs⟩ := h
  have hbarriers : (raw.barriers.map RawBarrier.narrow).map BarrierSnapshot.raw = raw.barriers :=
    hbs.map_map fun raw _ item hraw => RawBarrier.raw_narrow hraw
  simp only [narrow, GameMapSnapshot.raw, hbarriers, UInt64.toNat_ofNat',
    Nat.mod_eq_of_lt hx.read.2, Nat.mod_eq_of_lt hy.read.2, Nat.mod_eq_of_lt hx'.read.2,
    Nat.mod_eq_of_lt hy'.read.2]

/-- Numbers that fit their fields are not changed. -/
lemma RawSnapshot.raw_narrow {item : CborItem} {raw : RawSnapshot} (h : item.IsSnapshot raw)
    (hf : raw.Fits) : raw.narrow.raw = raw := by
  obtain ⟨⟨_, -, hm⟩, ⟨_, -, hplayers⟩, ⟨_, -, hmobs⟩⟩ := h
  have players := hplayers.map_map fun raw hraw item h =>
    RawEntity.raw_narrow h (hf.players raw hraw)
  have mobs := hmobs.map_map fun raw hraw item h =>
    RawEntity.raw_narrow h (hf.mobs raw hraw)
  simp only [narrow, DungeonSnapshot.raw, RawMap.raw_narrow hm, players, mobs]

/-- **When no number is altered.** The decoder changes no number and rejects what does not
fit exactly on the buffers whose item, if it is a snapshot at all, has only numbers that fit
their fields. -/
theorem neverAlters_iff (lib : Libcbor) (buffer : ByteBuffer) :
    NeverAlters lib buffer ↔
      ∀ item raw, lib.Reads buffer item → item.IsSnapshot raw → raw.Fits := by
  constructor
  · intro h item raw hreads his
    by_contra hf
    have hread := deserializeGameState_eq_some_iff.mpr ⟨item, raw, hreads, his, rfl⟩
    rw [h.2 item raw hreads his hf] at hread
    cases hread
  · refine fun h => ⟨fun snapshot hread => ?_, fun item raw hreads his hf => ?_⟩
    · obtain ⟨item, raw, hreads, his, rfl⟩ := deserializeGameState_eq_some_iff.mp hread
      refine ⟨item, hreads, ?_⟩
      rwa [RawSnapshot.raw_narrow his (h item raw hreads his)]
    · exact absurd (h item raw hreads his) hf

/-- The snapshot of one player whose health is one more than 32 bits hold. -/
def wideHealth : ByteBuffer :=
  [0xA3, 0x63, 0x6D, 0x61, 0x70, 0x85, 0, 0, 1, 1, 0x80,
    0x67, 0x70, 0x6C, 0x61, 0x79, 0x65, 0x72, 0x73,
    0x81, 0x86, 0, 0, 7, 0, 0, 0x1B, 0, 0, 0, 1, 0, 0, 0, 1,
    0x64, 0x6D, 0x6F, 0x62, 0x73, 0x80]

/-- The item of that buffer. -/
def wideHealthItem : CborItem := .map
  [(.string true kMap, .array [.uint8 0, .uint8 0, .uint8 1, .uint8 1, .array []]),
    (.string true kPlayers,
      .array [.array [.uint8 0, .uint8 0, .uint8 7, .uint8 0, .uint8 0, .uint64 4294967297]]),
    (.string true kMobs, .array [])]

lemma wideHealthItem_isSnapshot :
    wideHealthItem.IsSnapshot ⟨⟨0, 0, 1, 1, []⟩, [⟨0, 0, 7, 0, 0, 4294967297⟩], []⟩ := by
  refine ⟨⟨_, ⟨[], _, rfl, by simp⟩, ?_⟩, ⟨_, ⟨[_], _, rfl, ?_⟩, ?_⟩, ⟨_, ⟨[_, _], _, rfl, ?_⟩, ?_⟩⟩
  · exact ⟨_, _, _, _, _, rfl, .uint8 0, .uint8 0, .uint8 1, .uint8 1, [], rfl, .nil⟩
  · simp [kMap, kPlayers]
  · exact ⟨_, rfl, .cons ⟨_, _, _, _, _, _, rfl, .uint8 0, .uint8 0, .uint8 7, .uint8 0,
      .uint8 0, .uint64 4294967297⟩ .nil⟩
  · simp [kMap, kPlayers, kMobs]
  · exact ⟨[], rfl, .nil⟩

/-- Its health is read as 1. -/
theorem wide_health_altered : ¬ ∀ lib buffer, NeverAlters lib buffer := by
  intro h
  have loaded : Libcbor.definite.Reads wideHealth wideHealthItem := rfl
  have read : deserializeGameState .definite wideHealth =
      some ⟨⟨0, 0, 1, 1, []⟩, [⟨0, 0, 7, 0, 0, 1⟩], []⟩ := by decide +kernel
  have rejected := (h _ _).2 _ _ loaded wideHealthItem_isSnapshot fun hf =>
    absurd (hf.players _ (List.mem_singleton_self _)).hp (by decide)
  rw [read] at rejected
  cases rejected

end DungeonCrawler
