import DungeonCrawler.Common.Serder
import DungeonCrawler.Lib.Reader

/-!
What the program relies on of its CBOR library, and a library that keeps it.

Both programs write trees of definite arrays, maps, strings and unsigned integers, and rely
on such a tree being loaded as it was serialized. The library below writes and reads them in
the format of the real one. It is total on lists of any length: a count that does not fit
into 64 bits, which no container of the program can have, is written in a form the format
leaves unassigned.
-/

namespace DungeonCrawler

/-- A tree of definite arrays, maps, strings and unsigned integers. -/
inductive CborItem.Definite : CborItem → Prop
  | uint8 (v : UInt8) : Definite (.uint8 v)
  | uint16 (v : UInt16) : Definite (.uint16 v)
  | uint32 (v : UInt32) : Definite (.uint32 v)
  | uint64 (v : UInt64) : Definite (.uint64 v)
  | string (data : ByteBuffer) : Definite (.string true data)
  | array (items : List CborItem) (h : ∀ item ∈ items, Definite item) :
    Definite (.array items)
  | map (pairs : List (CborItem × CborItem)) (hk : ∀ pair ∈ pairs, Definite pair.1)
    (hv : ∀ pair ∈ pairs, Definite pair.2) : Definite (.map pairs)

/-- A definite array of unsigned integers. -/
def CborItem.UintArray : CborItem → Prop
  | .array items => ∀ item ∈ items, item.isaUint
  | _ => False

lemma CborItem.UintArray.definite {item : CborItem} (h : item.UintArray) : item.Definite := by
  unfold UintArray at h
  split at h
  · refine .array _ fun item hitem => ?_
    have hu := h item hitem
    cases item with
    | uint8 v => exact .uint8 v
    | uint16 v => exact .uint16 v
    | uint32 v => exact .uint32 v
    | uint64 v => exact .uint64 v
    | _ => exact absurd hu Bool.false_ne_true
  · exact h.elim

/-- An item of the set is serialized, and its serialization loads as the item, to its end. -/
structure Libcbor.RoundTripsOn (lib : Libcbor) (S : CborItem → Prop) : Prop where
  serializes : ∀ item, S item → lib.cborSerializeAlloc item ≠ []
  loads : ∀ item, S item → lib.cborLoad (lib.cborSerializeAlloc item) =
    (some item, ⟨.none, (lib.cborSerializeAlloc item).length⟩)

abbrev Libcbor.RoundTrips (lib : Libcbor) : Prop := lib.RoundTripsOn CborItem.Definite

variable {lib : Libcbor} {item : CborItem} {bytes : ByteBuffer} {S : CborItem → Prop}

lemma Libcbor.RoundTripsOn.mono {S' : CborItem → Prop} (h : lib.RoundTripsOn S)
    (hS : ∀ item, S' item → S item) : lib.RoundTripsOn S' :=
  ⟨fun item hi => h.serializes item (hS item hi), fun item hi => h.loads item (hS item hi)⟩

lemma Libcbor.RoundTrips.uintArrays (h : lib.RoundTrips) :
    lib.RoundTripsOn CborItem.UintArray := h.mono fun _ => CborItem.UintArray.definite

lemma Libcbor.RoundTripsOn.cborToMessage (h : lib.RoundTripsOn S) (hi : S item) :
    cborToMessage lib item = some (lib.cborSerializeAlloc item) :=
  if_neg fun hl => h.serializes item hi (List.length_eq_zero_iff.mp hl)

/-- What is written of an item of the set is read back. -/
lemma Libcbor.RoundTripsOn.bufferToCbor (h : lib.RoundTripsOn S) (hi : S item)
    (hb : DungeonCrawler.cborToMessage lib item = some bytes) :
    bufferToCbor lib bytes = (some item, ⟨.none, bytes.length⟩) := by
  rw [h.cborToMessage hi] at hb
  obtain rfl := Option.some.inj hb
  simp [DungeonCrawler.bufferToCbor, h.loads item hi]

/-! ### Numbers -/

/-- The number of some bytes in network byte order. -/
def numberBE (bs : ByteBuffer) : ℕ := bs.foldl (fun n b => n * 256 + b.toNat) 0

lemma numberBE_append (bs cs : ByteBuffer) :
    numberBE (bs ++ cs) = numberBE bs * 256 ^ cs.length + numberBE cs := by
  induction cs using List.reverseRecOn with
  | nil => simp [numberBE]
  | append_singleton cs c ih =>
    have last : ∀ as : ByteBuffer, numberBE (as ++ [c]) = numberBE as * 256 + c.toNat :=
      fun as => by simp [numberBE]
    rw [← List.append_assoc, last, ih, last, List.length_append, List.length_singleton, pow_succ]
    ring

@[simp] lemma length_bytesBE (count n : ℕ) : (bytesBE count n).length = count := by
  simp [bytesBE]

lemma bytesBE_succ (count n : ℕ) :
    bytesBE (count + 1) n = UInt8.ofNat (n >>> (8 * count)) :: bytesBE count n := by
  simp [bytesBE, List.range_succ]

lemma numberBE_bytesBE (count n : ℕ) : numberBE (bytesBE count n) = n % 256 ^ count := by
  induction count with
  | zero => simp [bytesBE, numberBE, Nat.mod_one]
  | succ count ih =>
    have hshift : n >>> (8 * count) = n / 256 ^ count := by
      rw [Nat.shiftRight_eq_div_pow, pow_mul]
      norm_num
    rw [bytesBE_succ, ← List.singleton_append, numberBE_append, ih, length_bytesBE, hshift,
      pow_succ, Nat.mod_mul]
    simp only [numberBE, List.foldl_cons, List.foldl_nil, Nat.zero_mul, Nat.zero_add,
      UInt8.toNat_ofNat']
    ring

/-! ### The format -/

/-- The number in the head of an item, by the low bits of its first byte. -/
def readNumber (info : ℕ) : Reader UInt8 ℕ :=
  if info < 24 then pure info
  else match info with
    | 24 => numberBE <$> Reader.times Reader.next 1
    | 25 => numberBE <$> Reader.times Reader.next 2
    | 26 => numberBE <$> Reader.times Reader.next 4
    | 27 => numberBE <$> Reader.times Reader.next 8
    | 28 => Reader.unary 0
    | _ => failure

/-- The width of an integer is that of its number. -/
def uintItem (info n : ℕ) : CborItem :=
  match info with
  | 25 => .uint16 (UInt16.ofNat n)
  | 26 => .uint32 (UInt32.ofNat n)
  | 27 => .uint64 (UInt64.ofNat n)
  | _ => .uint8 (UInt8.ofNat n)

/-- What comes after the head, by the high bits of its first byte and the number. -/
def readBody (readItem : Reader UInt8 CborItem) (major info n : ℕ) : Reader UInt8 CborItem :=
  match major with
  | 0 => pure (uintItem info n)
  | 3 => CborItem.string true <$> Reader.times Reader.next n
  | 4 => CborItem.array <$> Reader.times readItem n
  | 5 => CborItem.map <$> Reader.times (do
      let key ← readItem
      let value ← readItem
      pure (key, value)) n
  | _ => failure

/-- The item at the front, if it is no deeper than `depth`. -/
def readItem : ℕ → Reader UInt8 CborItem
  | 0 => failure
  | depth + 1 => do
    let head ← Reader.next
    let n ← readNumber (head.toNat % 32)
    readBody (readItem depth) (head.toNat / 32) (head.toNat % 32) n

/-- A count: a number in its shortest form. -/
def encodeCount (major : UInt8) (n : ℕ) : ByteBuffer :=
  if n < 2 ^ 64 then encodeHead major n
  else (major + 28) :: (List.replicate n 0 ++ [1])

mutual

/-- A definite tree in the format; other items are not serialized. -/
def writeItem : CborItem → ByteBuffer
  | .uint8 v => encodeHead 0x00 v.toNat
  | .uint16 v => 0x19 :: bytesBE 2 v.toNat
  | .uint32 v => 0x1A :: bytesBE 4 v.toNat
  | .uint64 v => 0x1B :: bytesBE 8 v.toNat
  | .string true data => encodeCount 0x60 data.length ++ data
  | .array items => encodeCount 0x80 items.length ++ writeItems items
  | .map pairs => encodeCount 0xA0 pairs.length ++ writePairs pairs
  | _ => []

def writeItems : List CborItem → ByteBuffer
  | [] => []
  | item :: items => writeItem item ++ writeItems items

def writePairs : List (CborItem × CborItem) → ByteBuffer
  | [] => []
  | (key, value) :: pairs => writeItem key ++ writeItem value ++ writePairs pairs

end

lemma writeItems_eq (items : List CborItem) : writeItems items = items.flatMap writeItem := by
  induction items with
  | nil => rfl
  | cons item items ih => rw [writeItems, ih, List.flatMap_cons]

lemma writePairs_eq (pairs : List (CborItem × CborItem)) :
    writePairs pairs = pairs.flatMap fun pair => writeItem pair.1 ++ writeItem pair.2 := by
  induction pairs with
  | nil => rfl
  | cons pair pairs ih => rw [writePairs, ih, List.flatMap_cons]

/-! ### Reading what was written -/

open Reader

/-- The number in a head of a few bytes is read back. -/
lemma reads_bytesBE (count : ℕ) {n : ℕ} (h : n < 256 ^ count) :
    Reads (numberBE <$> times next count) (bytesBE count n) n := by
  have hbytes := (reads_symbols (bytesBE count n)).map (f := numberBE)
  rwa [length_bytesBE, numberBE_bytesBE, Nat.mod_eq_of_lt h] at hbytes

/-- The bytes are a head: a byte of two parts, and those that the second part announces. -/
def Heads (major info : ℕ) (bytes : ByteBuffer) (n : ℕ) : Prop :=
  ∃ head tail, bytes = head :: tail ∧ head.toNat / 32 = major ∧ head.toNat % 32 = info ∧
    Reads (readNumber info) tail n

lemma heads_of_info (major info : UInt8) (hm : major.toNat % 32 = 0) (hi : info.toNat < 32)
    {tail : ByteBuffer} {n : ℕ} (h : Reads (readNumber info.toNat) tail n) :
    Heads (major.toNat / 32) info.toNat ((major + info) :: tail) n := by
  have hlt := major.toNat_lt
  refine ⟨_, _, rfl, ?_, ?_, h⟩ <;> rw [UInt8.toNat_add] <;> omega

/-- A number in its shortest form; one below 256 needs no more than a byte. -/
lemma heads_encodeHead (major : UInt8) (hm : major.toNat % 32 = 0) {n : ℕ} (hn : n < 2 ^ 64) :
    ∃ info, Heads (major.toNat / 32) info (encodeHead major n) n ∧ (n < 256 → info ≤ 24) := by
  unfold encodeHead
  split_ifs with h1 h2 h3 h4
  · have hinfo : (UInt8.ofNat n).toNat = n := by
      rw [UInt8.toNat_ofNat']
      omega
    refine ⟨_, heads_of_info major _ hm (by omega) ?_, fun _ => by omega⟩
    unfold readNumber
    rw [hinfo, if_pos h1]
    exact reads_pure n
  · exact ⟨24, heads_of_info major 24 hm (by decide) (reads_bytesBE 1 h2),
      fun _ => le_rfl⟩
  · exact ⟨25, heads_of_info major 25 hm (by decide) (reads_bytesBE 2 h3),
      fun h => absurd h (by omega)⟩
  · exact ⟨26, heads_of_info major 26 hm (by decide) (reads_bytesBE 4 h4),
      fun h => absurd h (by omega)⟩
  · exact ⟨27, heads_of_info major 27 hm (by decide) (reads_bytesBE 8 hn),
      fun h => absurd h (by omega)⟩

lemma heads_encodeCount (major : UInt8) (hm : major.toNat % 32 = 0) (n : ℕ) :
    ∃ info, Heads (major.toNat / 32) info (encodeCount major n) n := by
  unfold encodeCount
  split_ifs with h
  · obtain ⟨info, heads, -⟩ := heads_encodeHead major hm h
    exact ⟨info, heads⟩
  · exact ⟨28, heads_of_info major 28 hm (by decide) (reads_unary (by decide) n)⟩

lemma reads_item (depth : ℕ) {major info n : ℕ} {head body : ByteBuffer} {item : CborItem}
    (hh : Heads major info head n)
    (hb : Reads (readBody (readItem depth) major info n) body item) :
    Reads (readItem (depth + 1)) (head ++ body) item := by
  obtain ⟨byte, tail, rfl, rfl, rfl, hn⟩ := hh
  exact (reads_next byte).cons (hn.bind hb)

lemma Heads.length_pos {major info n : ℕ} {bytes : ByteBuffer} (h : Heads major info bytes n) :
    0 < bytes.length := by
  obtain ⟨byte, tail, rfl, -⟩ := h
  exact Nat.succ_pos _

lemma uintItem_byte {info : ℕ} (h : info ≤ 24) (v : UInt8) : uintItem info v.toNat = .uint8 v := by
  unfold uintItem
  split
  · omega
  · omega
  · omega
  · rw [UInt8.ofNat_toNat]

lemma length_le_flatMap {α β : Type} {f : α → List β} {a : α} {l : List α} (h : a ∈ l) :
    (f a).length ≤ (l.flatMap f).length := by
  rw [List.flatMap_def]
  exact (List.sublist_flatten_of_mem (List.mem_map_of_mem h)).length_le

/-- What is written of an item behind a head is read one deeper than the head. -/
lemma reads_writeItem_of_heads (depth : ℕ) {major info n : ℕ} {head body : ByteBuffer}
    {item : CborItem} (hh : Heads major info head n) (hl : (head ++ body).length ≤ depth)
    (hb : ∀ d, body.length ≤ d → Reads (readBody (readItem d) major info n) body item) :
    Reads (readItem depth) (head ++ body) item := by
  have hpos := hh.length_pos
  rw [List.length_append] at hl
  obtain ⟨d, rfl⟩ : ∃ d, depth = d + 1 := ⟨depth - 1, by omega⟩
  exact reads_item d hh (hb d (by omega))

lemma reads_writeItem_uint {info n depth : ℕ} {bytes : ByteBuffer} (hh : Heads 0 info bytes n)
    (hl : bytes.length ≤ depth) : Reads (readItem depth) bytes (uintItem info n) := by
  have hnil : bytes ++ [] = bytes := List.append_nil bytes
  have := reads_writeItem_of_heads depth hh (by rwa [hnil])
    fun _ _ => reads_pure (uintItem info n)
  rwa [hnil] at this

/-- **Trees are read back.** What is written of a definite tree reads as the tree, whatever
comes after it, at any depth that its length allows. -/
theorem reads_writeItem {item : CborItem} (hd : item.Definite) :
    ∀ depth, (writeItem item).length ≤ depth → Reads (readItem depth) (writeItem item) item := by
  induction hd with
  | uint8 v =>
    intro depth hl
    have hv := v.toNat_lt
    obtain ⟨info, heads, byte⟩ := heads_encodeHead 0 rfl (show v.toNat < 2 ^ 64 by omega)
    have := reads_writeItem_uint heads hl
    rwa [uintItem_byte (byte hv)] at this
  | uint16 v =>
    intro depth hl
    have heads : Heads 0 25 (writeItem (.uint16 v)) v.toNat :=
      heads_of_info 0 25 rfl (by decide) (reads_bytesBE 2 v.toNat_lt)
    have := reads_writeItem_uint heads hl
    rwa [uintItem, UInt16.ofNat_toNat] at this
  | uint32 v =>
    intro depth hl
    have heads : Heads 0 26 (writeItem (.uint32 v)) v.toNat :=
      heads_of_info 0 26 rfl (by decide) (reads_bytesBE 4 v.toNat_lt)
    have := reads_writeItem_uint heads hl
    rwa [uintItem, UInt32.ofNat_toNat] at this
  | uint64 v =>
    intro depth hl
    have heads : Heads 0 27 (writeItem (.uint64 v)) v.toNat :=
      heads_of_info 0 27 rfl (by decide) (reads_bytesBE 8 v.toNat_lt)
    have := reads_writeItem_uint heads hl
    rwa [uintItem, UInt64.ofNat_toNat] at this
  | string data =>
    intro depth hl
    obtain ⟨info, heads⟩ := heads_encodeCount 0x60 rfl data.length
    exact reads_writeItem_of_heads depth heads hl fun _ _ => (reads_symbols data).map
  | array items h ih =>
    intro depth hl
    obtain ⟨info, heads⟩ := heads_encodeCount 0x80 rfl items.length
    rw [writeItem, writeItems_eq] at hl ⊢
    refine reads_writeItem_of_heads depth heads hl fun d hd =>
      Reads.map (Reads.times fun item hi => ?_)
    exact ih item hi d ((length_le_flatMap hi).trans hd)
  | map pairs hk hv ihk ihv =>
    intro depth hl
    obtain ⟨info, heads⟩ := heads_encodeCount 0xA0 rfl pairs.length
    rw [writeItem, writePairs_eq] at hl ⊢
    refine reads_writeItem_of_heads depth heads hl fun d hd =>
      Reads.map (Reads.times fun pair hi => ?_)
    have hlen := (length_le_flatMap (f := fun pair : CborItem × CborItem =>
      writeItem pair.1 ++ writeItem pair.2) hi).trans hd
    rw [List.length_append] at hlen
    have key := ihk pair hi d (by omega)
    have value := ihv pair hi d (by omega)
    have both : Reads (readItem d >>= fun value => pure (pair.1, value)) (writeItem pair.2 ++ [])
        (pair.1, pair.2) := value.bind (reads_pure _)
    rw [List.append_nil] at both
    exact key.bind both

lemma writeItem_ne_nil {item : CborItem} (hd : item.Definite) : writeItem item ≠ [] := by
  intro hnil
  have h := reads_writeItem hd 0 (by simp [hnil]) []
  cases h

/-- A library that serializes definite trees and loads what it serialized. -/
def Libcbor.definite : Libcbor where
  cborLoad buffer :=
    match (readItem buffer.length).run buffer with
    | some (item, rest) => (some item, ⟨.none, buffer.length - rest.length⟩)
    | none => (none, ⟨.malformed, 0⟩)
  cborSerializeAlloc := writeItem

/-- The library keeps what the program relies on. -/
theorem Libcbor.definite_roundTrips : Libcbor.definite.RoundTrips where
  serializes _ hd := writeItem_ne_nil hd
  loads item hd := by
    have h := (reads_writeItem hd _ le_rfl).run
    simp [Libcbor.definite, h]

example : writeItem (.array [.uint64 0x0105, .uint64 7]) =
    [0x82, 0x1B, 0, 0, 0, 0, 0, 0, 1, 5, 0x1B, 0, 0, 0, 0, 0, 0, 0, 7] := by decide

end DungeonCrawler
