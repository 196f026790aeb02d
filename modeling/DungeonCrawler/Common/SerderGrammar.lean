import DungeonCrawler.Common.Cbor
import DungeonCrawler.Lib.MapM

/-!
Which buffers are taken for messages.

A message is one item, an array of unsigned integers of which the first is a packed type. The
decoder narrows that number to 16 bits before it looks at it, so beyond the grammar it takes
the arrays whose first number has a packed type in its low bits.
-/

namespace DungeonCrawler

/-- An unsigned integer, of any of the four widths, and its number. -/
inductive CborItem.IsUint : CborItem → ℕ → Prop
  | uint8 (v : UInt8) : IsUint (.uint8 v) v.toNat
  | uint16 (v : UInt16) : IsUint (.uint16 v) v.toNat
  | uint32 (v : UInt32) : IsUint (.uint32 v) v.toNat
  | uint64 (v : UInt64) : IsUint (.uint64 v) v.toNat

/-- The whole buffer is one item. -/
def Libcbor.Reads (lib : Libcbor) (buffer : ByteBuffer) (item : CborItem) : Prop :=
  lib.cborLoad buffer = (some item, ⟨.none, buffer.length⟩)

variable {lib : Libcbor} {buffer : ByteBuffer} {item item' : CborItem} {n m : ℕ}

lemma readCborUint_eq_some_iff {v : UInt64} :
    readCborUint item = some v ↔ item.IsUint v.toNat := by
  constructor
  · intro h
    cases item with
    | uint8 w => obtain rfl := Option.some.inj h; exact UInt8.toNat_toUInt64 w ▸ .uint8 w
    | uint16 w => obtain rfl := Option.some.inj h; exact UInt16.toNat_toUInt64 w ▸ .uint16 w
    | uint32 w => obtain rfl := Option.some.inj h; exact UInt32.toNat_toUInt64 w ▸ .uint32 w
    | uint64 w => obtain rfl := Option.some.inj h; exact .uint64 w
    | _ => cases h
  · generalize hn : v.toNat = n
    rintro (w | w | w | w) <;> refine congrArg some (UInt64.toNat_inj.mp ?_)
    · rw [UInt8.toNat_toUInt64, hn]
    · rw [UInt16.toNat_toUInt64, hn]
    · rw [UInt32.toNat_toUInt64, hn]
    · exact hn.symm

/-- The number of an item, as the 64 bits that are read. -/
lemma CborItem.IsUint.read (h : item.IsUint n) :
    readCborUint item = some (UInt64.ofNat n) ∧ n < 2 ^ 64 := by
  have hlt : n < 2 ^ 64 := by
    cases h with
    | uint8 v => have := v.toNat_lt; omega
    | uint16 v => have := v.toNat_lt; omega
    | uint32 v => have := v.toNat_lt; omega
    | uint64 v => exact v.toNat_lt
  refine ⟨readCborUint_eq_some_iff.mpr ?_, hlt⟩
  rwa [UInt64.toNat_ofNat', Nat.mod_eq_of_lt hlt]

lemma CborItem.IsUint.inj (h : item.IsUint n) (h' : item.IsUint m) : n = m := by
  cases h <;> cases h' <;> rfl

lemma isaUint_of_readCborUint {v : UInt64} (h : readCborUint item = some v) :
    item.isaUint := by
  cases item <;> first | rfl | cases h

lemma Libcbor.Reads.inj (h : lib.Reads buffer item) (h' : lib.Reads buffer item') :
    item = item' :=
  Option.some.inj (congrArg Prod.fst (h.symm.trans h'))

/-- What is loaded of a buffer is an item that it holds whole. -/
lemma bufferToCbor_eq_some_iff {result : CborLoadResult} :
    bufferToCbor lib buffer = (some item, result) ↔
      lib.Reads buffer item ∧ result = ⟨.none, buffer.length⟩ := by
  unfold bufferToCbor Libcbor.Reads
  obtain ⟨root, error, read⟩ := lib.cborLoad buffer
  dsimp only
  split_ifs with h
  · constructor
    · intro h'
      cases h'
    · rintro ⟨h', -⟩
      cases h'
      simp at h
  · simp only [not_or, not_not] at h
    obtain ⟨-, rfl, rfl⟩ := h
    constructor
    · intro h'
      cases h'
      exact ⟨rfl, rfl⟩
    · rintro ⟨h', rfl⟩
      exact h'

/-! ### The grammar -/

/-- The item is an array of unsigned integers: a number, and the arguments. -/
def CborItem.Numbers (item : CborItem) (n : ℕ) (args : MessageArgs) : Prop :=
  ∃ first items, item = .array (first :: items) ∧ first.IsUint n ∧
    List.Forall₂ (fun item (arg : UInt64) => item.IsUint arg.toNat) items args

/-- The grammar of messages. -/
def CborItem.IsMessage (item : CborItem) (msg : DeserializedRawMessage) : Prop :=
  ∃ n, item.Numbers n msg.args ∧ n ≤ 65535 ∧
    unpackMessageType (UInt16.ofNat n) = some msg.type

/-- The decoder takes exactly the messages of the grammar. -/
def AcceptsGrammar (lib : Libcbor) (buffer : ByteBuffer) : Prop :=
  ∀ msg, deserializeBufferToMessage lib buffer = some msg ↔
    ∃ item, lib.Reads buffer item ∧ item.IsMessage msg

lemma CborItem.Numbers.inj {args args' : MessageArgs} (h : item.Numbers n args)
    (h' : item.Numbers m args') : n = m ∧ args = args' := by
  obtain ⟨first, items, rfl, hn, hargs⟩ := h
  obtain ⟨first', items', heq, hm, hargs'⟩ := h'
  obtain ⟨rfl, rfl⟩ := List.cons.inj (CborItem.array.inj heq)
  refine ⟨hn.inj hm, ?_⟩
  have hread := List.mapM_eq_some_iff.mpr (hargs.imp fun _ _ => readCborUint_eq_some_iff.mpr)
  have hread' := List.mapM_eq_some_iff.mpr (hargs'.imp fun _ _ => readCborUint_eq_some_iff.mpr)
  exact Option.some.inj (hread.symm.trans hread')

lemma getMsgArgsFromCborArray_eq_some_iff {first : CborItem} {items : List CborItem}
    {args : MessageArgs} :
    getMsgArgsFromCborArray (.array (first :: items)) = some args ↔
      List.Forall₂ (fun item (arg : UInt64) => item.IsUint arg.toNat) items args := by
  have huint : ∀ item arg, (if item.isaUint then readCborUint item else none) = some arg ↔
      item.IsUint arg.toNat := by
    intro item arg
    rw [← readCborUint_eq_some_iff]
    split_ifs with h
    · rfl
    · exact iff_of_false (by simp) fun hr => h (isaUint_of_readCborUint hr)
  show List.mapM _ items = some args ↔ _
  rw [List.mapM_eq_some_iff]
  simp only [huint]

/-- The type is unpacked of the low 16 bits of the first number. -/
lemma deserializeBufferToMessage_eq_some_iff {msg : DeserializedRawMessage} :
    deserializeBufferToMessage lib buffer = some msg ↔
      ∃ item n, lib.Reads buffer item ∧ item.Numbers n msg.args ∧
        unpackMessageType (UInt16.ofNat n) = some msg.type := by
  unfold deserializeBufferToMessage
  constructor
  · intro h
    split at h
    · rename_i first items result hload
      obtain ⟨hreads, rfl⟩ := bufferToCbor_eq_some_iff.mp hload
      split_ifs at h with hu
      obtain ⟨v, hv, h⟩ := Option.bind_eq_some_iff.mp h
      obtain ⟨type, htype, h⟩ := Option.bind_eq_some_iff.mp h
      obtain ⟨args, hargs, h⟩ := Option.bind_eq_some_iff.mp h
      obtain rfl := Option.some.inj h
      exact ⟨_, v.toNat, hreads, ⟨first, items, rfl, readCborUint_eq_some_iff.mp hv,
        getMsgArgsFromCborArray_eq_some_iff.mp hargs⟩, htype⟩
    · cases h
  · rintro ⟨_, n, hreads, ⟨first, items, rfl, hn, hargs⟩, htype⟩
    obtain ⟨hread, -⟩ := hn.read
    rw [bufferToCbor_eq_some_iff.mpr ⟨hreads, rfl⟩]
    have hu := isaUint_of_readCborUint hread
    have hcast : (UInt64.ofNat n).toUInt16 = UInt16.ofNat n := by
      rw [UInt64.toUInt16_ofNat']
    simp only [ne_eq, not_true_eq_false, if_false, hu, Bool.not_true, Bool.false_eq_true,
      hread, Option.bind_eq_bind, Option.bind_some, hcast, htype,
      getMsgArgsFromCborArray_eq_some_iff.mpr hargs]
    rfl

/-- **Which buffers are accepted beyond the grammar.** The decoder keeps to the grammar on
all buffers but those that hold an array of unsigned integers whose first number exceeds 16
bits and whose low 16 bits are a packed type. -/
theorem acceptsGrammar_iff (lib : Libcbor) (buffer : ByteBuffer) :
    AcceptsGrammar lib buffer ↔ ¬ ∃ item n args, lib.Reads buffer item ∧
      item.Numbers n args ∧ 65535 < n ∧ (unpackMessageType (UInt16.ofNat n)).isSome := by
  constructor
  · rintro h ⟨item, n, args, hreads, hnum, hn, htype⟩
    obtain ⟨type, htype⟩ := Option.isSome_iff_exists.mp htype
    -- the message is accepted, so the grammar would have a smaller first number
    obtain ⟨item', hreads', m, hnum', hm, -⟩ := (h ⟨type, args⟩).mp
      (deserializeBufferToMessage_eq_some_iff.mpr ⟨item, n, hreads, hnum, htype⟩)
    obtain rfl := hreads.inj hreads'
    have := (hnum.inj hnum').1
    omega
  · intro h msg
    rw [deserializeBufferToMessage_eq_some_iff]
    constructor
    · rintro ⟨item, n, hreads, hnum, htype⟩
      refine ⟨item, hreads, n, hnum, ?_, htype⟩
      by_contra hn
      exact h ⟨item, n, msg.args, hreads, hnum, by omega, by rw [htype]; rfl⟩
    · rintro ⟨item, hreads, n, hnum, -, htype⟩
      exact ⟨item, n, hreads, hnum, htype⟩

/-- The number 65792 is taken for 256, the type of a request to create a party. -/
theorem wide_type_accepted : ¬ ∀ lib buffer, AcceptsGrammar lib buffer := by
  intro h
  have accepted : deserializeBufferToMessage .definite [0x81, 0x1A, 0x00, 0x01, 0x01, 0x00] =
      some ⟨.app .kCreateParty, []⟩ := by decide +kernel
  obtain ⟨item, hreads, n, hnum, hn, -⟩ := (h _ _ _).mp accepted
  have loaded : Libcbor.definite.Reads [0x81, 0x1A, 0x00, 0x01, 0x01, 0x00]
      (.array [.uint32 65792]) := rfl
  obtain rfl := hreads.inj loaded
  have := (hnum.inj ⟨_, _, rfl, .uint32 65792, .nil⟩).1
  change n = 65792 at this
  omega

end DungeonCrawler
