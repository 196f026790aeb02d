import DungeonCrawler.Common.Types
import DungeonCrawler.Lib.WordMixer

/-!
The hashes of 64-bit words and of identifiers.
-/

namespace DungeonCrawler

namespace Int64Hasher

def kMixerConstant1 : UInt64 := 0xbf58476d1ce4e5b9
def kMixerConstant2 : UInt64 := 0x94d049bb133111eb

end Int64Hasher

open Int64Hasher in
def Int64Hasher (x : UInt64) : UInt64 :=
  let x := x ^^^ (x >>> 30)
  let x := x * kMixerConstant1
  let x := x ^^^ (x >>> 27)
  let x := x * kMixerConstant2
  x ^^^ (x >>> 31)

namespace StrongIdMixedHash

def kMixMul1 : UInt64 := 0xbf58476d1ce4e5b9
def kMixMul2 : UInt64 := 0x94d049bb133111eb
def kShift30 : UInt64 := 30
def kShift27 : UInt64 := 27
def kShift31 : UInt64 := 31

def kMixMul32 : UInt32 := 0x45d9f3b
def kShift64To32 : UInt64 := 32
def kShift16 : UInt32 := 16

end StrongIdMixedHash

open StrongIdMixedHash in
/-- The hash of an identifier; `sizeofSize` is the size of `size_t` on the platform. -/
def StrongIdMixedHash {Tag : Type} (sizeofSize : ℕ) (id : StrongId Tag) : UInt64 :=
  let v := id.get
  if sizeofSize = 8 then
    let v := v ^^^ (v >>> kShift30)
    let v := v * kMixMul1
    let v := v ^^^ (v >>> kShift27)
    let v := v * kMixMul2
    v ^^^ (v >>> kShift31)
  else
    let low := (v ^^^ (v >>> kShift64To32)).toUInt32
    let low := low ^^^ (low >>> kShift16)
    let low := low * kMixMul32
    (low ^^^ (low >>> kShift16)).toUInt64

namespace Int64Hasher

open WordMixer

/-- The stages of the mixer as one permutation of the words. -/
def mixer : Equiv.Perm (BitVec 64) :=
  (xorShiftEquiv 30 (by decide)).trans <|
    (mulEquiv kMixerConstant1.toBitVec 0x96de1b173f119089 (by decide)).trans <|
    (xorShiftEquiv 27 (by decide)).trans <|
    (mulEquiv kMixerConstant2.toBitVec 0x319642b2d24d8ec3 (by decide)).trans <|
    xorShiftEquiv 31 (by decide)

lemma mixer_apply (b : BitVec 64) :
    mixer b =
      xorShiftEquiv 31 (by decide)
        (mulEquiv kMixerConstant2.toBitVec 0x319642b2d24d8ec3 (by decide)
          (xorShiftEquiv 27 (by decide)
            (mulEquiv kMixerConstant1.toBitVec 0x96de1b173f119089 (by decide)
              (xorShiftEquiv 30 (by decide) b)))) := rfl

lemma toBitVec_xor_shift (x k : UInt64) :
    (x ^^^ (x >>> k)).toBitVec = x.toBitVec ^^^ (x.toBitVec >>> (k.toNat % 64)) := by
  rw [UInt64.toBitVec_xor, UInt64.toBitVec_shiftRight, BitVec.ushiftRight_eq',
    BitVec.toNat_umod]
  rfl

/-- The hash is the mixer, on the bits of the word. -/
lemma toBitVec_eq (x : UInt64) : (Int64Hasher x).toBitVec = mixer x.toBitVec := by
  rw [mixer_apply]
  simp only [xorShiftEquiv_apply, mulEquiv_apply]
  rw [Int64Hasher, toBitVec_xor_shift, UInt64.toBitVec_mul, toBitVec_xor_shift,
    UInt64.toBitVec_mul, toBitVec_xor_shift]
  simp only [UInt64.reduceToNat, Nat.reduceMod]

lemma bijective : Function.Bijective Int64Hasher := by
  constructor
  · intro x y h
    have hm : mixer x.toBitVec = mixer y.toBitVec := by
      rw [← toBitVec_eq, ← toBitVec_eq, h]
    exact UInt64.toBitVec_inj.mp (mixer.injective hm)
  · intro y
    refine ⟨UInt64.ofBitVec (mixer.symm y.toBitVec), UInt64.toBitVec_inj.mp ?_⟩
    rw [toBitVec_eq, UInt64.toBitVec_ofBitVec, Equiv.apply_symm_apply]

end Int64Hasher

lemma strongIdMixedHash_eq {Tag : Type} (id : StrongId Tag) :
    StrongIdMixedHash 8 id = Int64Hasher id.get := rfl

lemma StrongId.get_bijective {Tag : Type} : Function.Bijective (@StrongId.get Tag) :=
  ⟨fun _ _ => StrongId.ext, fun v => ⟨⟨v⟩, rfl⟩⟩

/-- **Hashes without collisions.** Where `size_t` has 64 bits, the two hashes are one
function. It permutes the 64-bit words, so neither different words nor different identifiers
have one hash. -/
theorem hash_without_collisions (Tag : Type) :
    (∀ id : StrongId Tag, StrongIdMixedHash 8 id = Int64Hasher id.get) ∧
    Function.Bijective Int64Hasher ∧
    (∀ x y : UInt64, Int64Hasher x = Int64Hasher y → x = y) ∧
    Function.Bijective (StrongIdMixedHash 8 : StrongId Tag → UInt64) ∧
    ∀ id id' : StrongId Tag, id ≠ id' → StrongIdMixedHash 8 id ≠ StrongIdMixedHash 8 id' := by
  have hid : Function.Bijective (StrongIdMixedHash 8 : StrongId Tag → UInt64) :=
    Int64Hasher.bijective.comp StrongId.get_bijective
  exact ⟨strongIdMixedHash_eq, Int64Hasher.bijective, fun x y h => Int64Hasher.bijective.1 h,
    hid, fun _ _ hne h => hne (hid.1 h)⟩

end DungeonCrawler
