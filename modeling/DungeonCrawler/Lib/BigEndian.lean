import Mathlib.Data.List.GetD
import Mathlib.Tactic

/-!
32-bit and 16-bit numbers in network byte order.
-/

namespace BigEndian

/-- The four bytes of a number, the most significant one first. -/
def bytes32 (v : UInt32) : List UInt8 :=
  [(v >>> 24).toUInt8, (v >>> 16).toUInt8, (v >>> 8).toUInt8, v.toUInt8]

/-- The number read off the first four bytes. Missing bytes count as zero. -/
def load32 (bs : List UInt8) : UInt32 :=
  UInt32.ofNat ((bs.getD 0 0).toNat * 2 ^ 24 + (bs.getD 1 0).toNat * 2 ^ 16 +
    (bs.getD 2 0).toNat * 2 ^ 8 + (bs.getD 3 0).toNat)

@[simp] lemma length_bytes32 (v : UInt32) : (bytes32 v).length = 4 := rfl

lemma load32_append {bs : List UInt8} (h : 4 ≤ bs.length) (cs : List UInt8) :
    load32 (bs ++ cs) = load32 bs := by
  unfold load32
  rw [List.getD_append _ _ _ _ (by omega), List.getD_append _ _ _ _ (by omega),
    List.getD_append _ _ _ _ (by omega), List.getD_append _ _ _ _ (by omega)]

/-- Reading back what was written. -/
lemma load32_bytes32 (v : UInt32) : load32 (bytes32 v) = v := by
  apply UInt32.toNat_inj.mp
  have hv := v.toNat_lt
  simp only [load32, bytes32, List.getD_cons_zero, List.getD_cons_succ, UInt32.toNat_toUInt8,
    UInt32.toNat_shiftRight, UInt32.toNat_ofNat', Nat.shiftRight_eq_div_pow,
    UInt32.reduceToNat, Nat.reduceMod, Nat.reducePow]
  omega

/-- A number is determined by its bytes, and four bytes by their number. -/
lemma bytes32_load32 {bs : List UInt8} (h : bs.length = 4) : bytes32 (load32 bs) = bs := by
  obtain ⟨a, b, c, d, rfl⟩ : ∃ a b c d, bs = [a, b, c, d] := by
    match bs, h with
    | [a, b, c, d], _ => exact ⟨a, b, c, d, rfl⟩
  have ha := a.toNat_lt
  have hb := b.toNat_lt
  have hc := c.toNat_lt
  have hd := d.toNat_lt
  simp only [load32, bytes32, List.getD_cons_zero, List.getD_cons_succ, List.cons.injEq,
    and_true, ← UInt8.toNat_inj, UInt32.toNat_toUInt8, UInt32.toNat_shiftRight,
    UInt32.toNat_ofNat', Nat.shiftRight_eq_div_pow,
    UInt32.reduceToNat, Nat.reduceMod, Nat.reducePow]
  omega

/-- What was read off the front was there. -/
lemma bytes32_load32_append {bs : List UInt8} (h : 4 ≤ bs.length) :
    bytes32 (load32 bs) ++ bs.drop 4 = bs := by
  have ht : (bs.take 4).length = 4 := by simp; omega
  have hl : load32 bs = load32 (bs.take 4) := by
    conv_lhs => rw [← List.take_append_drop 4 bs]
    exact load32_append (by omega) _
  rw [hl, bytes32_load32 ht, List.take_append_drop]

/-! ### 16-bit numbers -/

/-- The number of which these are the high and the low byte. -/
def join16 (high low : UInt8) : UInt16 := high.toUInt16 <<< 8 ||| low.toUInt16

def high16 (v : UInt16) : UInt8 := (v >>> 8).toUInt8

def low16 (v : UInt16) : UInt8 := (v &&& 0xFF).toUInt8

lemma toNat_join16 (high low : UInt8) :
    (join16 high low).toNat = high.toNat * 2 ^ 8 + low.toNat := by
  have hh := high.toNat_lt
  have hl := low.toNat_lt
  have hshift : (high.toUInt16 <<< 8).toNat = high.toNat <<< 8 := by
    rw [UInt16.toNat_shiftLeft, UInt8.toNat_toUInt16]
    exact Nat.mod_eq_of_lt (by simp [Nat.shiftLeft_eq]; omega)
  rw [join16, UInt16.toNat_or, hshift, UInt8.toNat_toUInt16, ← Nat.shiftLeft_add_eq_or_of_lt hl,
    Nat.shiftLeft_eq]

lemma toNat_high16 (v : UInt16) : (high16 v).toNat = v.toNat / 2 ^ 8 := by
  have hv := v.toNat_lt
  rw [high16, UInt16.toNat_toUInt8, UInt16.toNat_shiftRight, Nat.shiftRight_eq_div_pow]
  exact Nat.mod_eq_of_lt (by simp; omega)

lemma toNat_low16 (v : UInt16) : (low16 v).toNat = v.toNat % 2 ^ 8 := by
  rw [low16, UInt16.toNat_toUInt8, UInt16.toNat_and]
  show (v.toNat &&& 2 ^ 8 - 1) % 2 ^ 8 = _
  rw [Nat.and_two_pow_sub_one_eq_mod, Nat.mod_mod]

@[simp] lemma join16_high_low (v : UInt16) : join16 (high16 v) (low16 v) = v := by
  apply UInt16.toNat_inj.mp
  rw [toNat_join16, toNat_high16, toNat_low16]
  omega

@[simp] lemma high16_join (high low : UInt8) : high16 (join16 high low) = high := by
  have hl := low.toNat_lt
  apply UInt8.toNat_inj.mp
  rw [toNat_high16, toNat_join16]
  omega

@[simp] lemma low16_join (high low : UInt8) : low16 (join16 high low) = low := by
  have hl := low.toNat_lt
  apply UInt8.toNat_inj.mp
  rw [toNat_low16, toNat_join16]
  omega

end BigEndian
