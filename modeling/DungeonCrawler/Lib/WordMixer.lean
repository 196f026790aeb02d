import Mathlib.Data.BitVec
import Mathlib.Tactic

/-!
Mixing the bits of a word: the stages a mixer is made of, each a permutation of the words.

The xor of a word with its own shift keeps the high places as they were, so it is undone from
the high end down: a round restores as many further places as the shift is long. The product
with a constant is undone by the product with the inverse of the constant.
-/

namespace WordMixer

variable {w : ℕ}

/-- The xor of a word with its own shift. -/
def xorShift (k : ℕ) (x : BitVec w) : BitVec w := x ^^^ (x >>> k)

/-- Undoing the xor with the shift, in so many rounds. -/
def unxorShift (k : ℕ) : ℕ → BitVec w → BitVec w
  | 0, y => y
  | n + 1, y => y ^^^ (unxorShift k n y >>> k)

lemma xorShift_xor (k : ℕ) (x y : BitVec w) :
    xorShift k (x ^^^ y) = xorShift k x ^^^ xorShift k y := by
  unfold xorShift
  rw [BitVec.ushiftRight_xor_distrib]
  ac_rfl

lemma xorShift_shift (k j : ℕ) (x : BitVec w) : xorShift k (x >>> j) = xorShift k x >>> j := by
  unfold xorShift
  rw [BitVec.ushiftRight_xor_distrib, ← BitVec.shiftRight_add, ← BitVec.shiftRight_add,
    Nat.add_comm]

/-- Neighbouring terms of the sum cancel. -/
lemma xorShift_telescope (k n : ℕ) (x : BitVec w) :
    xorShift k x ^^^ ((x ^^^ (x >>> ((n + 1) * k))) >>> k) = x ^^^ (x >>> ((n + 2) * k)) := by
  have hn : (n + 1) * k + k = (n + 2) * k := by ring
  rw [xorShift, BitVec.ushiftRight_xor_distrib, ← BitVec.shiftRight_add, hn,
    BitVec.xor_assoc, ← BitVec.xor_assoc (x >>> k), BitVec.xor_self, BitVec.zero_xor]

lemma unxorShift_xorShift (k n : ℕ) (x : BitVec w) :
    unxorShift k n (xorShift k x) = x ^^^ (x >>> ((n + 1) * k)) := by
  induction n with
  | zero => rw [Nat.zero_add, Nat.one_mul]; rfl
  | succ n ih => rw [unxorShift, ih, xorShift_telescope]

lemma xorShift_unxorShift (k n : ℕ) (y : BitVec w) :
    xorShift k (unxorShift k n y) = y ^^^ (y >>> ((n + 1) * k)) := by
  induction n with
  | zero => rw [Nat.zero_add, Nat.one_mul]; rfl
  | succ n ih => rw [unxorShift, xorShift_xor, xorShift_shift, ih, xorShift_telescope]

/-- A shift past the end leaves nothing. -/
lemma xor_shift_past {k : ℕ} (hk : 0 < k) (x : BitVec w) :
    x ^^^ (x >>> ((w + 1) * k)) = x := by
  have hle : w ≤ (w + 1) * k := (Nat.le_succ w).trans (Nat.le_mul_of_pos_right _ hk)
  rw [BitVec.ushiftRight_eq_zero hle, BitVec.xor_zero]

/-- The xor with a shift by at least one place permutes the words. -/
def xorShiftEquiv (k : ℕ) (hk : 0 < k) : Equiv.Perm (BitVec w) where
  toFun := xorShift k
  invFun := unxorShift k w
  left_inv x := by rw [unxorShift_xorShift, xor_shift_past hk]
  right_inv y := by rw [xorShift_unxorShift, xor_shift_past hk]

/-- The product with a constant that has an inverse permutes the words. -/
def mulEquiv (c d : BitVec w) (h : c * d = 1) : Equiv.Perm (BitVec w) :=
  (Units.mkOfMulEqOne c d h).mulRight

@[simp] lemma xorShiftEquiv_apply (k : ℕ) (hk : 0 < k) (x : BitVec w) :
    xorShiftEquiv k hk x = x ^^^ (x >>> k) := rfl

@[simp] lemma mulEquiv_apply (c d : BitVec w) (h : c * d = 1) (x : BitVec w) :
    mulEquiv c d h x = x * c := rfl

end WordMixer
