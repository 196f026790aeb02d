import DungeonCrawler.Domain.Position
import DungeonCrawler.Lib.IntegralType

/-!
The arithmetic of positions is exact up to saturation.

The templates are evaluated over an integral type, where an expression may have no value. At
every type they have one, the exact result moved into the range; at the two types the program
uses they are the operations of `Position`.
-/

namespace DungeonCrawler

namespace Position

def sub (a b : Int64) : Int64 :=
  if b > 0 ∧ a < Int64.minValue + b then Int64.minValue
  else if b < 0 ∧ a > Int64.maxValue + b then Int64.maxValue
  else a - b

/-- The template at the unsigned type, the only one it is used at. -/
def mul (a b : UInt64) : UInt64 :=
  let max : UInt64 := 0xFFFFFFFFFFFFFFFF
  if a = 0 ∨ b = 0 then 0
  else if a > max / b then max else a * b

def addAssign (p other : Position) : Position := ⟨add p.x other.x, add p.y other.y⟩

def subAssign (p other : Position) : Position := ⟨sub p.x other.x, sub p.y other.y⟩

instance : Sub Position where
  sub p other := p.subAssign other

instance : Neg Position where
  neg p := ⟨sub 0 p.x, sub 0 p.y⟩

/-! ### The templates over an integral type -/

namespace Template

open IntegralType

variable {T : Type} (I : IntegralType T) (a b : T)

def add : Option T := do
  let above ← andAlso (0 < I.toInt b) ((I.sub I.max b).map fun c => I.toInt c < I.toInt a)
  if above then return I.max
  let below ← andAlso (I.toInt b < 0) ((I.sub I.min b).map fun c => I.toInt a < I.toInt c)
  if below then return I.min
  I.add a b

/-- The signed numbers are compared only; the difference is one of unsigned numbers. -/
def delta {U : Type} (J : IntegralType U) (cast : T → U) (a b : T) : Option U :=
  if I.toInt b ≤ I.toInt a then J.sub (cast a) (cast b) else J.sub (cast b) (cast a)

def sub : Option T := do
  let below ← andAlso (0 < I.toInt b) ((I.add I.min b).map fun c => I.toInt a < I.toInt c)
  if below then return I.min
  let above ← andAlso (I.toInt b < 0) ((I.add I.max b).map fun c => I.toInt c < I.toInt a)
  if above then return I.max
  I.sub a b

/-- Every expression of `add` that is evaluated has a value, and the last of them is the sum
moved into the range. -/
lemma add_spec : ∃ c, add I a b = some c ∧ I.toInt c = I.clamp (I.toInt a + I.toInt b) := by
  have := I.min_le a
  have := I.le_max a
  have := I.min_le b
  have := I.le_max b
  have := I.min_nonpos
  have := I.max_nonneg
  have habove := I.andAlso_eval (p := 0 < I.toInt b) (z := I.toInt I.max - I.toInt b)
    (fun z => z < I.toInt a) (by simp; omega)
  have hbelow := I.andAlso_eval (p := I.toInt b < 0) (z := I.toInt I.min - I.toInt b)
    (fun z => I.toInt a < z) (by simp; omega)
  simp only [add, IntegralType.sub, habove, hbelow]
  by_cases hhigh : I.toInt I.max < I.toInt a + I.toInt b
  · refine ⟨I.max, ?_, (I.clamp_of_gt hhigh).symm⟩
    have hb : 0 < I.toInt b := by omega
    have hg : I.toInt I.max - I.toInt b < I.toInt a := by omega
    simp [hb, hg]
  by_cases hlow : I.toInt a + I.toInt b < I.toInt I.min
  · refine ⟨I.min, ?_, (I.clamp_of_lt hlow).symm⟩
    have hb : I.toInt b < 0 := by omega
    have hb' : ¬ 0 < I.toInt b := by omega
    have hg : I.toInt a < I.toInt I.min - I.toInt b := by omega
    simp [hb, hb', hg]
  · obtain ⟨c, hc, hcv⟩ := I.eval_of_mem (z := I.toInt a + I.toInt b) (by omega) (by omega)
    refine ⟨c, ?_, hcv.trans (I.clamp_of_mem (by omega) (by omega)).symm⟩
    have hg : ¬ I.toInt I.max - I.toInt b < I.toInt a := by omega
    have hg' : ¬ I.toInt a < I.toInt I.min - I.toInt b := by omega
    simp [hg, hg', IntegralType.add, hc]

/-- The same of `sub` and the difference. -/
lemma sub_spec : ∃ c, sub I a b = some c ∧ I.toInt c = I.clamp (I.toInt a - I.toInt b) := by
  have := I.min_le a
  have := I.le_max a
  have := I.min_le b
  have := I.le_max b
  have := I.min_nonpos
  have := I.max_nonneg
  have hbelow := I.andAlso_eval (p := 0 < I.toInt b) (z := I.toInt I.min + I.toInt b)
    (fun z => I.toInt a < z) (by simp; omega)
  have habove := I.andAlso_eval (p := I.toInt b < 0) (z := I.toInt I.max + I.toInt b)
    (fun z => z < I.toInt a) (by simp; omega)
  simp only [sub, IntegralType.add, habove, hbelow]
  by_cases hlow : I.toInt a - I.toInt b < I.toInt I.min
  · refine ⟨I.min, ?_, (I.clamp_of_lt hlow).symm⟩
    have hb : 0 < I.toInt b := by omega
    have hg : I.toInt a < I.toInt I.min + I.toInt b := by omega
    simp [hb, hg]
  by_cases hhigh : I.toInt I.max < I.toInt a - I.toInt b
  · refine ⟨I.max, ?_, (I.clamp_of_gt hhigh).symm⟩
    have hb : I.toInt b < 0 := by omega
    have hb' : ¬ 0 < I.toInt b := by omega
    have hg : I.toInt I.max + I.toInt b < I.toInt a := by omega
    simp [hb, hb', hg]
  · obtain ⟨c, hc, hcv⟩ := I.eval_of_mem (z := I.toInt a - I.toInt b) (by omega) (by omega)
    refine ⟨c, ?_, hcv.trans (I.clamp_of_mem (by omega) (by omega)).symm⟩
    have hg : ¬ I.toInt a < I.toInt I.min + I.toInt b := by omega
    have hg' : ¬ I.toInt I.max + I.toInt b < I.toInt a := by omega
    simp [hg, hg', IntegralType.sub, hc]

end Template

/-! ### The two types -/

/-- The largest of the 64-bit numbers that is not above `z`, and at least the smallest. -/
def clamp (z : ℤ) : ℤ := max (-2 ^ 63) (min z (2 ^ 63 - 1))

def int64 : IntegralType Int64 where
  toInt := Int64.toInt
  min := Int64.minValue
  max := Int64.maxValue
  eval z := if -2 ^ 63 ≤ z ∧ z < 2 ^ 63 then some (Int64.ofInt z) else none
  min_le := Int64.minValue_le_toInt
  le_max := Int64.toInt_le
  min_nonpos := by decide
  max_nonneg := by decide
  eval_toInt a := by rw [if_pos ⟨a.le_toInt, a.toInt_lt⟩, Int64.ofInt_toInt]
  exists_toInt z hmin hmax := ⟨Int64.ofInt z,
    Int64.toInt_ofInt_of_le hmin (Int.lt_of_le_sub_one hmax)⟩

lemma toNat_ofInt {z : ℤ} (hmin : 0 ≤ z) (hmax : z < 2 ^ 64) :
    ((UInt64.ofInt z).toNat : ℤ) = z := by
  rw [UInt64.ofInt, Int.emod_eq_of_lt hmin hmax, UInt64.toNat_ofNat_of_lt' (by
    change z.toNat < 2 ^ 64
    omega), Int.toNat_of_nonneg hmin]

def uint64 : IntegralType UInt64 where
  toInt a := a.toNat
  min := 0
  max := 0xFFFFFFFFFFFFFFFF
  eval z := some (UInt64.ofInt z)
  min_le a := Int.natCast_nonneg _
  le_max a := Int.le_of_lt_add_one (by exact_mod_cast a.toNat_lt)
  min_nonpos := by decide
  max_nonneg := by decide
  eval_toInt a := by
    have h := toNat_ofInt (Int.natCast_nonneg a.toNat) (by exact_mod_cast a.toNat_lt)
    exact congrArg some (UInt64.toNat_inj.mp (Int.ofNat_inj.mp h))
  exists_toInt z hmin hmax := ⟨UInt64.ofInt z, toNat_ofInt hmin (Int.lt_add_one_of_le hmax)⟩

lemma toInt_sub_of_mem {a b : Int64} (hmin : -2 ^ 63 ≤ a.toInt - b.toInt)
    (hmax : a.toInt - b.toInt < 2 ^ 63) : (a - b).toInt = a.toInt - b.toInt := by
  rw [Int64.toInt_sub]
  exact Int.bmod_eq_of_le hmin hmax

lemma toInt_add_of_mem {a b : Int64} (hmin : -2 ^ 63 ≤ a.toInt + b.toInt)
    (hmax : a.toInt + b.toInt < 2 ^ 63) : (a + b).toInt = a.toInt + b.toInt := by
  rw [Int64.toInt_add]
  exact Int.bmod_eq_of_le hmin hmax

/-- The sum saturates, at either end. -/
lemma add_toInt (a b : Int64) : (add a b).toInt = clamp (a.toInt + b.toInt) := by
  have := a.le_toInt
  have := a.toInt_lt
  have := b.le_toInt
  have := b.toInt_lt
  have hmax := Int64.toInt_maxValue
  have hmin := Int64.toInt_minValue
  unfold add clamp
  simp only [gt_iff_lt, Int64.lt_iff_toInt_lt, Int64.toInt_zero]
  split_ifs with h h'
  · rw [toInt_sub_of_mem (by omega) (by omega)] at h
    omega
  · rw [toInt_sub_of_mem (by omega) (by omega)] at h'
    omega
  · -- neither guard holds, so the sum is in the range
    have hle : a.toInt + b.toInt < 2 ^ 63 := by
      by_contra hc
      refine h ⟨by omega, ?_⟩
      rw [toInt_sub_of_mem (by omega) (by omega)]
      omega
    have hge : -2 ^ 63 ≤ a.toInt + b.toInt := by
      by_contra hc
      refine h' ⟨by omega, ?_⟩
      rw [toInt_sub_of_mem (by omega) (by omega)]
      omega
    rw [toInt_add_of_mem hge hle]
    omega

lemma sub_toInt (a b : Int64) : (sub a b).toInt = clamp (a.toInt - b.toInt) := by
  have := a.le_toInt
  have := a.toInt_lt
  have := b.le_toInt
  have := b.toInt_lt
  have hmax := Int64.toInt_maxValue
  have hmin := Int64.toInt_minValue
  unfold sub clamp
  simp only [gt_iff_lt, Int64.lt_iff_toInt_lt, Int64.toInt_zero]
  split_ifs with h h'
  · rw [toInt_add_of_mem (by omega) (by omega)] at h
    omega
  · rw [toInt_add_of_mem (by omega) (by omega)] at h'
    omega
  · have hge : -2 ^ 63 ≤ a.toInt - b.toInt := by
      by_contra hc
      refine h ⟨by omega, ?_⟩
      rw [toInt_add_of_mem (by omega) (by omega)]
      omega
    have hle : a.toInt - b.toInt < 2 ^ 63 := by
      by_contra hc
      refine h' ⟨by omega, ?_⟩
      rw [toInt_add_of_mem (by omega) (by omega)]
      omega
    rw [toInt_sub_of_mem hge hle]
    omega

/-- So does the product of unsigned numbers. -/
lemma mul_toNat (a b : UInt64) : (mul a b).toNat = min (a.toNat * b.toNat) (2 ^ 64 - 1) := by
  unfold mul
  dsimp only
  split_ifs with h0 hgt
  · rcases h0 with rfl | rfl <;> simp
  all_goals
    have hb : 0 < b.toNat :=
      Nat.pos_of_ne_zero fun h => h0 (.inr (UInt64.toNat_inj.mp h))
    rw [gt_iff_lt, UInt64.lt_iff_toNat_lt, UInt64.toNat_div] at hgt
  · have h : 2 ^ 64 - 1 < a.toNat * b.toNat := (Nat.div_lt_iff_lt_mul hb).mp hgt
    change 2 ^ 64 - 1 = _
    omega
  · have h : a.toNat * b.toNat ≤ 2 ^ 64 - 1 := (Nat.le_div_iff_mul_le hb).mp (not_lt.mp hgt)
    rw [UInt64.toNat_mul, Nat.mod_eq_of_lt (by omega)]
    omega

/-! ### The templates at the two types -/

/-- What a template has for value is settled by the number it stands for. -/
lemma eq_some_of_toInt {T : Type} (I : IntegralType T) {v : Option T} {z : ℤ} {r : T}
    (h : ∃ c, v = some c ∧ I.toInt c = z) (hr : I.toInt r = z) : v = some r := by
  obtain ⟨c, rfl, hc⟩ := h
  exact congrArg some (I.toInt_injective (hc.trans hr.symm))

lemma template_add (a b : Int64) : Template.add int64 a b = some (add a b) :=
  eq_some_of_toInt int64 (Template.add_spec int64 a b) (add_toInt a b)

lemma template_sub (a b : Int64) : Template.sub int64 a b = some (sub a b) :=
  eq_some_of_toInt int64 (Template.sub_spec int64 a b) (sub_toInt a b)

lemma template_addUnsigned (a b : UInt64) :
    Template.add uint64 a b = some (addUnsigned a b) := by
  refine eq_some_of_toInt uint64 (Template.add_spec uint64 a b) ?_
  change ((addUnsigned a b).toNat : ℤ) =
    max 0 (min ((a.toNat : ℤ) + (b.toNat : ℤ)) (2 ^ 64 - 1))
  rw [addUnsigned_toNat]
  omega

lemma uint64_sub (a b : UInt64) : uint64.sub a b = some (a - b) := by
  have h : ∀ c : UInt64, UInt64.ofInt (c.toNat : ℤ) = c := fun c =>
    Option.some.inj (uint64.eval_toInt c)
  change some (UInt64.ofInt ((a.toNat : ℤ) - (b.toNat : ℤ))) = _
  rw [Int.sub_eq_add_neg, UInt64.ofInt_add, UInt64.ofInt_neg, h, h, UInt64.sub_eq_add_neg]

lemma template_delta (a b : Int64) :
    Template.delta int64 uint64 Int64.toUInt64 a b = some (delta a b) := by
  unfold Template.delta delta
  simp only [uint64_sub, ge_iff_le, Int64.le_iff_toInt_le]
  exact (apply_ite some _ _ _).symm

/-! ### Distances -/

lemma manhattanDistance_comm (p q : Position) :
    p.manhattanDistance q = q.manhattanDistance p := by
  apply UInt64.toNat_inj.mp
  rw [manhattanDistance_toNat, manhattanDistance_toNat]
  unfold exactDistance
  omega

lemma manhattanDistance_eq_zero {p q : Position} : p.manhattanDistance q = 0 ↔ p = q := by
  rw [← UInt64.toNat_inj, manhattanDistance_toNat, Position.ext_iff, ← Int64.toInt_inj,
    ← Int64.toInt_inj]
  change min (exactDistance p q) (2 ^ 64 - 1) = 0 ↔ _
  unfold exactDistance
  omega

lemma manhattanDistance_mono {p q p' q' : Position}
    (hx : (p.x.toInt - q.x.toInt).natAbs ≤ (p'.x.toInt - q'.x.toInt).natAbs)
    (hy : (p.y.toInt - q.y.toInt).natAbs ≤ (p'.y.toInt - q'.y.toInt).natAbs) :
    p.manhattanDistance q ≤ p'.manhattanDistance q' := by
  rw [UInt64.le_iff_toNat_le, manhattanDistance_toNat, manhattanDistance_toNat]
  unfold exactDistance
  omega

/-- `r` is the position with these exact coordinates, each moved into the range. -/
def Saturates (r : Position) (x y : ℤ) : Prop := r.x.toInt = clamp x ∧ r.y.toInt = clamp y

lemma add_saturates (p q : Position) :
    (p + q).Saturates (p.x.toInt + q.x.toInt) (p.y.toInt + q.y.toInt) := by
  rw [add_comm p.x.toInt, add_comm p.y.toInt]
  exact ⟨add_toInt q.x p.x, add_toInt q.y p.y⟩

lemma neg_saturates (p : Position) : (-p).Saturates (-p.x.toInt) (-p.y.toInt) := by
  rw [← zero_sub, ← zero_sub]
  exact ⟨sub_toInt 0 p.x, sub_toInt 0 p.y⟩

end Position

open Position

/-- **The arithmetic of positions.** The operators compute the exact coordinates, moved into
the range; differences of coordinates are exact, distances and products of unsigned numbers
are exact up to the largest number, and every signed expression that the templates evaluate
on the way stays inside the range. -/
theorem position_arithmetic :
    (∀ p q : Position,
      (p + q).Saturates (p.x.toInt + q.x.toInt) (p.y.toInt + q.y.toInt) ∧
      (p.addAssign q).Saturates (p.x.toInt + q.x.toInt) (p.y.toInt + q.y.toInt) ∧
      (p - q).Saturates (p.x.toInt - q.x.toInt) (p.y.toInt - q.y.toInt) ∧
      (p.subAssign q).Saturates (p.x.toInt - q.x.toInt) (p.y.toInt - q.y.toInt) ∧
      (-p).Saturates (-p.x.toInt) (-p.y.toInt)) ∧
    (∀ a b : Int64, (delta a b).toNat = (a.toInt - b.toInt).natAbs) ∧
    (∀ p q : Position, (p.manhattanDistance q).toNat =
      min ((p.x.toInt - q.x.toInt).natAbs + (p.y.toInt - q.y.toInt).natAbs) (2 ^ 64 - 1)) ∧
    (∀ p q : Position, p.manhattanDistance q = q.manhattanDistance p) ∧
    (∀ p q : Position, p.manhattanDistance q = 0 ↔ p = q) ∧
    (∀ p q p' q' : Position,
      (p.x.toInt - q.x.toInt).natAbs ≤ (p'.x.toInt - q'.x.toInt).natAbs →
      (p.y.toInt - q.y.toInt).natAbs ≤ (p'.y.toInt - q'.y.toInt).natAbs →
      p.manhattanDistance q ≤ p'.manhattanDistance q') ∧
    (∀ a b : UInt64, (mul a b).toNat = min (a.toNat * b.toNat) (2 ^ 64 - 1)) ∧
    (∀ a b : Int64, Template.add int64 a b = some (add a b) ∧
      Template.sub int64 a b = some (sub a b) ∧
      Template.delta int64 uint64 Int64.toUInt64 a b = some (delta a b)) ∧
    ∀ a b : UInt64, Template.add uint64 a b = some (addUnsigned a b) := by
  refine ⟨fun p q => ⟨add_saturates p q, ⟨add_toInt _ _, add_toInt _ _⟩,
    ⟨sub_toInt _ _, sub_toInt _ _⟩, ⟨sub_toInt _ _, sub_toInt _ _⟩, neg_saturates p⟩,
    delta_toNat, manhattanDistance_toNat, manhattanDistance_comm,
    fun _ _ => manhattanDistance_eq_zero, fun _ _ _ _ => manhattanDistance_mono, mul_toNat,
    fun a b => ⟨template_add a b, template_sub a b, template_delta a b⟩, template_addUnsigned⟩

end DungeonCrawler
