import DungeonCrawler.Common.Strings
import DungeonCrawler.Lib.Digits
import DungeonCrawler.Lib.MapM

/-!
Names and their codes: the two directions of the packing are inverse to each other.

A code packs a name if its four high bits are the length and the rest is the number whose
digits in base 64 are the places of the characters in the charset. Encoding and decoding
both compute this relation.
-/

namespace DungeonCrawler

open Digits

/-- The places of the characters of a string in the charset. -/
def Spells (str : Text) (idxs : List ℕ) : Prop :=
  List.Forall₂ (fun idx c => kCharset[idx]? = some c) idxs str

/-- The code of a name. -/
structure Packs (str : Text) (code : UInt64) : Prop where
  length_le : str.length ≤ kMaxPackedLen
  digits : ∃ idxs, Spells str idxs ∧
    code.toNat = 2 ^ 60 * str.length + Nat.ofDigits 64 idxs

lemma kCharset_nodup : kCharset.Nodup := by decide

lemma idxOf?_charset {c : Char} {idx : ℕ} :
    kCharset.idxOf? c = some idx ↔ kCharset[idx]? = some c := by
  rw [List.idxOf?_eq_some_iff, List.getElem?_eq_some_iff]
  constructor
  · rintro ⟨h, hc, -⟩
    exact ⟨h, hc⟩
  · rintro ⟨h, hc⟩
    refine ⟨h, hc, fun j hj hjc => ?_⟩
    have := kCharset_nodup.getElem_inj_iff.mp (hjc.trans hc.symm)
    omega

/-- There are fewer than 64 characters. -/
lemma idx_lt {c : Char} {idx : ℕ} (h : kCharset[idx]? = some c) : idx < 64 := by
  obtain ⟨h, -⟩ := List.getElem?_eq_some_iff.mp h
  have : kCharset.length = 62 := by decide
  omega

lemma Spells.lt {str : Text} {idxs : List ℕ} (h : Spells str idxs) : ∀ d ∈ idxs, d < 64 := by
  intro d hd
  obtain ⟨i, hi, rfl⟩ := List.mem_iff_getElem.mp hd
  have := h.length_eq
  exact idx_lt (h.get hi (by omega))

lemma Spells.mem_charset {str : Text} {idxs : List ℕ} (h : Spells str idxs) :
    ∀ c ∈ str, c ∈ kCharset := by
  intro c hc
  obtain ⟨i, hi, rfl⟩ := List.mem_iff_getElem.mp hc
  have := h.length_eq
  exact List.mem_of_getElem? (h.get (by omega) hi)

/-- Characters of the charset have places. -/
lemma exists_spells {str : Text} (h : ∀ c ∈ str, c ∈ kCharset) : ∃ idxs, Spells str idxs := by
  induction str with
  | nil => exact ⟨[], .nil⟩
  | cons c str ih =>
    obtain ⟨hc, h⟩ := List.forall_mem_cons.mp h
    obtain ⟨idx, hidx⟩ := List.getElem?_of_mem hc
    obtain ⟨idxs, hs⟩ := ih h
    exact ⟨idx :: idxs, .cons hidx hs⟩

lemma Spells.ofDigits_lt {str : Text} {idxs : List ℕ} (h : Spells str idxs) :
    Nat.ofDigits 64 idxs < 64 ^ str.length := by
  rw [← h.length_eq]
  exact Nat.ofDigits_lt_base_pow_length (by omega) h.lt

lemma two_pow_six_mul (n : ℕ) : 2 ^ (6 * n) = 64 ^ n := by rw [Nat.pow_mul]

lemma pow_le_60 {n : ℕ} (h : n ≤ 10) : 64 ^ n ≤ 2 ^ 60 :=
  (Nat.pow_le_pow_right (by omega) h).trans (by norm_num)

/-! ### Encoding -/

lemma toNat_lengthField {len : ℕ} (h : len ≤ 10) :
    (UInt64.ofNat len <<< kLengthShift).toNat = 2 ^ 60 * len := by
  rw [UInt64.toNat_shiftLeft, UInt64.toNat_ofNat', Nat.mod_eq_of_lt (a := len) (by omega),
    Nat.shiftLeft_eq, Nat.mul_comm]
  change 2 ^ 60 * len % 2 ^ 64 = _
  exact Nat.mod_eq_of_lt (by omega)

/-- Another character is put above those already there. -/
lemma toNat_addChar {code : UInt64} {idx pos high low : ℕ} (hpos : pos < 10) (hidx : idx < 64)
    (hcode : code.toNat = 2 ^ 60 * high + low) (hlow : low < 64 ^ pos) :
    (code ||| UInt64.ofNat idx <<< UInt64.ofNat (6 * pos)).toNat =
      2 ^ 60 * high + (low + 64 ^ pos * idx) := by
  have hle := pow_le_60 (show pos + 1 ≤ 10 by omega)
  have hmul : 64 ^ pos * idx + 64 ^ pos ≤ 64 ^ pos * 64 := by
    rw [← Nat.mul_succ]
    exact Nat.mul_le_mul_left _ hidx
  rw [pow_succ] at hle
  have hshift : (UInt64.ofNat idx <<< UInt64.ofNat (6 * pos)).toNat = 2 ^ (6 * pos) * idx := by
    rw [UInt64.toNat_shiftLeft, UInt64.toNat_ofNat', UInt64.toNat_ofNat',
      Nat.mod_eq_of_lt (a := idx) (by omega), Nat.mod_eq_of_lt (a := 6 * pos) (by omega),
      Nat.mod_eq_of_lt (a := 6 * pos) (by omega), Nat.shiftLeft_eq, Nat.mul_comm,
      two_pow_six_mul]
    exact Nat.mod_eq_of_lt (by omega)
  rw [UInt64.toNat_or, hcode, hshift, or_digit (by rwa [two_pow_six_mul]), two_pow_six_mul]
  rw [two_pow_six_mul]
  omega

/-- What the loop adds to the characters it has packed. -/
lemma encodeLoop_eq_some_iff {str : Text} {pos high low : ℕ} {code₀ code : UInt64}
    (hlen : pos + str.length ≤ 10) (hcode : code₀.toNat = 2 ^ 60 * high + low)
    (hlow : low < 64 ^ pos) :
    encodeLoop str pos code₀ = some code ↔ ∃ idxs, Spells str idxs ∧
      code.toNat = 2 ^ 60 * high + (low + 64 ^ pos * Nat.ofDigits 64 idxs) := by
  induction str generalizing pos low code₀ with
  | nil =>
    simp only [encodeLoop, Spells, List.forall₂_nil_right_iff, exists_eq_left, Nat.ofDigits_nil,
      Nat.mul_zero, Nat.add_zero, ← hcode, Option.some.injEq, UInt64.toNat_inj, eq_comm]
  | cons c str ih =>
    rw [List.length_cons] at hlen
    simp only [encodeLoop, Spells, List.forall₂_cons_right_iff]
    cases hc : kCharset.idxOf? c with
    | none =>
      -- the character is not in the charset
      simp only [reduceCtorEq, false_iff]
      rintro ⟨idxs, ⟨idx, idxs', hidx, -, -⟩, -⟩
      rw [idxOf?_charset.mpr hidx] at hc
      cases hc
    | some idx =>
      have hidx := idxOf?_charset.mp hc
      have hadd := toNat_addChar (by omega) (idx_lt hidx) hcode hlow
      have hlow' : low + 64 ^ pos * idx < 64 ^ (pos + 1) := by
        have := Nat.mul_le_mul_left (64 ^ pos) (Nat.succ_le_of_lt (idx_lt hidx))
        rw [Nat.mul_succ] at this
        rw [pow_succ]
        omega
      rw [ih (by omega) hadd hlow']
      have hdigits : ∀ idxs, low + 64 ^ pos * idx + 64 ^ (pos + 1) * Nat.ofDigits 64 idxs =
          low + 64 ^ pos * Nat.ofDigits 64 (idx :: idxs) := by
        intro idxs
        rw [Nat.ofDigits_cons]
        ring
      constructor
      · rintro ⟨idxs, hs, hn⟩
        exact ⟨idx :: idxs, ⟨idx, idxs, hidx, hs, rfl⟩, by rw [hn, hdigits]⟩
      · rintro ⟨_, ⟨idx', idxs, hidx', hs, rfl⟩, hn⟩
        obtain rfl : idx = idx' := by
          have := idxOf?_charset.mpr hidx'
          exact Option.some.inj (hc.symm.trans this)
        exact ⟨idxs, hs, by rw [hn, hdigits]⟩

/-- Encoding computes the code of a name. -/
lemma encodeString_eq_some_iff {str : Text} {code : UInt64} :
    encodeString str = some code ↔ Packs str code := by
  unfold encodeString
  split_ifs with h
  · simp only [false_iff]
    exact fun hp => absurd hp.length_le (by omega)
  · have h : str.length ≤ 10 := by simpa [kMaxPackedLen] using h
    have hfield : (UInt64.ofNat str.length <<< kLengthShift).toNat = 2 ^ 60 * str.length + 0 :=
      toNat_lengthField h
    rw [encodeLoop_eq_some_iff (by omega) hfield (by simp)]
    simp only [pow_zero, Nat.one_mul, Nat.zero_add]
    exact ⟨fun hd => ⟨h, hd⟩, fun hp => hp.digits⟩

/-! ### Decoding -/

lemma toNat_lengthBits (code : UInt64) :
    ((code >>> kLengthShift) &&& kLengthMask).toNat = code.toNat / 2 ^ 60 := by
  have := code.toNat_lt
  rw [UInt64.toNat_and, UInt64.toNat_shiftRight]
  change code.toNat >>> 60 &&& (2 ^ 4 - 1) = _
  rw [Nat.and_two_pow_sub_one_eq_mod, Nat.shiftRight_eq_div_pow]
  omega

lemma toNat_charBits (code : UInt64) {i : ℕ} (hi : i < 10) :
    ((code >>> UInt64.ofNat (6 * i)) &&& kCharMask).toNat = code.toNat / 64 ^ i % 64 := by
  rw [UInt64.toNat_and, UInt64.toNat_shiftRight, UInt64.toNat_ofNat',
    Nat.mod_eq_of_lt (a := 6 * i) (by omega), Nat.mod_eq_of_lt (a := 6 * i) (by omega),
    ← two_pow_six_mul, ← Nat.shiftRight_eq_div_pow]
  exact Nat.and_two_pow_sub_one_eq_mod _ 6

/-- The mask of the bits between the last character and the length. -/
lemma toNat_checkMask {len : UInt64} (h : len.toNat ≤ 10) :
    (((~~~0 : UInt64) <<< (len * 6)) &&& ~~~(kLengthMask <<< kLengthShift)).toNat =
      (2 ^ (60 - 6 * len.toNat) - 1) <<< (6 * len.toNat) := by
  have key : ∀ n ∈ List.range 11, (((~~~0 : UInt64) <<< (UInt64.ofNat n * 6)) &&&
      ~~~(kLengthMask <<< kLengthShift)).toNat = (2 ^ (60 - 6 * n) - 1) <<< (6 * n) := by
    decide
  have := key len.toNat (List.mem_range.mpr (by omega))
  rwa [UInt64.ofNat_toNat] at this

/-- No stray bit is set if the characters make up all of the number below the length. -/
lemma no_stray_bits_iff (code : UInt64) {len : UInt64} (h : len.toNat ≤ 10) :
    code &&& (((~~~0 : UInt64) <<< (len * 6)) &&& ~~~(kLengthMask <<< kLengthShift)) = 0 ↔
      code.toNat % 2 ^ 60 < 64 ^ len.toNat := by
  rw [← UInt64.toNat_inj, UInt64.toNat_and, toNat_checkMask h]
  change _ = 0 ↔ _
  rw [and_ones_eq_zero_iff, two_pow_six_mul, Nat.add_sub_cancel' (by omega)]

/-- The characters read are those at the places that the digits name. -/
lemma mapM_charset_eq_some_iff (code : UInt64) {len : ℕ} (h : len ≤ 10) {str : Text} :
    ((List.range len).mapM fun i =>
      kCharset[((code >>> UInt64.ofNat (6 * i)) &&& kCharMask).toNat]?) = some str ↔
      Spells str (lowest 64 code.toNat len) := by
  rw [List.mapM_eq_some_iff, Spells, lowest, List.forall₂_map_left_iff, List.forall₂_iff_get,
    List.forall₂_iff_get]
  refine and_congr_right fun _ => forall₃_congr fun i hi _ => ?_
  rw [List.length_range] at hi
  simp only [List.get_eq_getElem, List.getElem_range]
  rw [toNat_charBits code (by omega)]

/-- The two fields of a code. -/
lemma Packs.fields {str : Text} {code : UInt64} (h : Packs str code) :
    code.toNat / 2 ^ 60 = str.length ∧ code.toNat % 2 ^ 60 < 64 ^ str.length ∧
      ∃ idxs, Spells str idxs ∧ code.toNat % 2 ^ 60 = Nat.ofDigits 64 idxs := by
  obtain ⟨hle, idxs, hs, hn⟩ := h
  have hlt := hs.ofDigits_lt
  have := pow_le_60 hle
  have hmod : code.toNat % 2 ^ 60 = Nat.ofDigits 64 idxs := by omega
  exact ⟨by omega, by omega, idxs, hs, hmod⟩

/-- Below the length, the digits of a code without stray bits are all there is. -/
lemma mod_pow_of_lt {n len : ℕ} (hlen : len ≤ 10) (h : n % 2 ^ 60 < 64 ^ len) :
    n % 64 ^ len = n % 2 ^ 60 := by
  have hdvd : 64 ^ len ∣ 2 ^ 60 := by
    rw [← two_pow_six_mul]
    exact Nat.pow_dvd_pow 2 (by omega)
  rw [← Nat.mod_mod_of_dvd n hdvd, Nat.mod_eq_of_lt h]

/-- Decoding finds the name that a code packs. -/
lemma decodeString_eq_some_iff {str : Text} {code : UInt64} :
    decodeString code = some str ↔ Packs str code := by
  have hlen := toNat_lengthBits code
  unfold decodeString
  dsimp only
  by_cases h : code.toNat / 2 ^ 60 ≤ 10
  · have hstray := no_stray_bits_iff code (hlen ▸ h)
    rw [hlen] at hstray ⊢
    rw [if_neg (by unfold kMaxPackedLen; omega)]
    refine Option.bind_eq_some_iff.trans ?_
    by_cases hlt : code.toNat % 2 ^ 60 < 64 ^ (code.toNat / 2 ^ 60)
    · -- the digits are all there is
      have hmod := mod_pow_of_lt h hlt
      simp only [not_not.mpr (hstray.mpr hlt), if_false, Option.some.injEq, exists_eq_right,
        mapM_charset_eq_some_iff code h]
      constructor
      · intro hs
        have hl := hs.length_eq
        rw [length_lowest] at hl
        refine ⟨by unfold kMaxPackedLen; omega, _, hs, ?_⟩
        rw [ofDigits_lowest, hmod, ← hl]
        exact (Nat.div_add_mod _ _).symm
      · intro hp
        obtain ⟨hl, -, idxs, hs, hd⟩ := hp.fields
        have hlowest : lowest 64 code.toNat idxs.length = idxs := by
          rw [lowest_eq_iff (by omega) hs.lt, hs.length_eq, ← hl, hmod, hd]
        rwa [hl, ← hs.length_eq, hlowest]
    · -- stray bits
      have hne := mt hstray.mp hlt
      refine iff_of_false ?_ fun hp => hlt ?_
      · rintro ⟨result, -, hresult⟩
        rw [if_pos hne] at hresult
        cases hresult
      · rw [hp.fields.1]
        exact hp.fields.2.1
  · -- a bad length
    rw [hlen, if_pos (by unfold kMaxPackedLen; omega)]
    refine iff_of_false (by simp) fun hp => h ?_
    rw [hp.fields.1]
    exact hp.length_le

/-- **Names and codes correspond.** A string has a code exactly when it has at most ten
characters, all in the charset; a code encodes a string exactly when it decodes to it; and
so two strings never have one code. -/
theorem encodeString_decodeString :
    (∀ str, (encodeString str).isSome ↔ str.length ≤ 10 ∧ ∀ c ∈ str, c ∈ kCharset) ∧
    (∀ str code, encodeString str = some code ↔ decodeString code = some str) ∧
    ∀ code str str', encodeString str = some code → encodeString str' = some code →
      str = str' := by
  have hiff : ∀ str code, encodeString str = some code ↔ decodeString code = some str :=
    fun str code => encodeString_eq_some_iff.trans decodeString_eq_some_iff.symm
  refine ⟨fun str => ?_, hiff, fun code str str' h h' => ?_⟩
  · rw [Option.isSome_iff_exists]
    constructor
    · rintro ⟨code, h⟩
      obtain ⟨hle, idxs, hs, -⟩ := encodeString_eq_some_iff.mp h
      exact ⟨hle, hs.mem_charset⟩
    · rintro ⟨hle, hc⟩
      obtain ⟨idxs, hs⟩ := exists_spells hc
      have := hs.ofDigits_lt
      have := pow_le_60 hle
      refine ⟨UInt64.ofNat (2 ^ 60 * str.length + Nat.ofDigits 64 idxs),
        encodeString_eq_some_iff.mpr ⟨hle, idxs, hs, ?_⟩⟩
      rw [UInt64.toNat_ofNat', Nat.mod_eq_of_lt (by omega)]
  · exact Option.some.inj (((hiff str code).mp h).symm.trans ((hiff str' code).mp h'))

/-- A name with a capital letter. -/
theorem encodeString_decodeString_abcZ :
    decodeString 0x4000000000CC2040 = some "abcZ".toList ∧
      ∀ str, encodeString str = some 0x4000000000CC2040 → "abcZ".toList = str :=
  ⟨(encodeString_decodeString.2.1 _ _).mp (by decide),
    fun str h => encodeString_decodeString.2.2 _ _ str (by decide) h⟩

end DungeonCrawler
