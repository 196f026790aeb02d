import DungeonCrawler.Common.Types
import Mathlib.Data.List.TakeWhile

/-!
Strings: joining, trimming and reading numbers, and the names that are packed into 64 bits.

A packed name has its length in the four high bits and six bits for each character, the
first character lowest.
-/

namespace DungeonCrawler

/-- The characters that separate words, in the locale the programs run in. -/
def kWhitespace : Text := [' ', '\t', '\n', '\r', '\x0C', '\x0B']

def isWhitespace (c : Char) : Bool := c ∈ kWhitespace

def trimWhitespace (str : Text) : Text :=
  ((str.dropWhile isWhitespace).reverse.dropWhile isWhitespace).reverse

def joinWithSpace (args : List Text) : Text :=
  args.foldl (fun result arg => if result.isEmpty then arg else result ++ ' ' :: arg) []

/-- A number in decimal. -/
def decimal (n : ℕ) : Text := (Nat.repr n).toList

/-! ### Numbers -/

def digitValue (c : Char) : ℕ := c.toNat - '0'.toNat

/-- The number that decimal digits denote. -/
def numeralValue (digits : Text) : ℕ := digits.foldl (fun n c => 10 * n + digitValue c) 0

/-- The number at the front of a string and what comes after it; there is none when no digit
is there or the number does not fit. -/
def fromChars (str : Text) : Option (UInt64 × Text) :=
  let digits := str.takeWhile Char.isDigit
  if digits = [] ∨ 2 ^ 64 ≤ numeralValue digits then none
  else some (UInt64.ofNat (numeralValue digits), str.dropWhile Char.isDigit)

def convertStringToUint64 (num_str : Text) : Option UInt64 :=
  let num := trimWhitespace num_str
  if num.isEmpty then none
  else match fromChars num with
    | some (value, []) => some value
    | _ => none

/-- A string of digits that denotes the number. -/
structure Denotes (str : Text) (n : ℕ) : Prop where
  ne_nil : str ≠ []
  digits : ∀ c ∈ str, c.isDigit
  value : numeralValue str = n

lemma denotes_of_fromChars {str : Text} {value : UInt64} (h : fromChars str = some (value, [])) :
    Denotes str value.toNat := by
  unfold fromChars at h
  dsimp only at h
  split_ifs at h with hnone
  obtain ⟨hvalue, hrest⟩ := Prod.mk.inj (Option.some.inj h)
  have hall : ∀ c ∈ str, c.isDigit := List.dropWhile_eq_nil_iff.mp hrest
  have htake : str.takeWhile Char.isDigit = str := List.takeWhile_eq_self_iff.mpr hall
  rw [htake] at hnone hvalue
  push Not at hnone
  refine ⟨hnone.1, hall, ?_⟩
  rw [← hvalue, UInt64.toNat_ofNat', Nat.mod_eq_of_lt hnone.2]

/-- A word has nothing to trim. -/
lemma trimWhitespace_of_word {str : Text} (h : ∀ c ∈ str, isWhitespace c = false) :
    trimWhitespace str = str := by
  have drop {str : Text} (h : ∀ c ∈ str, isWhitespace c = false) :
      str.dropWhile isWhitespace = str := by
    cases str with
    | nil => rfl
    | cons c str => rw [List.dropWhile_cons, if_neg (by simp [h c (List.mem_cons_self ..)])]
  rw [trimWhitespace, drop h, drop fun c hc => h c (List.mem_reverse.mp hc),
    List.reverse_reverse]

lemma denotes_of_convertStringToUint64 {str : Text} {value : UInt64}
    (hw : ∀ c ∈ str, isWhitespace c = false) (h : convertStringToUint64 str = some value) :
    Denotes str value.toNat := by
  unfold convertStringToUint64 at h
  rw [trimWhitespace_of_word hw] at h
  dsimp only at h
  split_ifs at h
  split at h
  · rename_i hchars
    obtain rfl := Option.some.inj h
    exact denotes_of_fromChars hchars
  · cases h

/-- Digits separate no words. -/
lemma Denotes.word {str : Text} {n : ℕ} (h : Denotes str n) :
    ∀ c ∈ str, isWhitespace c = false := by
  have no_digits : ∀ c ∈ kWhitespace, c.isDigit = false := by simp [kWhitespace]
  intro c hc
  by_contra hw
  have hmem : c ∈ kWhitespace := by simpa [isWhitespace] using hw
  exact absurd (h.digits c hc) (by simp [no_digits c hmem])

/-- A number that is written is read back. -/
lemma denotes_decimal (n : ℕ) : Denotes (decimal n) n where
  ne_nil := by
    rw [decimal, Nat.toList_repr]
    exact Nat.toDigits_ne_nil
  digits c hc := by
    rw [decimal, Nat.toList_repr] at hc
    exact Nat.isDigit_of_mem_toDigits (by decide) (by decide) hc
  value := by
    rw [decimal, Nat.toList_repr]
    exact Nat.ofDigitChars_ten_toDigits

lemma convertStringToUint64_of_denotes {str : Text} {value : UInt64}
    (h : Denotes str value.toNat) : convertStringToUint64 str = some value := by
  have hchars : fromChars str = some (value, []) := by
    have hfits := value.toNat_lt
    have htake : str.takeWhile Char.isDigit = str := List.takeWhile_eq_self_iff.mpr h.digits
    have hdrop : str.dropWhile Char.isDigit = [] := List.dropWhile_eq_nil_iff.mpr h.digits
    have hnone : ¬ (str = [] ∨ 2 ^ 64 ≤ value.toNat) := not_or.mpr ⟨h.ne_nil, by omega⟩
    simp only [fromChars, htake, hdrop, h.value, if_neg hnone, UInt64.ofNat_toNat]
  have hne : ¬ str.isEmpty := mt List.isEmpty_iff.mp h.ne_nil
  simp only [convertStringToUint64, trimWhitespace_of_word h.word, if_neg hne, hchars]

/-! ### Names -/

def kCharset : Text := "abcdefghijklmnopqrstuvwxyzABCDEFGHIJKLMNOPQRSTUVWXYZ0123456789".toList

def kMaxPackedLen : ℕ := 10
def kLengthMask : UInt64 := 0xF
def kLengthShift : UInt64 := 60
def kCharMask : UInt64 := 0x3F

/-- The loop over the characters, from a position and the code so far. -/
def encodeLoop : Text → ℕ → UInt64 → Option UInt64
  | [], _, code => some code
  | c :: str, pos, code =>
    match kCharset.idxOf? c with
    | none => none
    | some idx =>
      encodeLoop str (pos + 1) (code ||| UInt64.ofNat idx <<< UInt64.ofNat (6 * pos))

def encodeString (str : Text) : Option UInt64 :=
  if str.length > kMaxPackedLen then none
  else encodeLoop str 0 (UInt64.ofNat str.length <<< kLengthShift)

def decodeString (code : UInt64) : Option Text :=
  let len := (code >>> kLengthShift) &&& kLengthMask
  if len.toNat > kMaxPackedLen then none
  else do
    let result ← (List.range len.toNat).mapM fun i =>
      kCharset[((code >>> UInt64.ofNat (6 * i)) &&& kCharMask).toNat]?
    let used_bits := len * 6
    let unused_mask : UInt64 := (~~~0) <<< used_bits
    let length_bits := kLengthMask <<< kLengthShift
    let check_mask := unused_mask &&& ~~~length_bits
    if code &&& check_mask ≠ 0 then none else some result

example : encodeString "abcZ".toList = some 0x4000000000CC2040 := by decide

end DungeonCrawler
