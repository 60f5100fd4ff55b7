import Gatehouse.Json.Printer
import Gatehouse.Proofs.Json.Numerals
import Gatehouse.Proofs.Json.Spelling

/-!
# Printed strings and integers

What the printer writes between the quotes of a string spells its text: no quote, backslash or
control stands there unescaped. The digits that it writes for a number are a literal of that number.
-/
namespace Gatehouse.Json

/-! ## Strings -/

theorem SpellsBytes.append_plain {bytes raw meant : List UInt8}
    (plain : ∀ b ∈ bytes, isPlainByte b = true) (spells : SpellsBytes raw meant) :
    SpellsBytes (bytes ++ raw) (bytes ++ meant) := by
  induction bytes with
  | nil => exact spells
  | cons b bytes ih =>
    rw [List.forall_mem_cons] at plain
    exact .plain plain.1 (ih plain.2)

/-- The bytes of a character that needs no escape are plain. -/
theorem isPlainByte_of_mem_encodeChar {c : Char} (quote : c ≠ '"') (backslash : c ≠ '\\')
    (control : 0x20 ≤ c.toNat) {b : UInt8} (member : b ∈ String.utf8EncodeChar c) :
    isPlainByte b = true := by
  have quote : c.toNat ≠ 0x22 := fun same => quote (Char.toNat_inj.mp same)
  have backslash : c.toNat ≠ 0x5C := fun same => backslash (Char.toNat_inj.mp same)
  simp only [isPlainByte, Bool.and_eq_true, bne_iff_ne, ne_eq, Bool.not_eq_true',
    decide_eq_false_iff_not, UInt8.lt_iff_toNat_lt, ← UInt8.toNat_inj, UInt8.reduceToNat]
  -- Beyond ASCII all bytes of a character are high, and those are plain.
  by_cases ascii : c.toNat < 0x80
  · rw [Utf8.encodeChar_ascii ascii, List.mem_singleton] at member
    rw [member, Utf8.toNat_ofNat (by omega)]
    omega
  · have high := Utf8.high_of_mem_encodeChar (by omega) member
    omega

theorem value?_digit {n : Nat} (small : n < 16) :
    Hex.value? (UInt8.ofNat (Hex.digit n).toNat) = some n := by
  have all : ∀ n < 16, Hex.value? (UInt8.ofNat (Hex.digit n).toNat) = some n := by decide
  exact all n small

/-- An escape of four digits spells its character. -/
theorem SpellsBytes.append_hex {c : Char} (control : c.toNat < 0x20) {raw meant : List UInt8}
    (spells : SpellsBytes raw meant) :
    SpellsBytes (Utf8.encode ['\\', 'u', '0', '0', Hex.digit (c.toNat / 16),
        Hex.digit (c.toNat % 16)] ++ raw) (String.utf8EncodeChar c ++ meant) := by
  have ascii : ∀ n < 16, (Hex.digit n).toNat < 0x80 := by decide
  have high := value?_digit (n := c.toNat / 16) (by omega)
  have low := value?_digit (n := c.toNat % 16) (by omega)
  let digits : List UInt8 := [0x30, 0x30, UInt8.ofNat (Hex.digit (c.toNat / 16)).toNat,
    UInt8.ofNat (Hex.digit (c.toNat % 16)).toNat]
  have bytes : Utf8.encode ['\\', 'u', '0', '0', Hex.digit (c.toNat / 16),
        Hex.digit (c.toNat % 16)] = 0x5C :: 0x75 :: digits := by
    simp only [Utf8.encode_cons, Utf8.encode_nil, List.append_nil,
      Utf8.encodeChar_ascii (ascii (c.toNat / 16) (by omega)),
      Utf8.encodeChar_ascii (ascii (c.toNat % 16) (by omega))]
    rfl
  have zero : Hex.value? 0x30 = some 0 := rfl
  have whole : c.toNat / 16 * 16 + c.toNat % 16 = c.toNat := by omega
  have value : hexValue? digits = some c.toNat := by
    simp [hexValue?, digits, zero, high, low, whole]
  have leading : isLeading c.toNat = false := by simp [isLeading]; omega
  have trailing : isTrailing c.toNat = false := by simp [isTrailing]; omega
  have unit := SpellsBytes.unit rfl value leading trailing spells
  rw [Char.ofNat_toNat] at unit
  rw [bytes]
  exact unit

/-- A character as it is printed spells that character. -/
theorem SpellsBytes.append_escapedChar (c : Char) {raw meant : List UInt8}
    (spells : SpellsBytes raw meant) :
    SpellsBytes (Utf8.encode (escapedChar c) ++ raw) (String.utf8EncodeChar c ++ meant) := by
  simp only [escapedChar]
  -- Seven characters have an escape of two letters, other controls one of six.
  split_ifs with quote backslash newline return_ tab backspace feed control
  · subst quote; exact .short rfl spells
  · subst backslash; exact .short rfl spells
  · subst newline; exact .short rfl spells
  · subst return_; exact .short rfl spells
  · subst tab; exact .short rfl spells
  · obtain rfl : c = Char.ofNat 0x08 := by rw [← backspace, Char.ofNat_toNat]
    exact .short rfl spells
  · obtain rfl : c = Char.ofNat 0x0C := by rw [← feed, Char.ofNat_toNat]
    exact .short rfl spells
  · exact append_hex control spells
  · rw [Utf8.encode_cons, Utf8.encode_nil, List.append_nil]
    apply append_plain _ spells
    intro b member
    exact isPlainByte_of_mem_encodeChar quote backslash (by omega) member

/-- A printed string spells its text. -/
theorem spellsText_escaped (text : String) : SpellsText (Utf8.encode (escaped text.toList)) text := by
  rw [SpellsText, bytesOf]
  induction text.toList with
  | nil => exact .nil
  | cons c text ih =>
    rw [escaped, List.flatMap_cons, Utf8.encode_append, Utf8.encode_cons]
    exact SpellsBytes.append_escapedChar c ih

/-! ## Integers -/

/-- The bytes of decimal digits. -/
def digitBytes (digits : List Char) : List UInt8 := digits.map fun c => UInt8.ofNat c.toNat

theorem encode_digits {digits : List Char} (all : ∀ c ∈ digits, c.isDigit) :
    Utf8.encode digits = digitBytes digits := by
  apply Utf8.encode_ascii
  intro c member
  have range := Utf8.digit_range (all c member)
  omega

theorem isDigitByte_ofNat {c : Char} (digit : c.isDigit) :
    isDigitByte (UInt8.ofNat c.toNat) = true := by
  have range := Utf8.digit_range digit
  simp only [isDigitByte, Bool.and_eq_true, decide_eq_true_eq, UInt8.le_iff_toNat_le,
    Utf8.toNat_ofNat (n := c.toNat) (by omega), UInt8.reduceToNat]
  exact range

theorem isDigitByte_of_mem {digits : List Char} (all : ∀ c ∈ digits, c.isDigit) :
    ∀ b ∈ digitBytes digits, isDigitByte b = true := by
  intro b member
  obtain ⟨c, inside, rfl⟩ := List.mem_map.mp member
  exact isDigitByte_ofNat (all c inside)

/-- Digits are all taken while the number that they spell stays below 2 ^ 64. -/
theorem absorb_digits {digits : List Char} (all : ∀ c ∈ digits, c.isDigit) (value : Nat)
    (fits : Nat.ofDigitChars 10 digits value < 0x10000000000000000) :
    absorb value (digitBytes digits) = (Nat.ofDigitChars 10 digits value, []) := by
  induction digits generalizing value with
  | nil => rfl
  | cons c digits ih =>
    rw [List.forall_mem_cons] at all
    have range := Utf8.digit_range all.1
    have next : value * 10 + ((UInt8.ofNat c.toNat).toNat - 0x30)
        = 10 * value + (c.toNat - '0'.toNat) := by
      rw [Utf8.toNat_ofNat (by omega), Nat.mul_comm]
      rfl
    rw [Nat.ofDigitChars_cons] at fits ⊢
    -- What is spelled so far is no more than the whole number.
    have smaller : 10 * value + (c.toNat - '0'.toNat) < 0x10000000000000000 := by
      refine Nat.lt_of_le_of_lt ?_ fits
      rw [Nat.ofDigitChars_eq_ofDigitChars_zero]
      refine Nat.le_trans (Nat.le_mul_of_pos_left _ ?_) (Nat.le_add_right _ _)
      exact Nat.pow_pos (by decide)
    rw [digitBytes, List.map_cons, absorb]
    simp only [next, if_pos smaller]
    exact ih all.2 _ fits

/-- A positive number does not begin with a zero. -/
theorem toDigits_head {n : Nat} (positive : 0 < n) :
    ∃ c rest, Nat.toDigits 10 n = c :: rest ∧ c ≠ '0' := by
  induction n using Nat.strongRecOn with
  | ind n ih =>
    rw [Nat.toDigits_eq_if (by decide)]
    split
    next small =>
      refine ⟨_, [], rfl, ?_⟩
      have all : ∀ n < 10, 0 < n → Nat.digitChar n ≠ '0' := by decide
      exact all n small positive
    next =>
      obtain ⟨c, rest, digits, other⟩ := ih (n / 10) (by omega) (by omega)
      exact ⟨c, rest ++ [Nat.digitChar (n % 10)], by rw [digits]; rfl, other⟩

/-- The literal of a natural number. -/
def Numeral.ofNat (n : Nat) : Numeral := ⟨digitBytes (Nat.toDigits 10 n), none, none⟩

namespace Numeral

variable (n : Nat)

theorem isDigit_toDigits : ∀ c ∈ Nat.toDigits 10 n, c.isDigit := fun _ =>
  Nat.isDigit_of_mem_toDigits (by decide) (by decide)

theorem text_ofNat : (ofNat n).text = Utf8.encode (Nat.toDigits 10 n) := by
  rw [encode_digits (isDigit_toDigits n), text, ofNat, fractionText, exponentText, List.append_nil,
    List.append_nil]

theorem wellFormed_ofNat : (ofNat n).WellFormed where
  whole := by
    constructor
    · simp [ofNat, digitBytes, Nat.toDigits_ne_nil]
    · exact isDigitByte_of_mem (isDigit_toDigits n)
  zero := by
    intro lead
    -- Zero is the only number that may begin with a zero.
    rcases Nat.eq_zero_or_pos n with rfl | positive
    · rfl
    · obtain ⟨c, digits, shape, other⟩ := toDigits_head positive
      have range := Utf8.digit_range (isDigit_toDigits n c (by rw [shape]; exact List.mem_cons_self))
      rw [ofNat, shape] at lead
      have same := congrArg UInt8.toNat (Option.some.inj lead)
      rw [Utf8.toNat_ofNat (by omega)] at same
      exact absurd (Char.toNat_inj.mp same) other
  fraction := nofun
  exponent := nofun

theorem value?_ofNat {n : Nat} (fits : n < 0x10000000000000000) (negative : Bool) :
    (ofNat n).value? negative = some (integerOf negative n) := by
  have spelled : Nat.ofDigitChars 10 (Nat.toDigits 10 n) 0 = n :=
    Nat.ofDigitChars_toDigits (by decide) (by decide)
  have taken := absorb_digits (isDigit_toDigits n) 0 (by rw [spelled]; exact fits)
  rw [spelled] at taken
  simp [value?, ofNat, taken]

end Numeral

end Gatehouse.Json
