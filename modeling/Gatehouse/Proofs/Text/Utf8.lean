import Gatehouse.Text.Utf8
import Mathlib.Data.UInt

/-!
# UTF-8 there and back

A character is written as one to four bytes, of which the machine that reads bytes makes that
character again. So the bytes of a text are read as that text, and bytes below 0x80 stand for
themselves alone.
-/
namespace Gatehouse.Utf8

theorem toNat_ofNat {n : Nat} (small : n < 256) : (UInt8.ofNat n).toNat = n := by
  rw [UInt8.toNat_ofNat']
  exact Nat.mod_eq_of_lt small

/-! ## Single steps of the machine -/

/-- A first byte of several opens a sequence. -/
theorem scan_open {byte : UInt8} {state : Expectation} (opens : start byte = (none, state, false))
    (rest : List UInt8) : scan .first (byte :: rest) = scan state rest := by
  rw [scan, opens]

/-- A continuation byte that is not the last. -/
theorem scan_more {value tail more : Nat} {low high : UInt8} (small : tail < 64)
    (above : low.toNat ≤ tail + 128) (below : tail + 128 ≤ high.toNat) (rest : List UInt8) :
    scan (.next value low high (more + 1)) (UInt8.ofNat (tail + 128) :: rest)
      = scan (.next (value * 64 + tail) 0x80 0xBF more) rest := by
  have byte : (UInt8.ofNat (tail + 128)).toNat = tail + 128 := toNat_ofNat (by omega)
  rw [scan, if_pos (by rw [UInt8.le_iff_toNat_le, UInt8.le_iff_toNat_le, byte]; omega), byte,
    Nat.add_sub_cancel]

/-- The continuation byte that ends a sequence. -/
theorem scan_last {value tail : Nat} {low high : UInt8} (small : tail < 64)
    (above : low.toNat ≤ tail + 128) (below : tail + 128 ≤ high.toNat) (rest : List UInt8) :
    scan (.next value low high 0) (UInt8.ofNat (tail + 128) :: rest)
      = some (Char.ofNat (value * 64 + tail)) :: scan .first rest := by
  have byte : (UInt8.ofNat (tail + 128)).toNat = tail + 128 := toNat_ofNat (by omega)
  rw [scan, if_pos (by rw [UInt8.le_iff_toNat_le, UInt8.le_iff_toNat_le, byte]; omega), byte,
    Nat.add_sub_cancel]

/-! ## Characters -/

theorem scan_ascii {n : Nat} (ascii : n < 128) (rest : List UInt8) :
    scan .first (UInt8.ofNat n :: rest) = some (Char.ofNat n) :: scan .first rest := by
  have byte : (UInt8.ofNat n).toNat = n := toNat_ofNat (by omega)
  have begins : start (UInt8.ofNat n) = (some (Char.ofNat n), .first, true) := by
    simp only [start, byte, if_pos ascii]
  rw [scan, begins]

theorem scan_two {n : Nat} (low : 0x80 ≤ n) (high : n < 0x800) (rest : List UInt8) :
    scan .first (UInt8.ofNat (n / 64 % 32 + 192) :: UInt8.ofNat (n % 64 + 128) :: rest)
      = some (Char.ofNat n) :: scan .first rest := by
  have byte : (UInt8.ofNat (n / 64 % 32 + 192)).toNat = n / 64 % 32 + 192 :=
    toNat_ofNat (by omega)
  have opens : start (UInt8.ofNat (n / 64 % 32 + 192))
      = (none, .next (n / 64 % 32) 0x80 0xBF 0, false) := by
    simp only [start, byte]
    rw [if_neg (by omega), if_pos (by omega), Nat.add_sub_cancel]
  have whole : n / 64 % 32 * 64 + n % 64 = n := by omega
  rw [scan_open opens, scan_last (by omega) (by simp) (by simp; omega), whole]

theorem scan_three {n : Nat} (low : 0x800 ≤ n) (high : n < 0x10000)
    (valid : n < 0xD800 ∨ 0xDFFF < n) (rest : List UInt8) :
    scan .first (UInt8.ofNat (n / 4096 % 16 + 224) :: UInt8.ofNat (n / 64 % 64 + 128)
        :: UInt8.ofNat (n % 64 + 128) :: rest)
      = some (Char.ofNat n) :: scan .first rest := by
  have byte : (UInt8.ofNat (n / 4096 % 16 + 224)).toNat = n / 4096 % 16 + 224 :=
    toNat_ofNat (by omega)
  -- The second byte is bounded further after the first bytes E0, where fewer bytes would do, and
  -- ED, where surrogates lie.
  have opens : ∃ least most : UInt8, start (UInt8.ofNat (n / 4096 % 16 + 224))
        = (none, .next (n / 4096 % 16) least most 1, false)
      ∧ least.toNat ≤ n / 64 % 64 + 128 ∧ n / 64 % 64 + 128 ≤ most.toNat := by
    simp only [start, byte]
    rw [if_neg (by omega), if_neg (by omega)]
    by_cases first : n / 4096 % 16 + 224 = 0xE0
    · have lead : n / 4096 % 16 = 0 := by omega
      rw [if_pos first, lead]
      exact ⟨0xA0, 0xBF, rfl, by simp; omega, by simp; omega⟩
    · rw [if_neg first]
      by_cases surrogates : n / 4096 % 16 + 224 = 0xED
      · have lead : n / 4096 % 16 = 0xD := by omega
        rw [if_pos surrogates, lead]
        exact ⟨0x80, 0x9F, rfl, by simp, by simp; omega⟩
      · rw [if_neg surrogates, if_pos (by omega), Nat.add_sub_cancel]
        exact ⟨0x80, 0xBF, rfl, by simp, by simp; omega⟩
  obtain ⟨least, most, opens, above, below⟩ := opens
  have whole : (n / 4096 % 16 * 64 + n / 64 % 64) * 64 + n % 64 = n := by omega
  rw [scan_open opens, scan_more (by omega) above below,
    scan_last (by omega) (by simp) (by simp; omega), whole]

theorem scan_four {n : Nat} (low : 0x10000 ≤ n) (high : n < 0x110000) (rest : List UInt8) :
    scan .first (UInt8.ofNat (n / 262144 % 8 + 240) :: UInt8.ofNat (n / 4096 % 64 + 128)
        :: UInt8.ofNat (n / 64 % 64 + 128) :: UInt8.ofNat (n % 64 + 128) :: rest)
      = some (Char.ofNat n) :: scan .first rest := by
  have byte : (UInt8.ofNat (n / 262144 % 8 + 240)).toNat = n / 262144 % 8 + 240 :=
    toNat_ofNat (by omega)
  -- After F0 fewer bytes would do, and after F4 the characters end.
  have opens : ∃ least most : UInt8, start (UInt8.ofNat (n / 262144 % 8 + 240))
        = (none, .next (n / 262144 % 8) least most 2, false)
      ∧ least.toNat ≤ n / 4096 % 64 + 128 ∧ n / 4096 % 64 + 128 ≤ most.toNat := by
    simp only [start, byte]
    rw [if_neg (by omega), if_neg (by omega), if_neg (by omega), if_neg (by omega),
      if_neg (by omega)]
    by_cases first : n / 262144 % 8 + 240 = 0xF0
    · have lead : n / 262144 % 8 = 0 := by omega
      rw [if_pos first, lead]
      exact ⟨0x90, 0xBF, rfl, by simp; omega, by simp; omega⟩
    · rw [if_neg first]
      by_cases last : n / 262144 % 8 + 240 = 0xF4
      · have lead : n / 262144 % 8 = 4 := by omega
        rw [if_neg (by omega), if_pos last, lead]
        exact ⟨0x80, 0x8F, rfl, by simp, by simp; omega⟩
      · rw [if_pos (by omega), Nat.add_sub_cancel]
        exact ⟨0x80, 0xBF, rfl, by simp, by simp; omega⟩
  obtain ⟨least, most, opens, above, below⟩ := opens
  have whole : ((n / 262144 % 8 * 64 + n / 4096 % 64) * 64 + n / 64 % 64) * 64 + n % 64 = n := by
    omega
  rw [scan_open opens, scan_more (by omega) above below,
    scan_more (by omega) (by simp) (by simp; omega),
    scan_last (by omega) (by simp) (by simp; omega), whole]

/-- The bytes of a character are read as that character. -/
theorem scan_encodeChar (c : Char) (rest : List UInt8) :
    scan .first (String.utf8EncodeChar c ++ rest) = some c :: scan .first rest := by
  have valid : c.toNat < 0xD800 ∨ 0xDFFF < c.toNat ∧ c.toNat < 0x110000 := c.valid
  have same : some c = some (Char.ofNat c.toNat) := congrArg some (Char.ofNat_toNat c).symm
  have value : c.val.toNat = c.toNat := rfl
  rw [same]
  simp only [String.utf8EncodeChar, value]
  split
  · exact scan_ascii (by omega) rest
  · split
    · exact scan_two (by omega) (by omega) rest
    · split
      · exact scan_three (by omega) (by omega) (by omega) rest
      · exact scan_four (by omega) (by omega) rest

/-! ## Texts -/

@[simp] theorem encode_nil : encode [] = [] := rfl

@[simp] theorem encode_cons (c : Char) (text : List Char) :
    encode (c :: text) = String.utf8EncodeChar c ++ encode text := rfl

@[simp] theorem encode_append (text more : List Char) :
    encode (text ++ more) = encode text ++ encode more := List.flatMap_append

theorem scan_encode (text : List Char) (rest : List UInt8) :
    scan .first (encode text ++ rest) = text.map some ++ scan .first rest := by
  induction text with
  | nil => rfl
  | cons c text ih => rw [encode_cons, List.append_assoc, scan_encodeChar, ih]; rfl

theorem mapM_id_eq_some_iff {found : List (Option Char)} {text : List Char} :
    found.mapM id = some text ↔ found = text.map some := by
  induction found generalizing text with
  | nil => cases text <;> simp
  | cons first rest ih =>
    rw [List.mapM_cons]
    cases first with
    | none => cases text <;> simp
    | some c =>
      cases text with
      | nil => cases rest.mapM id <;> simp
      | cons d text =>
        rw [List.map_cons, List.cons.injEq, ← ih]
        cases rest.mapM id <;> simp

/-- The bytes of a text are read as that text. -/
theorem decode?_encode (text : List Char) : decode? (encode text) = some text := by
  have read := scan_encode text []
  rw [List.append_nil, scan, List.append_nil] at read
  rw [decode?, read, mapM_id_eq_some_iff]

/-! ## Bytes below 0x80 -/

theorem encodeChar_ascii {c : Char} (ascii : c.toNat < 0x80) :
    String.utf8EncodeChar c = [UInt8.ofNat c.toNat] := by
  have single : c.val.toNat ≤ 127 := Nat.le_of_lt_succ ascii
  simp only [String.utf8EncodeChar, if_pos single]
  rfl

theorem encode_ascii {text : List Char} (ascii : ∀ c ∈ text, c.toNat < 0x80) :
    encode text = text.map fun c => UInt8.ofNat c.toNat := by
  induction text with
  | nil => rfl
  | cons c rest ih =>
    obtain ⟨first, later⟩ := List.forall_mem_cons.mp ascii
    rw [encode_cons, encodeChar_ascii first, ih later]
    rfl

theorem digit_range {c : Char} (digit : c.isDigit) : 48 ≤ c.toNat ∧ c.toNat ≤ 57 := by
  simp only [Char.isDigit, Bool.and_eq_true, decide_eq_true_eq, UInt32.le_iff_toNat_le] at digit
  exact digit

/-- The bytes of other characters are all at least 0x80. -/
theorem high_of_mem_encodeChar {c : Char} (high : 0x80 ≤ c.toNat) {byte : UInt8}
    (member : byte ∈ String.utf8EncodeChar c) : 0x80 ≤ byte.toNat := by
  have several : ¬ c.val.toNat ≤ 127 := Nat.not_le.mpr high
  simp only [String.utf8EncodeChar, if_neg several] at member
  split at member
  · simp only [List.mem_cons, List.not_mem_nil, or_false] at member
    rcases member with rfl | rfl <;> rw [toNat_ofNat (by omega)] <;> omega
  · split at member
    · simp only [List.mem_cons, List.not_mem_nil, or_false] at member
      rcases member with rfl | rfl | rfl <;> rw [toNat_ofNat (by omega)] <;> omega
    · simp only [List.mem_cons, List.not_mem_nil, or_false] at member
      rcases member with rfl | rfl | rfl | rfl <;> rw [toNat_ofNat (by omega)] <;> omega

/-- A byte below 0x80 comes from its own character only. -/
theorem mem_of_mem_encode {c : Char} (ascii : c.toNat < 0x80) {text : List Char}
    (member : UInt8.ofNat c.toNat ∈ encode text) : c ∈ text := by
  obtain ⟨other, inside, here⟩ := List.mem_flatMap.mp member
  have low : (UInt8.ofNat c.toNat).toNat = c.toNat := toNat_ofNat (by omega)
  by_cases small : other.toNat < 0x80
  · rw [encodeChar_ascii small, List.mem_singleton] at here
    have same := congrArg UInt8.toNat here
    rw [low, toNat_ofNat (by omega)] at same
    exact Char.toNat_inj.mp same ▸ inside
  · have high := high_of_mem_encodeChar (by omega) here
    omega

/-! ## What is read is what is written -/

/-- An open sequence goes on with a byte of the range that is left, or a gap shows. -/
theorem scan_next_range {value more : Nat} {low high : UInt8} {bytes : List UInt8}
    (clean : none ∉ scan (.next value low high more) bytes) :
    ∃ byte rest, bytes = byte :: rest ∧ low ≤ byte ∧ byte ≤ high := by
  cases bytes with
  | nil => simp [scan] at clean
  | cons byte rest =>
    refine ⟨byte, rest, rfl, ?_⟩
    by_contra outside
    cases more <;> rw [scan, if_neg outside] at clean <;> split at clean <;> simp at clean

theorem scan_next_last {value : Nat} {low high : UInt8} {bytes : List UInt8} {text : List Char}
    (read : scan (.next value low high 0) bytes = text.map some) :
    ∃ byte rest later, bytes = byte :: rest ∧ low.toNat ≤ byte.toNat ∧ byte.toNat ≤ high.toNat
      ∧ text = Char.ofNat (value * 64 + (byte.toNat - 0x80)) :: later
      ∧ scan .first rest = later.map some := by
  obtain ⟨byte, rest, rfl, within⟩ := scan_next_range (by rw [read]; simp)
  rw [scan, if_pos within] at read
  rw [UInt8.le_iff_toNat_le, UInt8.le_iff_toNat_le] at within
  cases text with
  | nil => cases read
  | cons c later =>
    obtain ⟨same, read⟩ := List.cons.inj read
    exact ⟨byte, rest, later, rfl, within.1, within.2, by rw [Option.some.inj same], read⟩

theorem scan_next_more {value more : Nat} {low high : UInt8} {bytes : List UInt8}
    {text : List Char} (read : scan (.next value low high (more + 1)) bytes = text.map some) :
    ∃ byte rest, bytes = byte :: rest ∧ low.toNat ≤ byte.toNat ∧ byte.toNat ≤ high.toNat
      ∧ scan (.next (value * 64 + (byte.toNat - 0x80)) 0x80 0xBF more) rest = text.map some := by
  obtain ⟨byte, rest, rfl, within⟩ := scan_next_range (by rw [read]; simp)
  rw [scan, if_pos within] at read
  rw [UInt8.le_iff_toNat_le, UInt8.le_iff_toNat_le] at within
  exact ⟨byte, rest, rfl, within.1, within.2, read⟩

theorem toNat_charOfNat {n : Nat} (valid : n.isValidChar) : (Char.ofNat n).toNat = n := by
  rw [Char.ofNat, dif_pos valid]
  rfl

theorem ofNat_eq {n : Nat} {byte : UInt8} (same : n = byte.toNat) : UInt8.ofNat n = byte := by
  rw [same, UInt8.ofNat_toNat]

/-! The bytes of a character that was put together from them. -/

theorem encodeChar_two {first second : UInt8} (above : 0xC2 ≤ first.toNat)
    (below : first.toNat ≤ 0xDF) (from2 : 0x80 ≤ second.toNat) (to2 : second.toNat ≤ 0xBF) :
    String.utf8EncodeChar (Char.ofNat ((first.toNat - 0xC0) * 64 + (second.toNat - 0x80)))
      = [first, second] := by
  generalize whole : (first.toNat - 0xC0) * 64 + (second.toNat - 0x80) = n
  have value : (Char.ofNat n).val.toNat = n := toNat_charOfNat (.inl (by omega))
  simp only [String.utf8EncodeChar, value]
  rw [if_neg (by omega), if_pos (by omega)]
  simp only [List.cons.injEq, and_true]
  exact ⟨ofNat_eq (by omega), ofNat_eq (by omega)⟩

theorem encodeChar_three {first second third : UInt8} (above : 0xE0 ≤ first.toNat)
    (below : first.toNat ≤ 0xEF) (from2 : 0x80 ≤ second.toNat) (to2 : second.toNat ≤ 0xBF)
    (least : first.toNat = 0xE0 → 0xA0 ≤ second.toNat)
    (most : first.toNat = 0xED → second.toNat ≤ 0x9F)
    (from3 : 0x80 ≤ third.toNat) (to3 : third.toNat ≤ 0xBF) :
    String.utf8EncodeChar (Char.ofNat
        (((first.toNat - 0xE0) * 64 + (second.toNat - 0x80)) * 64 + (third.toNat - 0x80)))
      = [first, second, third] := by
  generalize whole :
    ((first.toNat - 0xE0) * 64 + (second.toNat - 0x80)) * 64 + (third.toNat - 0x80) = n
  have valid : n.isValidChar := by
    rw [Nat.isValidChar]
    omega
  have value : (Char.ofNat n).val.toNat = n := toNat_charOfNat valid
  simp only [String.utf8EncodeChar, value]
  rw [if_neg (by omega), if_neg (by omega), if_pos (by omega)]
  simp only [List.cons.injEq, and_true]
  exact ⟨ofNat_eq (by omega), ofNat_eq (by omega), ofNat_eq (by omega)⟩

theorem encodeChar_four {first second third fourth : UInt8} (above : 0xF0 ≤ first.toNat)
    (below : first.toNat ≤ 0xF4) (from2 : 0x80 ≤ second.toNat) (to2 : second.toNat ≤ 0xBF)
    (least : first.toNat = 0xF0 → 0x90 ≤ second.toNat)
    (most : first.toNat = 0xF4 → second.toNat ≤ 0x8F)
    (from3 : 0x80 ≤ third.toNat) (to3 : third.toNat ≤ 0xBF)
    (from4 : 0x80 ≤ fourth.toNat) (to4 : fourth.toNat ≤ 0xBF) :
    String.utf8EncodeChar (Char.ofNat ((((first.toNat - 0xF0) * 64 + (second.toNat - 0x80)) * 64
        + (third.toNat - 0x80)) * 64 + (fourth.toNat - 0x80)))
      = [first, second, third, fourth] := by
  generalize whole : (((first.toNat - 0xF0) * 64 + (second.toNat - 0x80)) * 64
    + (third.toNat - 0x80)) * 64 + (fourth.toNat - 0x80) = n
  have value : (Char.ofNat n).val.toNat = n := toNat_charOfNat (.inr ⟨by omega, by omega⟩)
  simp only [String.utf8EncodeChar, value]
  rw [if_neg (by omega), if_neg (by omega), if_neg (by omega)]
  simp only [List.cons.injEq, and_true]
  exact ⟨ofNat_eq (by omega), ofNat_eq (by omega), ofNat_eq (by omega), ofNat_eq (by omega)⟩

/-- What a first byte is: a character by itself, the start of two to four bytes, or nothing. -/
theorem start_cases (byte : UInt8) :
    (byte.toNat < 0x80 ∧ start byte = (some (Char.ofNat byte.toNat), .first, true))
      ∨ start byte = (none, .first, true)
      ∨ (0xC2 ≤ byte.toNat ∧ byte.toNat ≤ 0xDF
          ∧ start byte = (none, .next (byte.toNat - 0xC0) 0x80 0xBF 0, false))
      ∨ (∃ low high : UInt8, 0xE0 ≤ byte.toNat ∧ byte.toNat ≤ 0xEF
          ∧ 0x80 ≤ low.toNat ∧ high.toNat ≤ 0xBF
          ∧ (byte.toNat = 0xE0 → 0xA0 ≤ low.toNat) ∧ (byte.toNat = 0xED → high.toNat ≤ 0x9F)
          ∧ start byte = (none, .next (byte.toNat - 0xE0) low high 1, false))
      ∨ (∃ low high : UInt8, 0xF0 ≤ byte.toNat ∧ byte.toNat ≤ 0xF4
          ∧ 0x80 ≤ low.toNat ∧ high.toNat ≤ 0xBF
          ∧ (byte.toNat = 0xF0 → 0x90 ≤ low.toNat) ∧ (byte.toNat = 0xF4 → high.toNat ≤ 0x8F)
          ∧ start byte = (none, .next (byte.toNat - 0xF0) low high 2, false)) := by
  simp only [start]
  split_ifs with ascii two e0 ed three f0 four f4
  · exact .inl ⟨ascii, rfl⟩
  · exact .inr (.inr (.inl ⟨two.1, two.2, rfl⟩))
  · refine .inr (.inr (.inr (.inl ⟨0xA0, 0xBF, ?_⟩)))
    simp [e0]
  · refine .inr (.inr (.inr (.inl ⟨0x80, 0x9F, ?_⟩)))
    simp [ed]
  · refine .inr (.inr (.inr (.inl ⟨0x80, 0xBF, ?_⟩)))
    simp
    omega
  · refine .inr (.inr (.inr (.inr ⟨0x90, 0xBF, ?_⟩)))
    simp [f0]
  · refine .inr (.inr (.inr (.inr ⟨0x80, 0xBF, ?_⟩)))
    simp
    omega
  · refine .inr (.inr (.inr (.inr ⟨0x80, 0x8F, ?_⟩)))
    simp [f4]
  · exact .inr (.inl rfl)

/-- Bytes that are read without a gap start with those of the first character that is read. -/
theorem exists_of_scan_cons {byte : UInt8} {rest : List UInt8} {text : List Char}
    (read : scan .first (byte :: rest) = text.map some) :
    ∃ c later tail, text = c :: later ∧ byte :: rest = String.utf8EncodeChar c ++ tail
      ∧ scan .first tail = later.map some := by
  have floor : (0x80 : UInt8).toNat = 0x80 := rfl
  have ceiling : (0xBF : UInt8).toNat = 0xBF := rfl
  rcases start_cases byte with ⟨ascii, begins⟩ | begins | ⟨above, below, begins⟩
    | ⟨low, high, above, below, least, most, first, last, begins⟩
    | ⟨low, high, above, below, least, most, first, last, begins⟩
  · rw [scan, begins] at read
    cases text with
    | nil => cases read
    | cons c later =>
      obtain ⟨same, more⟩ := List.cons.inj read
      obtain rfl := Option.some.inj same
      have value : (Char.ofNat byte.toNat).toNat = byte.toNat := toNat_charOfNat (.inl (by omega))
      refine ⟨_, later, rest, rfl, ?_, more⟩
      rw [encodeChar_ascii (by omega), value, UInt8.ofNat_toNat]
      rfl
  · rw [scan, begins] at read
    cases text <;> cases read
  · rw [scan_open begins] at read
    obtain ⟨second, tail, later, rfl, from2, to2, rfl, more⟩ := scan_next_last read
    refine ⟨_, later, tail, rfl, ?_, more⟩
    rw [encodeChar_two (by omega) (by omega) (by omega) (by omega)]
    rfl
  · rw [scan_open begins] at read
    obtain ⟨second, _, rfl, from2, to2, next⟩ := scan_next_more read
    obtain ⟨third, tail, later, rfl, from3, to3, rfl, more⟩ := scan_next_last next
    refine ⟨_, later, tail, rfl, ?_, more⟩
    rw [encodeChar_three (by omega) (by omega) (by omega) (by omega) (by omega) (by omega)
      (by omega) (by omega)]
    rfl
  · rw [scan_open begins] at read
    obtain ⟨second, _, rfl, from2, to2, next⟩ := scan_next_more read
    obtain ⟨third, _, rfl, from3, to3, further⟩ := scan_next_more next
    obtain ⟨fourth, tail, later, rfl, from4, to4, rfl, more⟩ := scan_next_last further
    refine ⟨_, later, tail, rfl, ?_, more⟩
    rw [encodeChar_four (by omega) (by omega) (by omega) (by omega) (by omega) (by omega)
      (by omega) (by omega) (by omega) (by omega)]
    rfl

/-- Bytes that are read without a gap are those of the text that they are read as. -/
theorem encode_of_scan {bytes : List UInt8} {text : List Char}
    (read : scan .first bytes = text.map some) : encode text = bytes := by
  -- On the bytes that are left; each character takes some.
  induction text generalizing bytes with
  | nil =>
    cases bytes with
    | nil => rfl
    | cons byte rest =>
      obtain ⟨_, _, _, empty, _⟩ := exists_of_scan_cons read
      cases empty
  | cons c text ih =>
    cases bytes with
    | nil => cases read
    | cons byte rest =>
      obtain ⟨_, _, _, same, shape, later⟩ := exists_of_scan_cons read
      cases same
      rw [shape, encode_cons, ih later]

/-- Bytes are read as a text just if they are its bytes. -/
theorem decode?_eq_some_iff {bytes : List UInt8} {text : List Char} :
    decode? bytes = some text ↔ bytes = encode text := by
  constructor
  · intro read
    rw [decode?, mapM_id_eq_some_iff] at read
    exact (encode_of_scan read).symm
  · rintro rfl
    exact decode?_encode text

end Gatehouse.Utf8
