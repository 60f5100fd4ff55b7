import Gatehouse.Proofs.Text.Composition
import Gatehouse.Url.Host

/-!
# Hosts and blanks

A host that ends in a control or the space is none: whatever stands before it, the blank comes
through decoding and composition, and no name has one. An address in brackets ends in a bracket.
-/
namespace Gatehouse.Url

variable {blank : Char}

/-! ## Decoding -/

theorem value?_blank {byte : UInt8} (low : byte.toNat ≤ 0x20) : Hex.value? byte = none := by
  simp only [Hex.value?]
  rw [if_neg (by omega), if_neg (by omega), if_neg (by omega)]

/-- A blank is no digit of an escape, so it stays as it is. -/
theorem percentDecode_concat {byte : UInt8} (low : byte.toNat ≤ 0x20) (bytes : List UInt8) :
    percentDecode (bytes ++ [byte]) = percentDecode bytes ++ [byte] := by
  -- Along the decoder: an escape, a percent sign that begins none, any other byte, the end.
  induction bytes using percentDecode.induct with
  | case1 high digit rest h l highIs lowIs ih => simp [percentDecode, highIs, lowIs, ih]
  | case2 high digit rest none_ ih =>
    have plain : ∀ more, percentDecode (0x25 :: high :: digit :: more)
        = 0x25 :: percentDecode (high :: digit :: more) := by
      intro more
      rw [percentDecode]
      split
      next h l highIs lowIs => exact (none_ h l highIs lowIs).elim
      next => rfl
    simp only [List.cons_append] at ih ⊢
    rw [plain, plain, ih, List.cons_append]
  | case3 b rest short ih =>
    -- At most one byte is left behind a percent sign, and the blank is not the second digit.
    have longer : percentDecode (b :: (rest ++ [byte])) = b :: percentDecode (rest ++ [byte]) := by
      match rest, short with
      | [], _ => simp [percentDecode]
      | [high], _ =>
        by_cases percent : b = 0x25
        · simp [percent, percentDecode, value?_blank low]
        · simp [percent, percentDecode]
      | high :: digit :: later, short =>
        rw [List.cons_append, List.cons_append, percentDecode]
        rintro _ _ _ percent -
        exact short high digit later percent rfl
    rw [List.cons_append, longer, ih, percentDecode]
    · rfl
    · exact short
  | case4 => simp [percentDecode]

/-- A text whose bytes end in a blank ends in that blank. -/
theorem ends_of_encode (low : blank.toNat ≤ 0x20) {bytes : List UInt8} {text : List Char}
    (ends : bytes ++ [UInt8.ofNat blank.toNat] = Utf8.encode text) :
    ∃ before, text = before ++ [blank] := by
  have value : (UInt8.ofNat blank.toNat).toNat = blank.toNat := Utf8.toNat_ofNat (by omega)
  rcases List.eq_nil_or_concat text with rfl | ⟨before, last, rfl⟩
  · simp [Utf8.encode] at ends
  · refine ⟨before, ?_⟩
    have split : Utf8.encode (before.concat last)
        = Utf8.encode before ++ String.utf8EncodeChar last := by
      simp [Utf8.encode]
    obtain ⟨early, byte, shape⟩ :
        ∃ early byte, String.utf8EncodeChar last = early ++ [byte] := by
      rcases List.eq_nil_or_concat (String.utf8EncodeChar last) with nothing | ⟨early, byte, shape⟩
      · exact absurd nothing String.utf8EncodeChar_ne_nil
      · exact ⟨early, byte, by rw [shape, List.concat_eq_append]⟩
    rw [split, shape, ← List.append_assoc] at ends
    obtain rfl : UInt8.ofNat blank.toNat = byte :=
      List.singleton_inj.mp (List.append_inj' ends rfl).2
    by_cases ascii : last.toNat < 0x80
    · -- A character of one byte is that byte.
      rw [Utf8.encodeChar_ascii ascii] at shape
      have bytes : UInt8.ofNat last.toNat = UInt8.ofNat blank.toNat := by
        simpa using congrArg List.getLast? shape
      have same := congrArg UInt8.toNat bytes
      rw [value, Utf8.toNat_ofNat (by omega)] at same
      rw [Char.toNat_inj.mp same, List.concat_eq_append]
    · -- Any other has no byte as low as a blank.
      have high := Utf8.high_of_mem_encodeChar (Nat.le_of_not_lt ascii)
        (shape ▸ List.mem_append_right early List.mem_cons_self)
      omega

theorem unescape?_concat (low : blank.toNat ≤ 0x20) {text read : List Char}
    (found : unescape? (text ++ [blank]) = some read) : ∃ before, read = before ++ [blank] := by
  have bytes : Utf8.encode (text ++ [blank]) = Utf8.encode text ++ [UInt8.ofNat blank.toNat] := by
    rw [Utf8.encode_append]
    simp [Utf8.encode, Utf8.encodeChar_ascii (Nat.lt_of_le_of_lt low (by decide))]
  have value : (UInt8.ofNat blank.toNat).toNat = blank.toNat := Utf8.toNat_ofNat (by omega)
  rw [unescape?, bytes, percentDecode_concat (by omega), Utf8.decode?_eq_some_iff] at found
  exact ends_of_encode low found

/-! ## Names -/

theorem plainForm?_blank (low : blank.toNat ≤ 0x20) : plainForm? blank = some [blank] := by
  have small : ¬ ('A' ≤ blank ∧ blank ≤ 'Z') := by
    rintro ⟨above, -⟩
    have high : 65 ≤ blank.toNat := above
    omega
  rw [plainForm?, if_pos (by omega), Text.lowerForm, if_pos (by omega), if_neg small]

/-- The blank is its own plain form and stays at the end, where it is forbidden. -/
theorem plainName?_concat (low : blank.toNat ≤ 0x20) (text : List Char) :
    plainName? (text ++ [blank]) = none := by
  have forbidden : isForbidden blank = true := by simp [isForbidden, low]
  have single : [blank].mapM plainForm? = some [[blank]] := by simp [plainForm?_blank low]
  rw [plainName?, List.mapM_append, single]
  cases text.mapM plainForm? with
  | none => rfl
  | some forms =>
    simp only [Option.bind_eq_bind, Option.bind_some, Option.pure_def, List.flatten_append,
      List.flatten_cons, List.flatten_nil, List.append_nil, Text.composed_concat low]
    split <;> simp [forbidden]

theorem domain?_concat (low : blank.toNat ≤ 0x20) (host : List Char) :
    domain? (host ++ [blank]) = none := by
  rw [domain?]
  cases read : unescape? (host ++ [blank]) with
  | none => rfl
  | some text =>
    obtain ⟨before, rfl⟩ := unescape?_concat low read
    simp [plainName?_concat low]

/-! ## Hosts -/

theorem Host.parse_concat (low : blank.toNat ≤ 0x20) (host : List Char) :
    ∃ fault, Host.parse (host ++ [blank]) = .error fault := by
  have other : blank ≠ ']' := by
    rintro rfl
    exact absurd low (by decide)
  rw [Host.parse]
  split
  · exact ⟨.badVersion6, by simp [ofBrackets, other]⟩
  · exact ⟨.badDomain, by rw [domain?_concat low]⟩

end Gatehouse.Url
