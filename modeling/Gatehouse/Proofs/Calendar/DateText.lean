import Gatehouse.Proofs.Calendar.Civil

/-!
# Printed dates

What a date prints is read back as that date. The signed years of more or fewer than four digits are
read to their end, the others to their fourth digit.
-/
namespace Gatehouse.Date

/-! ## Padded numbers -/

theorem number_eq_ofDigitChars (digits : List Char) :
    number digits = Nat.ofDigitChars 10 digits 0 := by
  simp only [number, Nat.ofDigitChars_eq_foldl, digitValue, Nat.mul_comm]
  rfl

theorem number_padded (width n : Nat) : number (padded width n) = n := by
  simp [number_eq_ofDigitChars, padded, Nat.ofDigitChars_append, Nat.ofDigitChars_replicate_zero]

theorem isDigit_of_mem_padded {width n : Nat} {c : Char} (member : c ∈ padded width n) :
    c.isDigit := by
  simp only [padded, List.mem_append, List.mem_replicate] at member
  rcases member with ⟨_, rfl⟩ | digit
  · rfl
  · exact Nat.isDigit_of_mem_toDigits (by decide) (by decide) digit

theorem padded_ne_nil (width n : Nat) : padded width n ≠ [] := by
  simp [padded, Nat.toDigits_ne_nil]

theorem length_padded {width n : Nat} (short : (Nat.toDigits 10 n).length ≤ width) :
    (padded width n).length = width := by
  simp only [padded, List.length_append, List.length_replicate]
  omega

/-! ## Reading digits -/

/-- Digits are read as a whole when there are as many as wanted, or when no digit follows. -/
theorem takeDigits_append {most : Nat} {digits rest : List Char} (some : digits ≠ [])
    (all : ∀ c ∈ digits, c.isDigit)
    (ends : digits.length = most
      ∨ (digits.length ≤ most ∧ ∃ c tail, rest = c :: tail ∧ !c.isDigit)) :
    takeDigits most (digits ++ rest) = .some (number digits, rest) := by
  have taken : ((digits ++ rest).take most).takeWhile Char.isDigit = digits := by
    rcases ends with same | ⟨fewer, c, tail, rfl, other⟩
    · rw [← same, List.take_left]
      have whole : (digits ++ []).takeWhile Char.isDigit = digits ++ [].takeWhile Char.isDigit :=
        List.takeWhile_append_of_pos all
      simpa using whole
    · rw [List.take_append, List.take_of_length_le fewer, List.takeWhile_append_of_pos all]
      cases most - digits.length with
      | zero => simp
      | succ =>
        rw [List.take_succ_cons, List.takeWhile_cons_of_neg (by simpa using other),
          List.append_nil]
  simp only [takeDigits, taken, List.isEmpty_iff, some, if_false, List.drop_left]

theorem not_isBlank_of_isDigit {c : Char} (digit : c.isDigit) : Text.isBlank c = false := by
  simp only [Char.isDigit, Bool.and_eq_true, decide_eq_true_eq, UInt32.le_iff_toNat_le] at digit
  have low : 48 ≤ c.toNat := digit.1
  have high : c.toNat ≤ 57 := digit.2
  simp only [Text.isBlank, Bool.or_eq_false_iff, Bool.and_eq_false_iff, decide_eq_false_iff_not,
    beq_eq_false_iff_ne]
  omega

theorem isDigit_of_padded_eq_cons {width n : Nat} {c : Char} {rest tail : List Char}
    (shape : padded width n ++ rest = c :: tail) : c.isDigit := by
  rcases List.append_eq_cons_iff.mp shape with ⟨none, _⟩ | ⟨_, same, _⟩
  · exact absurd none (padded_ne_nil width n)
  · exact isDigit_of_mem_padded (same ▸ List.mem_cons_self)

theorem trimStart_padded (width n : Nat) (rest : List Char) :
    Text.trimStart (padded width n ++ rest) = padded width n ++ rest := by
  cases shape : padded width n ++ rest with
  | nil => rfl
  | cons c tail =>
    simp [Text.trimStart, not_isBlank_of_isDigit (isDigit_of_padded_eq_cons shape)]

theorem takeTwo_padded {n : Nat} (fits : n < 100) (rest : List Char) :
    takeTwo (padded 2 n ++ rest) = some (n, rest) := by
  have short : (Nat.toDigits 10 n).length ≤ 2 :=
    (Nat.length_toDigits_le_iff (by decide) (by decide)).mpr fits
  rw [takeTwo, trimStart_padded, takeDigits_append (padded_ne_nil 2 n)
    (fun _ => isDigit_of_mem_padded) (.inl (length_padded short)), number_padded]

theorem takeYear_printYear (year : Int) (rest : List Char) :
    takeYear (printYear year ++ '-' :: rest) = some (year, '-' :: rest) := by
  simp only [printYear]
  split
  next plain =>
    have short : (Nat.toDigits 10 year.toNat).length ≤ 4 :=
      (Nat.length_toDigits_le_iff (by decide) (by decide)).mpr (by omega)
    have read : takeDigits 4 (padded 4 year.toNat ++ '-' :: rest) = some (_, '-' :: rest) :=
      takeDigits_append (padded_ne_nil 4 year.toNat) (fun _ => isDigit_of_mem_padded)
        (.inl (length_padded short))
    rw [takeYear, trimStart_padded]
    -- The first character is a digit and thus no sign.
    split
    next shape => exact absurd (isDigit_of_padded_eq_cons shape) (by decide)
    next shape => exact absurd (isDigit_of_padded_eq_cons shape) (by decide)
    · rw [read, number_padded, Option.map_some]
      simp only [Int.toNat_of_nonneg plain.1]
  next signed =>
    have read : takeDigits (padded 4 year.natAbs ++ '-' :: rest).length
        (padded 4 year.natAbs ++ '-' :: rest) = some (_, '-' :: rest) :=
      takeDigits_append (padded_ne_nil 4 year.natAbs) (fun _ => isDigit_of_mem_padded)
        (.inr ⟨by simp, '-', rest, rfl, rfl⟩)
    by_cases negative : year < 0
    · simp only [negative, if_true, takeYear, List.cons_append, Text.trimStart]
      rw [List.dropWhile_cons_of_neg (by decide)]
      simp only [read, number_padded, Option.map_some]
      congr 2
      omega
    · simp only [negative, if_false, takeYear, List.cons_append, Text.trimStart]
      rw [List.dropWhile_cons_of_neg (by decide)]
      simp only [read, number_padded, Option.map_some]
      congr 2
      omega

/-! ## Dates -/

/-- A printed date is read back. -/
theorem parse?_print (date : Date) (representable : date.IsRepresentable) :
    parse? date.print = some date := by
  obtain ⟨_, month, _, day⟩ := civil_exists date
  have days := daysInMonth_le date.civil.year date.civil.month
  have readMonth : ∀ rest, takeTwo (padded 2 date.civil.month ++ rest) = some (_, rest) :=
    takeTwo_padded (by omega)
  have readDay : takeTwo (padded 2 date.civil.day ++ []) = some (_, []) :=
    takeTwo_padded (by omega) []
  rw [List.append_nil] at readDay
  simp only [parse?, print, List.append_assoc, List.cons_append, takeYear_printYear, takeDash,
    Option.bind_eq_bind, Option.bind_some, readMonth, readDay, List.isEmpty_nil, if_true]
  exact ofCivil?_civil date representable

theorem print_ne_nil (date : Date) : date.print ≠ [] := by
  simp [print]

theorem of_mem_print {date : Date} {c : Char} (member : c ∈ date.print) :
    c.isDigit ∨ c = '-' ∨ c = '+' := by
  simp only [print, printYear, List.mem_append, List.mem_cons] at member
  rcases member with (year | rfl | month) | rfl | day
  · split at year
    · exact .inl (isDigit_of_mem_padded year)
    · rcases List.mem_cons.mp year with sign | digit
      · split at sign
        · exact .inr (.inl sign)
        · exact .inr (.inr sign)
      · exact .inl (isDigit_of_mem_padded digit)
  · exact .inr (.inl rfl)
  · exact .inl (isDigit_of_mem_padded month)
  · exact .inr (.inl rfl)
  · exact .inl (isDigit_of_mem_padded day)

theorem print_no_point (date : Date) : '.' ∉ date.print := fun point =>
  absurd (of_mem_print point) (by decide)

theorem print_no_slash (date : Date) : '/' ∉ date.print := fun slash =>
  absurd (of_mem_print slash) (by decide)

/-- Nothing that starts with a small letter is read as a date. -/
theorem parse?_of_letter {c : Char} (low : 97 ≤ c.toNat) (high : c.toNat ≤ 122)
    (rest : List Char) : parse? (c :: rest) = none := by
  have visible : Text.isBlank c = false := by
    simp only [Text.isBlank, Bool.or_eq_false_iff, Bool.and_eq_false_iff, decide_eq_false_iff_not,
      beq_eq_false_iff_ne]
    omega
  have undigit : c.isDigit = false := by
    refine Bool.eq_false_iff.mpr fun digit => ?_
    simp only [Char.isDigit, Bool.and_eq_true, decide_eq_true_eq, UInt32.le_iff_toNat_le] at digit
    have most : c.toNat ≤ 57 := digit.2
    omega
  have front : Text.trimStart (c :: rest) = c :: rest := by
    rw [Text.trimStart, List.dropWhile_cons_of_neg (by simp [visible])]
  have year : takeYear (c :: rest) = none := by
    rw [takeYear, front]
    split
    next same => cases same; exact absurd low (by decide)
    next same => cases same; exact absurd low (by decide)
    · simp [takeDigits, undigit]
  rw [parse?, year]
  rfl

end Gatehouse.Date
