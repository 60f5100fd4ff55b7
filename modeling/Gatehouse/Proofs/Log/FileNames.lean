import Gatehouse.Log.RollingFile
import Gatehouse.Proofs.Calendar.DateText

/-!
# Names of rolling files

A file name holds its date and its index, whatever the stem looks like: both can be read back, and
no two files of a stem share a name.
-/
namespace Gatehouse.RollingFile

/-- What a name has behind its date. -/
def indexTail (index : Nat) : List Char :=
  if index = 0 then [] else '.' :: Nat.toDigits 10 index

theorem fileNameChars_eq (stem : List Char) (date : Date) (index : Nat) :
    fileNameChars stem date index
      = stem ++ ('-' :: (date.print ++ (indexTail index ++ dotLog))) := by
  simp [fileNameChars, indexTail]

/-! ## The date of a name -/

theorem dropStart?_append (start rest : List Char) :
    dropStart? start (start ++ rest) = some rest := by
  simp [dropStart?]

theorem dropEnding?_append (ending rest : List Char) :
    dropEnding? ending (rest ++ ending) = some rest := by
  simp [dropEnding?]

theorem takeWhile_date (date : Date) (index : Nat) :
    (date.print ++ indexTail index).takeWhile (· != '.') = date.print := by
  have before : ∀ c ∈ date.print, (c != '.') = true := fun c member =>
    bne_iff_ne.mpr fun same => Date.print_no_point date (same ▸ member)
  rw [List.takeWhile_append_of_pos before]
  simp only [indexTail]
  split <;> simp

/-- The date of a file can be told from its name. -/
theorem fileDate?_fileNameChars (stem : List Char) (date : Date) (index : Nat)
    (representable : date.IsRepresentable) :
    fileDate? stem (fileNameChars stem date index) = some date := by
  have dash := dropStart?_append ['-'] (date.print ++ (indexTail index ++ dotLog))
  rw [List.singleton_append] at dash
  simp only [fileDate?, fileNameChars_eq, dropStart?_append, Option.bind_eq_bind, Option.bind_some,
    dash]
  rw [← List.append_assoc, dropEnding?_append, Option.bind_some, takeWhile_date]
  exact Date.parse?_print date representable

theorem isRepresentable_of_parse? {text : List Char} {date : Date}
    (read : Date.parse? text = some date) : date.IsRepresentable := by
  simp only [Date.parse?, Option.bind_eq_bind, Option.bind_eq_some_iff] at read
  obtain ⟨_, _, _, _, _, _, _, _, _, _, last⟩ := read
  split at last
  · simp only [Date.ofCivil?] at last
    split at last
    · split at last
      next inside => exact Option.some.inj last ▸ inside
      · cases last
    · cases last
  · cases last

theorem isRepresentable_of_fileDate? {stem name : List Char} {date : Date}
    (dated : fileDate? stem name = some date) : date.IsRepresentable := by
  simp only [fileDate?, Option.bind_eq_bind, Option.bind_eq_some_iff] at dated
  obtain ⟨_, _, _, _, _, _, read⟩ := dated
  exact isRepresentable_of_parse? read

/-- Retention looks at nothing but the date of a file of its own. -/
theorem isExpired_fileName (policy : Policy) (today date : Date) (index : Nat)
    (representable : date.IsRepresentable) :
    isExpired policy today (fileName policy date index)
      = (today.minusDays policy.maxAgeDays).any fun cutoff => decide (date < cutoff) := by
  simp only [isExpired, fileName, String.toList_ofList,
    fileDate?_fileNameChars _ date index representable]
  cases today.minusDays policy.maxAgeDays <;> rfl

/-! ## The index of a name -/

/-- The number that stands behind the date of a name, and zero without one. -/
def indexIn (stem : List Char) (date : Date) (name : List Char) : Nat :=
  Date.number ((name.drop (stem.length + 1 + date.print.length + 1)).takeWhile Char.isDigit)

theorem indexIn_fileNameChars (stem : List Char) (date : Date) (index : Nat) :
    indexIn stem date (fileNameChars stem date index) = index := by
  -- The date is printed alike wherever it stands, so its length tells where the index begins.
  let front := stem ++ '-' :: date.print
  have whole : fileNameChars stem date index = front ++ (indexTail index ++ dotLog) := by
    simp [fileNameChars_eq, front]
  have length : stem.length + 1 + date.print.length = front.length := by
    simp only [front, List.length_append, List.length_cons]
    omega
  have behind : (fileNameChars stem date index).drop (stem.length + 1 + date.print.length + 1)
      = (indexTail index ++ dotLog).drop 1 := by
    rw [whole, length, ← List.drop_drop, List.drop_left]
  rw [indexIn, behind]
  by_cases zero : index = 0
  · simp only [indexTail, zero]
    decide
  · have digits : ∀ c ∈ Nat.toDigits 10 index, c.isDigit = true := fun c member =>
      Nat.isDigit_of_mem_toDigits (by decide) (by decide) member
    have ends : dotLog.takeWhile Char.isDigit = [] := by decide
    simp only [indexTail, if_neg zero, List.cons_append, List.drop_succ_cons, List.drop_zero,
      List.takeWhile_append_of_pos digits, ends, List.append_nil, Date.number_eq_ofDigitChars,
      Nat.ofDigitChars_ten_toDigits]

/-- The date and the index of a file name, if it is one of the policy's. -/
def fileKey? (policy : Policy) (name : String) : Option (Date × Nat) :=
  match fileDate? policy.stem.toList name.toList with
  | none => none
  | some date =>
    let index := indexIn policy.stem.toList date name.toList
    if fileName policy date index = name then some (date, index) else none

theorem fileKey?_eq_some_iff (policy : Policy) (name : String) (date : Date) (index : Nat) :
    fileKey? policy name = some (date, index)
      ↔ date.IsRepresentable ∧ fileName policy date index = name := by
  constructor
  · intro read
    simp only [fileKey?] at read
    split at read
    · cases read
    next found dated =>
      split at read
      next same =>
        obtain ⟨rfl, rfl⟩ := Prod.mk.inj (Option.some.inj read)
        exact ⟨isRepresentable_of_fileDate? dated, same⟩
      · cases read
  · rintro ⟨representable, rfl⟩
    simp [fileKey?, fileName, fileDate?_fileNameChars _ date index representable,
      indexIn_fileNameChars]

/-- No two files share a name. -/
theorem fileName_inj {policy : Policy} {date other : Date} {index number : Nat}
    (representable : date.IsRepresentable) (representableOther : other.IsRepresentable)
    (same : fileName policy date index = fileName policy other number) :
    date = other ∧ index = number := by
  have first := (fileKey?_eq_some_iff policy _ date index).mpr ⟨representable, rfl⟩
  have second := (fileKey?_eq_some_iff policy _ other number).mpr ⟨representableOther, rfl⟩
  rw [same, second] at first
  obtain ⟨sameDate, sameIndex⟩ := Prod.mk.inj (Option.some.inj first)
  exact ⟨sameDate.symm, sameIndex.symm⟩

/-! ## Names as paths -/

theorem fileName_no_slash (policy : Policy) (date : Date) (index : Nat)
    (plain : '/' ∉ policy.stem.toList) : '/' ∉ (fileName policy date index).toList := by
  have digits : '/' ∉ indexTail index := by
    simp only [indexTail]
    split
    · simp
    · intro slash
      rcases List.mem_cons.mp slash with point | digit
      · exact absurd point (by decide)
      · exact absurd (Nat.isDigit_of_mem_toDigits (by decide) (by decide) digit) (by decide)
  have ending : '/' ∉ dotLog := by decide
  simp [fileName, fileNameChars_eq, plain, digits, ending, Date.print_no_slash]

theorem fileName_isName (policy : Policy) (date : Date) (index : Nat) :
    Folder.isName (fileName policy date index) = true := by
  have long : 3 ≤ (fileName policy date index).toList.length := by
    simp only [fileName, String.toList_ofList, fileNameChars_eq, List.length_append,
      List.length_cons, dotLog, List.length_nil]
    omega
  have differs : ∀ short : String, short.toList.length < 3 →
      (fileName policy date index == short) = false := by
    intro short less
    apply beq_false_of_ne
    intro same
    rw [same] at long
    omega
  simp only [Folder.isName, Folder.isIdle, differs "" (by decide), differs "." (by decide),
    bne, differs ".." (by decide), Bool.or_self, Bool.not_false, Bool.and_self]

end Gatehouse.RollingFile
