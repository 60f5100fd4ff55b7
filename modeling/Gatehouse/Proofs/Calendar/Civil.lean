import Gatehouse.Calendar.Date

/-!
# Days and civil dates

Every day has a year, a month and a day of the month that exist, and they lead back to it. A day of
an era is split into centuries, cycles of four years, years and days; the last day of a year is its
366th only where a leap day ends it.
-/
namespace Gatehouse.Date

/-! ## Order -/

theorem lt_iff_day (first second : Date) : first < second ↔ first.day < second.day := Iff.rfl

theorem later_day (first second : Date) : (first.later second).day = max first.day second.day := rfl

theorem eq_of_day_eq {first second : Date} (same : first.day = second.day) : first = second := by
  cases first
  cases second
  exact congrArg mk same

theorem not_later_lt_left (first second : Date) : ¬ first.later second < first := by
  simp only [lt_iff_day, later_day]
  omega

theorem not_later_lt_right (first second : Date) : ¬ first.later second < second := by
  simp only [lt_iff_day, later_day]
  omega

theorem eq_later_of_not_lt {first second : Date} (last : ¬ first < first.later second) :
    first = first.later second := by
  apply eq_of_day_eq
  simp only [lt_iff_day, later_day] at last ⊢
  omega

theorem IsRepresentable.later {first second : Date} (one : first.IsRepresentable)
    (other : second.IsRepresentable) : (first.later second).IsRepresentable := by
  simp only [IsRepresentable, later_day] at *
  omega

/-! ## Years, months and days -/

/-- A day of an era in its parts. -/
private theorem exists_parts (dayOfEra : Nat) (inside : dayOfEra < 146097) :
    ∃ century cycle year day, century ≤ 3 ∧ cycle ≤ 24 ∧ year ≤ 3 ∧ day ≤ 365 ∧
      (day = 365 → year = 3 ∧ (cycle = 24 → century = 3)) ∧
      dayOfEra = 36524 * century + 1461 * cycle + 365 * year + day := by
  -- The last century has a day more, the last cycle of the others a day less.
  obtain ⟨c, r, century, _, day⟩ : ∃ c r, c ≤ 3 ∧ (r ≤ 36523 ∨ (c = 3 ∧ r ≤ 36524)) ∧
      dayOfEra = 36524 * c + r :=
    ⟨min (dayOfEra / 36524) 3, dayOfEra - 36524 * min (dayOfEra / 36524) 3,
      by omega, by omega, by omega⟩
  obtain ⟨q, s, cycle, _, day'⟩ : ∃ q s, q ≤ 24 ∧ s ≤ 1460 ∧ r = 1461 * q + s :=
    ⟨r / 1461, r % 1461, by omega, by omega, by omega⟩
  obtain ⟨t, k, year, _, day''⟩ : ∃ t k, t ≤ 3 ∧ (k ≤ 364 ∨ (t = 3 ∧ k ≤ 365)) ∧ s = 365 * t + k :=
    ⟨min (s / 365) 3, s - 365 * min (s / 365) 3, by omega, by omega, by omega⟩
  exact ⟨c, q, t, k, century, cycle, year, by omega, by omega, by omega⟩

private theorem yearOfEra_parts (century cycle year day : Nat) (centuryBound : century ≤ 3)
    (cycleBound : cycle ≤ 24) (yearBound : year ≤ 3) (dayBound : day ≤ 365)
    (leap : day = 365 → year = 3 ∧ (cycle = 24 → century = 3)) :
    yearOfEra (36524 * century + 1461 * cycle + 365 * year + day)
      = 100 * century + 4 * cycle + year := by
  -- Only the very last day of an era falls outside the four centuries.
  let last := if century = 3 ∧ cycle = 24 ∧ year = 3 ∧ day = 365 then 1 else 0
  have centuries :
      (36524 * century + 1461 * cycle + 365 * year + day) / 36524 = century + last := by
    simp only [last]
    split <;> omega
  have eras : (36524 * century + 1461 * cycle + 365 * year + day) / 146096 = last := by
    simp only [last]
    split <;> omega
  rw [yearOfEra, centuries, eras]
  omega

/-- A day in years from March on and days of the year. -/
private theorem exists_marchYear (date : Date) :
    ∃ (year : Int) (dayOfYear : Nat), dayOfYear ≤ 365 ∧
      (dayOfYear = 365 → isLeap (year + 1)) ∧
      date.day = year * 365 + year / 4 - year / 100 + year / 400 + dayOfYear - epochOffset ∧
      date.civil =
        let march := (5 * dayOfYear + 2) / 153
        let month := if march < 10 then march + 3 else march - 9
        ⟨year + (if month ≤ 2 then 1 else 0), month, dayOfYear - (153 * march + 2) / 5 + 1⟩ := by
  let era := (date.day + epochOffset) / 146097
  let dayOfEra := ((date.day + epochOffset) % 146097).toNat
  have whole : date.day + epochOffset = 146097 * era + dayOfEra := by omega
  obtain ⟨c, q, t, k, century, cycle, year, day, leap, parts⟩ :=
    exists_parts dayOfEra (by omega)
  have yearIs : yearOfEra dayOfEra = 100 * c + 4 * q + t := by
    rw [parts]
    exact yearOfEra_parts c q t k century cycle year day leap
  have fours : (100 * c + 4 * q + t) / 4 = 25 * c + q := by omega
  have hundreds : (100 * c + 4 * q + t) / 100 = c := by omega
  have dayIs : dayOfEra - (365 * (100 * c + 4 * q + t) + (100 * c + 4 * q + t) / 4
      - (100 * c + 4 * q + t) / 100) = k := by
    rw [fours, hundreds]
    omega
  refine ⟨(100 * c + 4 * q + t : Nat) + era * 400, k, day, ?_, ?_, ?_⟩
  · intro last
    simp only [isLeap, Bool.and_eq_true, Bool.or_eq_true, beq_iff_eq, bne_iff_ne]
    omega
  · have byFour : ((100 * c + 4 * q + t : Nat) + era * 400) / 4 = 25 * c + q + 100 * era := by
      omega
    have byHundred : ((100 * c + 4 * q + t : Nat) + era * 400) / 100 = c + 4 * era := by omega
    have byFourHundred : ((100 * c + 4 * q + t : Nat) + era * 400) / 400 = era := by omega
    rw [byFour, byHundred, byFourHundred]
    omega
  · show civil date = _
    simp only [civil]
    rw [show ((date.day + epochOffset) % 146097).toNat = dayOfEra from rfl, yearIs, dayIs]

/-- Months have days enough for the days they start and end with. -/
private theorem march_month (dayOfYear : Nat) (year : Int) (bound : dayOfYear ≤ 365)
    (leap : dayOfYear = 365 → isLeap (year + 1)) :
    let march := (5 * dayOfYear + 2) / 153
    let month := if march < 10 then march + 3 else march - 9
    let day := dayOfYear - (153 * march + 2) / 5 + 1
    1 ≤ month ∧ month ≤ 12 ∧ 1 ≤ day ∧
      day ≤ daysInMonth (year + (if month ≤ 2 then 1 else 0)) month ∧
      monthFromMarch month = march ∧ (153 * march + 2) / 5 + day - 1 = dayOfYear := by
  intro march month day
  have marchBound : march ≤ 11 := by omega
  have start : (153 * march + 2) / 5 ≤ dayOfYear := by omega
  have monthIs : month = if march < 10 then march + 3 else march - 9 := rfl
  refine ⟨by split at monthIs <;> omega, by split at monthIs <;> omega, by omega, ?_, ?_, by omega⟩
  · by_cases february : month = 2
    · have late : march = 11 := by split at monthIs <;> omega
      simp only [daysInMonth, february, if_true, Nat.le_refl]
      split
      · omega
      next common =>
        have notLast : dayOfYear ≠ 365 := fun last => common (leap last)
        omega
    · simp only [daysInMonth, if_neg february]
      split
      · split at monthIs <;> omega
      · omega
  · simp only [monthFromMarch]
    split at monthIs <;> split <;> omega

theorem ofCivil_civil (date : Date) : ofCivil date.civil = date := by
  obtain ⟨year, dayOfYear, bound, leap, day, civil⟩ := exists_marchYear date
  obtain ⟨_, _, _, _, march, ofYear⟩ := march_month dayOfYear year bound leap
  rw [civil]
  simp only [ofCivil, march, ofYear]
  have yearIs : ∀ month : Nat,
      (if month ≤ 2 then year + (if month ≤ 2 then 1 else 0) - 1
        else year + (if month ≤ 2 then 1 else 0)) = year := by
    intro month
    split <;> omega
  rw [yearIs, ← day]

/-- The parts of a date exist in the calendar. -/
theorem civil_exists (date : Date) :
    1 ≤ date.civil.month ∧ date.civil.month ≤ 12 ∧ 1 ≤ date.civil.day ∧
      date.civil.day ≤ daysInMonth date.civil.year date.civil.month := by
  obtain ⟨year, dayOfYear, bound, leap, _, civil⟩ := exists_marchYear date
  obtain ⟨low, high, first, last, _⟩ := march_month dayOfYear year bound leap
  rw [civil]
  exact ⟨low, high, first, last⟩

theorem ofCivil?_civil (date : Date) (representable : date.IsRepresentable) :
    ofCivil? date.civil = some date := by
  simp only [ofCivil?, if_pos (civil_exists date), ofCivil_civil, if_pos representable]

theorem daysInMonth_le (year : Int) (month : Nat) : daysInMonth year month ≤ 31 := by
  simp only [daysInMonth]
  repeat' split
  all_goals omega

end Gatehouse.Date
