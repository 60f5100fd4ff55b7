import Gatehouse.Text.Blank

/-!
# Calendar dates

A date is the number of days since 1 January 1970, so order and distance are those of integers.
Years, months and days come from eras of 400 years, each 146097 days long and counted from March,
which puts the leap day last. A date prints its year with four digits, and with a sign when the
year has more or is negative; what is printed is also read back.
-/
namespace Gatehouse

structure Date where
  day : Int
deriving DecidableEq

namespace Date

instance : LT Date := ⟨fun a b => a.day < b.day⟩

instance (a b : Date) : Decidable (a < b) := inferInstanceAs (Decidable (a.day < b.day))

/-- The later of two dates. -/
def later (a b : Date) : Date := ⟨max a.day b.day⟩

/-- A year with a month from 1 and a day from 1. -/
structure Civil where
  year : Int
  month : Nat
  day : Nat
deriving DecidableEq

def isLeap (year : Int) : Bool := year % 4 == 0 && (year % 100 != 0 || year % 400 == 0)

def daysInMonth (year : Int) (month : Nat) : Nat :=
  if month = 2 then (if isLeap year then 29 else 28)
  else if month = 4 ∨ month = 6 ∨ month = 9 ∨ month = 11 then 30 else 31

/-- The days from 1 March of year 0 to 1 January 1970. -/
def epochOffset : Int := 719468

/-- The months since March, so that a leap day ends the year. -/
def monthFromMarch (month : Nat) : Nat := if 2 < month then month - 3 else month + 9

def ofCivil (civil : Civil) : Date :=
  let year := if civil.month ≤ 2 then civil.year - 1 else civil.year
  let dayOfYear := (153 * monthFromMarch civil.month + 2) / 5 + civil.day - 1
  ⟨year * 365 + year / 4 - year / 100 + year / 400 + dayOfYear - epochOffset⟩

/-- The year of an era that holds its given day. -/
def yearOfEra (dayOfEra : Nat) : Nat :=
  (dayOfEra - dayOfEra / 1460 + dayOfEra / 36524 - dayOfEra / 146096) / 365

def civil (date : Date) : Civil :=
  let days := date.day + epochOffset
  let era := days / 146097
  let dayOfEra := (days % 146097).toNat
  let year := yearOfEra dayOfEra
  let dayOfYear := dayOfEra - (365 * year + year / 4 - year / 100)
  let march := (5 * dayOfYear + 2) / 153
  let month := if march < 10 then march + 3 else march - 9
  { year := year + era * 400 + (if month ≤ 2 then 1 else 0)
    month := month
    day := dayOfYear - (153 * march + 2) / 5 + 1 }

/-- Dates run from year -262143 to year 262142. -/
def earliest : Date := ofCivil ⟨-262143, 1, 1⟩

def latest : Date := ofCivil ⟨262142, 12, 31⟩

def IsRepresentable (date : Date) : Prop := earliest.day ≤ date.day ∧ date.day ≤ latest.day

instance (date : Date) : Decidable date.IsRepresentable := by
  unfold IsRepresentable; infer_instance

/-- The date of a year, month and day that exist. -/
def ofCivil? (civil : Civil) : Option Date :=
  if 1 ≤ civil.month ∧ civil.month ≤ 12 ∧ 1 ≤ civil.day
      ∧ civil.day ≤ daysInMonth civil.year civil.month then
    let date := ofCivil civil
    if date.IsRepresentable then some date else none
  else none

/-- The date so many days before, if there is one. -/
def minusDays (date : Date) (days : Nat) : Option Date :=
  let earlier : Date := ⟨date.day - days⟩
  if earlier.IsRepresentable then some earlier else none

/-! ## Text -/

/-- A number with zeros in front up to a width. -/
def padded (width n : Nat) : List Char :=
  let digits := Nat.toDigits 10 n
  List.replicate (width - digits.length) '0' ++ digits

def printYear (year : Int) : List Char :=
  if 0 ≤ year ∧ year ≤ 9999 then padded 4 year.toNat
  else (if year < 0 then '-' else '+') :: padded 4 year.natAbs

def print (date : Date) : List Char :=
  let c := date.civil
  printYear c.year ++ '-' :: padded 2 c.month ++ '-' :: padded 2 c.day

/-! ## Reading -/

def digitValue (c : Char) : Nat := c.toNat - 48

/-- The number that digits spell. -/
def number (digits : List Char) : Nat := digits.foldl (fun n c => n * 10 + digitValue c) 0

/-- At least one and at most `most` digits, and the text behind them. -/
def takeDigits (most : Nat) (text : List Char) : Option (Nat × List Char) :=
  let digits := (text.take most).takeWhile Char.isDigit
  if digits.isEmpty then none else some (number digits, text.drop digits.length)

/-- A year: four digits at most, or any number of them after a sign. -/
def takeYear (text : List Char) : Option (Int × List Char) :=
  match Text.trimStart text with
  | '-' :: rest => (takeDigits rest.length rest).map fun (n, rest) => (-(n : Int), rest)
  | '+' :: rest => (takeDigits rest.length rest).map fun (n, rest) => ((n : Int), rest)
  | rest => (takeDigits 4 rest).map fun (n, rest) => ((n : Int), rest)

/-- A month or a day. -/
def takeTwo (text : List Char) : Option (Nat × List Char) := takeDigits 2 (Text.trimStart text)

def takeDash : List Char → Option (List Char)
  | '-' :: rest => some rest
  | _ => none

/-- A year, a month and a day with dashes between them and nothing behind. Blanks may stand before
each number. -/
def parse? (text : List Char) : Option Date := do
  let (year, rest) ← takeYear text
  let rest ← takeDash rest
  let (month, rest) ← takeTwo rest
  let rest ← takeDash rest
  let (day, rest) ← takeTwo rest
  if rest.isEmpty then ofCivil? ⟨year, month, day⟩ else none

end Date

end Gatehouse
