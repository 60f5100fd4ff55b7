import Gatehouse.Calendar.Timestamp
import Gatehouse.Text.AsciiCase

/-!
# Reading instants from documents

A date, a separator, a time of day and an offset from universal time. Blanks may stand around the
parts. Numbers are checked as they are read, so of two faults the one further left is told; whether
the parts make up an instant is asked last.
-/
namespace Gatehouse.Rfc3339

inductive Fault
  | outOfRange
  | impossible
  | tooShort
  | invalid
  | tooLong
deriving DecidableEq

def Fault.message : Fault → String
  | .outOfRange => "input is out of range"
  | .impossible => "no possible date and time matching input"
  | .tooShort => "premature end of input"
  | .invalid => "input contains invalid characters"
  | .tooLong => "trailing input"

abbrev Scanner (α : Type) := StateT (List Char) (Except Fault) α

def fail {α : Type} (fault : Fault) : Scanner α := throw fault

/-- At least one and at most `most` digits. -/
def digits (most : Nat) : Scanner (List Char) := do
  match ← get with
  | [] => fail .tooShort
  | text =>
    let found := (text.take most).takeWhile Char.isDigit
    if found.isEmpty then fail .invalid
    set (text.drop found.length)
    return found

/-- A number that must fit 63 bits. -/
def natural (most : Nat) : Scanner Nat := do
  let n := Date.number (← digits most)
  if n < 0x8000000000000000 then return n else fail .outOfRange

def blanks : Scanner Unit := modify Text.trimStart

def literal (expected : Char) : Scanner Unit := do
  match ← get with
  | [] => fail .tooShort
  | c :: rest => if c = expected then set rest else fail .invalid

/-- A number of at most two digits between bounds, after blanks. -/
def bounded (low high : Nat) : Scanner Nat := do
  blanks
  let n ← natural 2
  if low ≤ n ∧ n ≤ high then return n else fail .outOfRange

/-- A year of at most four digits, or of any number of digits after a sign. -/
def year : Scanner Int := do
  blanks
  let n : Int ← match ← get with
    | '-' :: rest => do set rest; pure (-((← natural rest.length) : Int))
    | '+' :: rest => do set rest; pure ((← natural rest.length) : Int)
    | _ => do pure ((← natural 4) : Int)
  if -0x80000000 ≤ n ∧ n < 0x80000000 then return n else fail .outOfRange

def separated (mark : Char) : Scanner Unit := do
  blanks
  literal mark

def date : Scanner Date.Civil := do
  let year ← year
  separated '-'
  let month ← bounded 1 12
  separated '-'
  let day ← bounded 1 31
  return ⟨year, month, day⟩

/-- The mark between date and time. -/
def boundary : Scanner Unit := do
  match ← get with
  | [] => fail .tooShort
  | c :: rest => if c = 't' ∨ c = 'T' ∨ c = ' ' then set rest else fail .invalid

/-- Nanoseconds after a point: nine digits count, more are passed over. -/
def fraction : Scanner Nat := do
  match ← get with
  | '.' :: rest =>
    set rest
    let found ← digits 9
    modify (·.dropWhile Char.isDigit)
    return Date.number found * Nat.pow 10 (9 - found.length)
  | _ => return 0

structure Clock where
  hour : Nat
  minute : Nat
  second : Nat
  nanos : Nat

def clock : Scanner Clock := do
  let hour ← bounded 0 23
  separated ':'
  let minute ← bounded 0 59
  separated ':'
  let second ← bounded 0 60
  let nanos ← fraction
  return ⟨hour, minute, second, nanos⟩

/-- Two characters that must be digits; the first one at most five when they are minutes. -/
def twoDigits (minutes : Bool) : Scanner Nat := do
  match ← get with
  | a :: b :: rest =>
    if a.isDigit ∧ b.isDigit then
      if minutes ∧ '5' < a then fail .outOfRange
      set rest
      return Date.number [a, b]
    else fail .invalid
  | [c] => if c.toNat < 0x80 then fail .tooShort else fail .invalid
  | [] => fail .tooShort

/-- Seconds east of universal time. -/
def offset : Scanner Int := do
  let text ← get
  if Text.lowered (String.ofList (text.take 3)) = "utc" then
    set (text.drop 3)
    return 0
  match text with
  | [] => fail .tooShort
  | c :: rest =>
    if c = 'Z' ∨ c = 'z' then
      set rest
      return 0
    else if c = '+' ∨ c = '-' ∨ c = '\u2212' then
      set rest
      let hours ← twoDigits false
      modify (·.dropWhile fun c => c == ':' || Text.isBlank c)
      let minutes ← twoDigits true
      let seconds : Int := hours * 3600 + minutes * 60
      return if c = '+' then seconds else -seconds
    else fail .invalid

/-- The instant of a date, a time of day and an offset. -/
def instant (civil : Date.Civil) (clock : Clock) (offset : Int) : Except Fault Timestamp :=
  match Date.ofCivil? civil with
  | none => .error .outOfRange
  | some date =>
    let leap := clock.second = 60
    let second := if leap then 59 else clock.second
    let ofDay : Int := clock.hour * 3600 + clock.minute * 60 + second
    let seconds := date.day * 86400 + ofDay - offset
    if 86400 ≤ offset.natAbs then .error .outOfRange
    else if Date.IsRepresentable ⟨seconds / 86400⟩ then
      .ok ⟨seconds, clock.nanos + if leap then 1000000000 else 0⟩
    else .error .impossible

def document : Scanner (Date.Civil × Clock × Int) := do
  let civil ← date
  boundary
  let clock ← clock
  blanks
  let offset ← offset
  blanks
  return (civil, clock, offset)

def parse (text : List Char) : Except Fault Timestamp :=
  match document.run text with
  | .error fault => .error fault
  | .ok ((civil, clock, offset), rest) =>
    if rest.isEmpty then instant civil clock offset else .error .tooLong

end Gatehouse.Rfc3339
