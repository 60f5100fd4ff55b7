import Gatehouse.Number.Binary64

/-!
# Shortest decimal text of a binary64 number

The decimals that read back as a number form an interval around it. On the grids of multiples of
10 ^ p, from coarse to fine, the first grid that has a point in the interval gives the fewest
digits. One of the two grid points next to the number is in the interval whenever any point is,
and of two the nearer is written, of two equally near the even one.
-/
namespace Gatehouse.Shortest

/-- Numbers in a decimal grid: `count · 10 ^ power`. -/
structure Decimal where
  count : Nat
  power : Int
deriving DecidableEq

/-- The interval that rounds to `m · 2 ^ e`, in units of `2 ^ (e - 2)`; below the first number
of a binade the spacing is half as wide. -/
structure Interval where
  low : Nat
  value : Nat
  high : Nat
  closed : Bool

def interval (m : Nat) (e : Int) : Interval where
  low := if m = 0x10000000000000 ∧ -1074 < e then 4 * m - 1 else 4 * m - 2
  value := 4 * m
  high := 4 * m + 2
  closed := m % 2 == 0

/-- The factors that make a grid point and an interval unit comparable as integers. -/
def pointFactor (e p : Int) : Nat := Nat.pow 10 p.toNat * Nat.pow 2 (2 - e).toNat

def unitFactor (e p : Int) : Nat := Nat.pow 2 (e - 2).toNat * Nat.pow 10 (-p).toNat

def Interval.holds (range : Interval) (e p : Int) (count : Nat) : Bool :=
  let point := count * pointFactor e p
  let low := range.low * unitFactor e p
  let high := range.high * unitFactor e p
  if range.closed then low ≤ point && point ≤ high else low < point && point < high

/-- The point of the grid of `10 ^ p` that stands for the number, if the grid has one. -/
def Interval.point? (range : Interval) (e p : Int) : Option Nat :=
  let value := range.value * unitFactor e p
  let step := pointFactor e p
  let below := value / step
  match range.holds e p below, range.holds e p (below + 1) with
  | true, true =>
    let twice := 2 * (value - below * step)
    some (if twice < step ∨ (twice = step ∧ below % 2 = 0) then below else below + 1)
  | true, false => some below
  | false, true => some (below + 1)
  | false, false => none

/-- The first grid with a point, from `10 ^ p` down. -/
def search (range : Interval) (e : Int) : Nat → Int → Decimal
  | 0, p => ⟨range.value * unitFactor e p / pointFactor e p, p⟩
  | grids + 1, p =>
    match range.point? e p with
    | some count => ⟨count, p⟩
    | none => search range e grids (p - 1)

/-- A power of ten at or above `m · 2 ^ e`. -/
def coarsest (m : Nat) (e : Int) : Int := Int.fdiv (((m.log2 : Int) + e + 1) * 30103) 100000 + 1

/-- The shortest decimal that reads back as `x`'s magnitude. -/
def decimal (x : Binary64) : Decimal :=
  search (interval x.significand x.power) x.power 40 (coarsest x.significand x.power)

/-- How decimals are laid out: positionally while the leading digit stands between these powers
of ten, with an exponent otherwise. -/
structure Layout where
  leastPositional : Int
  mostPositional : Int

/-- Positional from 0.00001 up to, not including, 1e16. -/
def layout : Layout := ⟨-5, 15⟩

def zeros (n : Nat) : List Char := List.replicate n '0'

def exponentText (power : Int) : List Char :=
  (if power < 0 then ['e', '-'] else ['e', '+']) ++ Nat.toDigits 10 power.natAbs

/-- A decimal with a point and at least one digit after it, or with an exponent. -/
def layOut (number : Decimal) : List Char :=
  let digits := Nat.toDigits 10 number.count
  let lead : Int := digits.length - 1 + number.power
  if lead < layout.leastPositional ∨ layout.mostPositional < lead then
    match digits with
    | first :: second :: rest => first :: '.' :: second :: rest ++ exponentText lead
    | digits => digits ++ exponentText lead
  else if 0 ≤ number.power then digits ++ zeros number.power.toNat ++ ['.', '0']
  else if 0 ≤ lead then digits.take (lead.toNat + 1) ++ '.' :: digits.drop (lead.toNat + 1)
  else '0' :: '.' :: zeros (-lead - 1).toNat ++ digits

/-- The text of a number; the sign of zero shows. -/
def text (x : Binary64) : List Char :=
  let sign := if x.isNegative then ['-'] else []
  sign ++ if x.isZero then ['0', '.', '0'] else layOut (decimal x)

end Gatehouse.Shortest
