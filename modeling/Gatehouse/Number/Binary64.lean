/-!
# Binary64 numbers

A finite binary64 number is kept by its 64 bits. Arithmetic goes through exact ratios of natural
numbers and one rounding, to the nearest number and to the even one of two equally near.
-/
namespace Gatehouse

structure Binary64 where
  bits : UInt64
deriving DecidableEq

namespace Binary64

def zero : Binary64 := ⟨0⟩

def isNegative (x : Binary64) : Bool := 0x8000000000000000 ≤ x.bits.toNat

def isZero (x : Binary64) : Bool := x.bits.toNat % 0x8000000000000000 == 0

/-- The number of the opposite sign; zero has a sign too. -/
def negate (x : Binary64) : Binary64 := ⟨x.bits ^^^ 0x8000000000000000⟩

/-- The integer `m` of the magnitude `m · 2 ^ e`. -/
def significand (x : Binary64) : Nat :=
  let fraction := x.bits.toNat % 0x10000000000000
  if x.bits.toNat / 0x10000000000000 % 0x800 = 0 then fraction else fraction + 0x10000000000000

/-- The power `e` of the magnitude `m · 2 ^ e`. -/
def power (x : Binary64) : Int :=
  let field : Nat := x.bits.toNat / 0x10000000000000 % 0x800
  if field = 0 then -1074 else (field : Int) - 1075

/-- The magnitude as a ratio. -/
def numerator (x : Binary64) : Nat := x.significand * Nat.pow 2 x.power.toNat

def denominator (x : Binary64) : Nat := Nat.pow 2 (-x.power).toNat

/-- `a / b` rounded to the nearest integer, a half to the even one. -/
def roundDiv (a b : Nat) : Nat :=
  let quotient := a / b
  let remainder := a % b
  if b < 2 * remainder ∨ (2 * remainder = b ∧ quotient % 2 = 1) then quotient + 1 else quotient

/-- The power of two whose multiples near `a / b` have 53 binary digits, or the least power. -/
def powerFor (a b : Nat) : Int :=
  let guess : Int := (a.log2 : Int) - b.log2 - 53
  let wide := b * Nat.pow 2 guess.toNat * 0x20000000000000 ≤ a * Nat.pow 2 (-guess).toNat
  max (-1074) (if wide then guess + 1 else guess)

/-- The number nearest to `a / b`, or none when it lies beyond the largest one. -/
def ofRatio (a b : Nat) : Option Binary64 :=
  if a = 0 then some zero
  else
    let e := powerFor a b
    let rounded := roundDiv (a * Nat.pow 2 (-e).toNat) (b * Nat.pow 2 e.toNat)
    let bits := (e + 1074).toNat * 0x10000000000000 + rounded
    if bits < 0x7FF * 0x10000000000000 then some ⟨UInt64.ofNat bits⟩ else none

/-- The power of ten `10 ^ n`, rounded. -/
def tenTo (n : Nat) : Option Binary64 := ofRatio (Nat.pow 10 n) 1

/-- The product of magnitudes. -/
def times (x y : Binary64) : Option Binary64 :=
  ofRatio (x.numerator * y.numerator) (x.denominator * y.denominator)

/-- The quotient of magnitudes. -/
def dividedBy (x y : Binary64) : Option Binary64 :=
  ofRatio (x.numerator * y.denominator) (x.denominator * y.numerator)

end Binary64

end Gatehouse
