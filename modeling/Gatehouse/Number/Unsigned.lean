/-!
# Unsigned numbers in settings

Decimal digits after at most one plus sign, up to a limit. Reading goes from the left, so the
first character that is no digit and the first digit that exceeds the limit compete by position.
-/
namespace Gatehouse.Unsigned

inductive Fault
  | empty
  | invalidDigit
  | tooLarge
deriving DecidableEq

def Fault.message : Fault → String
  | .empty => "cannot parse integer from empty string"
  | .invalidDigit => "invalid digit found in string"
  | .tooLarge => "number too large to fit in target type"

/-- Extends `value` by the digits of `text`. -/
def digits (limit : Nat) : Nat → List Char → Except Fault Nat
  | value, [] => .ok value
  | value, c :: rest =>
    if c.isDigit then
      let next := value * 10 + (c.toNat - 48)
      if next ≤ limit then digits limit next rest else .error .tooLarge
    else .error .invalidDigit

def parse (limit : Nat) : List Char → Except Fault Nat
  | [] => .error .empty
  | ['+'] => .error .invalidDigit
  | '+' :: rest => digits limit 0 rest
  | text => digits limit 0 text

end Gatehouse.Unsigned
