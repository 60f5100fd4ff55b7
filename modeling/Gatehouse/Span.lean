/-!
# Spans of time

Whole seconds below 2 ^ 64 and nanoseconds below one second. Multiplication stops at the longest
span there is.
-/
namespace Gatehouse

structure Span where
  seconds : Nat
  nanos : Nat
  seconds_lt : seconds < 0x10000000000000000
  nanos_lt : nanos < 1000000000
deriving DecidableEq

namespace Span

def longest : Span := ⟨0xFFFFFFFFFFFFFFFF, 999999999, by decide, by decide⟩

/-- So many seconds and nanoseconds, or the longest span when there are too many seconds. -/
def ofParts (seconds nanos : Nat) (nanos_lt : nanos < 1000000000) : Span :=
  if fits : seconds < 0x10000000000000000 then ⟨seconds, nanos, fits, nanos_lt⟩ else longest

def ofMillis (millis : Nat) : Span :=
  ofParts (millis / 1000) (millis % 1000 * 1000000) (by omega)

/-- A span from parts that may be out of bounds. -/
def ofParts? (seconds nanos : Nat) : Option Span :=
  if fits : seconds < 0x10000000000000000 ∧ nanos < 1000000000 then
    some ⟨seconds, nanos, fits.1, fits.2⟩
  else none

/-- `count` times a span: nanoseconds carry into seconds, and the result stops at the longest. -/
def times (span : Span) (count : Nat) : Span :=
  let nanos := span.nanos * count
  ofParts (span.seconds * count + nanos / 1000000000) (nanos % 1000000000)
    (Nat.mod_lt _ (by decide))

def isZero (span : Span) : Bool := span.seconds == 0 && span.nanos == 0

def totalNanos (span : Span) : Nat := span.seconds * 1000000000 + span.nanos

/-- Whole milliseconds, rounded down. -/
def millis (span : Span) : Nat := span.seconds * 1000 + span.nanos / 1000000

/-- Whole milliseconds as far as 64 bits hold them. -/
def cappedMillis (span : Span) : Nat := min span.millis 0xFFFFFFFFFFFFFFFF

/-- The whole milliseconds that a timer takes for a span: never too few, and thirty years at
most. -/
def timerMillis (span : Span) : Nat := min ((span.totalNanos + 999999) / 1000000) 946080000000

/-- A fraction without the zeros at its end. -/
def fractionText (width value : Nat) : List Char :=
  if value = 0 then []
  else
    let digits := Nat.toDigits 10 value
    let padded := List.replicate (width - digits.length) '0' ++ digits
    '.' :: (padded.reverse.dropWhile (· == '0')).reverse

/-- The span in its largest unit that is not zero. -/
def text (span : Span) : String :=
  let unit (whole width fraction : Nat) (name : String) : String :=
    String.ofList (Nat.toDigits 10 whole ++ fractionText width fraction) ++ name
  if 0 < span.seconds then unit span.seconds 9 span.nanos "s"
  else if 1000000 ≤ span.nanos then unit (span.nanos / 1000000) 6 (span.nanos % 1000000) "ms"
  else if 1000 ≤ span.nanos then unit (span.nanos / 1000) 3 (span.nanos % 1000) "µs"
  else unit span.nanos 0 0 "ns"

end Span

end Gatehouse
