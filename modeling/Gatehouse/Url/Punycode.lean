/-!
# Labels spelled in ASCII

A label with characters beyond ASCII is spelled by its ASCII characters, a hyphen if there are any,
and digits. The digits are numbers of varying length: how far to go from one insertion to the next,
where a step leads to the next place in the label and from its end to the next code point.
-/
namespace Gatehouse.Url

namespace Punycode

/-- The value of a digit: letters first, then numerals. -/
def digit? (c : Char) : Option Nat :=
  if 'a' ≤ c ∧ c ≤ 'z' then some (c.toNat - 97)
  else if '0' ≤ c ∧ c ≤ '9' then some (c.toNat - 22)
  else none

def digit (value : Nat) : Char := Char.ofNat (if value < 26 then value + 97 else value + 22)

/-- The digit below which a number ends. -/
def threshold (place bias : Nat) : Nat :=
  if place ≤ bias then 1 else if bias + 26 ≤ place then 26 else place - bias

theorem threshold_pos (place bias : Nat) : 0 < threshold place bias := by
  unfold threshold
  split
  · decide
  · split <;> omega

/-- The bias after a step of `delta`, brought below a bound by repeated division. -/
def adaptFrom : Nat → Nat → Nat → Nat
  | 0, delta, places => places + 36 * delta / (delta + 38)
  | budget + 1, delta, places =>
    if 455 < delta then adaptFrom budget (delta / 35) (places + 36)
    else places + 36 * delta / (delta + 38)

def adapt (delta count : Nat) (isFirst : Bool) : Nat :=
  let delta := if isFirst then delta / 700 else delta / 2
  adaptFrom 16 (delta + delta / count) 0

/-! ## Reading -/

/-- Where the reader of a label stands: the label so far, the code point, the place in the label,
the place where the last number began, the bias, and the weight and place of the next digit. -/
structure Reader where
  label : List Char
  point : Nat
  index : Nat
  start : Nat
  bias : Nat
  weight : Nat
  place : Nat

/-- Numbers stay below 2 ^ 32. -/
def limit : Nat := 0x100000000

/-- The label with a character at the place where a number ends. -/
def Reader.insert (r : Reader) (index : Nat) : Option Reader :=
  let count := r.label.length + 1
  let point := r.point + index / count
  if 0x110000 ≤ point ∨ (0xD800 ≤ point ∧ point < 0xE000) then none
  else
    let place := index % count
    some
      { label := r.label.take place ++ Char.ofNat point :: r.label.drop place
        point := point, index := place + 1, start := place + 1
        bias := adapt (index - r.start) count (r.start == 0), weight := 1, place := 36 }

def Reader.step (r : Reader) (c : Char) : Option Reader := do
  let value ← digit? c
  let index := r.index + value * r.weight
  let bound := threshold r.place r.bias
  if limit ≤ index then none
  else if value < bound then r.insert index
  else if limit ≤ r.weight * (36 - bound) then none
  else some { r with index := index, weight := r.weight * (36 - bound), place := r.place + 36 }

/-- The label that is spelled, which has to hold a character beyond ASCII. -/
def decode? (text : List Char) : Option (List Char) := do
  let digits := (text.reverse.takeWhile (· != '-')).reverse
  let ascii := text.take (text.length - digits.length - 1)
  if digits.isEmpty || text.head? = some '-' || text.any (fun c => decide (0x80 ≤ c.toNat)) then
    none
  else
    let r ← digits.foldlM Reader.step ⟨ascii, 128, 0, 0, 72, 1, 36⟩
    if r.place = 36 then some r.label else none

/-! ## Writing -/

/-- The digits of a number. -/
def digits (bias place number : Nat) : List Char :=
  let bound := threshold place bias
  if number < bound then [digit number]
  else
    digit (bound + (number - bound) % (36 - bound))
      :: digits bias (place + 36) ((number - bound) / (36 - bound))
termination_by number
decreasing_by
  have positive := threshold_pos place bias
  exact Nat.lt_of_le_of_lt (Nat.div_le_self _ _) (by omega)

/-- What is written, the steps since the last insertion, the bias, and how many characters of the
label are spelled. -/
structure Writer where
  text : List Char
  delta : Nat
  bias : Nat
  count : Nat

/-- Passes a character of the label on the way of one code point. -/
def Writer.pass (ascii point : Nat) (w : Writer) (c : Char) : Writer :=
  if c.toNat < point then { w with delta := w.delta + 1 }
  else if c.toNat = point then
    { text := w.text ++ digits w.bias 36 w.delta, delta := 0
      bias := adapt w.delta (w.count + 1) (w.count == ascii), count := w.count + 1 }
  else w

/-- Writes the places of each code point, where `last` was the one before. -/
def Writer.points (ascii : Nat) (label : List Char) : Nat → List Nat → Writer → Writer
  | _, [], w => w
  | last, point :: rest, w =>
    let start := { w with delta := w.delta + (point - last) * (w.count + 1) }
    let passed := label.foldl (Writer.pass ascii point) start
    Writer.points ascii label (point + 1) rest { passed with delta := passed.delta + 1 }

def encode (label : List Char) : List Char :=
  let ascii := label.filter fun c => decide (c.toNat < 0x80)
  let points := ((label.map Char.toNat).filter fun n => decide (0x80 ≤ n)).mergeSort.eraseDups
  let start : Writer := ⟨if ascii.isEmpty then [] else ascii ++ ['-'], 0, 72, ascii.length⟩
  (Writer.points ascii.length label 128 points start).text

end Punycode

end Gatehouse.Url
