import Gatehouse.Json.Scan
import Gatehouse.Proofs.Text.Runs

/-!
# What numbers look like

A number has a sign, a whole part, a fraction if it likes and an exponent if it likes, all in
digits. The scanner of numbers takes exactly such literals, each up to the first byte that is no part
of it, and gives the value of their digits; a literal whose value is too large has none.
-/
namespace Gatehouse.Json

/-- Whether a value is a number. -/
def isNumber : Json → Bool
  | .integer _ | .float _ => true
  | _ => false

/-! ## Literals -/

/-- One digit or more. -/
def IsDigits (digits : List UInt8) : Prop := digits ≠ [] ∧ ∀ b ∈ digits, isDigitByte b = true

/-- The part of a number behind its digits: a letter, a sign if there is one, and digits. -/
structure Exponent where
  letter : UInt8
  minus : Option Bool
  digits : List UInt8

/-- A number without its sign in front. -/
structure Numeral where
  whole : List UInt8
  fraction : Option (List UInt8)
  exponent : Option Exponent

namespace Exponent

def isMinus (exponent : Exponent) : Bool := exponent.minus == some true

def sign (exponent : Exponent) : List UInt8 :=
  match exponent.minus with
  | none => []
  | some false => [0x2B]
  | some true => [0x2D]

structure WellFormed (exponent : Exponent) : Prop where
  letter : exponent.letter = 0x65 ∨ exponent.letter = 0x45
  digits : IsDigits exponent.digits

end Exponent

/-- The text of a part that may be missing. -/
def exponentText : Option Exponent → List UInt8
  | none => []
  | some exponent => exponent.letter :: (exponent.sign ++ exponent.digits)

def fractionText : Option (List UInt8) → List UInt8
  | none => []
  | some digits => 0x2E :: digits

/-- The number that digits spell, behind those of another one. -/
def spelled (before : Nat) (digits : List UInt8) : Nat :=
  digits.foldl (fun n b => n * 10 + (b.toNat - 0x30)) before

/-- The float of digits and a power of ten, moved by an exponent. One of 32 bits or more leaves
nothing of a small number and no room for a large one. -/
def scaled? (negative : Bool) (significand : Nat) (power : Int) (exponent : Option Exponent) :
    Option Json :=
  match exponent with
  | none => (decimalFloat significand power).map (signed negative)
  | some exponent =>
    let shift := spelled 0 exponent.digits
    if shift < 0x80000000 then
      let power := if exponent.isMinus then power - shift else power + shift
      (decimalFloat significand power).map (signed negative)
    else if significand ≠ 0 ∧ ¬ exponent.isMinus then none
    else some (signed negative .zero)

namespace Numeral

def text (numeral : Numeral) : List UInt8 :=
  numeral.whole ++ (fractionText numeral.fraction ++ exponentText numeral.exponent)

/-- No zero stands in front of other digits. -/
structure WellFormed (numeral : Numeral) : Prop where
  whole : IsDigits numeral.whole
  zero : numeral.whole.head? = some 0x30 → numeral.whole = [0x30]
  fraction : ∀ digits ∈ numeral.fraction, IsDigits digits
  exponent : ∀ exponent ∈ numeral.exponent, exponent.WellFormed

/-- The value of a literal, if it is not too large. The digits that fit 64 bits make the
significand; those of the whole part that do not fit count for the power of ten. -/
def value? (negative : Bool) (numeral : Numeral) : Option Json :=
  let (value, left) := absorb 0 numeral.whole
  match numeral.fraction with
  | none =>
    if left.isEmpty ∧ numeral.exponent.isNone then some (integerOf negative value)
    else scaled? negative value left.length numeral.exponent
  | some digits =>
    let (value, dropped) := absorb value digits
    scaled? negative value (left.length - (digits.length - dropped.length : Nat)) numeral.exponent

/-- Whether a literal is over before the rest of a text. -/
def Ends (numeral : Numeral) (rest : List UInt8) : Prop :=
  ∀ b ∈ rest.head?, isDigitByte b = false
    ∧ (numeral.exponent = none → b ≠ 0x65 ∧ b ≠ 0x45)
    ∧ (numeral.exponent = none → numeral.fraction = none → b ≠ 0x2E)

end Numeral

/-! ## Values of literals -/

theorem isNumber_integerOf (negative : Bool) (value : Nat) : (integerOf negative value).isNumber := by
  unfold integerOf
  split
  · split <;> rfl
  · rfl

theorem isNumber_of_scaled? {negative : Bool} {significand : Nat} {power : Int}
    {exponent : Option Exponent} {value : Json}
    (held : scaled? negative significand power exponent = some value) : value.isNumber := by
  have float : ∀ power, (decimalFloat significand power).map (signed negative) = some value →
      value.isNumber := by
    intro power held
    obtain ⟨float, _, rfl⟩ := Option.map_eq_some_iff.mp held
    rfl
  cases exponent with
  | none => exact float _ held
  | some exponent =>
    simp only [scaled?] at held
    by_cases small : spelled 0 exponent.digits < 0x80000000
    · rw [if_pos small] at held
      exact float _ held
    · rw [if_neg small] at held
      split at held
      · cases held
      · cases held
        rfl

/-- The value of a literal is a number. -/
theorem Numeral.isNumber_of_value? {numeral : Numeral} {negative : Bool} {value : Json}
    (held : numeral.value? negative = some value) : value.isNumber := by
  obtain ⟨whole, fraction, exponent⟩ := numeral
  cases fraction with
  | some digits => exact isNumber_of_scaled? held
  | none =>
    simp only [value?] at held
    by_cases fits : (absorb 0 whole).2.isEmpty ∧ exponent.isNone
    · rw [if_pos fits] at held
      cases held
      exact isNumber_integerOf ..
    · rw [if_neg fits] at held
      exact isNumber_of_scaled? held

/-! ## Runs of digits -/

/-- Whether no digit comes next. -/
def EndsDigits (rest : List UInt8) : Prop := ∀ b ∈ rest.head?, isDigitByte b = false

/-- Whether neither a digit nor, if none was there, an exponent comes next. -/
def EndsPower (exponent : Option Exponent) (rest : List UInt8) : Prop :=
  ∀ b ∈ rest.head?, isDigitByte b = false ∧ (exponent = none → b ≠ 0x65 ∧ b ≠ 0x45)

theorem takeWhile_of_digits {digits rest : List UInt8} (all : ∀ b ∈ digits, isDigitByte b = true)
    (ends : EndsDigits rest) :
    (digits ++ rest).takeWhile isDigitByte = digits
      ∧ (digits ++ rest).dropWhile isDigitByte = rest :=
  ⟨Run.takeWhile_append all ends, Run.dropWhile_append all ends⟩

theorem endsDigits_dropWhile (input : List UInt8) : EndsDigits (input.dropWhile isDigitByte) :=
  Run.ends_dropWhile isDigitByte input

theorem le_spelled (before : Nat) (digits : List UInt8) : before ≤ spelled before digits := by
  induction digits generalizing before with
  | nil => exact Nat.le_refl before
  | cons b digits ih =>
    have more := ih (before * 10 + (b.toNat - 0x30))
    rw [spelled, List.foldl_cons, ← spelled]
    omega

/-- Digits of an exponent that stays small are all taken. -/
theorem exponentDigits_of_small {digits rest : List UInt8}
    (all : ∀ b ∈ digits, isDigitByte b = true) (ends : EndsDigits rest) (value : Nat)
    (small : spelled value digits < 0x80000000) :
    exponentDigits value (digits ++ rest) = (spelled value digits, none, rest) := by
  induction digits generalizing value with
  | nil =>
    cases rest with
    | nil => rfl
    | cons b rest =>
      have other := ends b rfl
      simp [exponentDigits, other, spelled]
  | cons b digits ih =>
    rw [List.forall_mem_cons] at all
    have next : spelled value (b :: digits) = spelled (value * 10 + (b.toNat - 0x30)) digits := rfl
    have below := le_spelled (value * 10 + (b.toNat - 0x30)) digits
    rw [next] at small ⊢
    rw [List.cons_append, exponentDigits]
    simp only [all.1, if_true]
    rw [if_pos (by omega), ih all.2 _ small]

/-- An exponent that grows too large stops at one of its digits. -/
theorem exponentDigits_of_large {digits rest : List UInt8}
    (all : ∀ b ∈ digits, isDigitByte b = true) (ends : EndsDigits rest) (value : Nat)
    (before : value < 0x80000000) (large : 0x80000000 ≤ spelled value digits) :
    ∃ part left, exponentDigits value (digits ++ rest) = (part, some left, left)
      ∧ left.dropWhile isDigitByte = rest := by
  -- Some digit takes the value over the bound; what is left are the digits behind it.
  induction digits generalizing value with
  | nil => exact absurd large (Nat.not_le.mpr before)
  | cons b digits ih =>
    rw [List.forall_mem_cons] at all
    rw [List.cons_append, exponentDigits]
    simp only [all.1, if_true]
    split
    next fits => exact ih all.2 _ fits large
    next => exact ⟨value, digits ++ rest, rfl, (takeWhile_of_digits all.2 ends).2⟩

/-! ## Literals are taken with their value -/

theorem toOption_floatOf (negative : Bool) (significand : Nat) (power : Int) (rest : List UInt8) :
    (floatOf negative significand power rest).toOption
      = ((decimalFloat significand power).map (signed negative)).map (·, rest) := by
  unfold floatOf
  cases decimalFloat significand power <;> rfl

section

variable (negative : Bool) (significand : Nat) (power : Int) {rest : List UInt8}

/-- An exponent without a sign is a positive one. -/
theorem scanExponent_unsigned {b : UInt8} (digit : isDigitByte b = true) (more : List UInt8) :
    scanExponent negative significand power (b :: more)
      = scanExponent negative significand power (0x2B :: b :: more) := by
  conv => lhs; unfold scanExponent
  split
  next minus digits taken =>
    split at taken
    -- A digit is no sign.
    next same => cases same; cases digit
    next same => cases same; cases digit
    · cases taken
      rfl

/-- An exponent has a sign, or it reads as if it had. -/
theorem scanExponent_sign (exponent : Exponent) {b : UInt8} (digit : isDigitByte b = true)
    (more : List UInt8) :
    scanExponent negative significand power (exponent.sign ++ b :: more)
      = scanExponent negative significand power
          ((if exponent.isMinus then 0x2D else 0x2B) :: b :: more) := by
  obtain ⟨letter, minus, digits⟩ := exponent
  rcases minus with _ | _ | _
  · exact scanExponent_unsigned negative significand power digit more
  · rfl
  · rfl

theorem toOption_scanExponent {exponent : Exponent} (formed : exponent.WellFormed)
    (ends : EndsDigits rest) :
    (scanExponent negative significand power (exponent.sign ++ (exponent.digits ++ rest))).toOption
      = (scaled? negative significand power (some exponent)).map (·, rest) := by
  obtain ⟨nonempty, all⟩ := formed.digits
  obtain ⟨b, more, digits⟩ := List.exists_cons_of_ne_nil nonempty
  rw [digits, List.forall_mem_cons] at all
  have first : spelled 0 (b :: more) = spelled (b.toNat - 0x30) more := by simp [spelled]
  rw [digits, List.cons_append, scanExponent_sign _ _ _ _ all.1, scaled?, digits, first]
  by_cases small : spelled (b.toNat - 0x30) more < 0x80000000
  · have taken := exponentDigits_of_small all.2 ends _ small
    simp only [small, if_true]
    rw [← toOption_floatOf]
    cases exponent.isMinus <;> simp [scanExponent, all.1, taken]
  · have range := b.toNat_lt
    obtain ⟨part, left, stops, behind⟩ :=
      exponentDigits_of_large all.2 ends (b.toNat - 0x30) (by omega) (by omega)
    simp only [small, if_false]
    cases exponent.isMinus with
    | true => simp [scanExponent, all.1, stops, behind, Except.toOption]
    | false =>
      simp only [Bool.false_eq_true, if_false, scanExponent, all.1, if_true, stops, behind]
      split <;> rfl

theorem toOption_scanPower {exponent : Option Exponent}
    (formed : ∀ part ∈ exponent, part.WellFormed)
    (ends : EndsPower exponent rest) :
    (scanPower negative significand power (exponentText exponent ++ rest)).toOption
      = (scaled? negative significand power exponent).map (·, rest) := by
  cases exponent with
  | some exponent =>
    have begins := (formed exponent rfl).letter
    have taken := toOption_scanExponent negative significand power (formed exponent rfl)
      fun b member => (ends b member).1
    rw [exponentText, List.cons_append, List.append_assoc, scanPower]
    simp only [begins, if_true]
    exact taken
  | none =>
    have taken := toOption_floatOf negative significand power rest
    rw [exponentText, List.nil_append]
    unfold scanPower
    split
    next b more =>
      rw [if_neg]
      · exact taken
      · have other := (ends b rfl).2 rfl
        simp [other]
    · exact taken

theorem toOption_scanFraction {digits : List UInt8} (isDigits : IsDigits digits) (left : Nat)
    {exponent : Option Exponent} (formed : ∀ part ∈ exponent, part.WellFormed)
    (ends : EndsPower exponent rest) :
    (scanFraction negative significand left (digits ++ (exponentText exponent ++ rest))).toOption
      = (scaled? negative (absorb significand digits).1
          (left - (digits.length - (absorb significand digits).2.length : Nat)) exponent).map
          (·, rest) := by
  have behind : EndsDigits (exponentText exponent ++ rest) := by
    cases exponent with
    | none => exact fun b member => (ends b member).1
    | some exponent =>
      rintro b ⟨⟩
      rcases (formed exponent rfl).letter with letter | letter <;> rw [letter] <;> rfl
  obtain ⟨taken, after⟩ := takeWhile_of_digits isDigits.2 behind
  -- The scanner asks for a first digit before it takes the run of them.
  obtain ⟨b, more, rfl⟩ := List.exists_cons_of_ne_nil isDigits.1
  rw [scanFraction]
  simp only [taken, after]
  exact toOption_scanPower negative _ _ formed ends

end

namespace Numeral

variable {numeral : Numeral} (formed : numeral.WellFormed) {rest : List UInt8}
  (ends : numeral.Ends rest)

include formed ends

/-- No digit comes behind the whole part. -/
theorem endsDigits_whole :
    EndsDigits (fractionText numeral.fraction ++ exponentText numeral.exponent ++ rest) := by
  cases fraction : numeral.fraction with
  | some digits => rintro b ⟨⟩; rfl
  | none =>
    cases exponent : numeral.exponent with
    | some part =>
      rintro b ⟨⟩
      rcases (formed.exponent part exponent).letter with letter | letter <;> rw [letter] <;> rfl
    | none => exact fun b member => (ends b member).1

/-- A literal is taken up to its end, with its value if it has one. -/
theorem toOption_scanNumber (negative : Bool) :
    (scanNumber negative (numeral.text ++ rest)).toOption
      = (numeral.value? negative).map (·, rest) := by
  obtain ⟨whole, fraction, exponent⟩ := numeral
  have behind := endsDigits_whole formed ends
  obtain ⟨nonempty, all⟩ := formed.whole
  have zero := formed.zero
  obtain ⟨b, more, rfl⟩ := List.exists_cons_of_ne_nil nonempty
  simp only at behind zero
  generalize same : fractionText fraction ++ exponentText exponent ++ rest = after at behind
  have shape : Numeral.text ⟨b :: more, fraction, exponent⟩ ++ rest = b :: (more ++ after) := by
    simp [text, ← same]
  -- The scanner takes the digits of the whole part, be it a zero or a run of digits.
  obtain ⟨taken, left⟩ := takeWhile_of_digits (List.forall_mem_cons.mp all).2 behind
  have front : (if b = 0x30 then [b] else b :: (more ++ after).takeWhile isDigitByte)
      = b :: more := by
    split
    next isZero => rw [zero (by rw [isZero]; rfl), isZero]
    · rw [taken]
  have later : (if b = 0x30 then more ++ after else (more ++ after).dropWhile isDigitByte)
      = after := by
    split
    next isZero =>
      have single := zero (by rw [isZero]; rfl)
      rw [(List.cons.inj single).2, List.nil_append]
    · exact left
  have clean : ¬ (b = 0x30 ∧ after.head?.any isDigitByte = true) := by
    rintro ⟨_, digit⟩
    obtain ⟨next, member, digit⟩ := (Option.any_eq_true ..).mp digit
    rw [behind next member] at digit
    cases digit
  rw [shape, scanNumber]
  simp only [all b List.mem_cons_self, if_true, front, later, clean, if_false]
  -- From here on the parts that are there decide which scanner goes on.
  cases fraction with
  | some digits =>
    have powerEnds : EndsPower exponent rest := fun b member =>
      ⟨(ends b member).1, (ends b member).2.1⟩
    rw [fractionText, List.append_assoc] at same
    subst same
    exact toOption_scanFraction negative _ (formed.fraction digits rfl) _ formed.exponent powerEnds
  | none =>
    cases exponent with
    | some part =>
      have exponentEnds : EndsDigits rest := fun b member => (ends b member).1
      have read := toOption_scanExponent negative (absorb 0 (b :: more)).1
        (absorb 0 (b :: more)).2.length (formed.exponent part rfl) exponentEnds
      have begins := (formed.exponent part rfl).letter
      rw [fractionText, List.nil_append, exponentText, List.cons_append, List.append_assoc] at same
      subst same
      simp only [value?, Option.isNone_some, Bool.false_eq_true, and_false, if_false]
      rw [← read]
      rcases begins with letter | letter <;> rw [letter] <;> rfl
    | none =>
      rw [fractionText, exponentText, List.nil_append, List.nil_append] at same
      subst same
      simp only [value?, Option.isNone_none, and_true]
      split
      next => cases (ends _ rfl).2.2 rfl rfl rfl
      next b more _ =>
        rw [if_neg (by have := (ends b rfl).2.1 rfl; simp [this])]
        split
        · rfl
        · exact toOption_floatOf ..
      · split
        · rfl
        · exact toOption_floatOf ..

end Numeral

/-! ## What is taken is a literal -/

/-- Digits that come next, up to the first byte that is none. -/
theorem exists_digits {b : UInt8} (digit : isDigitByte b = true) (input : List UInt8) :
    ∃ digits rest, b :: input = digits ++ rest ∧ IsDigits digits ∧ EndsDigits rest := by
  refine ⟨b :: input.takeWhile isDigitByte, input.dropWhile isDigitByte, ?_, ⟨by simp, ?_⟩,
    endsDigits_dropWhile input⟩
  · rw [List.cons_append, List.takeWhile_append_dropWhile]
  · rw [List.forall_mem_cons]
    exact ⟨digit, List.all_eq_true.mp List.all_takeWhile⟩

section

variable {negative : Bool} {significand : Nat} {power : Int} {input : List UInt8}
  {found : Json × List UInt8}

theorem exists_exponent {letter : UInt8} (isLetter : letter = 0x65 ∨ letter = 0x45)
    (ok : scanExponent negative significand power input = .ok found) :
    ∃ exponent rest, exponent.WellFormed ∧ EndsDigits rest
      ∧ letter :: input = exponentText (some exponent) ++ rest := by
  unfold scanExponent at ok
  split at ok
  next minus digits taken =>
  match digits with
  | [] => cases ok
  | b :: more =>
    cases digit : isDigitByte b with
    | false => simp [digit] at ok
    | true =>
      obtain ⟨digits, rest, split, isDigits, ends⟩ := exists_digits digit more
      rw [split] at taken
      split at taken
      next input =>
        cases taken
        exact ⟨⟨letter, some false, digits⟩, rest, ⟨isLetter, isDigits⟩, ends, by
          simp [exponentText, Exponent.sign]⟩
      next input =>
        cases taken
        exact ⟨⟨letter, some true, digits⟩, rest, ⟨isLetter, isDigits⟩, ends, by
          simp [exponentText, Exponent.sign]⟩
      · cases taken
        exact ⟨⟨letter, none, digits⟩, rest, ⟨isLetter, isDigits⟩, ends, by
          simp [exponentText, Exponent.sign]⟩

theorem exists_power (behind : EndsDigits input)
    (ok : scanPower negative significand power input = .ok found) :
    ∃ exponent rest, (∀ part ∈ exponent, part.WellFormed)
      ∧ EndsPower exponent rest
      ∧ input = exponentText exponent ++ rest := by
  unfold scanPower at ok
  split at ok
  next b more =>
    split at ok
    next letter =>
      obtain ⟨exponent, rest, formed, ends, split⟩ := exists_exponent letter ok
      refine ⟨some exponent, rest, ?_, fun b member => ⟨ends b member, nofun⟩, split⟩
      rintro part ⟨⟩
      exact formed
    next other =>
      rw [not_or] at other
      refine ⟨none, b :: more, nofun, ?_, rfl⟩
      rintro c ⟨⟩
      exact ⟨behind b rfl, fun _ => other⟩
  · exact ⟨none, [], nofun, nofun, rfl⟩

theorem exists_fraction {left : Nat}
    (ok : scanFraction negative significand left input = .ok found) :
    ∃ digits exponent rest, IsDigits digits ∧ (∀ part ∈ exponent, part.WellFormed)
      ∧ EndsPower exponent rest
      ∧ input = digits ++ (exponentText exponent ++ rest) := by
  cases input with
  | nil => cases ok
  | cons b input =>
    cases digit : isDigitByte b with
    | false => simp [scanFraction, digit] at ok
    | true =>
      obtain ⟨digits, rest, split, isDigits, ends⟩ := exists_digits digit input
      obtain ⟨taken, after⟩ := takeWhile_of_digits isDigits.2 ends
      obtain ⟨c, more, rfl⟩ := List.exists_cons_of_ne_nil isDigits.1
      rw [split, scanFraction] at ok
      simp only [taken, after] at ok
      obtain ⟨exponent, rest, formed, last, rfl⟩ := exists_power ends ok
      exact ⟨_, exponent, rest, isDigits, formed, last, split⟩

/-- The whole part of a number: a zero, or all digits that come. -/
theorem exists_whole {b : UInt8} (digit : isDigitByte b = true) (input : List UInt8) :
    ∃ whole after, b :: input = whole ++ after ∧ IsDigits whole
      ∧ (whole.head? = some 0x30 → whole = [0x30])
      ∧ (¬ (b = 0x30 ∧ after.head?.any isDigitByte = true) → EndsDigits after)
      ∧ (if b = 0x30 then [b] else b :: input.takeWhile isDigitByte) = whole
      ∧ (if b = 0x30 then input else input.dropWhile isDigitByte) = after := by
  by_cases zero : b = 0x30
  · subst zero
    refine ⟨[0x30], input, rfl, ⟨by simp, by simp [isDigitByte]⟩, fun _ => rfl, ?_, rfl, rfl⟩
    intro clean c member
    cases other : isDigitByte c with
    | false => rfl
    | true =>
      rw [Option.mem_def] at member
      simp [member, other] at clean
  · refine ⟨b :: input.takeWhile isDigitByte, input.dropWhile isDigitByte, ?_, ⟨by simp, ?_⟩, ?_,
      fun _ => endsDigits_dropWhile input, if_neg zero, if_neg zero⟩
    · rw [List.cons_append, List.takeWhile_append_dropWhile]
    · rw [List.forall_mem_cons]
      exact ⟨digit, List.all_eq_true.mp List.all_takeWhile⟩
    · simp [zero]

theorem exists_numeral (ok : scanNumber negative input = .ok found) :
    ∃ (numeral : Numeral) (rest : List UInt8), numeral.WellFormed ∧ numeral.Ends rest
      ∧ input = numeral.text ++ rest := by
  cases input with
  | nil => cases ok
  | cons b input =>
    cases digit : isDigitByte b with
    | false => simp [scanNumber, digit] at ok
    | true =>
      obtain ⟨whole, after, split, isDigits, zero, stops, front, later⟩ := exists_whole digit input
      simp only [scanNumber, digit, if_true, front, later] at ok
      split at ok
      · cases ok
      next clean =>
        have ends := stops clean
        rw [split]
        split at ok
        next fraction =>
          obtain ⟨digits, exponent, rest, isFraction, formed, last, rfl⟩ := exists_fraction ok
          refine ⟨⟨whole, some digits, exponent⟩, rest, ⟨isDigits, zero, ?_, formed⟩, ?_, ?_⟩
          · rintro part ⟨⟩
            exact isFraction
          · exact fun b member => ⟨(last b member).1, (last b member).2, nofun⟩
          · simp [Numeral.text, fractionText]
        next b more other =>
          split at ok
          next letter =>
            obtain ⟨exponent, rest, formed, ends, same⟩ := exists_exponent letter ok
            refine ⟨⟨whole, none, some exponent⟩, rest, ⟨isDigits, zero, nofun, ?_⟩, ?_, ?_⟩
            · rintro part ⟨⟩
              exact formed
            · exact fun b member => ⟨ends b member, nofun, nofun⟩
            · simp [same, Numeral.text, fractionText]
          next letter =>
            rw [not_or] at letter
            refine ⟨⟨whole, none, none⟩, b :: more, ⟨isDigits, zero, nofun, nofun⟩, ?_, ?_⟩
            · rintro c ⟨⟩
              exact ⟨ends b rfl, fun _ => letter, fun _ _ => other⟩
            · simp [Numeral.text, fractionText, exponentText]
        next =>
          refine ⟨⟨whole, none, none⟩, [], ⟨isDigits, zero, nofun, nofun⟩, nofun, ?_⟩
          simp [Numeral.text, fractionText, exponentText]

end

/-- A number is read just if a literal of that value stands there, and nothing that would make it
longer. -/
theorem scanNumber_eq_ok_iff {negative : Bool} {input rest : List UInt8} {value : Json} :
    scanNumber negative input = .ok (value, rest)
      ↔ ∃ numeral : Numeral, numeral.WellFormed ∧ numeral.Ends rest ∧ input = numeral.text ++ rest
          ∧ numeral.value? negative = some value := by
  constructor
  · intro ok
    obtain ⟨numeral, after, formed, ends, rfl⟩ := exists_numeral ok
    have taken := Numeral.toOption_scanNumber formed ends negative
    rw [ok] at taken
    cases held : numeral.value? negative with
    | none => simp [held, Except.toOption] at taken
    | some other =>
      simp only [held, Except.toOption, Option.map_some, Option.some.injEq, Prod.mk.injEq] at taken
      obtain ⟨rfl, rfl⟩ := taken
      exact ⟨numeral, formed, ends, rfl, held⟩
  · rintro ⟨numeral, formed, ends, rfl, held⟩
    have taken := Numeral.toOption_scanNumber formed ends negative
    rw [held] at taken
    cases scanned : scanNumber negative (numeral.text ++ rest) with
    | error fault => simp [scanned, Except.toOption] at taken
    | ok found =>
      simp only [scanned, Except.toOption, Option.map_some, Option.some.injEq] at taken
      rw [taken]

end Gatehouse.Json
