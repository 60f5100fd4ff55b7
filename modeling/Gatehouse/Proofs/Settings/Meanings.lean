import Gatehouse.Number.Digits
import Gatehouse.Proofs.Text.Trimming
import Gatehouse.Settings.Gateway

/-!
# What texts mean

The words and numbers that settings are made of, each with the texts that mean it. A text is read as
a level, a format, a truth value or a number exactly if it is one of these.
-/
namespace Gatehouse

/-! ## Numbers -/

namespace Unsigned

/-- Digits, one at least, and the number that they spell in base ten. A plus sign may stand before
them. -/
inductive Spells : List Char → Nat → Prop
  | bare {digits : List Char} : digits ≠ [] → (∀ c ∈ digits, c.isDigit = true) →
      Spells digits (Digits.number 10 digits)
  | signed {digits : List Char} : digits ≠ [] → (∀ c ∈ digits, c.isDigit = true) →
      Spells ('+' :: digits) (Digits.number 10 digits)

theorem le_foldl_digits (text : List Char) (value : Nat) :
    value ≤ text.foldl (fun n c => n * 10 + Digits.value c) value := by
  induction text generalizing value with
  | nil => exact Nat.le_refl value
  | cons c rest ih =>
    have grows : value ≤ value * 10 + Digits.value c := by omega
    exact Nat.le_trans grows (ih _)

/-- Digits are read to their end if what they spell, put behind a value, is within the limit. -/
theorem digits_eq_ok_iff {limit value : Nat} (fits : value ≤ limit) (text : List Char) (n : Nat) :
    digits limit value text = .ok n
      ↔ (∀ c ∈ text, c.isDigit = true)
        ∧ text.foldl (fun n c => n * 10 + Digits.value c) value = n ∧ n ≤ limit := by
  induction text generalizing value with
  | nil =>
    simp only [digits, Except.ok.injEq, List.not_mem_nil, false_implies, implies_true, true_and,
      List.foldl_nil]
    exact ⟨fun same => ⟨same, same ▸ fits⟩, And.left⟩
  | cons c rest ih =>
    rw [digits, List.forall_mem_cons, List.foldl_cons]
    by_cases digit : c.isDigit = true
    · have spelled : Digits.value c = c.toNat - 48 := if_pos digit
      rw [if_pos digit, spelled]
      by_cases next : value * 10 + (c.toNat - 48) ≤ limit
      · simp only [if_pos next, ih next, digit, true_and]
      · -- Further digits only add to what is too large already.
        rw [if_neg next]
        refine ⟨fun read => (nomatch read), ?_⟩
        rintro ⟨_, rfl, small⟩
        exact absurd (Nat.le_trans (le_foldl_digits rest _) small) next
    · rw [if_neg digit]
      exact ⟨fun read => (nomatch read), fun spelled => absurd spelled.1.1 digit⟩

theorem parse_signed {text : List Char} (nonempty : text ≠ []) (limit : Nat) :
    parse limit ('+' :: text) = digits limit 0 text := by
  cases text with
  | nil => exact absurd rfl nonempty
  | cons c rest => rfl

theorem parse_bare {c : Char} (unsigned : c ≠ '+') (limit : Nat) (rest : List Char) :
    parse limit (c :: rest) = digits limit 0 (c :: rest) := by
  unfold parse
  split <;> simp_all

/-- A text is read as a number exactly if it spells one within the limit. -/
theorem parse_eq_ok_iff (limit : Nat) (text : List Char) (n : Nat) :
    parse limit text = .ok n ↔ Spells text n ∧ n ≤ limit := by
  have read := fun text => digits_eq_ok_iff (Nat.zero_le limit) text n
  constructor
  · intro parsed
    cases text with
    | nil => cases parsed
    | cons c rest =>
      -- A sign by itself is no number, so digits follow it.
      by_cases signed : c = '+'
      · subst signed
        have nonempty : rest ≠ [] := by
          rintro rfl
          cases parsed
        rw [parse_signed nonempty, read] at parsed
        obtain ⟨digits, rfl, small⟩ := parsed
        exact ⟨.signed nonempty digits, small⟩
      · rw [parse_bare signed, read] at parsed
        obtain ⟨digits, rfl, small⟩ := parsed
        exact ⟨.bare (List.cons_ne_nil c rest) digits, small⟩
  · rintro ⟨spells, small⟩
    cases spells with
    | signed nonempty digits =>
      rw [parse_signed nonempty, read]
      exact ⟨digits, rfl, small⟩
    | bare nonempty digits =>
      obtain ⟨c, rest, rfl⟩ := List.exists_cons_of_ne_nil nonempty
      have unsigned : c ≠ '+' := by
        rintro rfl
        exact absurd (digits '+' List.mem_cons_self) (by decide)
      rw [parse_bare unsigned, read]
      exact ⟨digits, rfl, small⟩

/-- A text spells one number at most. -/
theorem Spells.unique {text : List Char} {n m : Nat} (one : Spells text n) (other : Spells text m) :
    n = m := by
  have first := (parse_eq_ok_iff (max n m) text n).mpr ⟨one, Nat.le_max_left n m⟩
  have second := (parse_eq_ok_iff (max n m) text m).mpr ⟨other, Nat.le_max_right n m⟩
  rw [first] at second
  exact Except.ok.inj second

theorem Spells.eq_zero_iff {text : List Char} {n : Nat} (spells : Spells text n) :
    n = 0 ↔ Spells text 0 := ⟨fun same => same ▸ spells, spells.unique⟩

end Unsigned

theorem Span.isZero_ofMillis (n : Nat) : (Span.ofMillis n).isZero = true ↔ n = 0 := by
  rw [ofMillis, ofParts]
  split
  next =>
    simp only [isZero, Bool.and_eq_true, beq_iff_eq]
    omega
  next large =>
    -- So many seconds count as the longest span, which is not zero either.
    refine iff_of_false (by decide) ?_
    omega

/-! ## Words -/

/-- The words that mean a level. -/
def Level.words : Level → List String
  | .error => ["error"]
  | .warn => ["warn", "warning"]
  | .info => ["info", "log"]
  | .http => ["http"]
  | .debug => ["debug"]
  | .verbose => ["verbose", "trace"]

def LogFormat.words : LogFormat → List String
  | .pretty => ["pretty", "text"]
  | .json => ["json"]

theorem Level.ofName?_eq_some_iff (text : String) (level : Level) :
    ofName? text = some level ↔ text ∈ level.words := by
  constructor
  · unfold ofName?
    split <;> rintro ⟨⟩ <;> simp [words]
  · revert text
    cases level <;> decide

theorem LogFormat.ofName?_eq_some_iff (text : String) (format : LogFormat) :
    ofName? text = some format ↔ text ∈ format.words := by
  constructor
  · unfold ofName?
    split <;> rintro ⟨⟩ <;> simp [words]
  · revert text
    cases format <;> decide

namespace GatewaySettings

/-- The words that mean a truth value. -/
def wordsOf : Bool → List String
  | true => ["true", "1", "yes"]
  | false => ["false", "0", "no"]

theorem levelOf_eq_ok_iff (text : String) (level : Level) :
    levelOf text = .ok level ↔ Text.lowered (Text.trimmed text) ∈ level.words := by
  rw [← Level.ofName?_eq_some_iff, levelOf, Level.parse?]
  cases Level.ofName? (Text.lowered (Text.trimmed text)) <;> simp

theorem formatOf_eq_ok_iff (text : String) (format : LogFormat) :
    formatOf text = .ok format ↔ Text.lowered (Text.trimmed text) ∈ format.words := by
  rw [← LogFormat.ofName?_eq_some_iff, formatOf, LogFormat.parse?, LogFormat.simplified]
  cases LogFormat.ofName? (Text.lowered (Text.trimmed text)) <;> simp

theorem boolOf_eq_ok_iff (text : String) (value : Bool) :
    boolOf text = .ok value ↔ Text.lowered text ∈ wordsOf value := by
  have apart : Text.lowered text ∈ wordsOf true → Text.lowered text ∉ wordsOf false := by
    intro isTrue isFalse
    simp only [wordsOf, List.mem_cons, List.not_mem_nil, or_false] at isTrue isFalse
    rcases isTrue with same | same | same <;> simp [same] at isFalse
  by_cases isTrue : Text.lowered text ∈ wordsOf true
  · have read : boolOf text = .ok true := if_pos (List.contains_iff_mem.mpr isTrue)
    rw [read]
    cases value <;> simp [isTrue, apart isTrue]
  have notTrue := mt List.contains_iff_mem.mp isTrue
  by_cases isFalse : Text.lowered text ∈ wordsOf false
  · have read : boolOf text = .ok false :=
      (if_neg notTrue).trans (if_pos (List.contains_iff_mem.mpr isFalse))
    rw [read]
    cases value <;> simp [isTrue, isFalse]
  · obtain ⟨reason, read⟩ : ∃ reason, boolOf text = .error reason :=
      ⟨_, (if_neg notTrue).trans (if_neg (mt List.contains_iff_mem.mp isFalse))⟩
    rw [read]
    cases value <;> simp [isTrue, isFalse]

theorem numberOf_eq_ok_iff (limit : Nat) (text : String) (n : Nat) :
    numberOf limit text = .ok n ↔ Unsigned.Spells text.toList n ∧ n ≤ limit := by
  rw [← Unsigned.parse_eq_ok_iff, numberOf]
  cases Unsigned.parse limit text.toList <;> simp

theorem millisOf_eq_ok_iff (text : String) (span : Span) :
    millisOf text = .ok span
      ↔ ∃ n, Unsigned.Spells text.toList n ∧ n ≤ longNumber ∧ span = Span.ofMillis n := by
  simp only [← and_assoc, ← numberOf_eq_ok_iff]
  rw [millisOf]
  cases numberOf longNumber text with
  | error reason => simp [Except.map]
  | ok n => simp [Except.map, eq_comm]

end GatewaySettings

end Gatehouse
