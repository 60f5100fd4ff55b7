import Gatehouse.Json.Scan
import Gatehouse.Proofs.Text.Utf8

/-!
# What strings look like

A string is made of plain bytes and escapes, and it spells a text if what they mean is well-formed.
The scanner of strings takes exactly such literals: where it finds an end, the bytes before it have
a meaning, and each literal is taken whatever follows its closing quote.
-/
namespace Gatehouse.Json

/-- Whether a byte stands for itself within a string. -/
def isPlainByte (b : UInt8) : Bool := b != 0x22 && b != 0x5C && !decide (b < 0x20)

theorem step_plain {b : UInt8} (plain : isPlainByte b = true) :
    TextState.plain.step b = .more .plain [b] := by
  simp only [isPlainByte, Bool.and_eq_true, bne_iff_ne, ne_eq, Bool.not_eq_true',
    decide_eq_false_iff_not] at plain
  simp only [TextState.step, plain, if_false]

/-- The value of hexadecimal digits. -/
def hexValue? (digits : List UInt8) : Option Nat :=
  digits.foldl (fun value b => value.bind fun v => (Hex.value? b).map fun d => v * 16 + d) (some 0)

/-- What the bytes between two quotes mean: plain bytes themselves, and escapes a byte or the bytes
of a character. A character beyond 16 bits is escaped as a pair of surrogates, which mean nothing
by themselves. -/
inductive SpellsBytes : List UInt8 → List UInt8 → Prop
  | nil : SpellsBytes [] []
  | plain {b : UInt8} {raw meant : List UInt8} : isPlainByte b = true → SpellsBytes raw meant →
      SpellsBytes (b :: raw) (b :: meant)
  | short {letter c : UInt8} {raw meant : List UInt8} : shortEscape? letter = some c →
      SpellsBytes raw meant → SpellsBytes (0x5C :: letter :: raw) (c :: meant)
  | unit {digits : List UInt8} {value : Nat} {raw meant : List UInt8} : digits.length = 4 →
      hexValue? digits = some value → isLeading value = false → isTrailing value = false →
      SpellsBytes raw meant →
      SpellsBytes (0x5C :: 0x75 :: (digits ++ raw))
        (String.utf8EncodeChar (Char.ofNat value) ++ meant)
  | pair {digits partner : List UInt8} {leading trailing : Nat} {raw meant : List UInt8} :
      digits.length = 4 → hexValue? digits = some leading → isLeading leading = true →
      partner.length = 4 → hexValue? partner = some trailing → isTrailing trailing = true →
      SpellsBytes raw meant →
      SpellsBytes (0x5C :: 0x75 :: (digits ++ 0x5C :: 0x75 :: (partner ++ raw)))
        (String.utf8EncodeChar (Char.ofNat (pairValue leading trailing)) ++ meant)

/-- Whether bytes between two quotes spell a text. -/
def SpellsText (raw : List UInt8) (text : String) : Prop := SpellsBytes raw (bytesOf text)

/-- Four digits are a code unit. -/
theorem textBytes_unit {digits : List UInt8} (four : digits.length = 4) (leading : Option Nat)
    (done rest : List UInt8) :
    textBytes (.hex leading 0 (some 0)) done (digits ++ rest)
      = match (hexValue? digits).elim (.fail .badEscape) (unitStep leading) with
        | .more state bytes => textBytes state (bytes.reverse ++ done) rest
        | .close => .ok (done.reverse, rest)
        | .fail cause => .error (.before cause rest) := by
  match digits with
  | [a, b, c, d] =>
    simp only [List.cons_append, List.nil_append, textBytes, TextState.step, hexValue?,
      List.foldl_cons, List.foldl_nil]
    rfl

/-- A string that ends has four bytes where a code unit begins. -/
theorem exists_unit {leading : Option Nat} {done input : List UInt8} {found : List UInt8 × List UInt8}
    (read : textBytes (.hex leading 0 (some 0)) done input = .ok found) :
    ∃ digits rest, digits.length = 4 ∧ input = digits ++ rest := by
  match input with
  | a :: b :: c :: d :: rest => exact ⟨[a, b, c, d], rest, rfl, rfl⟩
  | [] | [_] | [_, _] | [_, _, _] => simp [textBytes, TextState.step] at read

theorem not_isTrailing_of_isLeading {unit : Nat} (leading : isLeading unit = true) :
    isTrailing unit = false := by
  simp only [isLeading, Bool.and_eq_true, decide_eq_true_eq] at leading
  simp only [isTrailing, Bool.and_eq_false_iff, decide_eq_false_iff_not]
  omega

/-- The bytes of a string are read as what they mean, up to the closing quote. -/
theorem SpellsBytes.textBytes {raw meant : List UInt8} (spells : SpellsBytes raw meant)
    (done rest : List UInt8) :
    textBytes .plain done (raw ++ 0x22 :: rest) = .ok (done.reverse ++ meant, rest) := by
  -- A backslash leaves the plain bytes for the state that its escape is read in.
  have escape : ∀ done input, Json.textBytes .plain done (0x5C :: input)
      = Json.textBytes .escape done input := fun _ _ => rfl
  have unit : ∀ done input, Json.textBytes .escape done (0x75 :: input)
      = Json.textBytes (.hex none 0 (some 0)) done input := fun _ _ => rfl
  have partner : ∀ leading done input,
      Json.textBytes (.partnerSlash leading) done (0x5C :: 0x75 :: input)
        = Json.textBytes (.hex (some leading) 0 (some 0)) done input := fun _ _ _ => rfl
  induction spells generalizing done with
  | nil => simp [Json.textBytes, TextState.step]
  | plain plain _ ih =>
    rw [List.cons_append, Json.textBytes, step_plain plain]
    simp [ih]
  | short found _ ih =>
    rw [List.cons_append, List.cons_append, escape, Json.textBytes]
    simp [TextState.step, found, ih]
  | unit four value notLeading notTrailing _ ih =>
    rw [List.cons_append, List.cons_append, escape, unit, List.append_assoc, textBytes_unit four,
      value]
    simp only [Option.elim_some, unitStep, notLeading, notTrailing, Bool.false_eq_true, if_false]
    rw [ih, List.reverse_append, List.reverse_reverse, List.append_assoc]
  | pair four value isLeading fourMore valueMore isTrailing _ ih =>
    have notTrailing := not_isTrailing_of_isLeading isLeading
    rw [List.cons_append, List.cons_append, escape, unit, List.append_assoc, textBytes_unit four,
      value]
    simp only [Option.elim_some, unitStep, isLeading, notTrailing, Bool.false_eq_true, if_false,
      if_true, List.reverse_nil, List.nil_append, List.cons_append]
    rw [partner, List.append_assoc, textBytes_unit fourMore, valueMore]
    simp only [Option.elim_some, unitStep, isTrailing, if_true]
    rw [ih, List.reverse_append, List.reverse_reverse, List.append_assoc]

/-- What an escape takes, and what it means in front of what follows. -/
structure Escapes (piece meant : List UInt8) : Prop where
  some : 0 < piece.length
  spells : ∀ {raw more}, SpellsBytes raw more → SpellsBytes (0x5C :: (piece ++ raw)) (meant ++ more)

theorem exists_partner {leading : Nat} {done input bytes rest : List UInt8}
    (read : textBytes (.partnerSlash leading) done input = .ok (bytes, rest)) :
    ∃ digits trailing more, digits.length = 4 ∧ hexValue? digits = some trailing
      ∧ isTrailing trailing = true ∧ input = 0x5C :: 0x75 :: (digits ++ more)
      ∧ textBytes .plain ((String.utf8EncodeChar (Char.ofNat (pairValue leading trailing))).reverse
          ++ done) more = .ok (bytes, rest) := by
  match input with
  | [] => cases read
  | [b] => by_cases slash : b = 0x5C <;> simp [textBytes, TextState.step, slash] at read
  | b :: letter :: input =>
    have slash : b = 0x5C := by
      by_contra other
      simp [textBytes, TextState.step, other] at read
    subst slash
    have isLetter : letter = 0x75 := by
      by_contra other
      simp [textBytes, TextState.step, other] at read
    subst isLetter
    have begins : textBytes (.hex (some leading) 0 (some 0)) done input = .ok (bytes, rest) := read
    obtain ⟨digits, more, four, rfl⟩ := exists_unit begins
    rw [textBytes_unit four] at begins
    cases value : hexValue? digits with
    | none => simp [value] at begins
    | some trailing =>
      cases isTrailing : isTrailing trailing with
      | false => simp [value, unitStep, isTrailing] at begins
      | true =>
        simp only [value, Option.elim_some, unitStep, isTrailing, if_true] at begins
        exact ⟨digits, trailing, more, four, value, isTrailing, rfl, begins⟩

theorem exists_escape {done input bytes rest : List UInt8}
    (read : textBytes .escape done input = .ok (bytes, rest)) :
    ∃ piece meant more, Escapes piece meant ∧ input = piece ++ more
      ∧ textBytes .plain (meant.reverse ++ done) more = .ok (bytes, rest) := by
  match input with
  | [] => cases read
  | letter :: input =>
    cases found : shortEscape? letter with
    | some c =>
      refine ⟨[letter], [c], input, ⟨Nat.one_pos, .short found⟩, rfl, ?_⟩
      simpa [textBytes, TextState.step, found] using read
    | none =>
      have isLetter : letter = 0x75 := by
        by_contra other
        simp [textBytes, TextState.step, found, other] at read
      subst isLetter
      have begins : textBytes (.hex none 0 (some 0)) done input = .ok (bytes, rest) := read
      obtain ⟨digits, more, four, rfl⟩ := exists_unit begins
      rw [textBytes_unit four] at begins
      cases value : hexValue? digits with
      | none => simp [value] at begins
      | some unit =>
        cases isTrailing : isTrailing unit with
        | true => simp [value, unitStep, isTrailing] at begins
        | false =>
          cases isLeading : isLeading unit with
          | false =>
            simp only [value, Option.elim_some, unitStep, isTrailing, isLeading,
              Bool.false_eq_true, if_false] at begins
            refine ⟨0x75 :: digits, _, more, ⟨Nat.succ_pos _, fun spells => ?_⟩, rfl, begins⟩
            exact .unit four value isLeading isTrailing spells
          | true =>
            simp only [value, Option.elim_some, unitStep, isTrailing, isLeading,
              Bool.false_eq_true, if_false, if_true] at begins
            obtain ⟨partner, trailing, after, fourMore, valueMore, isTrailing, rfl, goesOn⟩ :=
              exists_partner begins
            refine ⟨0x75 :: (digits ++ 0x5C :: 0x75 :: partner), _, after,
              ⟨Nat.succ_pos _, fun spells => ?_⟩, by simp, goesOn⟩
            have spells := SpellsBytes.pair four value isLeading fourMore valueMore isTrailing spells
            simpa using spells

/-- Where a string ends, its bytes have a meaning, and that is what was read. -/
theorem exists_spelling {done input bytes rest : List UInt8}
    (read : textBytes .plain done input = .ok (bytes, rest)) :
    ∃ raw meant, SpellsBytes raw meant ∧ input = raw ++ 0x22 :: rest
      ∧ bytes = done.reverse ++ meant := by
  -- On the length: an escape is taken whole, so the rest is no tail that a structural step reaches.
  match input with
  | [] => cases read
  | b :: input =>
    by_cases quote : b = 0x22
    · subst quote
      cases read
      exact ⟨[], [], .nil, rfl, by simp⟩
    · by_cases slash : b = 0x5C
      · subst slash
        have begins : textBytes .escape done input = .ok (bytes, rest) := read
        obtain ⟨piece, means, more, escapes, rfl, goesOn⟩ := exists_escape begins
        have shorter : more.length < (0x5C :: (piece ++ more)).length := by
          have some := escapes.some
          rw [List.length_cons, List.length_append]
          omega
        obtain ⟨raw, meant, spells, rfl, rfl⟩ := exists_spelling goesOn
        exact ⟨_, _, escapes.spells spells, by simp, by simp⟩
      · have plain : isPlainByte b = true := by
          by_contra control
          simp_all [isPlainByte, textBytes, TextState.step]
        rw [textBytes, step_plain plain] at read
        obtain ⟨raw, meant, spells, rfl, rfl⟩ := exists_spelling read
        exact ⟨_, _, .plain plain spells, rfl, by simp⟩
termination_by input.length

/-- A string is read as a text just if its bytes spell that text. -/
theorem scanText_eq_ok_iff {input rest : List UInt8} {text : String} :
    scanText input = .ok (text, rest) ↔ ∃ raw, SpellsText raw text ∧ input = raw ++ 0x22 :: rest := by
  constructor
  · intro read
    unfold scanText at read
    split at read
    · cases read
    next bytes rest taken =>
      obtain ⟨raw, meant, spells, rfl, rfl⟩ := exists_spelling taken
      split at read
      next text decoded =>
        cases read
        rw [Utf8.decode?_eq_some_iff] at decoded
        refine ⟨raw, ?_, rfl⟩
        rw [SpellsText, bytesOf, String.toList_ofList, ← decoded]
        exact spells
      · cases read
  · rintro ⟨raw, spells, rfl⟩
    have read := SpellsBytes.textBytes spells [] rest
    rw [scanText, read]
    simp only [List.reverse_nil, List.nil_append, bytesOf, Utf8.decode?_encode, String.ofList_toList]

end Gatehouse.Json
