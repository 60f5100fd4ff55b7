import Gatehouse.Json.Reader
import Gatehouse.Proofs.Json.Numerals
import Gatehouse.Proofs.Json.Spelling

/-!
# What documents look like

A document is one value with blanks around it. Values are words, strings, numbers, and lists of
values or of fields, which nest as deep as the reader goes. The reader takes exactly the documents,
each with the one value that it spells: that a reader of items is exact makes the reader of their
lists exact, and so by the depth that is left all readers of values are.
-/
namespace Gatehouse.Json

/-! ## The grammar -/

def AreBlanks (bytes : List UInt8) : Prop := ∀ b ∈ bytes, isBlankByte b = true

/-- The values that nothing nests in. -/
inductive SpellsScalar : List UInt8 → Json → Prop
  | null : SpellsScalar (0x6E :: nullTail) .null
  | true : SpellsScalar (0x74 :: trueTail) (.bool true)
  | false : SpellsScalar (0x66 :: falseTail) (.bool false)
  | string {raw : List UInt8} {text : String} : SpellsText raw text →
      SpellsScalar (0x22 :: (raw ++ [0x22])) (.string text)
  | positive {numeral : Numeral} {value : Json} : numeral.WellFormed →
      numeral.value? false = some value → SpellsScalar numeral.text value
  | negative {numeral : Numeral} {value : Json} : numeral.WellFormed →
      numeral.value? true = some value → SpellsScalar (0x2D :: numeral.text) value

section

variable {α : Type} (part : List UInt8 → α → Prop) (bracket : UInt8)

/-- What stands behind a part of a list: its bracket, or a comma and further parts. -/
inductive SpellsTail : List UInt8 → List α → Prop
  | close {blanks : List UInt8} : AreBlanks blanks → SpellsTail (blanks ++ [bracket]) []
  | comma {blanks before text tail : List UInt8} {value : α} {values : List α} :
      AreBlanks blanks → AreBlanks before → part text value → SpellsTail tail values →
      SpellsTail (blanks ++ 0x2C :: (before ++ (text ++ tail))) (value :: values)

/-- A list behind its opening bracket, with commas between its parts. -/
inductive SpellsList : List UInt8 → List α → Prop
  | empty {blanks : List UInt8} : AreBlanks blanks → SpellsList (blanks ++ [bracket]) []
  | parts {before text tail : List UInt8} {value : α} {values : List α} :
      AreBlanks before → part text value → SpellsTail part bracket tail values →
      SpellsList (before ++ (text ++ tail)) (value :: values)

/-- A key, a colon and a value. -/
inductive SpellsField : List UInt8 → String × α → Prop
  | field {raw before after text : List UInt8} {key : String} {value : α} : SpellsText raw key →
      AreBlanks before → AreBlanks after → part text value →
      SpellsField (0x22 :: (raw ++ 0x22 :: (before ++ 0x3A :: (after ++ text)))) (key, value)

end

/-- A list of items or fields. Of two fields with one key the later one counts. -/
inductive SpellsNested (item : List UInt8 → Json → Prop) : List UInt8 → Json → Prop
  | array {text : List UInt8} {items : List Json} : SpellsList item 0x5D text items →
      SpellsNested item (0x5B :: text) (.array items)
  | object {text : List UInt8} {fields : List (String × Json)} :
      SpellsList (SpellsField item) 0x7D text fields →
      SpellsNested item (0x7B :: text) (ofPairs fields)

/-- A value whose lists nest at most so deep. -/
def Spells : Nat → List UInt8 → Json → Prop
  | 0, text, value => SpellsScalar text value
  | depth + 1, text, value => SpellsScalar text value ∨ SpellsNested (Spells depth) text value

/-- A text that is one part of a grammar with blanks around it. -/
def StandsAlone {α : Type} (part : List UInt8 → α → Prop) (text : List UInt8) (value : α) : Prop :=
  ∃ before core after, AreBlanks before ∧ part core value ∧ AreBlanks after
    ∧ text = before ++ (core ++ after)

/-- A text that is one value. Lists that nest deeper than the reader goes, and numbers that are too
large for it, are none. -/
def IsDocument : List UInt8 → Json → Prop := StandsAlone (Spells depthLimit)

/-! ## Blanks and words -/

theorem areBlanks_nil : AreBlanks [] := by nofun

theorem skipBlanks_append {blanks : List UInt8} (all : AreBlanks blanks) (rest : List UInt8) :
    skipBlanks (blanks ++ rest) = skipBlanks rest :=
  List.dropWhile_append_of_pos all

theorem skipBlanks_cons {b : UInt8} (other : isBlankByte b = false) (rest : List UInt8) :
    skipBlanks (b :: rest) = b :: rest :=
  List.dropWhile_cons_of_neg (by simp [other])

theorem exists_blanks (input : List UInt8) :
    ∃ blanks, AreBlanks blanks ∧ input = blanks ++ skipBlanks input :=
  ⟨input.takeWhile isBlankByte, List.all_eq_true.mp List.all_takeWhile,
    List.takeWhile_append_dropWhile.symm⟩

/-- What a value begins with: no blank, and no closing bracket. -/
def OpensValue (text : List UInt8) : Prop :=
  ∃ b rest, text = b :: rest ∧ isBlankByte b = false ∧ b ≠ 0x5D

theorem OpensValue.append {text : List UInt8} (opens : OpensValue text) (more : List UInt8) :
    OpensValue (text ++ more) := by
  obtain ⟨b, rest, rfl, blank, bracket⟩ := opens
  exact ⟨b, rest ++ more, rfl, blank, bracket⟩

theorem skipBlanks_of_opens {text : List UInt8} (opens : OpensValue text) :
    skipBlanks text = text := by
  obtain ⟨b, rest, rfl, blank, _⟩ := opens
  exact skipBlanks_cons blank rest

theorem word_eq_ok_iff {letters input rest : List UInt8} :
    word letters input = .ok rest ↔ input = letters ++ rest := by
  induction letters generalizing input with
  | nil => simp [word]
  | cons letter letters ih =>
    cases input with
    | nil => simp [word]
    | cons b input =>
      rw [word, List.cons_append, List.cons.injEq]
      split
      next same => simp [same, ih]
      next other => simp [other]

/-! ## Lists -/

/-- Whether a value may be over: nothing follows, or a blank, a comma or a closing bracket. -/
def Follows (rest : List UInt8) : Prop :=
  ∀ b ∈ rest.head?, isBlankByte b = true ∨ b = 0x2C ∨ b = 0x5D ∨ b = 0x7D

/-- Whether a reader takes exactly the texts of a grammar, each with its value. -/
structure ReadsExactly {α : Type} (read : List UInt8 → Scanned α) (part : List UInt8 → α → Prop) :
    Prop where
  sound : ∀ {input value rest}, read input = .ok (value, rest) →
    ∃ before text, AreBlanks before ∧ part text value ∧ input = before ++ (text ++ rest)
  complete : ∀ {before text value rest}, AreBlanks before → part text value → Follows rest →
    read (before ++ (text ++ rest)) = .ok (value, rest)
  opens : ∀ {text value}, part text value → OpensValue text

section

variable {α : Type} {read : List UInt8 → Scanned α} {part : List UInt8 → α → Prop}

theorem follows_tail {bracket : UInt8} (closes : bracket = 0x5D ∨ bracket = 0x7D)
    {text : List UInt8} {values : List α} (tail : SpellsTail part bracket text values)
    (rest : List UInt8) : Follows (text ++ rest) := by
  cases tail with
  | @close blanks all =>
    cases blanks with
    | nil => rintro b ⟨⟩; exact .inr (.inr closes)
    | cons b blanks => rintro c ⟨⟩; exact .inl (all b List.mem_cons_self)
  | @comma blanks _ _ _ _ _ all =>
    cases blanks with
    | nil => rintro b ⟨⟩; exact .inr (.inl rfl)
    | cons b blanks => rintro c ⟨⟩; exact .inl (all b List.mem_cons_self)

/-- Each part of a list takes a comma at least. -/
theorem length_lt_tail {bracket : UInt8} {text : List UInt8} {values : List α}
    (tail : SpellsTail part bracket text values) : values.length < text.length := by
  induction tail with
  | close => simp
  | comma _ _ _ _ ih =>
    simp only [List.length_append, List.length_cons]
    omega

theorem itemsAfter_sound (exact : ReadsExactly read part) {budget : Nat} {done values : List α}
    {input rest : List UInt8} (ok : itemsAfter read budget done input = .ok (values, rest)) :
    ∃ text more, SpellsTail part 0x5D text more ∧ values = done.reverse ++ more
      ∧ input = text ++ rest := by
  induction budget generalizing done input with
  | zero => cases ok
  | succ budget ih =>
    obtain ⟨blanks, all, split⟩ := exists_blanks input
    rw [itemsAfter] at ok
    split at ok
    · cases ok
    next after same =>
      cases ok
      exact ⟨blanks ++ [0x5D], [], .close all, by simp, by rw [split, same]; simp⟩
    next after same =>
      obtain ⟨before, allBefore, next⟩ := exists_blanks after
      split at ok
      · cases ok
      · cases ok
      · split at ok
        · cases ok
        next value later item =>
          obtain ⟨more, text, allMore, spells, shape⟩ := exact.sound item
          obtain ⟨tail, values, ends, rfl, rfl⟩ := ih ok
          have lead : AreBlanks (before ++ more) := List.forall_mem_append.mpr ⟨allBefore, allMore⟩
          refine ⟨_, value :: values, .comma all lead spells ends, by simp, ?_⟩
          rw [split, same, next, shape]
          simp
    · cases ok

/-- A comma and a part, with blanks in front of both. -/
theorem itemsAfter_comma {blanks before next rest : List UInt8} {value : α} (all : AreBlanks blanks)
    (allBefore : AreBlanks before) (opens : OpensValue next)
    (found : read next = .ok (value, rest)) (budget : Nat) (done : List α) :
    itemsAfter read (budget + 1) done (blanks ++ 0x2C :: (before ++ next))
      = itemsAfter read budget (value :: done) rest := by
  have comma : skipBlanks (blanks ++ 0x2C :: (before ++ next)) = 0x2C :: (before ++ next) :=
    skipBlanks_append all _
  have kept : skipBlanks (before ++ next) = next :=
    (skipBlanks_append allBefore next).trans (skipBlanks_of_opens opens)
  -- The first byte of a value tells it from the end of the list.
  obtain ⟨b, tail, rfl, blank, bracket⟩ := opens
  simp only [itemsAfter, comma, kept]
  split
  next same => cases same
  next same => exact absurd (List.cons.inj same).1 bracket
  · rw [found]

theorem itemsAfter_complete (exact : ReadsExactly read part) {text : List UInt8} {values : List α}
    (tail : SpellsTail part 0x5D text values) {budget : Nat} (enough : values.length < budget)
    (done : List α) (rest : List UInt8) :
    itemsAfter read budget done (text ++ rest) = .ok (done.reverse ++ values, rest) := by
  -- On the derivation; each part costs one of the budget, and the bracket the last one.
  induction tail generalizing budget done with
  | @close blanks all =>
    obtain ⟨less, rfl⟩ : ∃ less, budget = less + 1 := ⟨budget - 1, by omega⟩
    have bracket : skipBlanks (blanks ++ 0x5D :: rest) = 0x5D :: rest := skipBlanks_append all _
    rw [itemsAfter, List.append_assoc, List.singleton_append, bracket, List.append_nil]
    rfl
  | @comma blanks before text tail value values all allBefore spells more ih =>
    rw [List.length_cons] at enough
    obtain ⟨less, rfl⟩ : ∃ less, budget = less + 1 := ⟨budget - 1, by omega⟩
    have found := exact.complete areBlanks_nil spells (follows_tail (.inl rfl) more rest)
    have shape : blanks ++ 0x2C :: (before ++ (text ++ tail)) ++ rest
        = blanks ++ 0x2C :: (before ++ (text ++ (tail ++ rest))) := by simp
    rw [shape, itemsAfter_comma all allBefore ((exact.opens spells).append _) found,
      ih (by omega), List.reverse_cons, List.append_assoc]
    rfl

/-- The items of an array are exactly those that its text spells. -/
theorem items_eq_ok_iff (exact : ReadsExactly read part) {input rest : List UInt8}
    {values : List α} :
    items read input = .ok (values, rest)
      ↔ ∃ text, SpellsList part 0x5D text values ∧ input = text ++ rest := by
  constructor
  · intro ok
    obtain ⟨blanks, all, split⟩ := exists_blanks input
    unfold items at ok
    split at ok
    · cases ok
    next after same =>
      cases ok
      exact ⟨_, .empty all, by rw [split, same]; simp⟩
    · split at ok
      · cases ok
      next value later item =>
        obtain ⟨more, text, allMore, spells, shape⟩ := exact.sound item
        obtain ⟨tail, values, ends, rfl, rfl⟩ := itemsAfter_sound exact ok
        have lead : AreBlanks (blanks ++ more) := List.forall_mem_append.mpr ⟨all, allMore⟩
        refine ⟨_, .parts lead spells ends, ?_⟩
        rw [split, shape]
        simp
  · rintro ⟨text, list, rfl⟩
    cases list with
    | @empty blanks all =>
      have bracket : skipBlanks (blanks ++ 0x5D :: rest) = 0x5D :: rest := skipBlanks_append all _
      rw [items, List.append_assoc, List.singleton_append, bracket]
      rfl
    | @parts before text tail value values all spells more =>
      have found := exact.complete areBlanks_nil spells (follows_tail (.inl rfl) more rest)
      have opens := (exact.opens spells).append (tail ++ rest)
      have kept : skipBlanks (before ++ (text ++ (tail ++ rest))) = text ++ (tail ++ rest) :=
        (skipBlanks_append all _).trans (skipBlanks_of_opens opens)
      -- The budget is a byte count, and no part is without a byte of its own.
      have enough : values.length < (before ++ (text ++ (tail ++ rest))).length := by
        have least := length_lt_tail more
        simp only [List.length_append]
        omega
      have after := itemsAfter_complete exact more enough [value] rest
      have shape : before ++ (text ++ tail) ++ rest = before ++ (text ++ (tail ++ rest)) := by simp
      rw [shape, items, kept]
      obtain ⟨b, front, same, blank, bracket⟩ := opens
      rw [List.nil_append] at found
      split
      next none => simp [same] at none
      next close => simp [same, bracket] at close
      · rw [found]
        exact after

/-! ## Fields -/

theorem colon_eq_ok_iff {input rest : List UInt8} :
    colon input = .ok rest ↔ ∃ blanks, AreBlanks blanks ∧ input = blanks ++ 0x3A :: rest := by
  constructor
  · intro ok
    obtain ⟨blanks, all, split⟩ := exists_blanks input
    unfold colon at ok
    split at ok
    · cases ok
    next same =>
      cases ok
      exact ⟨blanks, all, by rw [← same]; exact split⟩
    · cases ok
  · rintro ⟨blanks, all, rfl⟩
    rw [colon, skipBlanks_append all]
    rfl

theorem firstKey_eq_ok_iff {input rest : List UInt8} {isKey : Bool} :
    firstKey input = .ok (isKey, rest)
      ↔ ∃ blanks, AreBlanks blanks
          ∧ input = blanks ++ (if isKey then 0x22 else 0x7D) :: rest := by
  constructor
  · intro ok
    obtain ⟨blanks, all, split⟩ := exists_blanks input
    unfold firstKey at ok
    split at ok
    · cases ok
    next same =>
      cases ok
      exact ⟨blanks, all, by simpa [same] using split⟩
    next same =>
      cases ok
      exact ⟨blanks, all, by simpa [same] using split⟩
    · cases ok
  · rintro ⟨blanks, all, rfl⟩
    rw [firstKey, skipBlanks_append all]
    cases isKey <;> rfl

theorem nextKey_eq_ok_iff {input rest : List UInt8} {isKey : Bool} :
    nextKey input = .ok (isKey, rest)
      ↔ ∃ blanks, AreBlanks blanks
          ∧ if isKey then
              ∃ before, AreBlanks before ∧ input = blanks ++ 0x2C :: (before ++ 0x22 :: rest)
            else input = blanks ++ 0x7D :: rest := by
  constructor
  · intro ok
    obtain ⟨blanks, all, split⟩ := exists_blanks input
    unfold nextKey at ok
    split at ok
    · cases ok
    next same =>
      cases ok
      exact ⟨blanks, all, by simpa [same] using split⟩
    next after same =>
      obtain ⟨before, allBefore, next⟩ := exists_blanks after
      split at ok
      · cases ok
      next quote =>
        cases ok
        exact ⟨blanks, all, before, allBefore, by rw [← quote, ← next, ← same]; exact split⟩
      · cases ok
      · cases ok
    · cases ok
  · rintro ⟨blanks, all, shape⟩
    cases isKey with
    | false =>
      have shape : input = blanks ++ 0x7D :: rest := shape
      rw [shape, nextKey, skipBlanks_append all]
      rfl
    | true =>
      obtain ⟨before, allBefore, shape⟩ := shape
      have comma : skipBlanks (0x2C :: (before ++ 0x22 :: rest)) = 0x2C :: (before ++ 0x22 :: rest) :=
        rfl
      rw [shape, nextKey, skipBlanks_append all, comma]
      simp only [skipBlanks_append allBefore]
      rfl

theorem member_sound (exact : ReadsExactly read part) {input rest : List UInt8}
    {field : String × α} (ok : member read input = .ok (field, rest)) :
    ∃ text, SpellsField part (0x22 :: text) field ∧ input = text ++ rest := by
  unfold member at ok
  split at ok
  · cases ok
  next key afterKey scanned =>
    obtain ⟨raw, spellsKey, rfl⟩ := scanText_eq_ok_iff.mp scanned
    split at ok
    · cases ok
    next afterColon found =>
      obtain ⟨before, allBefore, rfl⟩ := colon_eq_ok_iff.mp found
      split at ok
      · cases ok
      next value rest item =>
        cases ok
        obtain ⟨after, text, allAfter, spells, rfl⟩ := exact.sound item
        exact ⟨_, .field spellsKey allBefore allAfter spells, by simp⟩

theorem member_complete (exact : ReadsExactly read part) {text rest : List UInt8}
    {field : String × α} (spells : SpellsField part (0x22 :: text) field) (follows : Follows rest) :
    member read (text ++ rest) = .ok (field, rest) := by
  cases spells with
  | @field raw before after text key value spellsKey allBefore allAfter spells =>
    have shape : raw ++ 0x22 :: (before ++ 0x3A :: (after ++ text)) ++ rest
        = raw ++ 0x22 :: (before ++ 0x3A :: (after ++ (text ++ rest))) := by simp
    have scanned := scanText_eq_ok_iff.mpr ⟨raw, spellsKey,
      (rfl : _ = raw ++ 0x22 :: (before ++ 0x3A :: (after ++ (text ++ rest))))⟩
    have found := colon_eq_ok_iff.mpr ⟨before, allBefore,
      (rfl : _ = before ++ 0x3A :: (after ++ (text ++ rest)))⟩
    rw [shape, member, scanned]
    simp only [found, exact.complete allAfter spells follows]

theorem exists_quote {text : List UInt8} {field : String × α} (spells : SpellsField part text field) :
    ∃ more, text = 0x22 :: more := by
  cases spells with
  | field => exact ⟨_, rfl⟩

theorem membersAfter_sound (exact : ReadsExactly read part) {budget : Nat}
    {done fields : List (String × α)} {input rest : List UInt8}
    (ok : membersAfter read budget done input = .ok (fields, rest)) :
    ∃ text more, SpellsTail (SpellsField part) 0x7D text more ∧ fields = done.reverse ++ more
      ∧ input = text ++ rest := by
  induction budget generalizing done input with
  | zero => cases ok
  | succ budget ih =>
    rw [membersAfter] at ok
    split at ok
    · cases ok
    next after next =>
      cases ok
      obtain ⟨blanks, all, rfl⟩ := nextKey_eq_ok_iff.mp next
      exact ⟨blanks ++ [0x7D], [], .close all, by simp, by simp⟩
    next after next =>
      obtain ⟨blanks, all, before, allBefore, rfl⟩ := nextKey_eq_ok_iff.mp next
      split at ok
      · cases ok
      next field later found =>
        obtain ⟨text, spells, rfl⟩ := member_sound exact found
        obtain ⟨tail, fields, ends, rfl, rfl⟩ := ih ok
        exact ⟨_, field :: fields, .comma all allBefore spells ends, by simp, by simp⟩

theorem membersAfter_complete (exact : ReadsExactly read part) {text : List UInt8}
    {fields : List (String × α)} (tail : SpellsTail (SpellsField part) 0x7D text fields)
    {budget : Nat} (enough : fields.length < budget) (done : List (String × α))
    (rest : List UInt8) :
    membersAfter read budget done (text ++ rest) = .ok (done.reverse ++ fields, rest) := by
  induction tail generalizing budget done with
  | @close blanks all =>
    obtain ⟨less, rfl⟩ : ∃ less, budget = less + 1 := ⟨budget - 1, by omega⟩
    have close : nextKey (blanks ++ 0x7D :: rest) = .ok (false, rest) :=
      nextKey_eq_ok_iff.mpr ⟨blanks, all, rfl⟩
    rw [membersAfter, List.append_assoc, List.singleton_append, close, List.append_nil]
  | @comma blanks before text tail field fields all allBefore spells more ih =>
    rw [List.length_cons] at enough
    obtain ⟨less, rfl⟩ : ∃ less, budget = less + 1 := ⟨budget - 1, by omega⟩
    obtain ⟨inner, rfl⟩ := exists_quote spells
    have comma : nextKey (blanks ++ 0x2C :: (before ++ (0x22 :: inner ++ tail)) ++ rest)
        = .ok (true, inner ++ (tail ++ rest)) :=
      nextKey_eq_ok_iff.mpr ⟨blanks, all, before, allBefore, by simp⟩
    rw [membersAfter, comma]
    simp only [member_complete exact spells (follows_tail (.inr rfl) more rest)]
    rw [ih (by omega), List.reverse_cons, List.append_assoc]
    rfl

/-- The fields of an object are exactly those that its text spells. -/
theorem members_eq_ok_iff (exact : ReadsExactly read part) {input rest : List UInt8}
    {fields : List (String × α)} :
    members read input = .ok (fields, rest)
      ↔ ∃ text, SpellsList (SpellsField part) 0x7D text fields ∧ input = text ++ rest := by
  constructor
  · intro ok
    unfold members at ok
    split at ok
    · cases ok
    next after first =>
      cases ok
      obtain ⟨blanks, all, rfl⟩ := firstKey_eq_ok_iff.mp first
      exact ⟨_, .empty all, by simp⟩
    next after first =>
      obtain ⟨blanks, all, rfl⟩ := firstKey_eq_ok_iff.mp first
      split at ok
      · cases ok
      next field later found =>
        obtain ⟨text, spells, rfl⟩ := member_sound exact found
        obtain ⟨tail, fields, ends, rfl, rfl⟩ := membersAfter_sound exact ok
        exact ⟨_, .parts all spells ends, by simp⟩
  · rintro ⟨text, list, rfl⟩
    cases list with
    | @empty blanks all =>
      have close : firstKey (blanks ++ [0x7D] ++ rest) = .ok (false, rest) :=
        firstKey_eq_ok_iff.mpr ⟨blanks, all, by simp⟩
      rw [members, close]
    | @parts before text tail field fields all spells more =>
      obtain ⟨inner, rfl⟩ := exists_quote spells
      have first : firstKey (before ++ (0x22 :: inner ++ tail) ++ rest)
          = .ok (true, inner ++ (tail ++ rest)) :=
        firstKey_eq_ok_iff.mpr ⟨before, all, by simp⟩
      have enough : fields.length < (before ++ (0x22 :: inner ++ tail) ++ rest).length := by
        have least := length_lt_tail more
        simp only [List.length_append]
        omega
      rw [members, first]
      simp only [member_complete exact spells (follows_tail (.inr rfl) more rest)]
      exact membersAfter_complete exact more enough [field] rest

end

/-! ## Values -/

theorem isBlankByte_of_digit {b : UInt8} (digit : isDigitByte b = true) : isBlankByte b = false := by
  simp only [isDigitByte, Bool.and_eq_true, decide_eq_true_eq, UInt8.le_iff_toNat_le] at digit
  simp only [isBlankByte, Bool.or_eq_false_iff, beq_eq_false_iff_ne, ne_eq, ← UInt8.toNat_inj,
    UInt8.reduceToNat] at digit ⊢
  omega

theorem Numeral.exists_digit {numeral : Numeral} (formed : numeral.WellFormed) :
    ∃ b more, numeral.text = b :: more ∧ isDigitByte b = true := by
  obtain ⟨nonempty, all⟩ := formed.whole
  obtain ⟨b, more, whole⟩ := List.exists_cons_of_ne_nil nonempty
  rw [whole] at all
  exact ⟨b, _, by rw [text, whole, List.cons_append], all b List.mem_cons_self⟩

theorem opensValue_digit {b : UInt8} (digit : isDigitByte b = true) (rest : List UInt8) :
    OpensValue (b :: rest) := by
  refine ⟨b, rest, rfl, isBlankByte_of_digit digit, ?_⟩
  rintro rfl
  cases digit

theorem SpellsScalar.opens {text : List UInt8} {value : Json} (scalar : SpellsScalar text value) :
    OpensValue text := by
  cases scalar with
  | positive formed =>
    obtain ⟨b, more, shape, digit⟩ := Numeral.exists_digit formed
    rw [shape]
    exact opensValue_digit digit more
  | null | true | false | string | negative => exact ⟨_, _, rfl, rfl, by decide⟩

theorem Spells.opens {depth : Nat} {text : List UInt8} {value : Json}
    (spells : Spells depth text value) : OpensValue text := by
  cases depth with
  | zero => exact SpellsScalar.opens spells
  | succ depth =>
    rcases spells with scalar | nested
    · exact scalar.opens
    · cases nested <;> exact ⟨_, _, rfl, rfl, by decide⟩

/-- A number is over where a value may be. -/
theorem Numeral.ends_of_follows (numeral : Numeral) {rest : List UInt8} (follows : Follows rest) :
    numeral.Ends rest := by
  intro b member
  -- Nothing that may follow a value would make a number longer.
  have apart : isDigitByte b = false ∧ b ≠ 0x65 ∧ b ≠ 0x45 ∧ b ≠ 0x2E := by
    rcases follows b member with blank | rfl | rfl | rfl
    · simp only [isBlankByte, Bool.or_eq_true, beq_iff_eq] at blank
      rcases blank with ((rfl | rfl) | rfl) | rfl <;> decide
    all_goals decide
  exact ⟨apart.1, fun _ => ⟨apart.2.1, apart.2.2.1⟩, fun _ _ => apart.2.2.2⟩

theorem constant_eq_ok_iff {α : Type} {letters input rest : List UInt8} {value found : α} :
    constant letters value input = .ok (found, rest) ↔ found = value ∧ input = letters ++ rest := by
  rw [constant, ← word_eq_ok_iff]
  cases word letters input <;> simp [Except.map, eq_comm]

/-- A value that begins with a digit is a number. -/
theorem value_digit (depth : Nat) {b : UInt8} (digit : isDigitByte b = true)
    (rest : List UInt8) : Json.value depth (b :: rest) = scanNumber false (b :: rest) := by
  rw [Json.value]
  simp only [skipBlanks_cons (isBlankByte_of_digit digit)]
  split
  next same => cases same
  -- None of the three letters, the quote, the sign and the brackets is a digit.
  iterate 7
    next same =>
      cases same
      cases digit
  next same =>
    cases same
    exact if_pos digit

theorem value_append (depth : Nat) {blanks : List UInt8} (all : AreBlanks blanks)
    (input : List UInt8) : Json.value depth (blanks ++ input) = Json.value depth input := by
  rw [Json.value, Json.value, skipBlanks_append all]

theorem value_scalar (depth : Nat) {text rest : List UInt8} {value : Json}
    (scalar : SpellsScalar text value) (follows : Follows rest) :
    Json.value depth (text ++ rest) = .ok (value, rest) := by
  cases scalar with
  | null => rw [Json.value]; rfl
  | true => rw [Json.value]; rfl
  | false => rw [Json.value]; rfl
  | @string raw text spells =>
    have shape : 0x22 :: (raw ++ [0x22]) ++ rest = 0x22 :: (raw ++ 0x22 :: rest) := by simp
    have scanned := scanText_eq_ok_iff.mpr ⟨raw, spells, (rfl : _ = raw ++ 0x22 :: rest)⟩
    rw [shape, Json.value]
    exact congrArg (Except.map _) scanned
  | @positive numeral value formed held =>
    obtain ⟨b, more, shape, digit⟩ := Numeral.exists_digit formed
    have scanned := scanNumber_eq_ok_iff.mpr
      ⟨numeral, formed, numeral.ends_of_follows follows, rfl, held⟩
    rw [shape, List.cons_append] at scanned ⊢
    rw [value_digit depth digit, scanned]
  | @negative numeral value formed held =>
    have scanned := scanNumber_eq_ok_iff.mpr
      ⟨numeral, formed, numeral.ends_of_follows follows, rfl, held⟩
    rw [List.cons_append, Json.value]
    exact scanned

/-- What a value is that was read: one that nothing nests in, or a list that was opened. -/
theorem value_cases {depth : Nat} {input rest : List UInt8} {found : Json}
    (ok : Json.value depth input = .ok (found, rest)) :
    (∃ text, SpellsScalar text found ∧ skipBlanks input = text ++ rest)
      ∨ ∃ less inner, depth = less + 1
          ∧ ((∃ list, skipBlanks input = 0x5B :: inner ∧ found = .array list
                ∧ items (Json.value less) inner = .ok (list, rest))
            ∨ ∃ fields, skipBlanks input = 0x7B :: inner ∧ found = ofPairs fields
                ∧ members (Json.value less) inner = .ok (fields, rest)) := by
  rw [Json.value] at ok
  split at ok
  · cases ok
  next same =>
    obtain ⟨rfl, rfl⟩ := constant_eq_ok_iff.mp ok
    exact .inl ⟨_, .null, same⟩
  next same =>
    obtain ⟨rfl, rfl⟩ := constant_eq_ok_iff.mp ok
    exact .inl ⟨_, .true, same⟩
  next same =>
    obtain ⟨rfl, rfl⟩ := constant_eq_ok_iff.mp ok
    exact .inl ⟨_, .false, same⟩
  next inner same =>
    cases scanned : scanText inner with
    | error fault =>
      rw [scanned] at ok
      cases ok
    | ok pair =>
      rw [scanned] at ok
      cases ok
      obtain ⟨raw, spells, rfl⟩ := scanText_eq_ok_iff.mp scanned
      exact .inl ⟨_, .string spells, by simp [same]⟩
  next inner same =>
    obtain ⟨numeral, formed, _, rfl, held⟩ := scanNumber_eq_ok_iff.mp ok
    exact .inl ⟨_, .negative formed held, same⟩
  next inner same =>
    cases depth with
    | zero => cases ok
    | succ less =>
      cases list : items (Json.value less) inner with
      | error fault =>
        simp only [list] at ok
        cases ok
      | ok pair =>
        simp only [list] at ok
        cases ok
        exact .inr ⟨less, inner, rfl, .inl ⟨_, same, rfl, list⟩⟩
  next inner same =>
    cases depth with
    | zero => cases ok
    | succ less =>
      cases fields : members (Json.value less) inner with
      | error fault =>
        simp only [fields] at ok
        cases ok
      | ok pair =>
        simp only [fields] at ok
        cases ok
        exact .inr ⟨less, inner, rfl, .inr ⟨_, same, rfl, fields⟩⟩
  next b inner same =>
    split at ok
    next digit =>
      obtain ⟨numeral, formed, _, shape, held⟩ := scanNumber_eq_ok_iff.mp ok
      exact .inl ⟨_, .positive formed held, by rw [same, shape]⟩
    · cases ok

theorem Spells.of_scalar {depth : Nat} {text : List UInt8} {value : Json}
    (scalar : SpellsScalar text value) : Spells depth text value := by
  cases depth with
  | zero => exact scalar
  | succ depth => exact .inl scalar

/-- The reader of values takes exactly those whose lists nest no deeper than it may go. -/
theorem readsExactly_value (depth : Nat) : ReadsExactly (Json.value depth) (Spells depth) := by
  -- On the depth: the readers of items and of fields go on with one level less.
  induction depth with
  | zero =>
    constructor
    case sound =>
      intro input value rest ok
      obtain ⟨blanks, all, split⟩ := exists_blanks input
      rcases value_cases ok with ⟨text, scalar, same⟩ | ⟨_, _, none, _⟩
      · exact ⟨blanks, text, all, scalar, by rw [← same, ← split]⟩
      · cases none
    case complete =>
      intro before text value rest all scalar follows
      rw [value_append 0 all, value_scalar 0 scalar follows]
    case opens => exact fun scalar => SpellsScalar.opens scalar
  | succ depth ih =>
    constructor
    case sound =>
      intro input value rest ok
      obtain ⟨blanks, all, split⟩ := exists_blanks input
      rcases value_cases ok with ⟨text, scalar, same⟩ | ⟨less, inner, level, nested⟩
      · exact ⟨blanks, text, all, .inl scalar, by rw [← same, ← split]⟩
      · obtain rfl := Nat.succ.inj level
        rcases nested with ⟨list, same, rfl, inside⟩ | ⟨fields, same, rfl, inside⟩
        · obtain ⟨text, spells, rfl⟩ := (items_eq_ok_iff ih).mp inside
          exact ⟨blanks, _, all, .inr (.array spells), by rw [split, same]; rfl⟩
        · obtain ⟨text, spells, rfl⟩ := (members_eq_ok_iff ih).mp inside
          exact ⟨blanks, _, all, .inr (.object spells), by rw [split, same]; rfl⟩
    case complete =>
      intro before text value rest all spells follows
      rw [value_append _ all]
      rcases spells with scalar | nested
      · exact value_scalar _ scalar follows
      · cases nested with
        | array list =>
          have ok := (items_eq_ok_iff ih).mpr ⟨_, list, (rfl : _ = _ ++ rest)⟩
          rw [List.cons_append, Json.value]
          exact congrArg (Except.map _) ok
        | object list =>
          have ok := (members_eq_ok_iff ih).mpr ⟨_, list, (rfl : _ = _ ++ rest)⟩
          rw [List.cons_append, Json.value]
          exact congrArg (Except.map _) ok
    case opens => exact fun spells => Spells.opens spells

/-! ## Documents -/

theorem follows_of_blanks {rest : List UInt8} (all : AreBlanks rest) : Follows rest := by
  intro b member
  exact .inl (all b (List.mem_of_mem_head? member))

theorem skipBlanks_eq_nil_iff {input : List UInt8} : skipBlanks input = [] ↔ AreBlanks input := by
  constructor
  · intro none
    obtain ⟨blanks, all, split⟩ := exists_blanks input
    rw [split, none, List.append_nil]
    exact all
  · intro all
    have skipped := skipBlanks_append all []
    rwa [List.append_nil] at skipped

/-- Where a reader takes exactly the texts of a grammar, a whole input is read just if it is one of
them with blanks around it. -/
theorem ReadsExactly.whole_eq_ok_iff {α : Type} {read : List UInt8 → Scanned α}
    {part : List UInt8 → α → Prop} (exact : ReadsExactly read part) {input : List UInt8} {value : α} :
    whole read input = .ok value ↔ StandsAlone part input value := by
  have taken : whole read input = .ok value
      ↔ ∃ rest, read input = .ok (value, rest) ∧ AreBlanks rest := by
    unfold whole
    cases read input with
    | error fault => simp
    | ok found =>
      obtain ⟨other, rest⟩ := found
      simp only [← skipBlanks_eq_nil_iff]
      cases behind : skipBlanks rest with
      | nil => simp_all
      | cons b more => simp_all
  rw [taken]
  constructor
  · rintro ⟨after, ok, blanks⟩
    obtain ⟨before, core, all, spells, split⟩ := exact.sound ok
    exact ⟨before, core, after, all, spells, blanks, split⟩
  · rintro ⟨before, core, after, all, spells, blanks, rfl⟩
    exact ⟨after, exact.complete all spells (follows_of_blanks blanks), blanks⟩

/-- The reader of documents takes exactly them, each with its value. -/
theorem read_eq_ok_iff {input : List UInt8} {value : Json} :
    Json.read input = .ok value ↔ IsDocument input value :=
  (readsExactly_value depthLimit).whole_eq_ok_iff

/-- A text is a document of one value at most. -/
theorem IsDocument.unique {text : List UInt8} {value other : Json} (first : IsDocument text value)
    (second : IsDocument text other) : value = other := by
  rw [← read_eq_ok_iff] at first second
  exact Except.ok.inj (first.symm.trans second)

theorem IsDocument.ne_nil {text : List UInt8} {value : Json} (document : IsDocument text value) :
    text ≠ [] := by
  obtain ⟨before, core, after, _, spells, _, rfl⟩ := document
  obtain ⟨b, rest, rfl, _⟩ := spells.opens
  simp

end Gatehouse.Json
