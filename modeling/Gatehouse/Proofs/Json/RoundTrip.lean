import Gatehouse.Proofs.Json.Grammar
import Gatehouse.Proofs.Json.Tokens
import Gatehouse.Proofs.Json.Values

/-!
# Printed values are read back

The printer writes documents: the text of a value without binary64 numbers spells that value, as
long as it nests no deeper than the reader goes. So the text is read as that value and as no other.
-/
namespace Gatehouse.Json

/-! ## Depth and floats -/

mutual

/-- How deep arrays and objects nest in a value. -/
def depth : Json → Nat
  | .null | .bool _ | .integer _ | .float _ | .string _ => 0
  | .array items => depthOfItems items + 1
  | .object fields => depthOfFields fields + 1

def depthOfItems : List Json → Nat
  | [] => 0
  | item :: rest => max item.depth (depthOfItems rest)

def depthOfFields : List (String × Json) → Nat
  | [] => 0
  | (_, value) :: rest => max value.depth (depthOfFields rest)

end

mutual

/-- Whether no binary64 number stands anywhere in a value. -/
def isFloatless : Json → Bool
  | .null | .bool _ | .integer _ | .string _ => true
  | .float _ => false
  | .array items => areFloatlessItems items
  | .object fields => areFloatlessFields fields

def areFloatlessItems : List Json → Bool
  | [] => true
  | item :: rest => item.isFloatless && areFloatlessItems rest

def areFloatlessFields : List (String × Json) → Bool
  | [] => true
  | (_, value) :: rest => value.isFloatless && areFloatlessFields rest

end

theorem depth_le_of_mem_items {item : Json} {items : List Json} (member : item ∈ items) :
    item.depth ≤ depthOfItems items := by
  induction items with
  | nil => cases member
  | cons first rest ih =>
    rw [depthOfItems]
    rcases List.mem_cons.mp member with rfl | member
    · exact Nat.le_max_left _ _
    · exact Nat.le_trans (ih member) (Nat.le_max_right _ _)

theorem depth_le_of_mem_fields {field : String × Json} {fields : Fields}
    (member : field ∈ fields) : field.2.depth ≤ depthOfFields fields := by
  induction fields with
  | nil => cases member
  | cons first rest ih =>
    rw [depthOfFields]
    rcases List.mem_cons.mp member with rfl | member
    · exact Nat.le_max_left _ _
    · exact Nat.le_trans (ih member) (Nat.le_max_right _ _)

theorem isFloatless_of_mem_items {item : Json} {items : List Json}
    (floatless : areFloatlessItems items = true) (member : item ∈ items) :
    item.isFloatless = true := by
  induction items with
  | nil => cases member
  | cons first rest ih =>
    rw [areFloatlessItems, Bool.and_eq_true] at floatless
    rcases List.mem_cons.mp member with rfl | member
    · exact floatless.1
    · exact ih floatless.2 member

theorem isFloatless_of_mem_fields {field : String × Json} {fields : Fields}
    (floatless : areFloatlessFields fields = true) (member : field ∈ fields) :
    field.2.isFloatless = true := by
  induction fields with
  | nil => cases member
  | cons first rest ih =>
    rw [areFloatlessFields, Bool.and_eq_true] at floatless
    rcases List.mem_cons.mp member with rfl | member
    · exact floatless.1
    · exact ih floatless.2 member

/-! ## Objects from their fields -/

namespace Fields

theorem insert_last {fields : Fields} {key : String} (value : Json)
    (before : ∀ field ∈ fields, field.1 < key) :
    fields.insert key value = fields ++ [(key, value)] := by
  induction fields with
  | nil => rfl
  | cons first rest ih =>
    rw [List.forall_mem_cons] at before
    have notBefore : ¬ key < first.1 := fun after =>
      String.lt_irrefl key (String.lt_trans after before.1)
    have differs : key ≠ first.1 := fun same => String.lt_irrefl key (same ▸ before.1)
    simp only [insert, notBefore, differs, if_false, ih before.2, List.cons_append]

/-- Fields that ascend are the object made of them. -/
theorem ofList_of_ascending {fields : Fields} (ascending : fields.Ascending) :
    ofList fields = fields := by
  -- Each field comes behind those before it, so putting it in its place appends it.
  have grows : ∀ (rest done : Fields), (done ++ rest).Ascending →
      rest.foldl (fun fields pair => insert pair.1 pair.2 fields) done = done ++ rest := by
    intro rest
    induction rest with
    | nil => intro done _; rw [List.append_nil]; rfl
    | cons field rest ih =>
      intro done ascends
      have before : ∀ other ∈ done, other.1 < field.1 := fun other member =>
        (List.pairwise_append.mp ascends).2.2 other member field List.mem_cons_self
      rw [List.foldl_cons, insert_last field.2 before]
      rw [← List.singleton_append, ← List.append_assoc] at ascends
      rw [ih _ ascends, List.append_assoc]
      rfl
  exact grows fields [] ascending

theorem find?_insert (key : String) (value : Json) (fields : Fields) (sought : String) :
    (fields.insert key value).find? sought
      = if key = sought then some value else fields.find? sought := by
  induction fields with
  | nil => exact find?_cons key value [] sought
  | cons first rest ih =>
    obtain ⟨other, held⟩ := first
    simp only [insert]
    split
    · exact find?_cons key value _ sought
    · split
      next same =>
        subst same
        simp only [find?_cons]
        split <;> rfl
      next differs =>
        rw [find?_cons, find?_cons, ih]
        by_cases here : other = sought
        · rw [if_pos here, if_pos here, if_neg (fun same => differs (same.trans here.symm))]
        · rw [if_neg here, if_neg here]

/-- An object made of pairs with different keys says of a key what the pairs say. -/
theorem find?_ofList {pairs : List (String × Json)} (distinct : (pairs.map (·.1)).Nodup)
    (key : String) : (ofList pairs).find? key = find? pairs key := by
  have grows : ∀ (rest : List (String × Json)) (done : Fields), (rest.map (·.1)).Nodup →
      (rest.foldl (fun fields pair => insert pair.1 pair.2 fields) done).find? key
        = ((find? rest key).or (done.find? key)) := by
    intro rest
    induction rest with
    | nil => intro done _; rfl
    | cons pair rest ih =>
      intro done distinct
      obtain ⟨other, value⟩ := pair
      rw [List.map_cons, List.nodup_cons] at distinct
      rw [List.foldl_cons, ih _ distinct.2, find?_insert, find?_cons]
      by_cases same : other = key
      · -- The key does not come again.
        have absent : find? rest key = none := by
          rw [← Option.not_isSome_iff_eq_none, find?_isSome_iff, ← same]
          exact distinct.1
        rw [if_pos same, if_pos same, absent]
        rfl
      · rw [if_neg same, if_neg same]
  rw [ofList, grows pairs [] distinct]
  exact Option.or_none

end Fields

/-! ## Printed values are in the grammar -/

theorem spellsScalar_integer {value : Int} (range : InRange value) :
    SpellsScalar (Utf8.encode (printInt value)) (.integer value) := by
  obtain ⟨least, most⟩ := range
  rw [printInt]
  split
  next negative =>
    have same : integerOf true value.natAbs = .integer value := by
      rw [integerOf, if_pos rfl, if_pos (by omega)]
      congr 1
      omega
    have scalar := SpellsScalar.negative (Numeral.wellFormed_ofNat value.natAbs)
      (Numeral.value?_ofNat (by omega) true)
    rw [same, Numeral.text_ofNat] at scalar
    exact scalar
  next positive =>
    have same : integerOf false value.toNat = .integer value := by
      rw [integerOf, if_neg (by decide)]
      congr 1
      omega
    have scalar := SpellsScalar.positive (Numeral.wellFormed_ofNat value.toNat)
      (Numeral.value?_ofNat (by omega) false)
    rw [same, Numeral.text_ofNat] at scalar
    exact scalar

/-- The text of a string between its quotes. -/
theorem encode_printText (text : String) (more : List Char) :
    Utf8.encode (printText text ++ more)
      = 0x22 :: (Utf8.encode (escaped text.toList) ++ 0x22 :: Utf8.encode more) := by
  have quote : String.utf8EncodeChar '"' = [0x22] := rfl
  simp only [printText, List.cons_append, List.append_assoc, Utf8.encode_cons, Utf8.encode_append,
    List.nil_append, quote]

section

variable {part : List UInt8 → Json → Prop}

theorem spellsTail_printItems {items : List Json}
    (spells : ∀ item ∈ items, part (Utf8.encode item.print) item) :
    SpellsTail part 0x5D (Utf8.encode (printItems items)) items := by
  induction items with
  | nil => exact .close areBlanks_nil
  | cons item items ih =>
    rw [List.forall_mem_cons] at spells
    rw [printItems, List.cons_append, Utf8.encode_cons, Utf8.encode_append]
    exact .comma areBlanks_nil areBlanks_nil spells.1 (ih spells.2)

theorem spellsField_print {key : String} {value : Json}
    (spells : part (Utf8.encode value.print) value) :
    SpellsField part (Utf8.encode (printText key ++ ':' :: value.print)) (key, value) := by
  rw [encode_printText]
  exact .field (spellsText_escaped key) areBlanks_nil areBlanks_nil spells

theorem spellsTail_printFields {fields : List (String × Json)}
    (spells : ∀ field ∈ fields, part (Utf8.encode field.2.print) field.2) :
    SpellsTail (SpellsField part) 0x7D (Utf8.encode (printFields fields)) fields := by
  induction fields with
  | nil => exact .close areBlanks_nil
  | cons field fields ih =>
    obtain ⟨key, value⟩ := field
    rw [List.forall_mem_cons] at spells
    rw [printFields, List.cons_append, List.cons_append, Utf8.encode_cons, Utf8.encode_append]
    exact .comma areBlanks_nil areBlanks_nil (spellsField_print spells.1) (ih spells.2)

theorem spellsNested_array {items : List Json}
    (spells : ∀ item ∈ items, part (Utf8.encode item.print) item) :
    SpellsNested part (Utf8.encode (print (.array items))) (.array items) := by
  cases items with
  | nil => exact .array (.empty areBlanks_nil)
  | cons item items =>
    rw [List.forall_mem_cons] at spells
    rw [print, List.cons_append, Utf8.encode_cons, Utf8.encode_append]
    exact .array (.parts areBlanks_nil spells.1 (spellsTail_printItems spells.2))

/-- The text of fields in any order spells the object made of them. -/
theorem spellsNested_object {fields : List (String × Json)}
    (spells : ∀ field ∈ fields, part (Utf8.encode field.2.print) field.2) :
    SpellsNested part (Utf8.encode (print (.object fields))) (ofPairs fields) := by
  cases fields with
  | nil => exact .object (.empty areBlanks_nil)
  | cons field fields =>
    obtain ⟨key, value⟩ := field
    rw [List.forall_mem_cons] at spells
    rw [print, List.cons_append, List.cons_append, Utf8.encode_cons, Utf8.encode_append]
    exact .object (.parts areBlanks_nil (spellsField_print spells.1)
      (spellsTail_printFields spells.2))

end

/-- The text of a value without floats spells it, with as many levels as it has. -/
theorem spells_print {value : Json} (formed : value.WellFormed)
    (floatless : value.isFloatless = true) {levels : Nat} (fits : value.depth ≤ levels) :
    Spells levels (Utf8.encode value.print) value := by
  -- On the value: the parts of an array or an object have one level less to go.
  induction value using Json.induction generalizing levels with
  | null => exact .of_scalar .null
  | bool value =>
    cases value
    · exact .of_scalar .false
    · exact .of_scalar .true
  | integer value =>
    cases formed with
    | integer range => exact .of_scalar (spellsScalar_integer range)
  | float value => cases floatless
  | string text =>
    have shape := encode_printText text []
    rw [List.append_nil] at shape
    rw [print, shape]
    exact .of_scalar (.string (spellsText_escaped text))
  | array items ih =>
    cases formed with
    | array formed =>
      rw [depth] at fits
      obtain ⟨less, rfl⟩ : ∃ less, levels = less + 1 := ⟨levels - 1, by omega⟩
      have parts : ∀ item ∈ items, Spells less (Utf8.encode item.print) item := by
        intro item member
        have below := depth_le_of_mem_items member
        have inside := isFloatless_of_mem_items floatless member
        exact ih item member (formed item member) inside (by omega)
      exact .inr (spellsNested_array parts)
  | object fields ih =>
    cases formed with
    | object ascending formed =>
      rw [depth] at fits
      obtain ⟨less, rfl⟩ : ∃ less, levels = less + 1 := ⟨levels - 1, by omega⟩
      have parts : ∀ field ∈ fields, Spells less (Utf8.encode field.2.print) field.2 := by
        intro field member
        have below := depth_le_of_mem_fields member
        have inside := isFloatless_of_mem_fields floatless member
        exact ih field member (formed field member) inside (by omega)
      have nested := spellsNested_object parts
      rw [ofPairs, Fields.ofList_of_ascending ascending] at nested
      exact .inr nested

/-! ## Documents -/

theorem isDocument_of_spells {text : List UInt8} {value : Json}
    (spells : Spells depthLimit text value) : IsDocument text value :=
  ⟨[], text, [], areBlanks_nil, spells, areBlanks_nil, by simp⟩

/-- The text of a value is a document of that value. -/
theorem isDocument_print {value : Json} (formed : value.WellFormed)
    (floatless : value.isFloatless = true) (fits : value.depth ≤ depthLimit) :
    IsDocument (Utf8.encode value.print) value :=
  isDocument_of_spells (spells_print formed floatless fits)

/-- A document that is the text of fields in any order is read as the object made of them. -/
theorem read_fields {fields : List (String × Json)}
    (formed : ∀ field ∈ fields, field.2.WellFormed)
    (floatless : ∀ field ∈ fields, field.2.isFloatless = true)
    (fits : ∀ field ∈ fields, field.2.depth < depthLimit) :
    Json.read (Utf8.encode (print (.object fields))) = .ok (ofPairs fields) := by
  rw [read_eq_ok_iff]
  apply isDocument_of_spells
  refine .inr (spellsNested_object fun field member => ?_)
  have below : field.2.depth ≤ 126 := Nat.le_of_lt_succ (fits field member)
  exact spells_print (formed field member) (floatless field member) below

end Gatehouse.Json
