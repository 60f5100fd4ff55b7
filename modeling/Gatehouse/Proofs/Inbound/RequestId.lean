import Gatehouse.Inbound.Service
import Gatehouse.Proofs.Text.Runs
import Gatehouse.Proofs.Text.Utf8
import Mathlib.Data.List.TakeWhile

/-!
# Request ids in headers

An id that a service uses is visible throughout, has no blank at either end and is not too long.
Such an id can stand in a header, and a service that is sent it takes it over as it is. What is
taken over from a caller is such an id, and so is the text of a random UUID.
-/
namespace Gatehouse.Inbound

/-- The blanks that a value can have when all of it is visible. -/
def isBlankByte (b : UInt8) : Bool := b == 0x20 || b == 0x09

/-- An id as services use it. -/
structure IsClean (id : String) : Prop where
  visible : ∀ b ∈ bytesOf id, HeaderValue.isVisible b = true
  begins : ∃ b rest, bytesOf id = b :: rest ∧ isBlankByte b = false
  ends : ∃ rest b, bytesOf id = rest ++ [b] ∧ isBlankByte b = false
  short : (bytesOf id).length ≤ longestId

/-- The id in the value of a header: what there is between blanks. -/
def IsIdOf (id : String) (value : List UInt8) : Prop :=
  IsClean id ∧ ∃ left right, value = left ++ bytesOf id ++ right
    ∧ ∀ b ∈ left ++ right, isBlankByte b = true

/-! ## Visible bytes -/

theorem isVisible_iff (b : UInt8) :
    HeaderValue.isVisible b = true ↔ 0x20 ≤ b.toNat ∧ b.toNat < 0x7F ∨ b.toNat = 0x09 := by
  simp [HeaderValue.isVisible, UInt8.le_iff_toNat_le, UInt8.lt_iff_toNat_lt, ← UInt8.toNat_inj]

theorem isBlankByte_iff (b : UInt8) :
    isBlankByte b = true ↔ b.toNat = 0x20 ∨ b.toNat = 0x09 := by
  simp [isBlankByte, ← UInt8.toNat_inj]

theorem isVisible_of_isBlankByte {b : UInt8} (blank : isBlankByte b = true) :
    HeaderValue.isVisible b = true := by
  rw [isVisible_iff]
  rw [isBlankByte_iff] at blank
  omega

theorem toNat_charOf {b : UInt8} (visible : HeaderValue.isVisible b = true) :
    (Char.ofNat b.toNat).toNat = b.toNat := by
  rw [isVisible_iff] at visible
  exact Utf8.toNat_charOfNat (.inl (by omega))

theorem isBlank_charOf {b : UInt8} (visible : HeaderValue.isVisible b = true) :
    Text.isBlank (Char.ofNat b.toNat) = isBlankByte b := by
  rw [Bool.eq_iff_iff, isBlankByte_iff, Text.isBlank, toNat_charOf visible]
  rw [isVisible_iff] at visible
  simp only [Bool.or_eq_true, Bool.and_eq_true, decide_eq_true_eq, beq_iff_eq]
  omega

/-- The characters that visible bytes stand for. -/
def charsOf (value : List UInt8) : List Char := value.map fun b => Char.ofNat b.toNat

theorem bytesOf_charsOf {value : List UInt8}
    (visible : ∀ b ∈ value, HeaderValue.isVisible b = true) :
    bytesOf (String.ofList (charsOf value)) = value := by
  rw [bytesOf, String.toList_ofList]
  induction value with
  | nil => rfl
  | cons b rest ih =>
    obtain ⟨first, later⟩ := List.forall_mem_cons.mp visible
    have code := toNat_charOf first
    have ascii : (Char.ofNat b.toNat).toNat < 0x80 := by
      rw [isVisible_iff] at first
      omega
    rw [charsOf, List.map_cons, Utf8.encode_cons, Utf8.encodeChar_ascii ascii, code,
      UInt8.ofNat_toNat, List.singleton_append]
    exact congrArg (b :: ·) (ih later)

theorem charsOf_encode {text : List Char}
    (visible : ∀ b ∈ Utf8.encode text, HeaderValue.isVisible b = true) :
    charsOf (Utf8.encode text) = text := by
  induction text with
  | nil => rfl
  | cons c rest ih =>
    rw [Utf8.encode_cons] at visible
    obtain ⟨here, later⟩ := List.forall_mem_append.mp visible
    have ascii : c.toNat < 0x80 := by
      -- Any other character has bytes that are not visible.
      refine Nat.lt_of_not_le fun high => ?_
      obtain ⟨b, member⟩ := List.exists_mem_of_ne_nil _ (String.utf8EncodeChar_ne_nil (c := c))
      have above := Utf8.high_of_mem_encodeChar high member
      have seen := (isVisible_iff b).mp (here b member)
      omega
    rw [Utf8.encode_cons, Utf8.encodeChar_ascii ascii, List.singleton_append, charsOf,
      List.map_cons, Utf8.toNat_ofNat (by omega), Char.ofNat_toNat]
    exact congrArg (c :: ·) (ih later)

/-! ## What stands between blanks -/

def core (value : List UInt8) : List UInt8 :=
  ((value.dropWhile isBlankByte).reverse.dropWhile isBlankByte).reverse

theorem dropWhile_charsOf {value : List UInt8}
    (visible : ∀ b ∈ value, HeaderValue.isVisible b = true) :
    (charsOf value).dropWhile Text.isBlank = charsOf (value.dropWhile isBlankByte) := by
  induction value with
  | nil => rfl
  | cons b rest ih =>
    obtain ⟨first, later⟩ := List.forall_mem_cons.mp visible
    rw [charsOf, List.map_cons, List.dropWhile_cons, isBlank_charOf first, List.dropWhile_cons]
    split
    · exact ih later
    · rfl

theorem trim_charsOf {value : List UInt8}
    (visible : ∀ b ∈ value, HeaderValue.isVisible b = true) :
    Text.trim (charsOf value) = charsOf (core value) := by
  -- What is left after the blanks in front is visible as well, so its end is cut the same way.
  have kept : ∀ b ∈ (value.dropWhile isBlankByte).reverse, HeaderValue.isVisible b = true :=
    fun b member => visible b ((List.dropWhile_sublist _).subset (List.mem_reverse.mp member))
  rw [Text.trim, Text.trimEnd, Text.trimStart, dropWhile_charsOf visible, charsOf,
    ← List.map_reverse]
  have ended := dropWhile_charsOf kept
  rw [charsOf] at ended
  rw [ended, charsOf, ← List.map_reverse]
  rfl

theorem core_splits (value : List UInt8) :
    ∃ left right, value = left ++ core value ++ right
      ∧ ∀ b ∈ left ++ right, isBlankByte b = true := by
  let behind := value.dropWhile isBlankByte
  refine ⟨value.takeWhile isBlankByte, (behind.reverse.takeWhile isBlankByte).reverse, ?_, ?_⟩
  · have whole := List.takeWhile_append_dropWhile (p := isBlankByte) (l := behind.reverse)
    rw [List.append_assoc, core, ← List.reverse_append, whole, List.reverse_reverse]
    exact List.takeWhile_append_dropWhile.symm
  · intro b member
    rcases List.mem_append.mp member with left | right
    · exact List.mem_takeWhile_imp left
    · exact List.mem_takeWhile_imp (List.mem_reverse.mp right)

/-- Where dropping stops, there is no blank. -/
theorem not_isBlankByte_of_dropWhile {value rest : List UInt8} {b : UInt8}
    (stops : value.dropWhile isBlankByte = b :: rest) : isBlankByte b = false := by
  apply Run.ends_dropWhile isBlankByte value
  rw [stops]
  rfl

theorem core_begins {value rest : List UInt8} {b : UInt8} (shape : core value = b :: rest) :
    isBlankByte b = false := by
  -- The core begins where dropping the blanks in front stopped, for it is cut at its end only.
  let behind := value.dropWhile isBlankByte
  have whole : (behind.reverse.takeWhile isBlankByte) ++ (core value).reverse = behind.reverse := by
    rw [core, List.reverse_reverse]
    exact List.takeWhile_append_dropWhile
  have split := congrArg List.reverse whole
  rw [List.reverse_append, List.reverse_reverse, List.reverse_reverse, shape] at split
  exact not_isBlankByte_of_dropWhile split.symm

theorem core_ends {value rest : List UInt8} {b : UInt8} (shape : core value = rest ++ [b]) :
    isBlankByte b = false := by
  have flipped := congrArg List.reverse shape
  rw [core, List.reverse_reverse, List.reverse_append, List.reverse_singleton,
    List.singleton_append] at flipped
  exact not_isBlankByte_of_dropWhile flipped

theorem core_eq {left middle right : List UInt8}
    (blank : ∀ b ∈ left ++ right, isBlankByte b = true)
    (begins : ∃ b rest, middle = b :: rest ∧ isBlankByte b = false)
    (ends : ∃ rest b, middle = rest ++ [b] ∧ isBlankByte b = false) :
    core (left ++ middle ++ right) = middle := by
  obtain ⟨before, after⟩ := List.forall_mem_append.mp blank
  have front : (left ++ middle ++ right).dropWhile isBlankByte = middle ++ right := by
    obtain ⟨b, rest, rfl, solid⟩ := begins
    rw [List.append_assoc, List.dropWhile_append_of_pos before, List.cons_append,
      List.dropWhile_cons_of_neg (Bool.eq_false_iff.mp solid)]
  have back : (middle ++ right).reverse.dropWhile isBlankByte = middle.reverse := by
    obtain ⟨rest, b, rfl, solid⟩ := ends
    have flipped : ∀ b ∈ right.reverse, isBlankByte b = true :=
      fun b member => after b (List.mem_reverse.mp member)
    rw [List.reverse_append, List.dropWhile_append_of_pos flipped, List.reverse_append,
      List.reverse_singleton, List.singleton_append,
      List.dropWhile_cons_of_neg (Bool.eq_false_iff.mp solid)]
  rw [core, front, back, List.reverse_reverse]

/-! ## The id that was sent -/

theorem visible_core {value : List UInt8}
    (visible : ∀ b ∈ value, HeaderValue.isVisible b = true) :
    ∀ b ∈ core value, HeaderValue.isVisible b = true := by
  obtain ⟨left, right, whole, _⟩ := core_splits value
  intro b member
  apply visible
  rw [whole]
  exact List.mem_append_left _ (List.mem_append_right _ member)

theorem sentId?_of_first {headers : HeaderMap} {value : List UInt8}
    (sent : headers.first? Headers.requestId = some value) (id : String) :
    sentId? headers = some id
      ↔ (∀ b ∈ value, HeaderValue.isVisible b = true)
        ∧ (core value ≠ [] ∧ (core value).length ≤ longestId)
        ∧ String.ofList (charsOf (core value)) = id := by
  by_cases visible : ∀ b ∈ value, HeaderValue.isVisible b = true
  · have seen : HeaderValue.visibleText? value = some (charsOf value) :=
      if_pos (List.all_eq_true.mpr visible)
    have bytes : Utf8.encode (charsOf (core value)) = core value := by
      simpa [bytesOf] using bytesOf_charsOf (visible_core visible)
    rw [and_iff_right visible]
    simp only [sentId?, sent, seen, trim_charsOf visible, bytes, Option.bind_eq_bind,
      Option.bind_some, Option.ite_none_right_eq_some, Option.some.injEq, Bool.and_eq_true,
      Bool.not_eq_true', decide_eq_true_eq]
    simp [charsOf]
  · have unseen : HeaderValue.visibleText? value = none :=
      if_neg fun all => visible (List.all_eq_true.mp all)
    simp [sentId?, sent, unseen, visible]

/-- A service takes over the id in the first value that was sent, if there is one in it. -/
theorem sentId?_eq_some_iff (headers : HeaderMap) (id : String) :
    sentId? headers = some id
      ↔ ∃ value, headers.first? Headers.requestId = some value ∧ IsIdOf id value := by
  cases sent : headers.first? Headers.requestId with
  | none => simp [sentId?, sent]
  | some value =>
    rw [sentId?_of_first sent]
    constructor
    -- What the service reads is the core of the value.
    · rintro ⟨visible, ⟨nonempty, short⟩, rfl⟩
      have bytes := bytesOf_charsOf (visible_core visible)
      refine ⟨value, rfl, ?_, ?_⟩
      · constructor
        case visible => exact bytes.symm ▸ visible_core visible
        case begins =>
          obtain ⟨b, rest, shape⟩ := List.exists_cons_of_ne_nil nonempty
          exact ⟨b, rest, bytes.trans shape, core_begins shape⟩
        case ends =>
          have shape := (List.dropLast_append_getLast nonempty).symm
          exact ⟨_, _, bytes.trans shape, core_ends shape⟩
        case short => exact bytes.symm ▸ short
      · rw [bytes]
        exact core_splits value
    -- A clean id has no blank at its ends, so it is the core wherever it stands between blanks.
    · rintro ⟨_, same, clean, left, right, whole, blank⟩
      obtain rfl := Option.some.inj same
      have middle : core value = bytesOf id := by
        rw [whole]
        exact core_eq blank clean.begins clean.ends
      obtain ⟨before, after⟩ := List.forall_mem_append.mp blank
      rw [middle]
      refine ⟨?_, ⟨?_, clean.short⟩, ?_⟩
      · intro b member
        rw [whole] at member
        rcases List.mem_append.mp member with front | back
        · rcases List.mem_append.mp front with blankThere | inside
          · exact isVisible_of_isBlankByte (before b blankThere)
          · exact clean.visible b inside
        · exact isVisible_of_isBlankByte (after b back)
      · obtain ⟨b, rest, shape, _⟩ := clean.begins
        rw [shape]
        exact List.cons_ne_nil b rest
      · rw [bytesOf, charsOf_encode clean.visible, String.ofList_toList]

/-! ## Stamped headers -/

namespace HeaderMap

/-- All values of a name. -/
def valuesOf (headers : HeaderMap) (name : String) : List (List UInt8) :=
  (headers.filter fun header => header.1 == name).map (·.2)

/-- The headers of other names. -/
def without (headers : HeaderMap) (name : String) : HeaderMap :=
  headers.filter fun header => header.1 != name

theorem valuesOf_replace (headers : HeaderMap) (name : String) (value : List UInt8) :
    (headers.replace name value).valuesOf name = [value] := by
  have gone : (headers.filter fun header => header.1 != name).filter
      (fun header => header.1 == name) = [] := by
    rw [List.filter_filter, List.filter_eq_nil_iff]
    simp
  simp [valuesOf, replace, gone]

theorem without_replace (headers : HeaderMap) (name : String) (value : List UInt8) :
    (headers.replace name value).without name = headers.without name := by
  simp [without, replace]

theorem first?_of_valuesOf {headers : HeaderMap} {name : String} {value : List UInt8}
    {more : List (List UInt8)} (values : headers.valuesOf name = value :: more) :
    headers.first? name = some value := by
  induction headers with
  | nil => cases values
  | cons header rest ih =>
    obtain ⟨other, held⟩ := header
    rw [first?, List.lookup_cons]
    by_cases same : other = name
    · subst same
      simp only [valuesOf, List.filter_cons, beq_self_eq_true, if_true, List.map_cons,
        List.cons.injEq] at values
      rw [values.1]
      simp
    · have differs : (name == other) = false := beq_eq_false_iff_ne.mpr (Ne.symm same)
      rw [differs]
      apply ih
      simpa [valuesOf, same] using values

end HeaderMap

/-- An id that services use can stand in a header. -/
theorem stamp_of_isClean {id : String} (clean : IsClean id) (headers : HeaderMap) :
    stamp id headers = headers.replace Headers.requestId (bytesOf id) := by
  have legal : (bytesOf id).all HeaderValue.isLegal = true := by
    rw [List.all_eq_true]
    intro b member
    have visible := (isVisible_iff b).mp (clean.visible b member)
    simp only [HeaderValue.isLegal, Bool.or_eq_true, Bool.and_eq_true, decide_eq_true_eq,
      bne_iff_ne, beq_iff_eq, UInt8.le_iff_toNat_le, ne_eq, ← UInt8.toNat_inj,
      UInt8.reduceToNat]
    omega
  rw [stamp, HeaderValue.ofText?, if_pos legal]

theorem isIdOf_bytesOf {id : String} (clean : IsClean id) : IsIdOf id (bytesOf id) :=
  ⟨clean, [], [], by simp, by simp⟩

/-- A service that is sent one id as other services use it uses that id. -/
theorem sentId?_of_valuesOf {headers : HeaderMap} {id : String} (clean : IsClean id)
    (values : headers.valuesOf Headers.requestId = [bytesOf id]) : sentId? headers = some id :=
  (sentId?_eq_some_iff headers id).mpr
    ⟨_, HeaderMap.first?_of_valuesOf values, isIdOf_bytesOf clean⟩

/-! ## Fresh ids -/

/-- Whether a character may stand where a UUID's pattern has another: `x` is a hexadecimal digit,
and `y` one of those that tell the variant. -/
def standsFor (pattern c : Char) : Bool :=
  if pattern = 'x' then c.isDigit || (decide ('a' ≤ c) && decide (c ≤ 'f'))
  else if pattern = 'y' then c == '8' || c == '9' || c == 'a' || c == 'b'
  else c == pattern

def follows : List Char → List Char → Bool
  | [], [] => true
  | pattern :: more, c :: rest => standsFor pattern c && follows more rest
  | [], _ :: _ => false
  | _ :: _, [] => false

/-- The text of a random UUID, which is one of version 4. -/
def isRandomUuid (text : String) : Bool :=
  follows "xxxxxxxx-xxxx-4xxx-yxxx-xxxxxxxxxxxx".toList text.toList

theorem of_follows {pattern text : List Char} (fits : follows pattern text = true) :
    text.length = pattern.length ∧ ∀ c ∈ text, ∃ p ∈ pattern, standsFor p c = true := by
  induction pattern generalizing text with
  | nil =>
    cases text with
    | nil => exact ⟨rfl, fun _ member => nomatch member⟩
    | cons c rest => cases fits
  | cons p more ih =>
    cases text with
    | nil => cases fits
    | cons c rest =>
      rw [follows, Bool.and_eq_true] at fits
      obtain ⟨length, stands⟩ := ih fits.2
      refine ⟨congrArg (· + 1) length, ?_⟩
      intro d member
      rcases List.mem_cons.mp member with rfl | later
      · exact ⟨p, List.mem_cons_self, fits.1⟩
      · obtain ⟨q, inside, same⟩ := stands d later
        exact ⟨q, List.mem_cons_of_mem _ inside, same⟩

/-- A text of visible characters without blanks is an id as services use it, if it is not empty and
not too long. -/
theorem isClean_of_solid {id : String} (solid : ∀ c ∈ id.toList, 0x20 < c.toNat ∧ c.toNat < 0x7F)
    (nonempty : id.toList ≠ []) (short : id.toList.length ≤ longestId) : IsClean id := by
  have bytes : bytesOf id = id.toList.map fun c => UInt8.ofNat c.toNat := by
    apply Utf8.encode_ascii
    intro c member
    have range := solid c member
    omega
  have code : ∀ c ∈ id.toList, (UInt8.ofNat c.toNat).toNat = c.toNat := by
    intro c member
    have range := solid c member
    exact Utf8.toNat_ofNat (by omega)
  have notBlank : ∀ b ∈ bytesOf id, isBlankByte b = false := by
    rw [bytes, List.forall_mem_map]
    intro c member
    have range := solid c member
    rw [Bool.eq_false_iff, ne_eq, isBlankByte_iff, code c member]
    omega
  have some_ : bytesOf id ≠ [] := by
    rw [bytes]
    exact fun none => nonempty (List.map_eq_nil_iff.mp none)
  constructor
  case visible =>
    rw [bytes, List.forall_mem_map]
    intro c member
    have range := solid c member
    rw [isVisible_iff, code c member]
    omega
  case begins =>
    obtain ⟨b, rest, shape⟩ := List.exists_cons_of_ne_nil some_
    exact ⟨b, rest, shape, notBlank b (shape ▸ List.mem_cons_self)⟩
  case ends =>
    exact ⟨_, _, (List.dropLast_append_getLast some_).symm,
      notBlank _ (List.getLast_mem some_)⟩
  case short => rwa [bytes, List.length_map]

theorem range_of_standsFor {p c : Char} (known : p ∈ ['x', 'y', '4', '-'])
    (stands : standsFor p c = true) : 0x20 < c.toNat ∧ c.toNat < 0x7F := by
  simp only [List.mem_cons, List.not_mem_nil, or_false] at known
  rcases known with rfl | rfl | rfl | rfl
  · rw [standsFor, if_pos rfl, Bool.or_eq_true, Bool.and_eq_true, decide_eq_true_eq,
      decide_eq_true_eq, Char.le_def, Char.le_def, UInt32.le_iff_toNat_le,
      UInt32.le_iff_toNat_le] at stands
    have value : c.val.toNat = c.toNat := rfl
    rcases stands with digit | ⟨low, high⟩
    · have range := Utf8.digit_range digit
      omega
    · simp only [Char.reduceVal, UInt32.reduceToNat] at low high
      omega
  · simp [standsFor] at stands
    rcases stands with ((rfl | rfl) | rfl) | rfl <;> decide
  · obtain rfl : c = '4' := by simpa [standsFor] using stands
    decide
  · obtain rfl : c = '-' := by simpa [standsFor] using stands
    decide

theorem isClean_of_isRandomUuid {id : String} (random : isRandomUuid id = true) : IsClean id := by
  obtain ⟨length, stands⟩ := of_follows random
  have letters : ("xxxxxxxx-xxxx-4xxx-yxxx-xxxxxxxxxxxx".toList.all fun p =>
      ['x', 'y', '4', '-'].contains p) = true := by decide
  apply isClean_of_solid
  case solid =>
    intro c member
    obtain ⟨p, inside, same⟩ := stands c member
    have known := List.contains_iff_mem.mp (List.all_eq_true.mp letters p inside)
    exact range_of_standsFor known same
  case nonempty => exact List.ne_nil_of_length_pos (by rw [length]; decide)
  case short => rw [length]; decide

end Gatehouse.Inbound
