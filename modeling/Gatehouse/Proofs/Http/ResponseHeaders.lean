import Gatehouse.Http.Client
import Gatehouse.Proofs.Http.Updates
import Gatehouse.Proofs.Text.AsciiCase

/-!
# The headers of a response by name

Headers that are put into a map one after the other are found as if they were searched from the last
one back: under a name stands the text of its last header that has one. Those without a text are
passed over, so they hide nothing.
-/
namespace Gatehouse

namespace RawHeader

/-- The text that a raw header comes to. -/
inductive ComesTo : RawHeader → String → Prop
  | text (value : String) : ComesTo (.text value) value
  | list (values : List String) : ComesTo (.list values) (", ".intercalate values)

/-- Whether a raw header is bytes without a text. -/
def IsOpaque (raw : RawHeader) : Prop := ∃ bytes, raw = .opaqueBytes bytes

theorem text?_eq_some_iff (raw : RawHeader) (text : String) :
    raw.text? = some text ↔ raw.ComesTo text := by
  constructor
  · intro held
    cases raw with
    | text => cases held; constructor
    | list => cases held; constructor
    | opaqueBytes => cases held
  · intro comes
    cases comes <;> rfl

theorem text?_eq_none_iff (raw : RawHeader) : raw.text? = none ↔ raw.IsOpaque := by
  cases raw <;> simp [text?, IsOpaque]

end RawHeader

namespace Headers

/-! ## One header -/

theorem lookup_put (name value : String) (headers : List Header) (key : String) :
    (put name value headers).lookup key
      = if name = key then some value else headers.lookup key := by
  -- The library compares the sought name with the entry's, and `put` the other way round.
  have lookup_cons (other old : String) (rest : List Header) :
      List.lookup key ((other, old) :: rest)
        = if other = key then some old else rest.lookup key := by
    rw [List.lookup_cons, BEq.comm]
    cases same : other == key <;> simp_all
  induction headers with
  | nil => exact lookup_cons name value []
  | cons first rest ih =>
    obtain ⟨other, old⟩ := first
    rw [put]
    split
    next here =>
      subst here
      rw [lookup_cons, lookup_cons]
      split <;> rfl
    next elsewhere =>
      rw [lookup_cons, lookup_cons, ih]
      split
      next same => rw [if_neg fun also => elsewhere (same.trans also.symm)]
      next => rfl

theorem updates_put (name value : String) (headers : List Header) :
    Updates (· == name) name headers (put name value headers) := by
  induction headers with
  | nil => exact .last value
  | cons first rest ih =>
    obtain ⟨other, old⟩ := first
    rw [put]
    split
    next here =>
      subst here
      exact .here old value rest (beq_self_eq_true other)
    next elsewhere => exact .later old (beq_false_of_ne elsewhere) ih

theorem nodup_put {headers : List Header} (distinct : (headers.map (·.1)).Nodup)
    (name value : String) : ((put name value headers).map (·.1)).Nodup :=
  (updates_put name value headers).pairwise (fun _ => ne_of_beq_false) distinct

/-! ## All headers -/

/-- A raw header goes into the map if it has a text. -/
def keep (headers : List Header) (entry : String × RawHeader) : List Header :=
  match entry.2.text? with
  | some value => put (Text.lowered entry.1) value headers
  | none => headers

theorem normalize_eq (raw : List (String × RawHeader)) : normalize raw = raw.foldl keep [] := rfl

/-- The text of a raw header, if it is for a name in lower case. -/
def textFor (key : String) (entry : String × RawHeader) : Option String :=
  if Text.lowered entry.1 = key then entry.2.text? else none

theorem lookup_keep (headers : List Header) (entry : String × RawHeader) (key : String) :
    (keep headers entry).lookup key = (textFor key entry).or (headers.lookup key) := by
  rw [keep, textFor]
  cases entry.2.text? with
  | none => simp
  | some value =>
    simp only [lookup_put]
    split <;> rfl

theorem nodup_keep {headers : List Header} (distinct : (headers.map (·.1)).Nodup)
    (entry : String × RawHeader) : ((keep headers entry).map (·.1)).Nodup := by
  rw [keep]
  split
  · exact nodup_put distinct _ _
  · exact distinct

/-- The map is searched as the headers are from the last one back. -/
theorem lookup_foldl_keep (raw : List (String × RawHeader)) (headers : List Header)
    (key : String) :
    (raw.foldl keep headers).lookup key
      = (raw.reverse.findSome? (textFor key)).or (headers.lookup key) := by
  induction raw generalizing headers with
  | nil => rfl
  | cons entry rest ih =>
    rw [List.foldl_cons, ih, lookup_keep, List.reverse_cons, List.findSome?_append,
      List.findSome?_singleton, Option.or_assoc]

theorem lookup_normalize (raw : List (String × RawHeader)) (key : String) :
    (normalize raw).lookup key = raw.reverse.findSome? (textFor key) := by
  rw [normalize_eq, lookup_foldl_keep]
  exact Option.or_none

theorem nodup_normalize (raw : List (String × RawHeader)) :
    ((normalize raw).map (·.1)).Nodup := by
  -- Over any map to start with, as the fold goes on with the map it has so far.
  have kept : ∀ headers : List Header, (headers.map (·.1)).Nodup →
      ((raw.foldl keep headers).map (·.1)).Nodup := by
    induction raw with
    | nil => exact fun _ distinct => distinct
    | cons entry rest ih => exact fun headers distinct => ih _ (nodup_keep distinct entry)
  exact kept [] List.nodup_nil

theorem mem_names_iff (headers : List Header) (key : String) :
    key ∈ headers.map (·.1) ↔ (headers.lookup key).isSome := by
  rw [List.lookup_isSome_iff, List.mem_map]
  simp only [beq_iff_eq]
  exact exists_congr fun header => and_congr_right' eq_comm

theorem textFor_eq_some_iff (key text : String) (entry : String × RawHeader) :
    textFor key entry = some text ↔ Text.lowered entry.1 = key ∧ entry.2.ComesTo text := by
  rw [textFor, ← RawHeader.text?_eq_some_iff]
  split
  next same => simp [same]
  next differs => simp [differs]

theorem textFor_eq_none_iff (key : String) (entry : String × RawHeader) :
    textFor key entry = none ↔ (Text.lowered entry.1 = key → entry.2.IsOpaque) := by
  rw [textFor, ← RawHeader.text?_eq_none_iff]
  split
  next same => simp [same]
  next differs => simp [differs]

end Headers

/-- A response has under a name the text of the last raw header of that name, up to the case of
letters, that is not opaque, and nothing if there is none. An opaque header changes nothing wherever
it stands. The names that a response has are those of its raw headers that are not opaque, in lower
case and each once. -/
theorem Response.header_tells_last {α : Type} (data : α) (status : Nat) (statusText : String)
    (raw : List (String × RawHeader)) :
    let response : Response α := ⟨data, status, statusText, Headers.normalize raw⟩
    (∀ name text, response.header name = some text ↔
        ∃ before key value after, raw = before ++ (key, value) :: after
          ∧ Text.SameLetters key name ∧ value.ComesTo text
          ∧ ∀ later ∈ after, Text.SameLetters later.1 name → later.2.IsOpaque)
      ∧ (∀ name, response.header name = none ↔
          ∀ entry ∈ raw, Text.SameLetters entry.1 name → entry.2.IsOpaque)
      ∧ (∀ before key bytes after,
          Headers.normalize (before ++ (key, .opaqueBytes bytes) :: after)
            = Headers.normalize (before ++ after))
      ∧ (response.headers.map (·.1)).Nodup
      ∧ ∀ key, key ∈ response.headers.map (·.1) ↔
          ∃ entry ∈ raw, Text.lowered entry.1 = key ∧ ¬ entry.2.IsOpaque := by
  intro response
  have found : ∀ name, response.header name
      = raw.reverse.findSome? (Headers.textFor (Text.lowered name)) :=
    fun name => Headers.lookup_normalize raw (Text.lowered name)
  refine ⟨?_, ?_, ?_, Headers.nodup_normalize raw, ?_⟩
  · intro name text
    rw [found, List.findSome?_eq_some_iff]
    simp only [Headers.textFor_eq_some_iff, Headers.textFor_eq_none_iff, ← Text.sameLetters_iff]
    -- What the search passes over before it ends stands behind the header that it ends with.
    constructor
    · rintro ⟨after, ⟨key, value⟩, before, split, ⟨same, comes⟩, none⟩
      rw [List.reverse_eq_append_iff, List.reverse_cons, List.append_assoc] at split
      refine ⟨before.reverse, key, value, after.reverse, split, same, comes, ?_⟩
      simpa only [List.mem_reverse] using none
    · rintro ⟨before, key, value, after, rfl, same, comes, none⟩
      refine ⟨after.reverse, (key, value), before.reverse, ?_, ⟨same, comes⟩, ?_⟩
      · simp
      · simpa only [List.mem_reverse] using none
  · intro name
    rw [found, List.findSome?_eq_none_iff]
    simp only [List.mem_reverse, Headers.textFor_eq_none_iff, ← Text.sameLetters_iff]
  · intro before key bytes after
    simp only [Headers.normalize_eq, List.foldl_append, List.foldl_cons]
    rfl
  · intro key
    rw [Headers.mem_names_iff, Headers.lookup_normalize, List.findSome?_isSome_iff]
    simp only [List.mem_reverse, Option.isSome_iff_ne_none, ne_eq, Headers.textFor_eq_none_iff,
      Classical.not_imp]

end Gatehouse
