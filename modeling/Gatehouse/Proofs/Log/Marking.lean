import Gatehouse.Proofs.Log.Redaction
import Mathlib.Data.Option.Basic

/-!
# What redaction does at each position

A position in a value is the way to it: the places in arrays and the keys of objects that lead
there. On a way that meets no sensitive key, redaction keeps every node. At its end, a sensitive key
holds the marker. So a value is left as it is exactly if all such keys hold the marker already.
-/
namespace Gatehouse

namespace Json

/-- A step into a value. -/
inductive Step
  | item (place : Nat)
  | field (key : String)

/-- What stands at the end of a way, if the value has it. -/
def at? : Json → List Step → Option Json
  | value, [] => some value
  | .array items, .item place :: path => items[place]?.bind fun item => item.at? path
  | .object fields, .field key :: path => (Fields.find? fields key).bind fun held => held.at? path
  | _, _ :: _ => none

/-- Nodes of one kind that say the same, whatever stands inside them: equal scalars, arrays of one
length, objects with the same keys. -/
inductive SameNode : Json → Json → Prop
  | null : SameNode .null .null
  | bool (value : Bool) : SameNode (.bool value) (.bool value)
  | integer (value : Int) : SameNode (.integer value) (.integer value)
  | float (value : Binary64) : SameNode (.float value) (.float value)
  | string (text : String) : SameNode (.string text) (.string text)
  | array {items others : List Json} : items.length = others.length →
      SameNode (.array items) (.array others)
  | object {fields others : Fields} : fields.map (·.1) = others.map (·.1) →
      SameNode (.object fields) (.object others)

/-- What stands behind a way is found by going on from its end. -/
theorem at?_append (value : Json) (path further : List Step) :
    value.at? (path ++ further) = (value.at? path).bind fun inner => inner.at? further := by
  induction path generalizing value with
  | nil => simp [at?]
  | cons step rest ih => cases value <;> cases step <;> simp [at?, Option.bind_assoc, ih]

end Json

namespace Redaction

/-- A way that meets no sensitive key. -/
def IsOpen (path : List Json.Step) : Prop := ∀ key, .field key ∈ path → isSensitive key = false

theorem isOpen_nil : IsOpen [] := by simp [IsOpen]

theorem isOpen_item (place : Nat) (rest : List Json.Step) :
    IsOpen (.item place :: rest) ↔ IsOpen rest := by
  simp [IsOpen]

theorem isOpen_field (key : String) (rest : List Json.Step) :
    IsOpen (.field key :: rest) ↔ isSensitive key = false ∧ IsOpen rest := by
  simp [IsOpen]

/-! ## Positions after redaction -/

/-- On an open way a redacted value has what the value has there, redacted. -/
theorem at?_redact {path : List Json.Step} (isOpen : IsOpen path) (value : Json) :
    (redact value).at? path = (value.at? path).map redact := by
  -- Along the way: each step goes into a part of the value, which was redacted by itself.
  induction path generalizing value with
  | nil => simp [Json.at?]
  | cons step rest ih =>
    cases step with
    | item place =>
      have below := (isOpen_item place rest).mp isOpen
      cases value <;> simp only [redact, Json.at?, Option.map_none]
      next items =>
        rw [redactItems_eq_map, List.getElem?_map]
        cases items[place]? with
        | none => simp
        | some item => simp [ih below]
    | field key =>
      obtain ⟨plain, below⟩ := (isOpen_field key rest).mp isOpen
      cases value <;> simp only [redact, Json.at?, Option.map_none]
      next fields =>
        rw [find?_redactFields]
        cases Json.Fields.find? fields key with
        | none => simp
        | some held => simp [cleaned, plain, ih below]

/-- A sensitive key that an open way leads to holds the marker, and is there if it was there. -/
theorem at?_redact_sensitive {path : List Json.Step} (isOpen : IsOpen path) {key : String}
    (sensitive : isSensitive key = true) (value : Json) :
    (redact value).at? (path ++ [.field key])
      = (value.at? (path ++ [.field key])).map fun _ => .string marker := by
  rw [Json.at?_append, Json.at?_append, at?_redact isOpen]
  cases value.at? path with
  | none => simp
  | some inner =>
    -- Only an object goes on behind a key.
    cases inner <;> simp [redact, Json.at?]
    next fields =>
      rw [find?_redactFields]
      cases Json.Fields.find? fields key <;> simp [cleaned, sensitive]

theorem sameNode_redact (value : Json) : Json.SameNode value (redact value) := by
  cases value with
  | null => exact .null
  | bool value => exact .bool value
  | integer value => exact .integer value
  | float value => exact .float value
  | string text => exact .string text
  | array items => exact .array (by simp [redactItems_eq_map])
  | object fields => exact .object (redactFields_keys fields).symm

theorem sameNode_at?_redact {path : List Json.Step} (isOpen : IsOpen path) (value : Json) :
    Option.Rel Json.SameNode (value.at? path) ((redact value).at? path) := by
  rw [at?_redact isOpen]
  cases value.at? path with
  | none => exact .none
  | some inner => exact .some (sameNode_redact inner)

/-! ## Values that stay as they are -/

/-- Every sensitive key that an open way leads to holds the marker. -/
def IsMarked (value : Json) : Prop :=
  ∀ path key held, IsOpen path → isSensitive key = true →
    value.at? (path ++ [.field key]) = some held → held = .string marker

theorem isMarked_redact (value : Json) : IsMarked (redact value) := by
  intro path key held isOpen sensitive found
  rw [at?_redact_sensitive isOpen sensitive, Option.map_eq_some_iff] at found
  obtain ⟨_, _, same⟩ := found
  exact same.symm

/-- What an open step leads to is marked if the whole is. -/
theorem IsMarked.below {value inner : Json} (marked : IsMarked value) (step : Json.Step)
    (isOpen : IsOpen [step]) (found : value.at? [step] = some inner) : IsMarked inner := by
  intro path key held behind sensitive there
  apply marked (step :: path) key held ?_ sensitive
  · rw [List.cons_append, ← List.singleton_append, Json.at?_append, found]
    exact there
  · intro other member
    rcases List.mem_cons.mp member with here | later
    · exact isOpen other (by simp [here])
    · exact behind other later

theorem redact_of_isMarked {value : Json} (formed : value.WellFormed) (marked : IsMarked value) :
    redact value = value := by
  induction value using Json.induction with
  | null => rfl
  | bool value => rfl
  | integer value => rfl
  | float value => rfl
  | string text => rfl
  | array items inside =>
    cases formed with | array formed => ?_
    -- Any item is one step away.
    have same : ∀ item ∈ items, redact item = id item := by
      intro item member
      obtain ⟨place, here⟩ := List.mem_iff_getElem?.mp member
      apply inside item member (formed item member)
      apply marked.below (.item place) ((isOpen_item place []).mpr isOpen_nil)
      simp [Json.at?, here]
    rw [redact, redactItems_eq_map, List.map_congr_left same, List.map_id]
  | object fields inside =>
    cases formed with | object ascending formed => ?_
    -- Keys ascend, so any field is the one that its key finds.
    have same : ∀ field ∈ fields, (field.1, cleaned field.1 field.2) = id field := by
      rintro ⟨key, held⟩ member
      have found := (Json.Fields.find?_eq_some_iff ascending key held).mpr member
      cases sensitive : isSensitive key with
      | true =>
        have marker := marked [] key held isOpen_nil sensitive (by simp [Json.at?, found])
        simp [cleaned, sensitive, marker]
      | false =>
        have kept : redact held = held := by
          apply inside (key, held) member (formed (key, held) member)
          apply marked.below (.field key) ((isOpen_field key []).mpr ⟨sensitive, isOpen_nil⟩)
          simp [Json.at?, found]
        simp [cleaned, sensitive, kept]
    rw [redact, redactFields_eq_map, List.map_congr_left same, List.map_id]

theorem redact_eq_self_iff {value : Json} (formed : value.WellFormed) :
    redact value = value ↔ IsMarked value :=
  ⟨fun same => same ▸ isMarked_redact value, redact_of_isMarked formed⟩

theorem wellFormed_redact {value : Json} (formed : value.WellFormed) :
    (redact value).WellFormed := by
  induction formed with
  | null => exact .null
  | bool value => exact .bool value
  | integer range => exact .integer range
  | float value => exact .float value
  | string text => exact .string text
  | array _ inside =>
    rw [redact, redactItems_eq_map]
    refine .array fun item member => ?_
    obtain ⟨old, here, rfl⟩ := List.mem_map.mp member
    exact inside old here
  | object ascending _ inside =>
    rw [redact]
    refine .object (ascending_redactFields ascending) ?_
    rw [redactFields_eq_map]
    intro field member
    obtain ⟨old, here, rfl⟩ := List.mem_map.mp member
    unfold cleaned
    split
    · exact .string marker
    · exact inside old here

/-- Redaction marks what is sensitive and keeps the rest. Every sensitive key that an open way leads
to is there as before and holds the marker. Every position on an open way has a node that says the
same as before, or none as before. The values that stay as they are are those in which every such
key holds the marker already, so redaction once more changes nothing. -/
theorem redact_marks_sensitive_only {value : Json} (formed : value.WellFormed) :
    (∀ path key, IsOpen path → isSensitive key = true →
        (redact value).at? (path ++ [.field key])
          = (value.at? (path ++ [.field key])).map fun _ => .string marker)
      ∧ (∀ path, IsOpen path →
          Option.Rel Json.SameNode (value.at? path) ((redact value).at? path))
      ∧ (redact value = value ↔ ∀ path key held, IsOpen path → isSensitive key = true →
          value.at? (path ++ [.field key]) = some held → held = .string marker)
      ∧ redact (redact value) = redact value := by
  refine ⟨?_, ?_, redact_eq_self_iff formed, ?_⟩
  · intro path key isOpen sensitive
    exact at?_redact_sensitive isOpen sensitive value
  · intro path isOpen
    exact sameNode_at?_redact isOpen value
  · -- What redaction gives is marked, and so it stays.
    exact redact_of_isMarked (wellFormed_redact formed) (isMarked_redact value)

/-- A password in an object in an array in an object is marked, and the name beside it kept. The
token outside holds the marker already, but the password did not. -/
theorem redact_marks_sensitive_only_of_users :
    let user : Json := .object [("name", .string "ada"), ("password", .integer 7)]
    let value : Json := .object [("token", .string marker), ("users", .array [.null, user])]
    let way : List Json.Step := [.field "users", .item 1]
    value.WellFormed ∧ IsOpen way ∧ isSensitive "password" = true
      ∧ (redact value).at? (way ++ [.field "password"]) = some (.string marker)
      ∧ Option.Rel Json.SameNode (some user) ((redact value).at? way)
      ∧ redact value ≠ value
      ∧ redact (redact value) = redact value := by
  intro user value way
  have userFormed : user.WellFormed := by
    have ascending : "name" < "password" := by decide
    have seven : Json.WellFormed (.integer 7) := .integer (by simp [Json.InRange])
    refine .object (List.pairwise_pair.mpr ascending) ?_
    simp [Json.WellFormed.string, seven]
  have formed : value.WellFormed := by
    have ascending : "token" < "users" := by decide
    have users : (Json.array [.null, user]).WellFormed :=
      .array (by simp [Json.WellFormed.null, userFormed])
    refine .object (List.pairwise_pair.mpr ascending) ?_
    simp [Json.WellFormed.string, users]
  have isOpen : IsOpen way := by
    have plain : isSensitive "users" = false := by decide +kernel
    exact (isOpen_field _ _).mpr ⟨plain, (isOpen_item _ _).mpr isOpen_nil⟩
  have sensitive : isSensitive "password" = true := by decide +kernel
  obtain ⟨marked, kept, fixed, twice⟩ := redact_marks_sensitive_only formed
  refine ⟨formed, isOpen, sensitive, marked way "password" isOpen sensitive, kept way isOpen, ?_,
    twice⟩
  intro same
  have held := fixed.mp same way "password" (.integer 7) isOpen sensitive rfl
  cases held

end Redaction

end Gatehouse
