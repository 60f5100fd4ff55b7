import Gatehouse.Log.Redaction
import Gatehouse.Proofs.Json.Values

/-!
# What redaction hides

Two values are alike when they differ under sensitive keys only. Redaction takes values to the same
result exactly when they are alike: no value under a sensitive key shows in the result, and
everything else does.
-/
namespace Gatehouse.Redaction

/-- Values that differ under sensitive keys only. -/
inductive Alike : Json → Json → Prop
  | null : Alike .null .null
  | bool (value : Bool) : Alike (.bool value) (.bool value)
  | integer (value : Int) : Alike (.integer value) (.integer value)
  | float (value : Binary64) : Alike (.float value) (.float value)
  | string (text : String) : Alike (.string text) (.string text)
  | array {items others : List Json} : items.length = others.length →
      (∀ (place : Nat) item other, items[place]? = some item → others[place]? = some other →
        Alike item other) →
      Alike (.array items) (.array others)
  | object {fields others : Json.Fields} :
      (∀ key, key ∈ fields.map (·.1) ↔ key ∈ others.map (·.1)) →
      (∀ key value other, isSensitive key = false → fields.find? key = some value →
        others.find? key = some other → Alike value other) →
      Alike (.object fields) (.object others)

/-! ## Arrays and objects -/

theorem redactItems_eq_map (items : List Json) : redactItems items = items.map redact := by
  induction items with
  | nil => rfl
  | cons item rest ih => rw [redactItems, List.map_cons, ih]

/-- The value of a field in a redacted object. -/
def cleaned (key : String) (value : Json) : Json :=
  if isSensitive key then .string marker else redact value

theorem redactFields_eq_map (fields : Json.Fields) :
    redactFields fields = fields.map fun field => (field.1, cleaned field.1 field.2) := by
  induction fields with
  | nil => rfl
  | cons field rest ih =>
    obtain ⟨key, value⟩ := field
    rw [redactFields, List.map_cons, ih]
    rfl

theorem redactFields_keys (fields : Json.Fields) :
    (redactFields fields).map (·.1) = fields.map (·.1) := by
  rw [redactFields_eq_map, List.map_map]
  rfl

theorem find?_redactFields (fields : Json.Fields) (key : String) :
    Json.Fields.find? (redactFields fields) key = (fields.find? key).map (cleaned key) := by
  induction fields with
  | nil => rfl
  | cons field rest ih =>
    obtain ⟨other, value⟩ := field
    rw [redactFields, Json.Fields.find?_cons, Json.Fields.find?_cons, ih]
    split
    next same =>
      subst same
      rfl
    · rfl

theorem ascending_redactFields {fields : Json.Fields} (ascending : fields.Ascending) :
    Json.Fields.Ascending (redactFields fields) := by
  rw [redactFields_eq_map]
  exact List.pairwise_map.mpr ascending

/-! ## Alike values -/

theorem alike_of_redact_eq (value : Json) :
    ∀ other, redact value = redact other → Alike value other := by
  induction value using Json.induction with
  | null =>
    intro other same
    cases other <;> simp only [redact, reduceCtorEq] at same
    exact .null
  | bool value =>
    intro other same
    cases other <;> simp only [redact, reduceCtorEq, Json.bool.injEq] at same
    exact same ▸ .bool value
  | integer value =>
    intro other same
    cases other <;> simp only [redact, reduceCtorEq, Json.integer.injEq] at same
    exact same ▸ .integer value
  | float value =>
    intro other same
    cases other <;> simp only [redact, reduceCtorEq, Json.float.injEq] at same
    exact same ▸ .float value
  | string text =>
    intro other same
    cases other <;> simp only [redact, reduceCtorEq, Json.string.injEq] at same
    exact same ▸ .string text
  | array items inside =>
    intro other same
    cases other <;> simp only [redact, reduceCtorEq, Json.array.injEq] at same
    next others =>
      rw [redactItems_eq_map, redactItems_eq_map] at same
      constructor
      · simpa using congrArg List.length same
      · intro place item other here there
        have images := congrArg (·[place]?) same
        simp only [List.getElem?_map, here, there, Option.map_some, Option.some.injEq] at images
        exact inside item (List.mem_of_getElem? here) other images
  | object fields inside =>
    intro other same
    cases other <;> simp only [redact, reduceCtorEq, Json.object.injEq] at same
    next others =>
      constructor
      · intro key
        rw [← redactFields_keys fields, ← redactFields_keys others, same]
      · intro key value other plain here there
        have images := congrArg (Json.Fields.find? · key) same
        simp only [find?_redactFields, here, there, Option.map_some, Option.some.injEq, cleaned,
          plain, Bool.false_eq_true, if_false] at images
        exact inside _ (Json.Fields.mem_of_find? here) other images

theorem redact_eq_of_alike {value other : Json} (alike : Alike value other)
    (formed : value.WellFormed) (formedOther : other.WellFormed) :
    redact value = redact other := by
  induction alike with
  | null => rfl
  | bool value => rfl
  | integer value => rfl
  | float value => rfl
  | string text => rfl
  | @array items others length _ inside =>
    cases formed with | array formed => ?_
    cases formedOther with | array formedOther => ?_
    rw [redact, redact, redactItems_eq_map, redactItems_eq_map]
    refine congrArg Json.array (List.ext_getElem (by simpa using length) ?_)
    intro place here there
    rw [List.length_map] at here there
    rw [List.getElem_map, List.getElem_map]
    exact inside place _ _ (List.getElem?_eq_getElem here) (List.getElem?_eq_getElem there)
      (formed _ (List.getElem_mem here)) (formedOther _ (List.getElem_mem there))
  | @object fields others keys _ inside =>
    cases formed with | object ascending formed => ?_
    cases formedOther with | object ascendingOthers formedOthers => ?_
    rw [redact, redact]
    refine congrArg Json.object (Json.Fields.ext_of_find? (ascending_redactFields ascending)
      (ascending_redactFields ascendingOthers) fun key => ?_)
    rw [find?_redactFields, find?_redactFields]
    -- A key stands in both or in neither.
    have present := (fields.find?_isSome_iff key).trans
      ((keys key).trans (others.find?_isSome_iff key).symm)
    cases here : fields.find? key with
    | none =>
      cases there : others.find? key with
      | none => rfl
      | some other => simp [here, there] at present
    | some value =>
      cases there : others.find? key with
      | none => simp [here, there] at present
      | some other =>
        apply congrArg some
        unfold cleaned
        split
        · rfl
        next plain =>
          exact inside key value other (Bool.eq_false_iff.mpr plain) here there
            (formed _ (Json.Fields.mem_of_find? here))
            (formedOthers _ (Json.Fields.mem_of_find? there))

/-- Redaction tells two values apart exactly when they differ in what is not sensitive. -/
theorem redact_eq_iff {value other : Json} (formed : value.WellFormed)
    (formedOther : other.WellFormed) : redact value = redact other ↔ Alike value other :=
  ⟨alike_of_redact_eq value other, fun alike => redact_eq_of_alike alike formed formedOther⟩

end Gatehouse.Redaction
