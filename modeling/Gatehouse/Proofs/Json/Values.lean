import Gatehouse.Json.Basic

/-!
# JSON values as trees and objects as maps

Induction over values goes through the items of arrays and the fields of objects. Fields that
ascend by key are a map: they are settled by what `find?` says of each key, and `insert` keeps them
ascending.
-/
namespace Gatehouse.Json

/-- Induction over a value, with the values inside it. -/
@[elab_as_elim]
theorem induction {motive : Json → Prop} (null : motive .null)
    (bool : ∀ value, motive (.bool value)) (integer : ∀ value, motive (.integer value))
    (float : ∀ value, motive (.float value)) (string : ∀ text, motive (.string text))
    (array : ∀ items, (∀ item ∈ items, motive item) → motive (.array items))
    (object : ∀ fields, (∀ field ∈ fields, motive field.2) → motive (.object fields))
    (value : Json) : motive value := by
  refine @Json.rec motive (fun items => ∀ item ∈ items, motive item)
    (fun fields => ∀ field ∈ fields, motive field.2) (fun field => motive field.2)
    null bool integer float string array object ?_ ?_ ?_ ?_ ?_ value
  · intro item member
    cases member
  · intro first rest here below item member
    rcases List.mem_cons.mp member with rfl | member
    · exact here
    · exact below item member
  · intro field member
    cases member
  · intro first rest here below field member
    rcases List.mem_cons.mp member with rfl | member
    · exact here
    · exact below field member
  · intro key value holds
    exact holds

namespace Fields

/-- Each key stands once and before all greater ones. -/
def Ascending (fields : Fields) : Prop := fields.Pairwise fun first second => first.1 < second.1

theorem find?_cons (key : String) (value : Json) (rest : Fields) (sought : String) :
    find? ((key, value) :: rest) sought
      = if key = sought then some value else find? rest sought := by
  by_cases same : key = sought
  · simp [find?, same]
  · simp [find?, same, beq_false_of_ne same]

theorem mem_of_find? {fields : Fields} {key : String} {value : Json}
    (found : fields.find? key = some value) : (key, value) ∈ fields := by
  obtain ⟨field, first, rfl⟩ := Option.map_eq_some_iff.mp found
  have same := List.find?_some first
  rw [beq_iff_eq] at same
  exact same ▸ List.mem_of_find?_eq_some first

theorem find?_isSome_iff (fields : Fields) (key : String) :
    (fields.find? key).isSome = true ↔ key ∈ fields.map (·.1) := by
  induction fields with
  | nil => simp [find?]
  | cons field rest ih =>
    obtain ⟨other, value⟩ := field
    rw [find?_cons, List.map_cons, List.mem_cons]
    by_cases same : other = key
    · simp [same]
    · simp [same, ih, Ne.symm same]

theorem find?_eq_some_iff {fields : Fields} (ascending : fields.Ascending) (key : String)
    (value : Json) : fields.find? key = some value ↔ (key, value) ∈ fields := by
  refine ⟨mem_of_find?, ?_⟩
  intro member
  induction fields with
  | nil => cases member
  | cons first rest ih =>
    obtain ⟨other, held⟩ := first
    rw [find?_cons]
    rcases List.mem_cons.mp member with same | member
    · cases same
      exact if_pos rfl
    · have before := List.rel_of_pairwise_cons ascending member
      have differs : other ≠ key := fun same => String.lt_irrefl key (same ▸ before)
      rw [if_neg differs]
      exact ih ascending.tail member

/-- Ascending fields that say the same of every key are the same fields. -/
theorem ext_of_find? {fields others : Fields} (ascending : fields.Ascending)
    (ascendingOthers : others.Ascending) (same : ∀ key, fields.find? key = others.find? key) :
    fields = others := by
  have distinct : ∀ {list : Fields}, list.Ascending → list.Nodup := by
    intro list ascends
    apply ascends.imp
    rintro first _ before rfl
    exact String.lt_irrefl _ before
  -- Both are sorted, so it is enough that they have the same members.
  refine List.Perm.eq_of_pairwise ?_ ascending ascendingOthers ?_
  · intro first second _ _ forth back
    exact absurd (String.lt_trans forth back) (String.lt_irrefl _)
  · apply (List.perm_ext_iff_of_nodup (distinct ascending) (distinct ascendingOthers)).mpr
    rintro ⟨key, value⟩
    rw [← find?_eq_some_iff ascending, ← find?_eq_some_iff ascendingOthers, same]

theorem insert_first {key : String} {fields : Fields}
    (before : ∀ field ∈ fields, key < field.1) (value : Json) :
    fields.insert key value = (key, value) :: fields := by
  cases fields with
  | nil => rfl
  | cons field rest => simp only [insert, before field List.mem_cons_self, if_true]

/-- Fields that descend are turned round. -/
theorem ofList_of_descending {pairs : List (String × Json)}
    (descending : pairs.Pairwise fun first second => second.1 < first.1) :
    ofList pairs = pairs.reverse := by
  -- Each field comes before those behind it in the list, so it is put in front of them.
  have grows : ∀ (rest done : Fields), (done.reverse ++ rest).Pairwise
      (fun first second => second.1 < first.1) →
      rest.foldl (fun fields pair => insert pair.1 pair.2 fields) done = rest.reverse ++ done := by
    intro rest
    induction rest with
    | nil => intro done _; rfl
    | cons field rest ih =>
      intro done descends
      have before : ∀ other ∈ done, field.1 < other.1 := fun other member =>
        (List.pairwise_append.mp descends).2.2 other (List.mem_reverse.mpr member) field
          List.mem_cons_self
      rw [List.foldl_cons, insert_first before field.2, ih]
      · simp
      · simpa using descends
  have turned := grows pairs [] descending
  rwa [List.append_nil] at turned

end Fields

end Gatehouse.Json
