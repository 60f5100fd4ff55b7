import Gatehouse.Http.Header
import Gatehouse.Proofs.Http.Updates

/-!
# The headers of a request by name

Headers that are set one after the other stay distinct, and each name has the last value that it
was given. A request therefore carries at most one request id: that of its scope, or else the last
one among its caller's headers.
-/
namespace Gatehouse.Headers

/-- The values of a name in any spelling. -/
def named (name : String) (headers : List Header) : List String :=
  (headers.filter fun header => Text.sameName header.1 name).map (·.2)

/-- No name comes twice, in whatever spelling. -/
def Distinct (headers : List Header) : Prop :=
  headers.Pairwise fun first second => Text.sameName first.1 second.1 = false

theorem named_cons (name other value : String) (rest : List Header) :
    named name ((other, value) :: rest)
      = if Text.sameName other name then value :: named name rest else named name rest := by
  by_cases same : Text.sameName other name = true
  · simp only [named, List.filter_cons, same, if_true, List.map_cons]
  · simp only [named, List.filter_cons, same, if_false, Bool.false_eq_true]

theorem sameName_congr {first second : String} (same : Text.sameName first second = true)
    (name : String) : Text.sameName first name = Text.sameName second name := by
  rw [Text.sameName, Text.sameName, (Text.sameName_iff first second).mp same]

/-- What else has the name of a header that differs from all others has no value. -/
theorem named_of_differing (name other : String) (headers : List Header)
    (same : Text.sameName other name = true)
    (differing : ∀ header ∈ headers, Text.sameName other header.1 = false) :
    named name headers = [] := by
  rw [named, List.map_eq_nil_iff, List.filter_eq_nil_iff]
  intro header member
  rw [Text.sameName_comm, ← sameName_congr same, differing header member]
  exact Bool.false_ne_true

theorem updates_set (name value : String) (headers : List Header) :
    Updates (Text.sameName · name) name headers (set name value headers) := by
  induction headers with
  | nil => exact .last value
  | cons first rest ih =>
    rw [set]
    split
    next same => exact .here first.2 value rest same
    next differs => exact .later first.2 (Bool.eq_false_iff.mpr differs) ih

theorem Distinct.set {headers : List Header} (distinct : Distinct headers) (name value : String) :
    Distinct (Headers.set name value headers) := by
  have names : (headers.map (·.1)).Pairwise fun first second =>
      Text.sameName first second = false := List.pairwise_map.mpr distinct
  exact List.pairwise_map.mp ((updates_set name value headers).pairwise (fun _ => id) names)

/-- Setting a header replaces every value of its name by one, and no other value. -/
theorem named_set {headers : List Header} (distinct : Distinct headers)
    (name other value : String) :
    named name (set other value headers)
      = if Text.sameName other name then [value] else named name headers := by
  induction distinct with
  | nil =>
    rw [set, named_cons]
    rfl
  | @cons first rest differs later ih =>
    rw [set]
    split
    next here =>
      -- The header has its place here, so its name is in none of the others.
      rw [named_cons, named_cons, sameName_congr here]
      split
      next same => rw [named_of_differing name first.1 rest (by rwa [sameName_congr here]) differs]
      next => rfl
    next elsewhere =>
      rw [named_cons, named_cons, ih]
      by_cases same : Text.sameName other name = true
      · have apart : Text.sameName first.1 name = false := by
          rw [Text.sameName_comm, ← sameName_congr same, Text.sameName_comm]
          exact Bool.eq_false_iff.mpr elsewhere
        simp only [same, apart, if_true, Bool.false_eq_true, if_false]
      · simp only [same, Bool.false_eq_true, if_false]

/-- Of headers set in turn, the last of a name counts. -/
theorem named_foldl_set (name : String) (overrides : List Header) {base : List Header}
    (distinct : Distinct base) :
    let headers := overrides.foldl (fun headers header => set header.1 header.2 headers) base
    Distinct headers
      ∧ named name headers
        = ((named name overrides).getLast?.map fun value => [value]).getD (named name base) := by
  induction overrides generalizing base with
  | nil => exact ⟨distinct, rfl⟩
  | cons header rest ih =>
    obtain ⟨kept, values⟩ := ih (distinct.set header.1 header.2)
    refine ⟨kept, ?_⟩
    rw [List.foldl_cons, values, named_set distinct, named_cons]
    by_cases same : Text.sameName header.1 name = true
    · rw [if_pos same, if_pos same, List.getLast?_cons]
      cases (named name rest).getLast? <;> rfl
    · rw [if_neg same, if_neg same]

/-- A request has the id of its scope, or else the last one that its caller gave, and never two. -/
theorem named_merge (overrides : List Header) (ambient : Option String) :
    named requestId (merge overrides ambient)
      = (ambient.or (named requestId overrides).getLast?).toList := by
  have single : Distinct [("Content-Type", "application/json")] := List.pairwise_singleton _ _
  obtain ⟨distinct, values⟩ := named_foldl_set requestId overrides single
  cases ambient with
  | some id =>
    rw [merge, named_set distinct, if_pos (Text.sameName_refl requestId)]
    rfl
  | none =>
    have other : named requestId [("Content-Type", "application/json")] = [] := by decide
    rw [merge, values, other, Option.none_or]
    cases (named requestId overrides).getLast? <;> rfl

end Gatehouse.Headers
