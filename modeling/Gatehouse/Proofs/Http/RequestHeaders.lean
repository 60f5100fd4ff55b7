import Gatehouse.Proofs.Http.Headers

/-!
# The headers of a request as a map

Headers that are set in turn make a map in the order of insertion: a name stays where it first came
and as it was first spelled, and has the value that it was given last. In a request the content type
comes first, and the request id last unless its caller has named it before.
-/
namespace Gatehouse.Headers

/-! ## Names -/

/-- Whether a name is one of some names, in whatever spelling. -/
def isAmong (names : List String) (name : String) : Bool := names.any (Text.sameName · name)

theorem isAmong_append (names more : List String) (name : String) :
    isAmong (names ++ more) name = (isAmong names name || isAmong more name) :=
  List.any_append

theorem isAmong_iff (headers : List Header) (name : String) :
    isAmong (headers.map (·.1)) name = true ↔ named name headers ≠ [] := by
  simp [isAmong, named]

/-- A new name goes behind all others, and a known one changes none. -/
theorem names_set (name value : String) (headers : List Header) :
    (set name value headers).map (·.1)
      = headers.map (·.1) ++ if isAmong (headers.map (·.1)) name then [] else [name] :=
  (updates_set name value headers).keys

/-- Headers that are set in turn bring the names that are not there yet, as they are first
spelled. -/
theorem names_foldl_set (overrides base : List Header) :
    (overrides.foldl (fun headers header => set header.1 header.2 headers) base).map (·.1)
      = base.map (·.1)
        ++ ((overrides.map (·.1)).filter fun name => !isAmong (base.map (·.1)) name).eraseDupsBy
            Text.sameName := by
  induction overrides generalizing base with
  | nil => simp
  | cons header rest ih =>
    rw [List.foldl_cons, ih, names_set, List.map_cons]
    by_cases known : isAmong (base.map (·.1)) header.1 = true
    · simp [known]
    · -- The names that are new after this one are those before it, less its other spellings.
      rw [if_neg known, List.filter_cons_of_pos (by simp [known]), List.eraseDupsBy_cons,
        List.filter_filter, List.append_assoc, List.singleton_append]
      congr 4
      funext name
      have single : isAmong [header.1] name = Text.sameName header.1 name := Bool.or_false _
      rw [isAmong_append, single, Text.sameName_comm name]
      cases Text.sameName header.1 name <;> simp

/-! ## Values -/

theorem find?_eq (headers : List Header) (name : String) :
    find? headers name = (named name headers).head? := by
  rw [named, List.head?_map, List.head?_filter]
  rfl

/-- A header that is set is found, and hides no other name. -/
theorem find?_set {headers : List Header} (distinct : Distinct headers)
    (name other value : String) :
    find? (set other value headers) name
      = if Text.sameName other name then some value else find? headers name := by
  rw [find?_eq, find?_eq, named_set distinct]
  split <;> rfl

/-- Of headers that are set in turn, the last of a name is found. -/
theorem find?_foldl_set (name : String) (overrides : List Header) {base : List Header}
    (distinct : Distinct base) :
    find? (overrides.foldl (fun headers header => set header.1 header.2 headers) base) name
      = (named name overrides).getLast?.or (find? base name) := by
  rw [find?_eq, find?_eq, (named_foldl_set name overrides distinct).2]
  cases (named name overrides).getLast? <;> rfl

/-- The names of headers that are set in turn are those that there were and those that are set. -/
theorem isAmong_foldl_set (name : String) (overrides : List Header) {base : List Header}
    (distinct : Distinct base) :
    isAmong ((overrides.foldl (fun headers header => set header.1 header.2 headers) base).map (·.1))
        name = true
      ↔ isAmong (overrides.map (·.1)) name = true ∨ isAmong (base.map (·.1)) name = true := by
  simp only [isAmong_iff, (named_foldl_set name overrides distinct).2]
  cases last : (named name overrides).getLast? with
  | none => simp [List.getLast?_eq_none_iff.mp last]
  | some value => simp [List.ne_nil_of_mem (List.mem_of_getLast? last)]

/-! ## Requests -/

/-- The headers of a request that nothing is said of. -/
def usual : List Header := [("Content-Type", "application/json")]

theorem distinct_usual : Distinct usual := List.pairwise_singleton _ _

theorem isAmong_usual (name : String) :
    isAmong (usual.map (·.1)) name = Text.sameName "Content-Type" name := Bool.or_false _

theorem find?_usual (name : String) :
    find? usual name
      = if Text.sameName "Content-Type" name then some "application/json" else none := by
  rw [find?, usual, List.find?_singleton]
  split <;> rfl

/-- The caller's headers over the usual ones. -/
def overlaid (overrides : List Header) : List Header :=
  overrides.foldl (fun headers header => set header.1 header.2 headers) usual

theorem merge_none (overrides : List Header) : merge overrides none = overlaid overrides := rfl

theorem merge_some (overrides : List Header) (id : String) :
    merge overrides (some id) = set requestId id (overlaid overrides) := rfl

theorem distinct_overlaid (overrides : List Header) : Distinct (overlaid overrides) :=
  (named_foldl_set requestId overrides distinct_usual).1

theorem names_overlaid (overrides : List Header) :
    (overlaid overrides).map (·.1)
      = "Content-Type"
          :: ((overrides.map (·.1)).filter fun name =>
                !Text.sameName "Content-Type" name).eraseDupsBy Text.sameName := by
  rw [overlaid, names_foldl_set]
  simp only [isAmong_usual]
  rfl

theorem isAmong_overlaid (overrides : List Header) :
    isAmong ((overlaid overrides).map (·.1)) requestId
      = isAmong (overrides.map (·.1)) requestId := by
  have other : isAmong (usual.map (·.1)) requestId = false := by decide
  apply Bool.eq_iff_iff.mpr
  rw [overlaid, isAmong_foldl_set requestId overrides distinct_usual, other]
  simp

theorem find?_overlaid (overrides : List Header) (name : String) :
    find? (overlaid overrides) name
      = (named name overrides).getLast?.or
          (if Text.sameName "Content-Type" name then some "application/json" else none) := by
  rw [overlaid, find?_foldl_set name overrides distinct_usual, find?_usual]

/-- The headers of a request name each header once, whatever its spelling: the content type, then
those of the caller in the order and in the spelling in which they first come, then the request id
if the caller has not named it. Each has its last value: the request id of the scope, else the last
that the caller gave, else the usual content type. -/
theorem merge_is_ordered_map (overrides : List Header) (ambient : Option String) :
    let headers := merge overrides ambient
    let given := overrides.map (·.1)
    Distinct headers
      ∧ headers.map (·.1)
        = "Content-Type"
            :: (given.filter fun name => !Text.sameName "Content-Type" name).eraseDupsBy
                Text.sameName
          ++ (if ambient.isSome ∧ ∀ name ∈ given, ¬ Text.sameName name "x-request-id"
              then ["x-request-id"] else [])
      ∧ ∀ name, find? headers name
        = if ambient.isSome ∧ Text.sameName "x-request-id" name then ambient
          else (named name overrides).getLast?.or
            (if Text.sameName "Content-Type" name then some "application/json" else none) := by
  intro headers given
  cases ambient with
  | none =>
    simp only [headers, merge_none, Option.isSome_none, Bool.false_eq_true, false_and, if_false,
      List.append_nil]
    exact ⟨distinct_overlaid overrides, names_overlaid overrides, find?_overlaid overrides⟩
  | some id =>
    simp only [headers, merge_some, Option.isSome_some, true_and]
    refine ⟨(distinct_overlaid overrides).set requestId id, ?_, ?_⟩
    · -- Nothing but the overrides can have named the request id before.
      rw [names_set, isAmong_overlaid, names_overlaid]
      congr 1
      by_cases known : isAmong given requestId = true
      · obtain ⟨name, member, same⟩ := List.any_eq_true.mp known
        rw [if_pos known, if_neg fun none => none name member same]
      · rw [if_neg known, if_pos]
        · rfl
        · exact fun name member same => known (List.any_eq_true.mpr ⟨name, member, same⟩)
    · intro name
      rw [find?_set (distinct_overlaid overrides), find?_overlaid]
      rfl

-- names keep their place and their spelling, also that of the request id
example :
    merge
        [("X-Request-ID", "own"), ("accept", "a"), ("CONTENT-TYPE", "text/plain"), ("Accept", "b")]
        (some "id")
      = [("Content-Type", "text/plain"), ("X-Request-ID", "id"), ("accept", "b")] := by
  decide +kernel

end Gatehouse.Headers
