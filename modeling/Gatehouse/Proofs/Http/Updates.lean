import Mathlib.Data.List.Basic

/-!
# Entries updated in place

Headers are kept as entries, of which one is updated at a time: the first whose key matches has a
new value where it stands, and if none matches, a new entry goes to the end. However keys are
matched and values made, no key changes, and keys that stand apart from one another stay so.
-/
namespace Gatehouse

/-- Entries before and after an update. The new key is that of an entry at the end; an entry that
matches keeps its own. -/
inductive Updates {Key Value : Type} (matched : Key → Bool) (key : Key) :
    List (Key × Value) → List (Key × Value) → Prop
  | last (value : Value) : Updates matched key [] [(key, value)]
  | here {other : Key} (old new : Value) (rest : List (Key × Value)) :
      matched other = true → Updates matched key ((other, old) :: rest) ((other, new) :: rest)
  | later {other : Key} (value : Value) {rest after : List (Key × Value)} :
      matched other = false → Updates matched key rest after →
      Updates matched key ((other, value) :: rest) ((other, value) :: after)

namespace Updates

variable {Key Value : Type} {matched : Key → Bool} {key : Key}
  {before after : List (Key × Value)}

/-- A key that matches none goes behind all others, and any other changes none. -/
theorem keys (updates : Updates matched key before after) :
    after.map (·.1)
      = before.map (·.1) ++ if (before.map (·.1)).any matched then [] else [key] := by
  induction updates with
  | last value => rfl
  | here old new rest same => simp [same]
  | later value differs updates ih =>
    simp only [List.map_cons, ih, List.any_cons, differs, Bool.false_or, List.cons_append]

theorem forall_keys {holds : Key → Prop} (updates : Updates matched key before after)
    (new : holds key) (all : ∀ other ∈ before.map (·.1), holds other) :
    ∀ other ∈ after.map (·.1), holds other := by
  rw [updates.keys]
  refine List.forall_mem_append.mpr ⟨all, ?_⟩
  split
  · exact List.forall_mem_nil _
  · exact List.forall_mem_singleton.mpr new

/-- If a key that does not match stands apart from the new one, all keys stay apart. -/
theorem pairwise {apart : Key → Key → Prop} (updates : Updates matched key before after)
    (unmatched : ∀ other, matched other = false → apart other key)
    (all : (before.map (·.1)).Pairwise apart) : (after.map (·.1)).Pairwise apart := by
  rw [updates.keys]
  split
  next => rwa [List.append_nil]
  next new =>
    refine List.pairwise_append.mpr ⟨all, List.pairwise_singleton _ _, ?_⟩
    intro other member _ only
    obtain rfl := List.mem_singleton.mp only
    apply unmatched
    simp only [List.any_eq_true, not_exists, not_and, Bool.not_eq_true] at new
    exact new other member

end Updates

end Gatehouse
