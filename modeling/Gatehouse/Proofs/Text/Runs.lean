import Mathlib.Data.List.TakeWhile

/-!
# Runs at the beginning of a list

A reader takes elements as long as they belong to what it reads, and stops at the first one that
does not. What it takes and what it leaves are settled by the elements up to that one.
-/
namespace Gatehouse.Run

variable {α : Type} {belongs : α → Bool} {run rest list : List α} {stop : α}

/-- A run is taken as a whole if what follows does not belong to it. -/
theorem takeWhile_append (all : ∀ a ∈ run, belongs a = true)
    (ends : ∀ a ∈ rest.head?, belongs a = false) : (run ++ rest).takeWhile belongs = run := by
  rw [List.takeWhile_append_of_pos all]
  cases rest with
  | nil => simp
  | cons a rest => simp [ends a rfl]

theorem dropWhile_append (all : ∀ a ∈ run, belongs a = true)
    (ends : ∀ a ∈ rest.head?, belongs a = false) : (run ++ rest).dropWhile belongs = rest := by
  rw [List.dropWhile_append_of_pos all]
  cases rest with
  | nil => rfl
  | cons a rest => simp [ends a rfl]

/-- What is left does not go on with the run. -/
theorem ends_dropWhile (belongs : α → Bool) (list : List α) :
    ∀ a ∈ (list.dropWhile belongs).head?, belongs a = false := by
  intro a first
  have stops := List.head?_dropWhile_not belongs list
  rw [Option.mem_def.mp first] at stops
  exact stops

/-- Behind an element that stops a run, nothing matters to it. -/
theorem takeWhile_append_of_stop (belongs : α → Bool) (member : stop ∈ list)
    (stops : belongs stop = false) (more : List α) :
    (list ++ more).takeWhile belongs = list.takeWhile belongs := by
  rw [List.takeWhile_append, if_neg]
  intro lengths
  have whole := (List.takeWhile_prefix belongs).eq_of_length lengths
  have goes := List.takeWhile_eq_self_iff.mp whole stop member
  simp [stops] at goes

theorem dropWhile_append_of_stop (belongs : α → Bool) (member : stop ∈ list)
    (stops : belongs stop = false) (more : List α) :
    (list ++ more).dropWhile belongs = list.dropWhile belongs ++ more := by
  rw [List.dropWhile_append, if_neg]
  intro nothing
  have goes := List.dropWhile_eq_nil_iff.mp (List.isEmpty_iff.mp nothing) stop member
  simp [stops] at goes

end Gatehouse.Run
