import Gatehouse.Proofs.Text.AsciiCase
import Gatehouse.Text.Blank
import Mathlib.Data.List.DropRight
import Mathlib.Data.List.TakeWhile

/-!
# Trimming and letter case

Which characters are blank does not depend on their case, so texts may be trimmed and lowered in
either order. A blank text has nothing left.
-/
namespace Gatehouse.Text

theorem isBlank_lowerAscii (c : Char) : isBlank (lowerAscii c) = isBlank c := by
  simp only [isBlank, toNat_lowerAscii]
  -- A letter is no blank, neither before nor after.
  split
  next upper =>
    rw [Bool.eq_iff_iff]
    simp only [Bool.or_eq_true, Bool.and_eq_true, decide_eq_true_eq, beq_iff_eq]
    omega
  next => rfl

theorem trimStart_map_lowerAscii (text : List Char) :
    trimStart (text.map lowerAscii) = (trimStart text).map lowerAscii := by
  have same : isBlank ∘ lowerAscii = isBlank := funext isBlank_lowerAscii
  rw [trimStart, List.dropWhile_map, same, trimStart]

theorem trim_map_lowerAscii (text : List Char) :
    trim (text.map lowerAscii) = (trim text).map lowerAscii := by
  have turned := trimStart_map_lowerAscii (trimStart text).reverse
  rw [trim, trim, trimStart_map_lowerAscii]
  simp only [trimEnd, trimStart, ← List.map_reverse] at turned ⊢
  rw [turned, List.map_reverse]

theorem lowered_trimmed (text : String) : lowered (trimmed text) = trimmed (lowered text) := by
  simp [lowered, trimmed, trim_map_lowerAscii]

theorem trim_eq_nil_iff (text : List Char) : trim text = [] ↔ allBlank text = true := by
  rw [trim, ← trimStart_eq_nil_iff]
  constructor
  · intro nothing
    cases shape : trimStart text with
    | nil => rfl
    | cons c rest =>
      -- The first character that is left is no blank, so it stays.
      have solid := trimStart_head text c rest shape
      rw [shape, trimEnd, List.reverse_eq_nil_iff, List.dropWhile_eq_nil_iff] at nothing
      rw [nothing c (by simp)] at solid
      cases solid
  · intro nothing
    simp [nothing, trimEnd]

/-- What a trimmed text begins with is no blank, for the text begins with it as well. -/
theorem trimStart_trim (text : List Char) : trimStart (trim text) = trim text := by
  cases shape : trim text with
  | nil => rfl
  | cons c rest =>
    have begins : trim text <+: trimStart text := List.rdropWhile_prefix isBlank (trimStart text)
    obtain ⟨more, longer⟩ := shape ▸ begins
    have solid := trimStart_head text c (rest ++ more) longer.symm
    simp [trimStart, solid]

theorem trim_trim (text : List Char) : trim (trim text) = trim text := by
  rw [trim, trimStart_trim]
  exact List.rdropWhile_idempotent isBlank (trimStart text)

theorem trimmed_trimmed (text : String) : trimmed (trimmed text) = trimmed text := by
  rw [trimmed, trimmed, String.toList_ofList, trim_trim]

theorem trimmed_eq_iff (one other : String) :
    trimmed one = trimmed other ↔ trim one.toList = trim other.toList := by
  rw [trimmed, trimmed, String.ofList_inj]

end Gatehouse.Text
