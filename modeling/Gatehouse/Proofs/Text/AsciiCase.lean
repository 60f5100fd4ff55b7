import Gatehouse.Text.AsciiCase
import Mathlib.Data.List.Forall2

/-!
# Names letter by letter

Names that have one form in lower case are those that differ, letter by letter, in the case of ASCII
letters alone.
-/
namespace Gatehouse.Text

/-- The same character, or the same letter of ASCII in the other case. -/
inductive SameLetter : Char → Char → Prop
  | same (c : Char) : SameLetter c c
  | upper {c : Char} : 'A' ≤ c → c ≤ 'Z' → SameLetter c (Char.ofNat (c.toNat + 32))
  | lower {c : Char} : 'A' ≤ c → c ≤ 'Z' → SameLetter (Char.ofNat (c.toNat + 32)) c

/-- The same letters one by one. -/
def SameLetters (left right : String) : Prop := List.Forall₂ SameLetter left.toList right.toList

/-! ## Letters -/

theorem isUpper_iff (c : Char) : ('A' ≤ c ∧ c ≤ 'Z') ↔ 65 ≤ c.toNat ∧ c.toNat ≤ 90 := Iff.rfl

theorem toNat_lowerAscii (c : Char) :
    (lowerAscii c).toNat = if 65 ≤ c.toNat ∧ c.toNat ≤ 90 then c.toNat + 32 else c.toNat := by
  simp only [lowerAscii, isUpper_iff]
  split
  next upper =>
    have valid : (c.toNat + 32).isValidChar := .inl (by omega)
    rw [Char.ofNat, dif_pos valid]
    rfl
  next => rfl

/-- A letter in lower case stays as it is. -/
theorem lowerAscii_lowerAscii (c : Char) : lowerAscii (lowerAscii c) = lowerAscii c := by
  apply Char.toNat_inj.mp
  -- 32 above the upper case there are no letters in upper case.
  simp only [toNat_lowerAscii]
  split_ifs <;> omega

theorem eq_of_lowerAscii_eq {c d : Char} (first : 'A' ≤ c ∧ c ≤ 'Z') (second : 'A' ≤ d ∧ d ≤ 'Z')
    (same : lowerAscii c = lowerAscii d) : c = d := by
  have numbers := congrArg Char.toNat same
  rw [toNat_lowerAscii, toNat_lowerAscii, if_pos ((isUpper_iff c).mp first),
    if_pos ((isUpper_iff d).mp second)] at numbers
  exact Char.toNat_inj.mp (Nat.add_right_cancel numbers)

theorem sameLetter_iff (c d : Char) : SameLetter c d ↔ lowerAscii c = lowerAscii d := by
  constructor
  · intro same
    cases same with
    | same => rfl
    | upper low high =>
      have lowered : lowerAscii c = Char.ofNat (c.toNat + 32) := if_pos ⟨low, high⟩
      rw [← lowered, lowerAscii_lowerAscii]
    | lower low high =>
      have lowered : lowerAscii d = Char.ofNat (d.toNat + 32) := if_pos ⟨low, high⟩
      rw [← lowered, lowerAscii_lowerAscii]
  · intro same
    -- Lowering changes both characters, one of them, or none.
    by_cases first : 'A' ≤ c ∧ c ≤ 'Z' <;> by_cases second : 'A' ≤ d ∧ d ≤ 'Z'
    · rw [eq_of_lowerAscii_eq first second same]
      exact .same d
    · rw [lowerAscii, if_pos first, lowerAscii, if_neg second] at same
      rw [← same]
      exact .upper first.1 first.2
    · rw [lowerAscii, if_neg first, lowerAscii, if_pos second] at same
      rw [same]
      exact .lower second.1 second.2
    · rw [lowerAscii, if_neg first, lowerAscii, if_neg second] at same
      rw [same]
      exact .same d

/-! ## Names -/

theorem sameLetters_iff (left right : String) :
    SameLetters left right ↔ lowered left = lowered right := by
  have letters : SameLetter = fun c d => lowerAscii c = lowerAscii d :=
    funext fun c => funext fun d => propext (sameLetter_iff c d)
  rw [SameLetters, lowered, lowered, String.ofList_inj, letters, ← List.forall₂_eq_eq_eq,
    List.forall₂_map_left_iff, List.forall₂_map_right_iff]

end Gatehouse.Text
