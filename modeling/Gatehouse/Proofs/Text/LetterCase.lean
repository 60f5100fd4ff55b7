import Gatehouse.Proofs.Text.AsciiCase
import Gatehouse.Text.LetterCase

/-!
# Lower case around ASCII text

Lower-casing goes through a text from its start and looks around at a capital sigma only. What it
makes of a piece of ASCII text is therefore the same wherever the piece stands, and it is told
letter by letter; the text around the piece may get longer, or have its sigmas spelled otherwise.
-/
namespace Gatehouse.Text

theorem lowerForm_ascii {c : Char} (ascii : c.toNat < 0x80) : lowerForm c = [lowerAscii c] := by
  rw [lowerForm, if_pos ascii, lowerAscii]

/-- What lower-casing has made of the first part of a text does not change once it is past it. -/
theorem lowerFrom_append (before front rest : List Char) :
    ∃ form, lowerFrom before (front ++ rest) = form ++ lowerFrom (front.reverse ++ before) rest := by
  induction front generalizing before with
  | nil => exact ⟨[], rfl⟩
  | cons c front ih =>
    obtain ⟨form, made⟩ := ih (c :: before)
    rw [List.cons_append, lowerFrom, made, List.reverse_cons, List.append_assoc,
      List.singleton_append, ← List.append_assoc]
    exact ⟨_, rfl⟩

/-- ASCII text is lower-cased letter by letter, whatever stands around it. -/
theorem lowerFrom_ascii {piece : List Char} (ascii : ∀ c ∈ piece, c.toNat < 0x80)
    (before rest : List Char) :
    lowerFrom before (piece ++ rest)
      = piece.map lowerAscii ++ lowerFrom (piece.reverse ++ before) rest := by
  induction piece generalizing before with
  | nil => rfl
  | cons c piece ih =>
    obtain ⟨first, others⟩ := List.forall_mem_cons.mp ascii
    have plain : c ≠ 'Σ' := fun same => absurd (same ▸ first) (by decide)
    rw [List.cons_append, lowerFrom, if_neg plain, lowerForm_ascii first, ih others,
      List.map_cons, List.reverse_cons, List.append_assoc, List.singleton_append,
      List.singleton_append, List.cons_append]

/-- A piece of ASCII text has its own lower form in the lower form of the whole. -/
theorem lower_around {piece : List Char} (ascii : ∀ c ∈ piece, c.toNat < 0x80)
    (front back : List Char) :
    ∃ before behind, lower (front ++ (piece ++ back)) = before ++ (piece.map lowerAscii ++ behind)
    := by
  obtain ⟨before, made⟩ := lowerFrom_append [] front (piece ++ back)
  rw [lowerFrom_ascii ascii] at made
  exact ⟨before, _, made⟩

theorem lower_ascii {text : List Char} (ascii : ∀ c ∈ text, c.toNat < 0x80) :
    lower text = text.map lowerAscii := by
  have made := lowerFrom_ascii ascii [] []
  rwa [List.append_nil, lowerFrom, List.append_nil] at made

/-- Lowering the letters of ASCII neither adds nor removes characters beyond it. -/
theorem lowerAscii_lt_iff (c : Char) : (lowerAscii c).toNat < 0x80 ↔ c.toNat < 0x80 := by
  rw [toNat_lowerAscii]
  split <;> omega

end Gatehouse.Text
