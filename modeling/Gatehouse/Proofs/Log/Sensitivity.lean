import Gatehouse.Log.Redaction
import Gatehouse.Proofs.Text.LetterCase

/-!
# Which keys are sensitive

A fragment in any ASCII letter case makes a key sensitive, whatever text stands around it, although
keys are lower-cased as a whole and by the rules of Unicode. A key of ASCII text alone is sensitive
for no other reason.
-/
namespace Gatehouse.Redaction

theorem occurs_iff (piece text : List Char) : occurs piece text = true ↔ piece <:+: text := by
  induction text with
  | nil => rw [occurs, List.isEmpty_iff, List.infix_nil]
  | cons c rest ih =>
    rw [occurs, Bool.or_eq_true, List.isPrefixOf_iff_prefix, ih, List.infix_cons_iff]

theorem isSensitive_iff (key : String) :
    isSensitive key = true
      ↔ ∃ fragment ∈ fragments, fragment.toList <:+: Text.lower key.toList := by
  simp only [isSensitive, List.any_eq_true, occurs_iff]

theorem ascii_of_mem_fragments {fragment : String} (listed : fragment ∈ fragments) :
    ∀ c ∈ fragment.toList, c.toNat < 0x80 := by
  have all : fragments.all (fun fragment => fragment.toList.all fun c => decide (c.toNat < 0x80))
      = true := by decide +kernel
  intro c member
  exact of_decide_eq_true (List.all_eq_true.mp (List.all_eq_true.mp all fragment listed) c member)

/-- What spells a fragment is ASCII text itself. -/
theorem ascii_of_lowered {piece : String} (listed : Text.lowered piece ∈ fragments) :
    ∀ c ∈ piece.toList, c.toNat < 0x80 := by
  intro c member
  apply (Text.lowerAscii_lt_iff c).mp
  apply ascii_of_mem_fragments listed
  rw [Text.lowered, String.toList_ofList]
  exact List.mem_map_of_mem member

/-- A key with a fragment in it is sensitive, in whatever ASCII letter case the fragment is spelled
and whatever stands around it: lower-casing the key leaves the fragment's lower form in it. A key of
ASCII text is sensitive only with such a fragment. -/
theorem sensitivity_is_by_fragment :
    (∀ front piece back : String, Text.lowered piece ∈ fragments →
        (∃ before behind, Text.lower (front ++ piece ++ back).toList
            = before ++ ((Text.lowered piece).toList ++ behind))
          ∧ isSensitive (front ++ piece ++ back) = true)
      ∧ ∀ key : String, (∀ c ∈ key.toList, c.toNat < 0x80) → isSensitive key = true →
          ∃ front piece back : String, key = front ++ piece ++ back
            ∧ Text.lowered piece ∈ fragments := by
  constructor
  · intro front piece back listed
    obtain ⟨before, behind, made⟩ :=
      Text.lower_around (ascii_of_lowered listed) front.toList back.toList
    have whole : Text.lower (front ++ piece ++ back).toList
        = before ++ ((Text.lowered piece).toList ++ behind) := by
      rw [String.toList_append, String.toList_append, List.append_assoc, made, Text.lowered,
        String.toList_ofList]
    refine ⟨⟨before, behind, whole⟩, (isSensitive_iff _).mpr ⟨_, listed, ?_⟩⟩
    rw [whole, ← List.append_assoc]
    exact List.infix_append before _ behind
  · intro key ascii sensitive
    obtain ⟨fragment, listed, front, back, split⟩ := (isSensitive_iff key).mp sensitive
    rw [Text.lower_ascii ascii] at split
    -- Lowering ASCII keeps the number of letters, so the key can be cut where its lower form is.
    obtain ⟨start, last, whole, lowStart, _⟩ := List.map_eq_append_iff.mp split.symm
    obtain ⟨first, piece, cut, _, lowPiece⟩ := List.map_eq_append_iff.mp lowStart
    refine ⟨String.ofList first, String.ofList piece, String.ofList last, ?_, ?_⟩
    · rw [← String.ofList_append, ← String.ofList_append, ← cut, ← whole, String.ofList_toList]
    · rwa [Text.lowered, String.toList_ofList, lowPiece, String.ofList_toList]

/-- The password stands between a dotted capital, which has a longer lower form, and sigmas, of which
the last one is final and the other is not for the password behind it. -/
theorem sensitivity_is_by_fragment_of_sigmas :
    Text.lowered "PassWord" ∈ fragments
      ∧ Text.lower "İ".toList = ['i', '\u0307']
      ∧ isSensitive ("İΣ" ++ "PassWord" ++ "Σ") = true
      ∧ (∀ c ∈ "X-Api_Key".toList, c.toNat < 0x80) ∧ isSensitive "X-Api_Key" = true
      ∧ ∃ front piece back : String, "X-Api_Key" = front ++ piece ++ back
          ∧ Text.lowered piece ∈ fragments := by
  have listed : Text.lowered "PassWord" ∈ fragments := by decide +kernel
  have ascii : ∀ c ∈ "X-Api_Key".toList, c.toNat < 0x80 := by simp
  have sensitive : isSensitive "X-Api_Key" = true := by decide +kernel
  exact ⟨listed, by decide +kernel, (sensitivity_is_by_fragment.1 "İΣ" "PassWord" "Σ" listed).2,
    ascii, sensitive, sensitivity_is_by_fragment.2 "X-Api_Key" ascii sensitive⟩

end Gatehouse.Redaction
