import Gatehouse.Proofs.Text.Runs
import Gatehouse.Proofs.Text.Utf8
import Gatehouse.Text.Composition

/-!
# Composition and blanks

Controls and the space neither join anything nor consist of anything. One at the end of a text
stands there alone when the text is composed.
-/
namespace Gatehouse.Text

variable {blank : Char}

/-! ## The tables -/

/-- No class, no joint and no joined character is as low as the space. The characters are looked at
by their bytes, which are no lower. -/
theorem marks_high : (markClasses.all fun run => Nat.ble 0x21 run.1) = true := by
  rw [← Array.all_toList]
  decide +kernel

theorem joints_high :
    (joints.all fun joint => Nat.ble 0x21 joint.1
      && joint.2.2.toByteArray.data.toList.all fun byte => Nat.ble 0x21 byte.toNat) = true := by
  rw [← Array.all_toList]
  decide +kernel

theorem markClass_blank (low : blank.toNat ≤ 0x20) : markClass blank = 0 := by
  unfold markClass
  dsimp only
  split
  next run found =>
    have member := Array.mem_of_find?_eq_some found
    have above := Array.all_eq_true_iff_forall_mem.mp marks_high run member
    have begins := Array.find?_some found
    -- The class of a range that begins above the blank is not found.
    simp only [Bool.and_eq_true, decide_eq_true_eq] at begins
    have high := Nat.le_of_ble_eq_true above
    omega
  next => rfl

theorem not_mem_of_bytes_high {text : String} (low : blank.toNat ≤ 0x20)
    (high : ∀ byte ∈ text.toByteArray.data.toList, 0x21 ≤ byte.toNat) : blank ∉ text.toList := by
  intro member
  -- A low character is a byte of its own.
  have here : UInt8.ofNat blank.toNat ∈ Utf8.encode text.toList := by
    apply List.mem_flatMap.mpr
    exact ⟨blank, member, by simp [Utf8.encodeChar_ascii (Nat.lt_of_le_of_lt low (by decide))]⟩
  have bytes : text.toByteArray.data.toList = Utf8.encode text.toList := by
    rw [← String.utf8Encode_toList, List.utf8Encode, List.toList_data_toByteArray]
    rfl
  have above := high _ (bytes ▸ here)
  rw [Utf8.toNat_ofNat (by omega)] at above
  omega

theorem parts?_blank (low : blank.toNat ≤ 0x20) : parts? blank = none := by
  have plain : isSyllable blank = false := by
    simp only [isSyllable, Bool.and_eq_false_iff, decide_eq_false_iff_not, Nat.not_le]
    omega
  rw [parts?, plain, if_neg Bool.false_ne_true, Array.findSome?_eq_none_iff]
  intro joint member
  have above := Array.all_eq_true_iff_forall_mem.mp joints_high joint member
  simp only [Bool.and_eq_true, List.all_eq_true] at above
  have absent := not_mem_of_bytes_high low fun byte inside =>
    Nat.le_of_ble_eq_true (above.2 byte inside)
  rw [Option.map_eq_none_iff, List.find?_eq_none]
  intro pair inside same
  rw [beq_iff_eq] at same
  exact absent (same ▸ (List.of_mem_zip inside).2)

theorem joined?_blank (low : blank.toNat ≤ 0x20) (first : Char) : joined? first blank = none := by
  have plain : syllable? first blank = none := by
    simp only [syllable?]
    rw [if_neg (by omega), if_neg (by omega)]
  simp only [joined?, plain]
  rw [Array.findSome?_eq_none_iff]
  intro joint member
  have above := Array.all_eq_true_iff_forall_mem.mp joints_high joint member
  simp only [Bool.and_eq_true] at above
  have high := Nat.le_of_ble_eq_true above.1
  rw [if_neg (by omega)]

/-! ## A blank at the end -/

theorem ordered_concat (low : blank.toNat ≤ 0x20) (text : List Char) :
    ordered (text ++ [blank]) = ordered text ++ [blank] := by
  have placed : ∀ before, placeMark blank before = blank :: before := by
    intro before
    cases before <;> simp [placeMark, markClass_blank low]
  simp [ordered, placed]

theorem joinFrom_concat (low : blank.toNat ≤ 0x20) (letter : Char) (marks text : List Char) :
    joinFrom letter marks (text ++ [blank]) = joinFrom letter marks text ++ [blank] := by
  -- On the text that is left, whatever letter waits for marks.
  induction text generalizing letter marks with
  | nil => simp [joinFrom, joined?_blank low, markClass_blank low]
  | cons c rest ih =>
    rw [List.cons_append, joinFrom, joinFrom]
    split
    · exact ih _ _
    · split
      · simp [ih]
      · exact ih _ _

theorem joinAll_concat (low : blank.toNat ≤ 0x20) (text : List Char) :
    joinAll (text ++ [blank]) = joinAll text ++ [blank] := by
  have stays : (markClass blank != 0) = false := by simp [markClass_blank low]
  simp only [joinAll]
  cases behind : text.dropWhile fun c => markClass c != 0 with
  | nil =>
    -- There is no letter before the blank, so all of the text is loose.
    have loose := List.dropWhile_eq_nil_iff.mp behind
    rw [List.takeWhile_append_of_pos loose, List.dropWhile_append_of_pos loose,
      List.takeWhile_eq_self_iff.mpr loose]
    simp [stays, joinFrom]
  | cons letter later =>
    have member : letter ∈ text := by
      apply (List.dropWhile_suffix fun c => markClass c != 0).subset
      rw [behind]
      exact List.mem_cons_self
    have stops : (markClass letter != 0) = false := by
      apply Run.ends_dropWhile (fun c => markClass c != 0) text
      rw [behind]
      rfl
    rw [Run.takeWhile_append_of_stop (fun c => markClass c != 0) member stops,
      Run.dropWhile_append_of_stop (fun c => markClass c != 0) member stops, behind]
    simp [joinFrom_concat low]

theorem composed_concat (low : blank.toNat ≤ 0x20) (text : List Char) :
    composed (text ++ [blank]) = composed text ++ [blank] := by
  have whole : apart 3 blank = [blank] := by simp [apart, parts?_blank low]
  rw [composed, composed, List.flatMap_append, List.flatMap_singleton, whole, ordered_concat low,
    joinAll_concat low]

end Gatehouse.Text
