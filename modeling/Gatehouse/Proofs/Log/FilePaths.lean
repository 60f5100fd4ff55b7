import Gatehouse.Log.FilePath
import Gatehouse.Proofs.Log.FileNames
import Gatehouse.Proofs.Log.Places

/-!
# Dates and indices in paths

A path ends in the name of its file, whatever directory it goes on from. So the date can be read
back from it, and no two files of a sink have one path.
-/
namespace Gatehouse

namespace Folder

/-- A name without slashes is a part of its own, whether the directory's path is empty, ends in a
slash or gets one. -/
theorem parts_join (directory : List Char) {name : List Char} (plain : '/' ∉ name) :
    ∃ outer, parts (join directory name) = outer ++ [String.ofList name] := by
  rw [join, isRooted_plain plain, if_neg Bool.false_ne_true]
  cases ends : directory.getLast? with
  | none =>
    rw [List.getLast?_eq_none_iff.mp ends]
    exact ⟨[], parts_plain plain⟩
  | some c =>
    rw [Option.any_some]
    split
    · exact ⟨_, by rw [parts_append_slash, parts_plain plain]⟩
    next slash =>
      obtain ⟨front, rfl⟩ := List.getLast?_eq_some_iff.mp ends
      rw [Bool.not_eq_true, bne_eq_false_iff_eq] at slash
      rw [slash, List.append_assoc, List.singleton_append]
      exact ⟨_, by rw [parts_append_slash, parts_plain plain]⟩

/-- The name of an entry is what the entry's path ends in. -/
theorem lastName?_join (directory : List Char) {name : String} (plain : IsPlain name) :
    lastName? (join directory name.toList) = some name := by
  obtain ⟨noSlash, named⟩ := plain
  obtain ⟨outer, last⟩ := parts_join directory noSlash
  rw [String.ofList_toList] at last
  have counts : (!isIdle name) = true := by
    rw [isName, Bool.and_eq_true] at named
    exact named.1
  simp only [lastName?, last, List.filter_append, List.filter_cons, counts, if_true,
    List.filter_nil, List.getLast?_concat, Option.filter_some, named]

end Folder

namespace RollingFile

variable {policy : Policy}

theorem lastName?_pathIn (plain : '/' ∉ policy.stem.toList) (directory : List Char) (date : Date)
    (index : Nat) :
    Folder.lastName? (pathIn directory policy date index) = some (fileName policy date index) := by
  have ends := Folder.lastName?_join directory
    ⟨fileName_no_slash policy date index plain, fileName_isName policy date index⟩
  rwa [fileName, String.toList_ofList] at ends

/-- Without slashes there are no steps in front that could be dropped. -/
theorem filePath_of_plain (plain : '/' ∉ policy.stem.toList) (date : Date) (index : Nat) :
    filePath policy date index = fileName policy date index := by
  have noSlash := fileName_no_slash policy date index plain
  rw [fileName, String.toList_ofList] at noSlash
  rw [filePath, fileName]
  simp only [Folder.isRooted_plain noSlash, Bool.false_eq_true, if_false]
  congr 1
  unfold dropIdleSteps
  split
  next same => simp [same] at noSlash
  next same => simp [same] at noSlash
  · rfl

/-- The path of a file goes on from its directory to the path that is shown of it, and the date of
the file is read back from it, whatever the stem and the sign of the year. Files of other dates or
other indices have paths that end in other names. -/
theorem paths_hold_dates (plain : '/' ∉ policy.stem.toList) (directory : List Char) :
    (∀ date index, date.IsRepresentable →
        pathIn directory policy date index
            = Folder.join directory (filePath policy date index).toList
          ∧ pathDate? policy.stem.toList (pathIn directory policy date index) = some date)
      ∧ ∀ date other index number, date.IsRepresentable → other.IsRepresentable →
          Folder.lastName? (pathIn directory policy date index)
            = Folder.lastName? (pathIn directory policy other number) →
          date = other ∧ index = number := by
  constructor
  · intro date index representable
    constructor
    · rw [filePath_of_plain plain, fileName, String.toList_ofList, pathIn]
    · rw [pathDate?, lastName?_pathIn plain, Option.bind_some, fileName, String.toList_ofList]
      exact fileDate?_fileNameChars _ date index representable
  · intro date other index number representable representableOther same
    rw [lastName?_pathIn plain, lastName?_pathIn plain] at same
    exact fileName_inj representable representableOther (Option.some.inj same)

/-- The stem looks like a file of its own, the year is before the first, and the index is the last
of 32 bits. -/
theorem paths_hold_dates_of_early_year :
    let policy := Policy.ofStem "app-2026-03-01.log"
    let date := Date.ofCivil ⟨-1, 1, 2⟩
    let path := pathIn "/var/log".toList policy date 4294967295
    '/' ∉ policy.stem.toList ∧ date.IsRepresentable
      ∧ path = "/var/log/app-2026-03-01.log--0001-01-02.4294967295.log".toList
      ∧ pathDate? policy.stem.toList path = some date
      ∧ ∀ index, Folder.lastName? path
          = Folder.lastName? (pathIn "/var/log".toList policy date index) → 4294967295 = index := by
  intro policy date path
  have plain : '/' ∉ policy.stem.toList := by decide
  have representable : date.IsRepresentable := by decide
  obtain ⟨told, apart⟩ := paths_hold_dates plain "/var/log".toList
  refine ⟨plain, representable, by decide +kernel, (told date _ representable).2, ?_⟩
  intro index same
  exact (apart date date _ index representable representable same).2

end RollingFile

end Gatehouse
