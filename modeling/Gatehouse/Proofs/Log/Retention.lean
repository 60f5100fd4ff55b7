import Gatehouse.Proofs.Log.FileNames
import Gatehouse.Proofs.Log.Places
import Gatehouse.Proofs.Log.Volumes
import Gatehouse.Proofs.Text.Runs

/-!
# What retention removes

When a sink opens a file, it removes the files of its folder whose names read as a day before the
window. All files of its own from such a day have such names. But a name is read up to its first
point only, and with blanks, signs and single digits in it, so names that the sink never gives are
removed as well; where no such name stands, just its own old files go.
-/
namespace Gatehouse.RollingFile

/-- A name that reads as a day: the stem, a dash, a text of the day without a point, then nothing or
anything that starts with a point, and the ending. -/
def ReadsAs (stem name : List Char) (date : Date) : Prop :=
  ∃ text rest, name = stem ++ '-' :: (text ++ (rest ++ dotLog)) ∧ '.' ∉ text
    ∧ (∀ c ∈ rest.head?, c = '.') ∧ Date.parse? text = some date

/-- A name that the sink gives to a file of a day before the window, counted in 32 bits. -/
def IsOutdated (policy : Policy) (today : Date) (name : String) : Prop :=
  ∃ date index, date.IsRepresentable ∧ index < UInt32.size ∧ isRetained policy today date = false
    ∧ name = fileName policy date index

/-- What an opening removes: a file of the folder itself whose name reads as a day before the
window. -/
def Expires (policy : Policy) (today : Date) (home place : Place) (entry : Entry) : Prop :=
  ∃ name identity bytes date, place = name :: home ∧ entry = .file identity bytes
    ∧ ReadsAs policy.stem.toList name.toList date ∧ isRetained policy today date = false

/-! ## Names that read as a day -/

theorem dropStart?_eq_some_iff {start text rest : List Char} :
    dropStart? start text = some rest ↔ text = start ++ rest := by
  constructor
  · intro dropped
    simp only [dropStart?, Option.ite_none_right_eq_some, Option.some.injEq,
      List.isPrefixOf_iff_prefix] at dropped
    obtain ⟨⟨behind, rfl⟩, rfl⟩ := dropped
    rw [List.drop_left]
  · rintro rfl
    exact dropStart?_append start rest

theorem dropEnding?_eq_some_iff {ending text rest : List Char} :
    dropEnding? ending text = some rest ↔ text = rest ++ ending := by
  constructor
  · intro dropped
    simp only [dropEnding?, Option.ite_none_right_eq_some, Option.some.injEq,
      List.isSuffixOf_iff_suffix] at dropped
    obtain ⟨⟨before, rfl⟩, rfl⟩ := dropped
    simp
  · rintro rfl
    exact dropEnding?_append ending rest

theorem fileDate?_eq_some_iff {stem name : List Char} {date : Date} :
    fileDate? stem name = some date ↔ ReadsAs stem name date := by
  simp only [fileDate?, Option.bind_eq_bind, Option.bind_eq_some_iff, dropStart?_eq_some_iff,
    dropEnding?_eq_some_iff]
  constructor
  · -- The text of the day goes up to the first point of what stands before the ending.
    rintro ⟨_, rfl, _, rfl, body, rfl, read⟩
    refine ⟨body.takeWhile (· != '.'), body.dropWhile (· != '.'), ?_, ?_, ?_, read⟩
    · have joined := List.takeWhile_append_dropWhile (p := (· != '.')) (l := body)
      rw [← List.append_assoc (body.takeWhile _), joined, List.singleton_append]
    · intro point
      have passed := List.all_eq_true.mp List.all_takeWhile '.' point
      cases passed
    · intro c first
      simpa using Run.ends_dropWhile (· != '.') body c first
  · rintro ⟨text, rest, rfl, clean, starts, read⟩
    refine ⟨_, rfl, _, rfl, text ++ rest, by simp, ?_⟩
    have before : ∀ c ∈ text, (c != '.') = true := fun c member =>
      bne_iff_ne.mpr fun same => clean (same ▸ member)
    have stops : ∀ c ∈ rest.head?, (c != '.') = false := fun c first => by simp [starts c first]
    rw [Run.takeWhile_append before stops]
    exact read

theorem isExpired_iff (policy : Policy) (today : Date) (name : String) :
    isExpired policy today name = true
      ↔ ∃ date, ReadsAs policy.stem.toList name.toList date
          ∧ isRetained policy today date = false := by
  simp only [← fileDate?_eq_some_iff]
  simp only [isExpired, isRetained]
  cases today.minusDays policy.maxAgeDays <;>
    cases fileDate? policy.stem.toList name.toList <;> simp

theorem readsAs_fileName (policy : Policy) {date : Date} (representable : date.IsRepresentable)
    (index : Nat) : ReadsAs policy.stem.toList (fileName policy date index).toList date := by
  rw [← fileDate?_eq_some_iff, fileName, String.toList_ofList]
  exact fileDate?_fileNameChars _ date index representable

/-! ## What is left -/

theorem isKept_eq_false_iff {policy : Policy} {today : Date} {home place : Place} {entry : Entry} :
    isKept policy today home (place, entry) = false ↔ Expires policy today home place entry := by
  constructor
  · intro dropped
    unfold isKept at dropped
    split at dropped
    next name outer identity bytes same =>
      obtain ⟨rfl, rfl⟩ := Prod.mk.inj same
      rw [Bool.or_eq_false_iff, bne_eq_false_iff_eq, Bool.not_eq_false', isExpired_iff] at dropped
      obtain ⟨rfl, date, reads, old⟩ := dropped
      exact ⟨name, identity, bytes, date, rfl, rfl, reads, old⟩
    · cases dropped
  · rintro ⟨name, identity, bytes, date, rfl, rfl, reads, old⟩
    have expired := (isExpired_iff policy today name).mpr ⟨date, reads, old⟩
    simp only [isKept, bne_self_eq_false, expired, Bool.not_true, Bool.or_self]

theorem isKept_directory (policy : Policy) (today : Date) (home place : Place) :
    isKept policy today home (place, .directory) = true := by
  cases place <;> rfl

theorem find?_prune (policy : Policy) (today : Date) {folder : Folder}
    (formed : folder.WellFormed) (place : Place) :
    (prune policy today folder).find? place
      = (folder.find? place).filter fun entry =>
          isKept policy today folder.home (place, entry) := by
  unfold Folder.find?
  cases inside : place.isSuffixOf folder.home with
  | true =>
    simp only [prune, inside, if_true]
    rw [Option.filter_some, if_pos (isKept_directory policy today folder.home place)]
  | false =>
    have kept := formed.filter (isKept policy today folder.home)
    simp only [prune, inside, Bool.false_eq_true, if_false]
    apply Option.ext
    intro entry
    rw [Folder.lookup_eq_some_iff_mem kept.places, Option.filter_eq_some_iff,
      Folder.lookup_eq_some_iff_mem formed.places, List.mem_filter]

/-- A pruning leaves what stands at a place, or takes it away because it expires. -/
theorem filter_isKept_cases (policy : Policy) (today : Date) (folder : Folder) (place : Place) :
    let left := (folder.find? place).filter fun entry =>
      isKept policy today folder.home (place, entry)
    left = folder.find? place
      ∨ (left = none ∧ ∃ entry, folder.find? place = some entry
          ∧ Expires policy today folder.home place entry) := by
  intro left
  cases held : folder.find? place with
  | none => simp [left, held]
  | some entry =>
    cases stays : isKept policy today folder.home (place, entry) with
    | true => simp [left, held, stays]
    | false => simp [left, held, stays, isKept_eq_false_iff.mp stays]

theorem keepsDirectories_prune (policy : Policy) (today : Date) {folder : Folder}
    (formed : folder.WellFormed) : folder.KeepsDirectories (prune policy today folder) where
  home := rfl
  reach := rfl
  directories := by
    intro place held
    rw [find?_prune policy today formed, held, Option.filter_some,
      if_pos (isKept_directory policy today folder.home place)]

/-- A file whose path leads to a place opens with what stands there, or empty. -/
theorem openFile_of_leadsTo (policy : Policy) {date : Date} {index : Nat} {folder : Folder}
    {place : Place} (leads : folder.LeadsTo (fileName policy date index) place) :
    openFile policy date index folder
      = match folder.find? place with
        | some (.file identity bytes) =>
          (.ok ⟨date, index, bytes.length, identity⟩, prune policy date folder)
        | some .directory => (.error .isDirectory, folder)
        | none =>
          (.ok ⟨date, index, 0, folder.fresh⟩,
            prune policy date (folder.add place (.file folder.fresh []))) := by
  rw [openFile, Folder.openToAppend_of_leadsTo leads]
  cases folder.find? place with
  | none => rfl
  | some entry => cases entry <;> rfl

section

variable {policy : Policy} {date : Date} {index : Nat} {folder opened : Folder} {file : OpenFile}

theorem leadsTo_of_openFile (ok : openFile policy date index folder = (.ok file, opened)) :
    ∃ place, folder.LeadsTo (fileName policy date index) place := by
  have opens : (folder.openToAppend (fileName policy date index)).isOk := by
    simp only [openFile] at ok
    split at ok
    · cases ok
    next opening => rw [opening]; rfl
  obtain ⟨place, leads, _⟩ := Folder.leadsTo_of_openToAppend opens
  exact ⟨place, leads⟩

theorem home_of_openFile (ok : openFile policy date index folder = (.ok file, opened)) :
    opened.home = folder.home := by
  obtain ⟨place, leads⟩ := leadsTo_of_openFile ok
  rw [openFile_of_leadsTo policy leads] at ok
  split at ok
  · cases ok
    rfl
  · cases ok
  · cases ok
    rfl

variable (formed : folder.WellFormed)

include formed

/-- After an opening there is what stood in the folder before, and the file that was opened, less
what expires. -/
theorem find?_openFile {place : Place} (leads : folder.LeadsTo (fileName policy date index) place)
    (ok : openFile policy date index folder = (.ok file, opened)) (other : Place) :
    opened.find? other
      = (if other = place then (folder.find? place).or (some (.file folder.fresh []))
          else folder.find? other).filter fun entry =>
            isKept policy date folder.home (other, entry) := by
  rw [openFile_of_leadsTo policy leads] at ok
  cases held : folder.find? place with
  | none =>
    rw [held] at ok
    cases ok
    have grown := formed.add_file (Folder.lookup_of_find?_none held) []
    rw [find?_prune policy date grown, Folder.find?_add held]
    rfl
  | some entry =>
    rw [held] at ok
    cases entry with
    | directory => cases ok
    | file identity bytes =>
      cases ok
      -- The file that is opened stood there before.
      have same : (if other = place then (some (Entry.file identity bytes)).or
          (some (.file folder.fresh [])) else folder.find? other) = folder.find? other := by
        split
        next here => rw [here, held, Option.some_or]
        · rfl
      rw [same, find?_prune policy date formed]

/-- What stood in the folder stays as it was, or it expires and is gone. -/
theorem find?_openFile_of_held (ok : openFile policy date index folder = (.ok file, opened))
    {place : Place} {entry : Entry} (held : folder.find? place = some entry) :
    (Expires policy date folder.home place entry → opened.find? place = none)
      ∧ (¬ Expires policy date folder.home place entry → opened.find? place = some entry) := by
  obtain ⟨there, leads⟩ := leadsTo_of_openFile ok
  have stood : (if place = there then (folder.find? there).or (some (.file folder.fresh []))
      else folder.find? place) = some entry := by
    split
    next here => rw [← here, held, Option.some_or]
    · exact held
  rw [find?_openFile formed leads ok, stood, Option.filter_some, ← isKept_eq_false_iff]
  cases isKept policy date folder.home (place, entry) <;> simp

/-- A file of the folder itself is gone exactly if its name reads as a day before the window. -/
theorem fileAt?_openFile_eq_none_iff (ok : openFile policy date index folder = (.ok file, opened))
    {name : String} (stood : (folder.fileAt? name).isSome) :
    opened.fileAt? name = none
      ↔ ∃ day, ReadsAs policy.stem.toList name.toList day
          ∧ isRetained policy date day = false := by
  obtain ⟨identity, bytes, held⟩ := (Folder.fileAt?_isSome_iff folder name).mp stood
  obtain ⟨gone, stays⟩ := find?_openFile_of_held formed ok held
  rw [← Option.not_isSome_iff_eq_none, Folder.fileAt?_isSome_iff, home_of_openFile ok]
  constructor
  · intro missing
    by_cases expires : Expires policy date folder.home (name :: folder.home) (.file identity bytes)
    · obtain ⟨_, _, _, day, same, _, reads, old⟩ := expires
      obtain ⟨rfl, _⟩ := List.cons.inj same
      exact ⟨day, reads, old⟩
    · exact absurd ⟨identity, bytes, stays expires⟩ missing
  · rintro ⟨day, reads, old⟩ ⟨number, content, still⟩
    rw [gone ⟨name, identity, bytes, day, rfl, rfl, reads, old⟩] at still
    cases still

end

/-- An opening removes the files whose names read as a day before the window and leaves all else as
it was. The sink's own files of such days are among them, and they are all just if no other file of
the folder has a name that reads so. -/
theorem openFile_removes_stale (policy : Policy) {folder opened : Folder}
    (formed : folder.WellFormed) (today : Date) (index : Nat) {file : OpenFile}
    (ok : openFile policy today index folder = (.ok file, opened)) :
    (∀ place entry, folder.find? place = some entry →
        (Expires policy today folder.home place entry → opened.find? place = none)
        ∧ (¬ Expires policy today folder.home place entry → opened.find? place = some entry))
    ∧ (∀ name, IsOutdated policy today name → (folder.fileAt? name).isSome →
        opened.fileAt? name = none)
    ∧ ((∀ name, (folder.fileAt? name).isSome →
          (opened.fileAt? name = none ↔ IsOutdated policy today name))
        ↔ ∀ name date, (folder.fileAt? name).isSome →
            ReadsAs policy.stem.toList name.toList date → isRetained policy today date = false →
            IsOutdated policy today name) := by
  have own : ∀ name, IsOutdated policy today name →
      ∃ date, ReadsAs policy.stem.toList name.toList date
        ∧ isRetained policy today date = false := by
    rintro _ ⟨date, index, representable, _, old, rfl⟩
    exact ⟨date, readsAs_fileName policy representable index, old⟩
  refine ⟨?_, ?_, ?_⟩
  · intro place entry held
    exact find?_openFile_of_held formed ok held
  · intro name outdated stood
    exact (fileAt?_openFile_eq_none_iff formed ok stood).mpr (own name outdated)
  · constructor
    · intro precise name date stood reads old
      apply (precise name stood).mp
      exact (fileAt?_openFile_eq_none_iff formed ok stood).mpr ⟨date, reads, old⟩
    · intro only name stood
      rw [fileAt?_openFile_eq_none_iff formed ok stood]
      constructor
      · rintro ⟨date, reads, old⟩
        exact only name date stood reads old
      · exact own name

/-- On 1 March 2026, in a folder with a file of the day, files of its own from ten and from five
days ago, and notes, a window of a week takes the first of them. -/
theorem openFile_removes_stale_of_week :
    let policy : Policy := { Policy.ofStem "app" with maxAgeDays := 7 }
    let files : List (String × List UInt8) := [("app-2026-03-01.log", [10]),
      ("app-2026-02-19.2.log", [10]), ("app-2026-02-24.log", [10]), ("app-notes.log", [10])]
    let folder := Folder.ofFiles "logs" files
    ∃ file opened, openFile policy ⟨20513⟩ 0 folder = (.ok file, opened)
      ∧ opened.fileAt? "app-2026-02-19.2.log" = none
      ∧ opened.find? ("app-notes.log" :: folder.home) = some (.file 3 [10]) := by
  intro policy files folder
  have formed : folder.WellFormed := Folder.wellFormed_ofFiles "logs" (by decide)
  have opens : (openFile policy ⟨20513⟩ 0 folder).1.isOk = true := by decide +kernel
  cases ok : openFile policy ⟨20513⟩ 0 folder with
  | mk result opened =>
    rw [ok] at opens
    cases result with
    | error error => cases opens
    | ok file =>
      obtain ⟨each, own, _⟩ := openFile_removes_stale policy formed ⟨20513⟩ 0 ok
      have outdated : IsOutdated policy ⟨20513⟩ "app-2026-02-19.2.log" :=
        ⟨⟨20503⟩, 2, by decide +kernel⟩
      have stood : folder.fileAt? "app-2026-02-19.2.log" = some (1, [10]) := by decide +kernel
      have notes : ¬ Expires policy ⟨20513⟩ folder.home ("app-notes.log" :: folder.home)
          (.file 3 [10]) := by
        rw [← isKept_eq_false_iff]
        decide +kernel
      refine ⟨file, opened, rfl, own _ outdated ?_, (each _ _ rfl).2 notes⟩
      rw [stood]
      rfl

/-- On 1 March 2026 a window of a week takes an audit log away, which the sink has no name for. -/
theorem openFile_removes_stray :
    let policy : Policy := { Policy.ofStem "app" with maxAgeDays := 7 }
    let stray := "app-2026-02-01.audit.log"
    let folder := Folder.ofFiles "logs" [(stray, [10])]
    let opening := openFile policy ⟨20513⟩ 0 folder
    opening.1.isOk = true ∧ folder.fileAt? stray = some (0, [10])
      ∧ opening.2.fileAt? stray = none ∧ ¬ IsOutdated policy ⟨20513⟩ stray := by
  intro policy stray folder opening
  refine ⟨by decide +kernel, by decide +kernel, by decide +kernel, ?_⟩
  rintro ⟨date, index, representable, _, _, same⟩
  have key := (fileKey?_eq_some_iff policy stray date index).mpr ⟨representable, same.symm⟩
  have none : fileKey? policy stray = none := by decide +kernel
  rw [none] at key
  cases key

end Gatehouse.RollingFile
