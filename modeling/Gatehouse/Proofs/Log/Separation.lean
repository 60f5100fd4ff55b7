import Gatehouse.Proofs.Log.RollingRun

/-!
# Sinks in one folder

A sink names, fills and removes files of its own only. Whatever it writes, and whether or not that
succeeds, a file under a foreign name stays as it was. The names of a stem are foreign to the stem
with `-error` behind it and the other way round: no date starts with a letter.
-/
namespace Gatehouse.RollingFile

/-- A name that a sink gives to no file and reads no date from. -/
structure IsForeign (policy : Policy) (name : String) : Prop where
  unnamed : ∀ date index, name ≠ fileName policy date index
  undated : fileDate? policy.stem.toList name.toList = none

/-! ## Names of a stem with a suffix -/

theorem fileDate?_of_suffixed (stem : List Char) (date : Date) (index : Nat) :
    fileDate? stem (fileNameChars (stem ++ "-error".toList) date index) = none := by
  let behind := "rror-".toList ++ (date.print ++ indexTail index)
  have shape : fileNameChars (stem ++ "-error".toList) date index
      = stem ++ (['-'] ++ (('e' :: behind) ++ dotLog)) := by
    simp [fileNameChars_eq, behind]
  have letter : ('e' :: behind).takeWhile (· != '.') = 'e' :: behind.takeWhile (· != '.') := rfl
  simp only [fileDate?, shape, dropStart?_append, dropEnding?_append, Option.bind_eq_bind,
    Option.bind_some, letter]
  exact Date.parse?_of_letter (by decide) (by decide) _

/-- The text behind a stem starts no suffix, as a date comes first there. -/
theorem not_suffixed (stem : List Char) (date : Date) (index : Nat) :
    ¬ stem ++ "-error".toList <+: fileNameChars stem date index := by
  rw [fileNameChars_eq, List.prefix_append_right_inj]
  intro starts
  obtain ⟨first, rest, shape⟩ := List.exists_cons_of_ne_nil date.print_ne_nil
  have letter : 'e' = first := by
    rw [shape] at starts
    exact (List.cons_prefix_cons.mp (List.cons_prefix_cons.mp starts).2).1
  have member : 'e' ∈ date.print := by
    rw [shape, letter]
    exact List.mem_cons_self
  exact absurd (Date.of_mem_print member) (by decide)

theorem fileDate?_of_unsuffixed (stem : List Char) (date : Date) (index : Nat) :
    fileDate? (stem ++ "-error".toList) (fileNameChars stem date index) = none := by
  have other : (stem ++ "-error".toList).isPrefixOf (fileNameChars stem date index) = false := by
    rw [Bool.eq_false_iff, ne_eq, List.isPrefixOf_iff_prefix]
    exact not_suffixed stem date index
  simp only [fileDate?, dropStart?, other, Bool.false_eq_true, if_false, Option.bind_eq_bind,
    Option.bind_none]

section

variable {policy errors : Policy} (suffixed : errors.stem = policy.stem ++ "-error")

include suffixed

/-- No date and index give two stems the same name. -/
theorem fileName_ne_suffixed (date day : Date) (index number : Nat) :
    fileName policy date index ≠ fileName errors day number := by
  intro same
  have starts : policy.stem.toList ++ "-error".toList
      <+: fileNameChars policy.stem.toList date index := by
    rw [fileName, fileName, String.ofList_inj] at same
    rw [same, fileNameChars_eq, suffixed, String.toList_append]
    exact List.prefix_append _ _
  exact not_suffixed _ _ _ starts

theorem isForeign_suffixed (date : Date) (index : Nat) :
    IsForeign policy (fileName errors date index) where
  unnamed := fun day number => (fileName_ne_suffixed suffixed day date number index).symm
  undated := by
    rw [fileName, String.toList_ofList, suffixed, String.toList_append]
    exact fileDate?_of_suffixed _ _ _

theorem isForeign_unsuffixed (date : Date) (index : Nat) :
    IsForeign errors (fileName policy date index) where
  unnamed := fun day number => fileName_ne_suffixed suffixed date day index number
  undated := by
    rw [fileName, String.toList_ofList, suffixed, String.toList_append]
    exact fileDate?_of_unsuffixed _ _ _

end

/-! ## What a sink leaves alone -/

/-- Under the names of a policy, two folders have the same files with the same bytes. -/
def SameFiles (policy : Policy) (folder other : Folder) : Prop :=
  ∀ date index,
    other.fileAt? (fileName policy date index) = folder.fileAt? (fileName policy date index)

/-- A file was opened without a change to what stands under a name, and it is not that file. -/
structure Spares (name : String) (folder : Folder)
    (opening : Except FileError OpenFile × Folder) : Prop where
  same : opening.2.fileAt? name = folder.fileAt? name
  apart : ∀ file, opening.1 = .ok file → ∀ bytes,
    opening.2.fileAt? name ≠ some (file.identity, bytes)

variable {policy : Policy} {name : String}

theorem spares_of_apart {file : OpenFile} {folder : Folder}
    (apart : ∀ bytes, folder.fileAt? name ≠ some (file.identity, bytes)) :
    Spares name folder (.ok file, folder) :=
  ⟨rfl, fun _ same => Except.ok.inj same ▸ apart⟩

theorem IsForeign.isExpired (foreign : IsForeign policy name) (today : Date) :
    isExpired policy today name = false := by
  simp only [RollingFile.isExpired, foreign.undated]
  split
  next dated => cases dated
  · rfl

-- the error file of a day that has expired is no old file of the stem without the suffix
example :
    let march : Date := .ofCivil ⟨2026, 3, 1⟩
    isExpired (.ofStem "app") march "app-2026-02-01.log" = true
      ∧ isExpired (.ofStem "app") march "app-error-2026-02-01.log" = false := by
  decide +kernel

theorem IsForeign.prune (foreign : IsForeign policy name) {folder : Folder}
    (formed : folder.WellFormed) (today : Date) :
    (prune policy today folder).fileAt? name = folder.fileAt? name := by
  rw [RollingFile.prune, Folder.fileAt?_filter formed]
  simp only [isKept, foreign.isExpired, Bool.not_false, Bool.or_true]
  cases folder.fileAt? name <;> rfl

section

variable (foreign : IsForeign policy name) (plain : '/' ∉ policy.stem.toList)

include foreign plain

theorem IsForeign.openFile {folder : Folder} (formed : folder.WellFormed) (date : Date)
    (index : Nat) : Spares name folder (openFile policy date index folder) := by
  have differs := foreign.unnamed date index
  simp only [RollingFile.openFile]
  split
  next failed =>
    refine ⟨rfl, ?_⟩
    intro file opened
    cases opened
  next identity size grown opened =>
    rcases Folder.openToAppend_cases (isPlain_fileName plain date index) opened with
      ⟨bytes, held, _, rfl⟩ | ⟨free, rfl, _, rfl⟩
    · -- Two names of one identity are one name.
      refine ⟨foreign.prune formed date, ?_⟩
      rintro file same content there
      cases same
      rw [foreign.prune formed date, Folder.fileAt?_eq_some_iff formed] at there
      rw [Folder.fileAt?_eq_some_iff formed] at held
      exact differs (List.cons.inj (formed.identities there held)).1
    · -- A new file has an identity that none had before.
      have grownFormed := formed.add_file free []
      have same : (RollingFile.prune policy date (folder.add (fileName policy date index ::
          folder.home) (.file folder.fresh []))).fileAt? name = folder.fileAt? name := by
        rw [foreign.prune grownFormed, Folder.fileAt?_add _ _ _ _ free, if_neg differs]
      refine ⟨same, ?_⟩
      rintro file equal content there
      cases equal
      rw [same, Folder.fileAt?_eq_some_iff formed] at there
      exact Nat.lt_irrefl _ (formed.fresh there)

theorem IsForeign.advance (length budget : Nat) {file : OpenFile} {folder : Folder}
    (formed : folder.WellFormed)
    (apart : ∀ bytes, folder.fileAt? name ≠ some (file.identity, bytes)) :
    Spares name folder (advance policy length budget file folder) := by
  -- On the budget: a file that is full was opened apart, and so is the one after it.
  induction budget generalizing file folder with
  | zero => exact spares_of_apart apart
  | succ budget ih =>
    have next := foreign.openFile plain formed file.date (file.index + 1)
    have nextFormed := @openFile_wellFormed policy _ formed file.date (file.index + 1)
    simp only [RollingFile.advance]
    split
    · split
      next opening => exact opening ▸ next
      next other after opening =>
        rw [opening] at next nextFormed
        have later := ih nextFormed (next.apart other rfl)
        exact ⟨later.same.trans next.same, later.apart⟩
    · exact spares_of_apart apart

theorem IsForeign.openWithRoom {folder : Folder} (formed : folder.WellFormed) (date : Date)
    (index length : Nat) : Spares name folder (openWithRoom policy date index length folder) := by
  have first := foreign.openFile plain formed date index
  have firstFormed := @openFile_wellFormed policy _ formed date index
  simp only [RollingFile.openWithRoom]
  split
  next opening => exact opening ▸ first
  next file opened opening =>
    rw [opening] at first firstFormed
    have later := foreign.advance plain length (folder.entries.length + 1) firstFormed
      (first.apart file rfl)
    exact ⟨later.same.trans first.same, later.apart⟩

/-- A write, done or failed, leaves alone what stands under a foreign name, unless it is the file
that the sink has open. -/
theorem IsForeign.write {folder : Folder} (formed : folder.WellFormed) {current : Option OpenFile}
    (apart : ∀ file ∈ current, ∀ bytes, folder.fileAt? name ≠ some (file.identity, bytes))
    (record : Record) :
    (write policy record current folder).2.2.fileAt? name = folder.fileAt? name := by
  simp only [RollingFile.write]
  split
  · split
    · rfl
    next file _ => exact Folder.fileAt?_append_of_apart formed (apart file rfl) _
    next before _ _ index _ =>
      let date := filingDate before record
      let length := (lineBytes policy record).length
      have spares := foreign.openWithRoom plain formed date index length
      have kept := openWithRoom_wellFormed policy formed date index length
      split
      next opening =>
        rw [opening] at spares
        exact spares.same
      next file after opening =>
        rw [opening] at spares kept
        exact (Folder.fileAt?_append_of_apart kept (spares.apart file rfl) _).trans spares.same
  · rfl

end

/-! ## Volumes -/

/-- The file that a sink has open is none of a foreign name. -/
theorem Holds.apart {volumes : List Volume} {current : Option OpenFile} {folder : Folder}
    (holds : Holds policy volumes current folder) (foreign : IsForeign policy name) :
    ∀ file ∈ current, ∀ bytes, folder.fileAt? name ≠ some (file.identity, bytes) := by
  rintro file member bytes there
  obtain rfl := Option.mem_def.mp member
  cases volumes with
  | nil => cases holds.writing
  | cons newest older =>
    cases holds.writing with
    | some writing =>
      have here := writing.place
      rw [Folder.fileAt?_eq_some_iff holds.formed] at here there
      have same := (List.cons.inj (holds.formed.identities there here)).1
      exact foreign.unnamed _ _ same

theorem Holds.congr {volumes : List Volume} {current : Option OpenFile} {folder other : Folder}
    (holds : Holds policy volumes current folder) (formed : other.WellFormed)
    (same : SameFiles policy folder other) : Holds policy volumes current other where
  formed := formed
  files := fun date index representable => by
    rw [same, holds.files date index representable]
  days := holds.days
  writing := by
    cases volumes with
    | nil =>
      cases holds.writing
      exact .none
    | cons newest older =>
      cases holds.writing with
      | some writing =>
        exact .some ⟨writing.date, writing.index, writing.size, (same _ _).trans writing.place⟩

end Gatehouse.RollingFile
