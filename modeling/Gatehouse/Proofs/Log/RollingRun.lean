import Gatehouse.Proofs.Log.FileNames
import Gatehouse.Proofs.Log.Places
import Gatehouse.Proofs.Log.Volumes

/-!
# Runs of a rolling log

A folder holds volumes when the files that the policy names are those volumes with their bytes, and
the current file is the newest of them. Writing a record keeps this up with `place`, so the files
that any run leaves, in the order of their days and indices, hold the records that retention keeps.
-/
namespace Gatehouse.RollingFile

/-- Writes records one after the other, as long as that succeeds. -/
def writeAll (policy : Policy) :
    List Record → Option OpenFile → Folder → Except FileError (Option OpenFile × Folder)
  | [], current, folder => .ok (current, folder)
  | record :: rest, current, folder =>
    match write policy record current folder with
    | (.error error, _, _) => .error error
    | (.ok (), current, folder) => writeAll policy rest current folder

/-- The bytes of the volume of a day and an index. -/
def bytesAt (policy : Policy) (volumes : List Volume) (date : Date) (index : Nat) :
    Option (List UInt8) :=
  (volumes.find? fun volume => volume.date = date ∧ volume.index = index).map (Volume.bytes policy)

/-- Whether an open file is that of a volume. -/
structure Volume.IsOpen (policy : Policy) (folder : Folder) (volume : Volume) (file : OpenFile) :
    Prop where
  date : file.date = volume.date
  index : file.index = volume.index
  size : file.size = (volume.bytes policy).length
  place : folder.fileAt? (fileName policy volume.date volume.index)
    = some (file.identity, volume.bytes policy)

structure Holds (policy : Policy) (volumes : List Volume) (current : Option OpenFile)
    (folder : Folder) : Prop where
  formed : folder.WellFormed
  files : ∀ date index, date.IsRepresentable →
    (folder.fileAt? (fileName policy date index)).map (·.2) = bytesAt policy volumes date index
  days : ∀ volume ∈ volumes, volume.date.IsRepresentable
  writing : Option.Rel (Volume.IsOpen policy folder) volumes.head? current

variable {policy : Policy}

theorem isPlain_fileName (plain : '/' ∉ policy.stem.toList) (date : Date) (index : Nat) :
    Folder.IsPlain (fileName policy date index) :=
  ⟨fileName_no_slash policy date index plain, fileName_isName policy date index⟩

/-! ## Folders stay in order -/

theorem prune_wellFormed (policy : Policy) (today : Date) {folder : Folder}
    (formed : folder.WellFormed) : (prune policy today folder).WellFormed :=
  formed.filter _

theorem openFile_wellFormed {folder : Folder} (formed : folder.WellFormed) (date : Date)
    (index : Nat) : (openFile policy date index folder).2.WellFormed := by
  simp only [openFile, Folder.openToAppend]
  cases opening : folder.openAt (fileName policy date index) with
  | error error => exact formed
  | ok opened =>
    obtain ⟨place, identity, bytes, opened⟩ := opened
    exact prune_wellFormed policy date (formed.openAt opening).1

theorem advance_wellFormed (length budget : Nat) (file : OpenFile) {folder : Folder}
    (formed : folder.WellFormed) : (advance policy length budget file folder).2.WellFormed := by
  induction budget generalizing file folder with
  | zero => exact formed
  | succ budget ih =>
    have next := @openFile_wellFormed policy _ formed file.date (file.index + 1)
    simp only [advance]
    split
    · split
      next opening => exact opening ▸ next
      next file after opening =>
        rw [opening] at next
        exact ih file next
    · exact formed

theorem openWithRoom_wellFormed (policy : Policy) {folder : Folder} (formed : folder.WellFormed)
    (date : Date) (index length : Nat) :
    (openWithRoom policy date index length folder).2.WellFormed := by
  have first := @openFile_wellFormed policy _ formed date index
  simp only [openWithRoom]
  split
  next opening => exact opening ▸ first
  next file opened opening =>
    rw [opening] at first
    exact advance_wellFormed length (folder.entries.length + 1) file first

/-- Whatever a sink writes, and whether or not that succeeds, the folder stays in order. -/
theorem write_wellFormed (record : Record) (current : Option OpenFile) {folder : Folder}
    (formed : folder.WellFormed) : (write policy record current folder).2.2.WellFormed := by
  simp only [write]
  split
  · split
    · exact formed
    · exact formed.append _ _
    next before _ _ index _ =>
      have room := openWithRoom_wellFormed policy formed (filingDate before record) index
        (lineBytes policy record).length
      split
      next opening =>
        rw [opening] at room
        exact room
      next file opened opening =>
        rw [opening] at room
        exact room.append _ _
  · exact formed

/-! ## Volumes by day and index -/

theorem bytesAt_filter (keeps : Date → Bool) (volumes : List Volume) (date : Date) (index : Nat) :
    bytesAt policy (volumes.filter (keeps ·.date)) date index
      = if keeps date then bytesAt policy volumes date index else none := by
  induction volumes with
  | nil => simp [bytesAt]
  | cons volume rest ih =>
    simp only [bytesAt, List.filter_cons, List.find?_cons] at ih ⊢
    by_cases same : volume.date = date ∧ volume.index = index
    · obtain ⟨rfl, rfl⟩ := same
      split
      next => simp
      next dropped => simpa [dropped] using ih
    · split
      · simpa [same] using ih
      · simpa [same] using ih

theorem bytesAt_openVolume (volumes : List Volume) (day : Date) (number : Nat) (record : Record)
    (date : Date) (index : Nat) :
    bytesAt policy (openVolume policy day number record volumes) date index
      = if day = date ∧ number = index then some (lineBytes policy record)
        else if isRetained policy day date then bytesAt policy volumes date index else none := by
  rw [← bytesAt_filter (isRetained policy day)]
  simp only [bytesAt, openVolume, List.find?_cons]
  by_cases same : day = date ∧ number = index
  · simp [same, Volume.bytes]
  · simp [same]

/-- A day and an index behind those of all volumes are free. -/
theorem bytesAt_eq_none {volumes : List Volume} {date : Date} {index : Nat}
    (behind : ∀ volume ∈ volumes,
      volume.date < date ∨ (volume.date = date ∧ volume.index < index)) :
    bytesAt policy volumes date index = none := by
  rw [bytesAt, Option.map_eq_none_iff, List.find?_eq_none]
  intro volume member same
  obtain ⟨rfl, rfl⟩ := of_decide_eq_true same
  rcases behind volume member with earlier | ⟨_, below⟩
  · exact Int.lt_irrefl _ earlier
  · exact Nat.lt_irrefl _ below

theorem bytesAt_of_mem {volumes : List Volume}
    (ordered : volumes.Pairwise fun newer older => older.Before newer) {volume : Volume}
    (member : volume ∈ volumes) :
    bytesAt policy volumes volume.date volume.index = some (volume.bytes policy) := by
  induction ordered with
  | nil => cases member
  | @cons newest older behind _ ih =>
    simp only [bytesAt, List.find?_cons] at ih ⊢
    rcases List.mem_cons.mp member with rfl | member
    · simp
    · have differs : ¬ (newest.date = volume.date ∧ newest.index = volume.index) := by
        rintro ⟨sameDate, sameIndex⟩
        rcases behind volume member with earlier | ⟨_, below⟩
        · exact absurd earlier (sameDate ▸ Int.lt_irrefl _)
        · omega
      simpa [differs] using ih member

/-! ## A new volume -/

theorem fileAt?_prune {folder : Folder} (formed : folder.WellFormed) (today date : Date)
    (index : Nat) (representable : date.IsRepresentable) :
    (prune policy today folder).fileAt? (fileName policy date index)
      = if isRetained policy today date then folder.fileAt? (fileName policy date index)
        else none := by
  rw [prune, Folder.fileAt?_filter formed]
  simp only [isKept, bne_self_eq_false, Bool.false_or,
    isExpired_fileName policy today date index representable]
  cases folder.fileAt? (fileName policy date index) with
  | none => simp
  | some file =>
    simp only [Option.filter_some]
    rfl

/-- After a file is opened under a free name, old ones are pruned and a line is written, the new
file and what the window keeps is there. -/
theorem fileAt?_opened {folder : Folder} (formed : folder.WellFormed) {date : Date} {index : Nat}
    (representable : date.IsRepresentable)
    (unheld : folder.entries.lookup (fileName policy date index :: folder.home) = none)
    (line : List UInt8) (day : Date) (number : Nat) (dayRepresentable : day.IsRepresentable) :
    ((prune policy date (folder.add (fileName policy date index :: folder.home)
        (.file folder.fresh []))).append folder.fresh line).fileAt? (fileName policy day number)
      = if date = day ∧ index = number then some (folder.fresh, line)
        else if isRetained policy date day then folder.fileAt? (fileName policy day number)
        else none := by
  have grownFormed := formed.add_file unheld []
  have keptFormed := prune_wellFormed policy date grownFormed
  rw [Folder.fileAt?_append keptFormed, fileAt?_prune grownFormed _ _ _ dayRepresentable,
    Folder.fileAt?_add _ _ _ _ unheld]
  by_cases same : date = day ∧ index = number
  · obtain ⟨rfl, rfl⟩ := same
    simp [isRetained_self]
  · have differs : fileName policy day number ≠ fileName policy date index := fun equal =>
      same ((fileName_inj dayRepresentable representable equal).imp Eq.symm Eq.symm)
    rw [if_neg differs, if_neg same]
    cases held : folder.fileAt? (fileName policy day number) with
    | none => simp
    | some old =>
      -- What stood in the folder before has an identity below the fresh one.
      have older := formed.fresh ((Folder.fileAt?_eq_some_iff formed _ _ _).mp held)
      split
      · simp [Nat.ne_of_lt older]
      · rfl

/-- The file of a free name opens empty, so it is the one with room. -/
theorem openWithRoom_free (plain : '/' ∉ policy.stem.toList) {date : Date} {index length : Nat}
    {folder opened : Folder} {file : OpenFile}
    (free : folder.fileAt? (fileName policy date index) = none)
    (ok : openWithRoom policy date index length folder = (.ok file, opened)) :
    folder.entries.lookup (fileName policy date index :: folder.home) = none
      ∧ file = ⟨date, index, 0, folder.fresh⟩
      ∧ opened = prune policy date
          (folder.add (fileName policy date index :: folder.home) (.file folder.fresh [])) := by
  simp only [openWithRoom, openFile] at ok
  split at ok
  next failed => cases ok
  next found grown tried =>
    split at tried
    · cases tried
    next identity size made appended =>
      rcases Folder.openToAppend_cases (isPlain_fileName plain date index) appended with
        ⟨bytes, held, _⟩ | ⟨unheld, rfl, rfl, rfl⟩
      · rw [free] at held
        cases held
      · cases tried
        simp only [advance, isFull, Nat.lt_irrefl, decide_false, Bool.false_and,
          Bool.false_eq_true, if_false, Prod.mk.injEq, Except.ok.injEq] at ok
        exact ⟨unheld, ok.1.symm, ok.2.symm⟩

/-- A record in a file of its own. -/
theorem Holds.openVolume (plain : '/' ∉ policy.stem.toList) {volumes : List Volume}
    {current : Option OpenFile} {folder opened : Folder} {file : OpenFile}
    (holds : Holds policy volumes current folder) {date : Date} {index : Nat} (record : Record)
    (representable : date.IsRepresentable) (free : bytesAt policy volumes date index = none)
    (ok : openWithRoom policy date index (lineBytes policy record).length folder
      = (.ok file, opened)) :
    Holds policy (openVolume policy date index record volumes)
      (some (appendLine file (lineBytes policy record) opened).1)
      (appendLine file (lineBytes policy record) opened).2 := by
  have absent : folder.fileAt? (fileName policy date index) = none := by
    have files := holds.files date index representable
    rw [free, Option.map_eq_none_iff] at files
    exact files
  obtain ⟨unheld, rfl, rfl⟩ := openWithRoom_free plain absent ok
  let line := lineBytes policy record
  have files := fileAt?_opened holds.formed representable unheld line
  have kept := prune_wellFormed policy date (holds.formed.add_file unheld [])
  constructor
  case formed => exact kept.append _ _
  case files =>
    intro day number dayRepresentable
    rw [bytesAt_openVolume, ← holds.files day number dayRepresentable]
    simp only [appendLine]
    rw [files day number dayRepresentable]
    split
    · rfl
    · split <;> rfl
  case days =>
    intro volume member
    rcases List.mem_cons.mp member with rfl | member
    · exact representable
    · exact holds.days volume (List.mem_filter.mp member).1
  case writing =>
    refine .some ⟨rfl, rfl, ?_, ?_⟩
    · simp [Volume.bytes, appendLine]
    · apply (files date index representable).trans
      simp [Volume.bytes, appendLine, line]

/-! ## The newest volume -/

theorem fileAt?_appended {folder : Folder} (formed : folder.WellFormed) {date : Date} {index : Nat}
    (representable : date.IsRepresentable) {identity : Nat} {bytes : List UInt8}
    (place : folder.fileAt? (fileName policy date index) = some (identity, bytes))
    (line : List UInt8) (day : Date) (number : Nat) (dayRepresentable : day.IsRepresentable) :
    (folder.append identity line).fileAt? (fileName policy day number)
      = if date = day ∧ index = number then some (identity, bytes ++ line)
        else folder.fileAt? (fileName policy day number) := by
  split
  next same =>
    obtain ⟨rfl, rfl⟩ := same
    simp [Folder.fileAt?_append formed, place]
  next differs =>
    -- Two names of one identity are one name.
    refine Folder.fileAt?_append_of_apart formed (fun content here => ?_) line
    rw [Folder.fileAt?_eq_some_iff formed] at here place
    have sameName := (List.cons.inj (formed.identities place here)).1
    exact differs (fileName_inj representable dayRepresentable sameName)

/-- A record in the current file. -/
theorem Holds.append {newest : Volume} {older : List Volume} {file : OpenFile} {folder : Folder}
    (holds : Holds policy (newest :: older) (some file) folder) (record : Record) :
    Holds policy ({ newest with records := newest.records ++ [record] } :: older)
      (some (appendLine file (lineBytes policy record) folder).1)
      (appendLine file (lineBytes policy record) folder).2 := by
  have writing : newest.IsOpen policy folder file := by
    cases holds.writing with
    | some writing => exact writing
  have representable := holds.days newest List.mem_cons_self
  have grows : Volume.bytes policy { newest with records := newest.records ++ [record] }
      = newest.bytes policy ++ lineBytes policy record := by
    simp [Volume.bytes]
  have files := fileAt?_appended holds.formed representable writing.place (lineBytes policy record)
  constructor
  case formed => exact holds.formed.append _ _
  case files =>
    intro day number dayRepresentable
    have before := holds.files day number dayRepresentable
    simp only [appendLine, files day number dayRepresentable]
    simp only [bytesAt, List.find?_cons] at before ⊢
    by_cases same : newest.date = day ∧ newest.index = number
    · obtain ⟨rfl, rfl⟩ := same
      simp [grows]
    · simpa [same] using before
  case days =>
    intro volume member
    rcases List.mem_cons.mp member with rfl | member
    · exact representable
    · exact holds.days volume (List.mem_cons_of_mem _ member)
  case writing =>
    refine .some ⟨writing.date, writing.index, ?_, ?_⟩
    · rw [grows, List.length_append, ← writing.size]
      rfl
    · simp only [appendLine]
      rw [files newest.date newest.index representable, if_pos ⟨rfl, rfl⟩, grows]

/-! ## Records -/

theorem write_of_not_isEnabled {record : Record}
    (disabled : record.level.isEnabled policy.maxLevel = false) (current : Option OpenFile)
    (folder : Folder) : write policy record current folder = (.ok (), current, folder) := by
  simp [write, disabled]

/-- A successful write opens a file with room for the line, or the current file takes the line. -/
theorem write_cases {record : Record} {current after : Option OpenFile} {folder written : Folder}
    (enabled : record.level.isEnabled policy.maxLevel = true)
    (ok : write policy record current folder = (.ok (), after, written)) :
    let line := lineBytes policy record
    let date := filingDate current record
    (∃ index file opened, nextIndex? policy current date line.length = some index
        ∧ openWithRoom policy date index line.length folder = (.ok file, opened)
        ∧ after = some (appendLine file line opened).1 ∧ written = (appendLine file line opened).2)
      ∨ ∃ file, nextIndex? policy current date line.length = none ∧ current = some file
        ∧ after = some (appendLine file line folder).1
        ∧ written = (appendLine file line folder).2 := by
  intro line date
  simp only [write, enabled, if_true] at ok
  split at ok
  next idle => cases idle
  next file staying =>
    cases ok
    exact .inr ⟨file, staying, rfl, rfl, rfl⟩
  next index rolling =>
    split at ok
    · cases ok
    next file opened room =>
      cases ok
      exact .inl ⟨index, file, opened, rolling, room, rfl, rfl⟩

theorem Holds.filingDate_eq {volumes : List Volume} {current : Option OpenFile} {folder : Folder}
    (holds : Holds policy volumes current folder) (record : Record) :
    filingDate current record = stamp (volumes.head?.map Volume.date) record := by
  cases volumes with
  | nil =>
    cases holds.writing
    rfl
  | cons newest older =>
    cases holds.writing with
    | some writing => simp only [filingDate, writing.date, List.head?_cons, Option.map_some, stamp]

theorem Holds.nextIndex?_eq {volumes : List Volume} {current : Option OpenFile} {folder : Folder}
    (holds : Holds policy volumes current folder) (record : Record) :
    nextIndex? policy current (filingDate current record) (lineBytes policy record).length
      = rollsTo? policy volumes record := by
  cases volumes with
  | nil =>
    cases holds.writing
    rfl
  | cons newest older =>
    cases holds.writing with
    | some writing =>
      simp only [filingDate, nextIndex?, rollsTo?, writing.date, writing.index, writing.size]

theorem Holds.stamp_representable {volumes : List Volume} {current : Option OpenFile}
    {folder : Folder} (holds : Holds policy volumes current folder) {record : Record}
    (date : record.time.date.IsRepresentable) :
    (stamp (volumes.head?.map Volume.date) record).IsRepresentable := by
  cases volumes with
  | nil => exact date
  | cons newest older => exact (holds.days newest List.mem_cons_self).later date

/-- Writing puts a record where `place` puts it. -/
theorem Holds.write (plain : '/' ∉ policy.stem.toList) {volumes : List Volume}
    {current after : Option OpenFile} {folder written : Folder}
    (holds : Holds policy volumes current folder)
    (ordered : volumes.Pairwise fun newer older => older.Before newer) {record : Record}
    (enabled : record.level.isEnabled policy.maxLevel = true)
    (date : record.time.date.IsRepresentable)
    (ok : write policy record current folder = (.ok (), after, written)) :
    Holds policy (place policy volumes record) after written := by
  have representable := holds.stamp_representable date
  rcases write_cases enabled ok with
    ⟨index, file, opened, rolling, room, rfl, rfl⟩ | ⟨file, staying, rfl, rfl, rfl⟩
  · -- The sink opens a file exactly when the log opens a volume, and under the same key.
    rw [holds.nextIndex?_eq] at rolling
    rw [holds.filingDate_eq] at room
    rcases place_cases policy ordered record with
      ⟨_, rolls, placed, behind, _⟩ | ⟨_, _, stays, _⟩
    · obtain rfl := Option.some.inj (rolling.symm.trans rolls)
      rw [placed]
      exact holds.openVolume plain record representable (bytesAt_eq_none behind) room
    · cases rolling.symm.trans stays
  · rw [holds.nextIndex?_eq] at staying
    rcases place_cases policy ordered record with
      ⟨_, rolls, _⟩ | ⟨newest, older, _, rfl, _, placed⟩
    · cases staying.symm.trans rolls
    · rw [placed]
      exact holds.append record

theorem writeAll_filter (records : List Record) (current : Option OpenFile) (folder : Folder) :
    writeAll policy records current folder
      = writeAll policy (records.filter (·.level.isEnabled policy.maxLevel)) current folder := by
  induction records generalizing current folder with
  | nil => rfl
  | cons record rest ih =>
    rw [List.filter_cons]
    cases enabled : record.level.isEnabled policy.maxLevel with
    | false =>
      simp only [writeAll, write_of_not_isEnabled enabled, ih, Bool.false_eq_true, if_false]
    | true => simp only [writeAll, ih, if_true]

theorem Holds.writeAll (plain : '/' ∉ policy.stem.toList) {done records : List Record}
    {volumes : List Volume} {current after : Option OpenFile} {folder written : Folder}
    (holds : Holds policy volumes current folder) (shelved : Shelved policy done volumes)
    (enabled : ∀ record ∈ records, record.level.isEnabled policy.maxLevel = true)
    (dates : ∀ record ∈ done ++ records, record.time.date.IsRepresentable)
    (ok : writeAll policy records current folder = .ok (after, written)) :
    Holds policy (records.foldl (place policy) volumes) after written := by
  -- On the records to come; those done so far settle the order of the volumes.
  induction records generalizing done volumes current folder with
  | nil =>
    cases ok
    exact holds
  | cons record rest ih =>
    rw [List.append_cons] at dates
    have reached : ∀ other ∈ done ++ [record], other.time.date.IsRepresentable :=
      fun other member => dates other (List.mem_append_left rest member)
    simp only [RollingFile.writeAll] at ok
    split at ok
    · cases ok
    next next folder wrote =>
      have first := holds.write plain shelved.ordered (enabled record List.mem_cons_self)
        (reached record (by simp)) wrote
      exact ih first (Shelved.place record reached shelved)
        (fun other member => enabled other (List.mem_cons_of_mem _ member)) dates ok

end Gatehouse.RollingFile
