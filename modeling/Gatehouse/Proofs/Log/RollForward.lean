import Gatehouse.Proofs.Log.FileSearch

/-!
# Rolling forward

A line goes to the current file while its day lasts and the line fits, and otherwise to the first
file of the day with room. What it goes to is told by the folder as it was before the write; after
it, the folder differs at the place of that file, and where old files were.
-/
namespace Gatehouse.RollingFile

/-- The index of the file that takes a line, by the current file. -/
inductive Picks (policy : Policy) (folder : Folder) (date : Date) (length : Nat) :
    Option OpenFile → Nat → Prop
  | fresh {index} : IsFirstWithRoom policy folder date length 0 index →
      Picks policy folder date length none index
  | newDay {file index} : file.date < date → IsFirstWithRoom policy folder date length 0 index →
      Picks policy folder date length (some file) index
  | stays {file} : file.date = date → file.size = 0 ∨ file.size + length ≤ policy.maxSize →
      Picks policy folder date length (some file) file.index
  | rolls {file index} : file.date = date → 0 < file.size → policy.maxSize < file.size + length →
      IsFirstWithRoom policy folder date length (file.index + 1) index →
      Picks policy folder date length (some file) index

/-- Whether the file at a path is the open one and has the size it is known to have. -/
structure OpenFile.Stands (policy : Policy) (folder : Folder) (file : OpenFile) : Prop where
  representable : file.date.IsRepresentable
  place : ∃ place bytes, folder.LeadsTo (fileName policy file.date file.index) place
    ∧ folder.find? place = some (.file file.identity bytes) ∧ bytes.length = file.size

/-- What a write of a line to one file leaves: the line behind what the file held, and nothing else
that is new. -/
structure GoesTo (policy : Policy) (folder written : Folder) (date : Date) (index : Nat)
    (line : List UInt8) (after : OpenFile) (place : Place) : Prop where
  isCurrent : after.date = date ∧ after.index = index
  stands : after.Stands policy written
  leads : folder.LeadsTo (fileName policy date index) place
  bytes : written.find? place
    = some (.file after.identity (bytesBefore policy folder date index ++ line))
  others : ∀ other, other ≠ place → written.find? other = folder.find? other
    ∨ (written.find? other = none ∧ ∃ entry, folder.find? other = some entry
        ∧ Expires policy date folder.home other entry)
  limit : bytesBefore policy folder date index ≠ [] →
    (bytesBefore policy folder date index ++ line).length ≤ policy.maxSize

variable {policy : Policy} {folder : Folder}

/-! ## The line in its file -/

/-- A line at the end of the file at a place. -/
theorem goesTo_appendLine {opened : Folder} (formed : opened.WellFormed)
    (kept : folder.KeepsDirectories opened) {date : Date} (representable : date.IsRepresentable)
    {index identity : Nat} {place : Place}
    (leads : folder.LeadsTo (fileName policy date index) place)
    (here : opened.find? place = some (.file identity (bytesBefore policy folder date index)))
    (others : ∀ other, other ≠ place → opened.find? other = folder.find? other
      ∨ (opened.find? other = none ∧ ∃ entry, folder.find? other = some entry
          ∧ Expires policy date folder.home other entry))
    {line : List UInt8} (room : HasRoom policy folder date line.length index) :
    let file : OpenFile := ⟨date, index, (bytesBefore policy folder date index).length, identity⟩
    GoesTo policy folder (appendLine file line opened).2 date index line
      (appendLine file line opened).1 place := by
  intro file
  have bytes : (opened.append identity line).find? place
      = some (.file identity (bytesBefore policy folder date index ++ line)) := by
    rw [Folder.find?_append, here]
    simp only [Option.map_some, Folder.appendTo, if_true]
  constructor
  case isCurrent => exact ⟨rfl, rfl⟩
  case stands =>
    have still := (kept.trans (Folder.keepsDirectories_append opened identity line)).leadsTo leads
    refine ⟨representable, place, _, still, bytes, ?_⟩
    simp only [appendLine, List.length_append, file]
  case leads => exact leads
  case bytes => exact bytes
  case others =>
    intro other apart
    have same := Folder.find?_append_of_ne formed here line apart
    simp only [appendLine, file, same]
    exact others other apart
  case limit =>
    intro filled
    rw [List.length_append]
    exact (hasRoom_iff.mp room).resolve_left filled

/-- A line that the current file takes. -/
theorem goesTo_current (formed : folder.WellFormed) {file : OpenFile}
    (stands : file.Stands policy folder) {line : List UInt8}
    (fits : file.size = 0 ∨ file.size + line.length ≤ policy.maxSize) :
    ∃ place, GoesTo policy folder (appendLine file line folder).2 file.date file.index line
      (appendLine file line folder).1 place := by
  obtain ⟨date, index, size, identity⟩ := file
  obtain ⟨representable, place, bytes, leads, here, rfl⟩ := stands
  have before : bytesBefore policy folder date index = bytes := by
    rw [bytesBefore, (Folder.contentAt?_of_leadsTo leads).mpr ⟨_, here⟩]
    rfl
  have room : HasRoom policy folder date line.length index := by
    rw [hasRoom_iff, before]
    exact fits.imp List.eq_nil_of_length_eq_zero id
  subst before
  exact ⟨place, goesTo_appendLine formed (.refl folder) representable leads here
    (fun _ _ => .inl rfl) room⟩

/-- A line that the first file with room takes. -/
theorem goesTo_opened (formed : folder.WellFormed) {date : Date}
    (representable : date.IsRepresentable) {line : List UInt8} {start index : Nat}
    (opens : Opens policy folder date line.length start)
    (first : IsFirstWithRoom policy folder date line.length start index)
    (bound : index ≤ start + folder.entries.length) :
    ∃ place file opened,
      openWithRoom policy date start line.length folder = (.ok file, opened)
        ∧ GoesTo policy folder (appendLine file line opened).2 date index line
          (appendLine file line opened).1 place := by
  have reached := opens index first.order first.full
  obtain ⟨place, identity, opened, leads, ok, openedFormed, kept, here, others⟩ :=
    openFile_leaves formed representable reached
  have enough : index ≤ start + (folder.entries.length + 1) := by omega
  have searched := search_eq formed representable opens first enough
  have room := (openWithRoom_eq policy date start line.length folder).trans (searched.trans ok)
  refine ⟨place, _, opened, room,
    goesTo_appendLine openedFormed kept representable leads here ?_ first.room⟩
  -- What the opening left of the others: nothing new, and all but what expires.
  intro other apart
  rw [others other apart]
  exact filter_isKept_cases policy date folder other

/-! ## Writing -/

/-- Either the current file takes the line, or a search leads to the file that does. -/
theorem nextIndex?_cases (policy : Policy) (folder : Folder) (current : Option OpenFile)
    (record : Record) (length : Nat) :
    let date := filingDate current record
    (∃ file, current = some file ∧ nextIndex? policy current date length = none
        ∧ file.date = date ∧ (file.size = 0 ∨ file.size + length ≤ policy.maxSize))
      ∨ ∃ start, nextIndex? policy current date length = some start
          ∧ ∀ index, IsFirstWithRoom policy folder date length start index →
              Picks policy folder date length current index := by
  intro date
  cases current with
  | none => exact .inr ⟨0, rfl, fun _ => .fresh⟩
  | some file =>
    have decides : nextIndex? policy (some file) date length
        = if file.date < date then some 0
          else if isFull policy file.size length then some (file.index + 1) else none := rfl
    by_cases later : file.date < date
    · rw [if_pos later] at decides
      exact .inr ⟨0, decides, fun _ => .newDay later⟩
    · rw [if_neg later] at decides
      -- The day never goes back, so it is still that of the current file.
      have same : file.date = date := Date.eq_later_of_not_lt later
      cases full : isFull policy file.size length with
      | true =>
        rw [full, if_pos rfl] at decides
        simp only [isFull, Bool.and_eq_true, decide_eq_true_eq] at full
        exact .inr ⟨file.index + 1, decides, fun _ => .rolls same full.1 full.2⟩
      | false =>
        rw [full, if_neg Bool.false_ne_true] at decides
        simp only [isFull, Bool.and_eq_false_iff, decide_eq_false_iff_not] at full
        exact .inl ⟨file, rfl, decides, same, by omega⟩

theorem filingDate_representable {current : Option OpenFile} {record : Record}
    (stands : ∀ file ∈ current, file.Stands policy folder)
    (representable : record.time.date.IsRepresentable) :
    (filingDate current record).IsRepresentable := by
  cases current with
  | none => exact representable
  | some file => exact (stands file rfl).representable.later representable

theorem write_of_stays {record : Record} {file : OpenFile}
    (enabled : record.level.isEnabled policy.maxLevel = true)
    (stays : nextIndex? policy (some file) (filingDate (some file) record)
      (lineBytes policy record).length = none) :
    write policy record (some file) folder
      = (.ok (), some (appendLine file (lineBytes policy record) folder).1,
          (appendLine file (lineBytes policy record) folder).2) := by
  simp only [write, enabled, if_true, stays]

theorem write_of_rolls {record : Record} {current : Option OpenFile} {start : Nat}
    {file : OpenFile} {opened : Folder}
    (enabled : record.level.isEnabled policy.maxLevel = true)
    (rolls : nextIndex? policy current (filingDate current record)
      (lineBytes policy record).length = some start)
    (room : openWithRoom policy (filingDate current record) start
      (lineBytes policy record).length folder = (.ok file, opened)) :
    write policy record current folder
      = (.ok (), some (appendLine file (lineBytes policy record) opened).1,
          (appendLine file (lineBytes policy record) opened).2) := by
  simp only [write, enabled, if_true, rolls, room]

/-- Whatever the folder holds, a write of an enabled record ends. It puts the line into one file of
the later of the current day and the record's: the current file, if the day lasts and the line fits,
or else the first one with room. All other files stay as they are or are removed as old, no other
file is made, and the size that is known stays the size of the file. So a file with something in it
is not written beyond the limit. Openings that the write depends on are taken to succeed. -/
theorem write_rolls_forward (policy : Policy) {folder : Folder} (formed : folder.WellFormed)
    {current : Option OpenFile} (stands : ∀ file ∈ current, file.Stands policy folder)
    {record : Record} (enabled : record.level.isEnabled policy.maxLevel = true)
    (representable : record.time.date.IsRepresentable)
    (opens : ∀ start ∈ nextIndex? policy current (filingDate current record)
        (lineBytes policy record).length,
      Opens policy folder (filingDate current record) (lineBytes policy record).length start) :
    let date := filingDate current record
    let line := lineBytes policy record
    ∃ index place after written,
      write policy record current folder = (.ok (), some after, written)
        ∧ Picks policy folder date line.length current index
        ∧ GoesTo policy folder written date index line after place
        ∧ ∀ start ∈ nextIndex? policy current date line.length,
            index ≤ start + folder.entries.length
              ∧ ∀ budget, folder.entries.length ≤ budget →
                  search policy date line.length budget start folder
                    = openWithRoom policy date start line.length folder := by
  intro date line
  have bounded : date.IsRepresentable := filingDate_representable stands representable
  rcases nextIndex?_cases policy folder current record line.length with
    ⟨file, rfl, stays, same, fits⟩ | ⟨start, rolls, picks⟩
  · -- The current file takes the line, and no other is opened.
    obtain ⟨place, goes⟩ := goesTo_current formed (stands file rfl) fits
    rw [same] at goes
    refine ⟨file.index, place, _, _, write_of_stays enabled stays, .stays same fits, goes, ?_⟩
    intro start rolls
    cases stays.symm.trans rolls
  · -- The search finds the first file with room, whatever it has to spare beyond that.
    obtain ⟨index, first, bound⟩ :=
      exists_isFirstWithRoom formed bounded (opens start rolls)
    obtain ⟨place, file, opened, room, goes⟩ :=
      goesTo_opened formed bounded (opens start rolls) first bound
    refine ⟨index, place, _, _, write_of_rolls enabled rolls room, picks index first, goes, ?_⟩
    intro other again
    cases rolls.symm.trans again
    refine ⟨bound, fun budget more => ?_⟩
    rw [openWithRoom_eq, search_eq formed bounded (opens start rolls) first (by omega),
      search_eq formed bounded (opens start rolls) first (by omega)]

/-- A late record and a full current file, among leftovers of the day: the next file is full too and
the one behind it is missing. -/
theorem write_rolls_forward_over_leftovers :
    let policy : Policy := { Policy.ofStem "app" with maxSize := 200, maxAgeDays := 7 }
    let full : List UInt8 := List.replicate 150 120
    let folder := Folder.ofFiles "logs" [("app-1970-01-10.log", full),
      ("app-1970-01-10.1.log", full), ("app-1970-01-10.3.log", []), ("app-1970-01-01.log", full),
      ("notes.log", [10])]
    let record : Record :=
      { level := .info, message := "m", context := none, requestId := none, trace := none,
        metadata := [], time := ⟨8 * 86400, 0⟩ }
    ∃ place after written,
      write policy record (some ⟨⟨9⟩, 0, 150, 0⟩) folder = (.ok (), some after, written)
        ∧ GoesTo policy folder written ⟨9⟩ 2 (lineBytes policy record) after place := by
  intro policy full folder record
  have formed : folder.WellFormed := Folder.wellFormed_ofFiles "logs" (by decide)
  have rolls : nextIndex? policy (some ⟨⟨9⟩, 0, 150, 0⟩) ⟨9⟩ (lineBytes policy record).length
      = some 1 := by decide +kernel
  have second : folder.contentAt? (fileName policy ⟨9⟩ 1) = some full := by decide +kernel
  have third : folder.contentAt? (fileName policy ⟨9⟩ 2) = none := by decide +kernel
  have room : HasRoom policy folder ⟨9⟩ (lineBytes policy record).length 2 := by
    intro bytes content
    rw [third] at content
    cases content
  have filled : ¬ HasRoom policy folder ⟨9⟩ (lineBytes policy record).length 1 := by
    intro room
    have exceeds : ¬ (full = [] ∨ full.length + (lineBytes policy record).length ≤ policy.maxSize) := by
      decide +kernel
    exact exceeds (room full second)
  have stands : ∀ file ∈ some ⟨⟨9⟩, 0, 150, 0⟩, OpenFile.Stands policy folder file := by
    intro file current
    obtain rfl := Option.some.inj current
    have name : fileName policy ⟨9⟩ 0 = "app-1970-01-10.log" := by decide +kernel
    have leads : folder.LeadsTo "app-1970-01-10.log" ("app-1970-01-10.log" :: folder.home) :=
      Folder.leadsTo_plain ⟨by decide, by decide⟩ (by decide +kernel)
    have there : folder.find? ("app-1970-01-10.log" :: folder.home) = some (.file 0 full) := rfl
    rw [← name] at leads
    exact ⟨by decide, _, full, leads, name ▸ there, rfl⟩
  have opens : Opens policy folder ⟨9⟩ (lineBytes policy record).length 1 := by
    intro index order before
    have near : index = 1 ∨ index = 2 := by
      by_contra far
      exact before 2 (by decide) (by omega) room
    rcases near with rfl | rfl
    · decide +kernel
    · decide +kernel
  obtain ⟨index, place, after, written, wrote, picks, goes, _⟩ :=
    @write_rolls_forward policy folder formed _ stands record (by decide) (by decide) (by
      intro start same
      cases rolls.symm.trans same
      exact opens)
  have chosen : index = 2 := by
    cases picks with
    | newDay later => exact absurd later (by decide)
    | stays _ fits => exact absurd fits (by decide +kernel)
    | rolls _ _ _ first =>
      have order : 1 ≤ index := first.order
      have last : ¬ 2 < index := fun less => first.full 2 (by decide) less room
      have later : index ≠ 1 := by
        rintro rfl
        exact filled first.room
      omega
  subst chosen
  exact ⟨place, after, written, wrote, goes⟩

end Gatehouse.RollingFile
