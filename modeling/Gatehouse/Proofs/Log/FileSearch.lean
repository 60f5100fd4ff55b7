import Gatehouse.Proofs.Log.Retention
import Gatehouse.Proofs.Log.RollingRun
import Mathlib.Data.List.Nodup
import Mathlib.Data.Nat.Find

/-!
# The search for a file with room

Files of a day are opened in turn until one has room, whatever earlier sinks left in them. Each
opening prunes the folder, but never takes a file of the day, so the search meets what stood there
before it began, and ends as if only the last file had been opened. Full files stand at places of
their own: a search that went on for longer than the folder has entries would meet more files than
there are.
-/
namespace Gatehouse.RollingFile

section

variable (policy : Policy) (folder : Folder) (date : Date)

/-- The bytes of a file; none if it is absent. -/
def bytesBefore (index : Nat) : List UInt8 :=
  (folder.contentAt? (fileName policy date index)).getD []

variable (length : Nat)

/-- Whether a file may take a line of so many bytes: it is absent or empty, or the line fits. -/
def HasRoom (index : Nat) : Prop :=
  ∀ bytes ∈ folder.contentAt? (fileName policy date index),
    bytes = [] ∨ bytes.length + length ≤ policy.maxSize

/-- Whether an index is the first one from `start` on whose file has room. -/
structure IsFirstWithRoom (start index : Nat) : Prop where
  order : start ≤ index
  room : HasRoom policy folder date length index
  full : ∀ earlier, start ≤ earlier → earlier < index →
    ¬ HasRoom policy folder date length earlier

/-- Whether the files that a search from `start` on meets open without an error. -/
def Opens (start : Nat) : Prop :=
  ∀ index, start ≤ index →
    (∀ earlier, start ≤ earlier → earlier < index → ¬ HasRoom policy folder date length earlier) →
    (folder.openToAppend (fileName policy date index)).isOk

end

variable {policy : Policy} {folder : Folder}

theorem hasRoom_iff {date : Date} {length index : Nat} :
    HasRoom policy folder date length index
      ↔ bytesBefore policy folder date index = []
        ∨ (bytesBefore policy folder date index).length + length ≤ policy.maxSize := by
  unfold HasRoom bytesBefore
  cases folder.contentAt? (fileName policy date index) <;> simp

/-- A sink takes a file for full exactly if it has no room. -/
theorem isFull_bytesBefore {date : Date} {length index : Nat} :
    isFull policy (bytesBefore policy folder date index).length length = true
      ↔ ¬ HasRoom policy folder date length index := by
  rw [hasRoom_iff, ← List.length_eq_zero_iff]
  simp only [isFull, Bool.and_eq_true, decide_eq_true_eq]
  omega

/-! ## Places of the sink's files -/

theorem exists_base (stem : List Char) :
    ∃ base, '/' ∉ base ∧ (stem = base ∨ ∃ outer, stem = outer ++ '/' :: base) := by
  -- From the front: the slash that no other one follows is the last.
  induction stem with
  | nil => exact ⟨[], List.not_mem_nil, .inl rfl⟩
  | cons c rest ih =>
    obtain ⟨base, plain, rfl | ⟨outer, rfl⟩⟩ := ih
    · by_cases slash : c = '/'
      · exact ⟨rest, plain, .inr ⟨[], by rw [slash]; rfl⟩⟩
      · exact ⟨c :: rest, by simp [plain, Ne.symm slash], .inl rfl⟩
    · exact ⟨base, plain, .inr ⟨c :: outer, rfl⟩⟩

/-- The name that a file bears at its place is the one that the last part of the stem gives. -/
theorem exists_plain (policy : Policy) :
    ∃ plain : Policy, '/' ∉ plain.stem.toList
      ∧ (plain.stem = policy.stem ∨ '/' ∈ policy.stem.toList)
      ∧ ∀ folder date index place,
          Folder.locate folder (fileName policy date index) = .ok (.inside place false) →
          ∃ outer, place = fileName plain date index :: outer := by
  obtain ⟨base, noSlash, split⟩ := exists_base policy.stem.toList
  let plain : Policy := { policy with stem := String.ofList base }
  have stem : plain.stem.toList = base := String.toList_ofList
  refine ⟨plain, by rwa [stem], ?_, ?_⟩
  · rcases split with same | ⟨outer, split⟩
    · exact .inl (String.toList_inj.mp (stem.trans same.symm))
    · exact .inr (by simp [split])
  · intro folder date index place located
    have clean := fileName_no_slash plain date index (by rwa [stem])
    have last : (Folder.parts (fileName policy date index).toList).getLast?
        = some (fileName plain date index) := by
      rcases split with same | ⟨outer, split⟩
      · have equal : fileName policy date index = fileName plain date index := by
          simp only [fileName, stem, same]
        rw [equal, Folder.parts_plain clean, List.getLast?_singleton, String.ofList_toList]
      · have front : (fileName policy date index).toList
            = outer ++ '/' :: (fileName plain date index).toList := by
          simp [fileName, fileNameChars_eq, split, stem]
        rw [front, Folder.getLast?_parts outer clean, String.ofList_toList]
    obtain ⟨name, outer, rfl, ends⟩ := Folder.locate_inside located
    rw [last] at ends
    exact ⟨outer, by rw [Option.some.inj ends]⟩

/-- Two files of a day that stand at one place are one. -/
theorem index_inj {date : Date} (representable : date.IsRepresentable) {index number : Nat}
    {place : Place} (first : folder.locate (fileName policy date index) = .ok (.inside place false))
    (second : folder.locate (fileName policy date number) = .ok (.inside place false)) :
    index = number := by
  obtain ⟨plain, _, _, named⟩ := exists_plain policy
  obtain ⟨_, rfl⟩ := named _ _ _ _ first
  obtain ⟨_, same⟩ := named _ _ _ _ second
  exact (fileName_inj representable representable (List.cons.inj same).1).2

/-- Retention keeps the files of the day it counts from. -/
theorem isKept_of_located {date : Date} (representable : date.IsRepresentable) {index : Nat}
    {place : Place} (located : folder.locate (fileName policy date index) = .ok (.inside place false))
    (entry : Entry) :
    isKept policy date folder.home (place, entry) = true := by
  rw [← Bool.not_eq_false, isKept_eq_false_iff]
  rintro ⟨name, _, _, day, rfl, _, reads, old⟩
  obtain ⟨plain, noSlash, stem, named⟩ := exists_plain policy
  obtain ⟨_, same⟩ := named _ _ _ _ located
  obtain ⟨rfl, _⟩ := List.cons.inj same
  rcases stem with stem | slash
  · have own := readsAs_fileName plain representable index
    rw [stem, ← fileDate?_eq_some_iff] at own
    rw [← fileDate?_eq_some_iff, own] at reads
    cases reads
    rw [isRetained_self] at old
    cases old
  · -- A name in the folder does not start with a stem that has a slash in it.
    obtain ⟨text, rest, split, _⟩ := reads
    apply fileName_no_slash plain date index noSlash
    rw [split]
    exact List.mem_append_left _ slash

/-! ## Openings after each other -/

theorem prune_prune (policy : Policy) (today : Date) (folder : Folder) :
    prune policy today (prune policy today folder) = prune policy today folder := by
  simp only [prune, List.filter_filter, Bool.and_self]

theorem prune_add_prune (policy : Policy) (today : Date) (folder : Folder) (place : Place)
    (entry : Entry) :
    prune policy today ((prune policy today folder).add place entry)
      = prune policy today (folder.add place entry) := by
  simp only [prune, Folder.add, List.filter_append, List.filter_filter, Bool.and_self]

section

variable (formed : folder.WellFormed) {date : Date} (representable : date.IsRepresentable)

include formed representable

/-- Where the path of a file of the day leads, a pruning by that day leaves what stands. -/
theorem find?_prune_of_located {index : Nat} {place : Place}
    (located : folder.locate (fileName policy date index) = .ok (.inside place false)) :
    (prune policy date folder).find? place = folder.find? place := by
  rw [find?_prune policy date formed]
  cases folder.find? place with
  | none => rfl
  | some entry =>
    rw [Option.filter_some, if_pos (isKept_of_located representable located entry)]

/-- An earlier opening of the day makes no difference. -/
theorem openFile_prune {index : Nat}
    (opens : (folder.openToAppend (fileName policy date index)).isOk) :
    openFile policy date index (prune policy date folder)
      = openFile policy date index folder := by
  obtain ⟨place, leads, free⟩ := Folder.leadsTo_of_openToAppend opens
  have still := (keepsDirectories_prune policy date formed).leadsTo leads
  rw [openFile_of_leadsTo policy leads, openFile_of_leadsTo policy still,
    find?_prune_of_located formed representable leads.located]
  cases held : folder.find? place with
  | none =>
    simp only
    rw [prune_add_prune]
    rfl
  | some entry =>
    cases entry with
    | directory => exact absurd held free
    | file identity bytes => simp only [prune_prune]

end

/-- An opened file holds what stood at its place, and the others are pruned. -/
theorem openFile_leaves (formed : folder.WellFormed) {date : Date}
    (representable : date.IsRepresentable) {index : Nat}
    (opens : (folder.openToAppend (fileName policy date index)).isOk) :
    ∃ place identity opened, folder.LeadsTo (fileName policy date index) place
      ∧ openFile policy date index folder
        = (.ok ⟨date, index, (bytesBefore policy folder date index).length, identity⟩, opened)
      ∧ opened.WellFormed ∧ folder.KeepsDirectories opened
      ∧ opened.find? place = some (.file identity (bytesBefore policy folder date index))
      ∧ ∀ other, other ≠ place → opened.find? other
          = (folder.find? other).filter fun entry =>
              isKept policy date folder.home (other, entry) := by
  obtain ⟨place, leads, free⟩ := Folder.leadsTo_of_openToAppend opens
  have openFile_eq := openFile_of_leadsTo policy leads
  cases held : folder.find? place with
  | none =>
    have grown := formed.add_file (Folder.lookup_of_find?_none held) []
    have before : bytesBefore policy folder date index = [] := by
      rw [bytesBefore, Folder.contentAt?_of_free leads held]
      rfl
    rw [held] at openFile_eq
    have found := find?_openFile formed leads openFile_eq
    rw [before]
    refine ⟨place, folder.fresh, _, leads, openFile_eq, prune_wellFormed policy date grown,
      (Folder.keepsDirectories_add held _).trans (keepsDirectories_prune policy date grown), ?_, ?_⟩
    · rw [found, if_pos rfl, held, Option.none_or, Option.filter_some,
        if_pos (isKept_of_located representable leads.located _)]
    · intro other apart
      rw [found, if_neg apart]
  | some entry =>
    cases entry with
    | directory => exact absurd held free
    | file identity bytes =>
      have before : bytesBefore policy folder date index = bytes := by
        rw [bytesBefore, (Folder.contentAt?_of_leadsTo leads).mpr ⟨identity, held⟩]
        rfl
      rw [held] at openFile_eq
      have found := find?_openFile formed leads openFile_eq
      rw [before]
      refine ⟨place, identity, _, leads, openFile_eq, prune_wellFormed policy date formed,
        keepsDirectories_prune policy date formed, ?_, ?_⟩
      · rw [found, if_pos rfl, held, Option.some_or, Option.filter_some,
          if_pos (isKept_of_located representable leads.located _)]
      · intro other apart
        rw [found, if_neg apart]

/-- A file without room opens full, and the folder is pruned. -/
theorem openFile_of_full (formed : folder.WellFormed) {date : Date} {index length : Nat}
    (opens : (folder.openToAppend (fileName policy date index)).isOk)
    (full : ¬ HasRoom policy folder date length index) :
    ∃ file, openFile policy date index folder = (.ok file, prune policy date folder)
      ∧ file.date = date ∧ file.index = index ∧ isFull policy file.size length = true
      ∧ ∃ place entry, folder.LeadsTo (fileName policy date index) place
          ∧ (place, entry) ∈ folder.entries := by
  obtain ⟨place, leads, _⟩ := Folder.leadsTo_of_openToAppend opens
  simp only [HasRoom, not_forall, not_or, Option.mem_def] at full
  obtain ⟨bytes, content, filled, exceeds⟩ := full
  obtain ⟨identity, held⟩ := (Folder.contentAt?_of_leadsTo leads).mp content
  refine ⟨⟨date, index, bytes.length, identity⟩, ?_, rfl, rfl, ?_, place, _, leads,
    Folder.mem_of_find?_file formed held⟩
  · rw [openFile_of_leadsTo policy leads, held]
  · have some := List.length_pos_iff.mpr filled
    simp only [isFull, Bool.and_eq_true, decide_eq_true_eq]
    omega

/-- Files that open and have no room stand at places of their own, so the folder has an entry for
each. -/
theorem passed_le_length (formed : folder.WellFormed) {date : Date}
    (representable : date.IsRepresentable) {length start count : Nat}
    (passed : ∀ index, start ≤ index → index < start + count →
      (folder.openToAppend (fileName policy date index)).isOk
        ∧ ¬ HasRoom policy folder date length index) : count ≤ folder.entries.length := by
  -- Every index gets a place, so that the places can be chosen; those from `count` on are not used.
  have there : ∀ index, ∃ place, index < count →
      folder.LeadsTo (fileName policy date (start + index)) place
        ∧ place ∈ folder.entries.map (·.1) := by
    intro index
    by_cases below : index < count
    · obtain ⟨reached, filled⟩ := passed (start + index) (by omega) (by omega)
      obtain ⟨_, _, _, _, _, place, entry, leads, member⟩ :=
        openFile_of_full formed reached filled
      exact ⟨place, fun _ => ⟨leads, List.mem_map_of_mem member⟩⟩
    · exact ⟨[], fun less => absurd less below⟩
  choose place stands using there
  have apart : ((List.range count).map place).Nodup := by
    apply List.Nodup.map_on _ List.nodup_range
    intro index below number less same
    have first := (stands index (List.mem_range.mp below)).1
    have second := (stands number (List.mem_range.mp less)).1
    rw [← same] at second
    have equal := index_inj representable first.located second.located
    omega
  have inside : (List.range count).map place ⊆ folder.entries.map (·.1) := by
    intro other member
    obtain ⟨index, below, rfl⟩ := List.mem_map.mp member
    exact (stands index (List.mem_range.mp below)).2
  simpa using apart.length_le_of_subset inside

/-! ## The search -/

/-- The search from an index on, with so many openings to spare. -/
def search (policy : Policy) (date : Date) (length budget index : Nat) (folder : Folder) :
    Except FileError OpenFile × Folder :=
  match openFile policy date index folder with
  | (.error error, folder) => (.error error, folder)
  | (.ok file, opened) => advance policy length budget file opened

theorem openWithRoom_eq (policy : Policy) (date : Date) (index length : Nat) (folder : Folder) :
    openWithRoom policy date index length folder
      = search policy date length (folder.entries.length + 1) index folder := by
  unfold openWithRoom search
  cases openFile policy date index folder with
  | mk result opened => cases result <;> rfl

theorem advance_succ (policy : Policy) (length budget : Nat) (file : OpenFile) (folder : Folder) :
    advance policy length (budget + 1) file folder
      = if isFull policy file.size length then
          search policy file.date length budget (file.index + 1) folder
        else (.ok file, folder) := by
  rw [advance]
  split
  · unfold search
    cases openFile policy file.date (file.index + 1) folder with
    | mk result opened => cases result <;> rfl
  · rfl

theorem advance_of_not_isFull {file : OpenFile} {length : Nat}
    (room : isFull policy file.size length = false) (budget : Nat) (folder : Folder) :
    advance policy length budget file folder = (.ok file, folder) := by
  cases budget with
  | zero => rfl
  | succ budget => rw [advance_succ, room, if_neg Bool.false_ne_true]

theorem Opens.next {date : Date} {length start : Nat} (opens : Opens policy folder date length start)
    (full : ¬ HasRoom policy folder date length start) :
    Opens policy folder date length (start + 1) := by
  intro index order filled
  apply opens index (by omega)
  intro earlier from_start before
  rcases Nat.eq_or_lt_of_le from_start with rfl | later
  · exact full
  · exact filled earlier later before

theorem Opens.here {date : Date} {length start : Nat}
    (opens : Opens policy folder date length start) :
    (folder.openToAppend (fileName policy date start)).isOk :=
  opens start (Nat.le_refl start) fun _ order before => absurd order (Nat.not_le.mpr before)

theorem search_of_hasRoom (formed : folder.WellFormed) {date : Date}
    (representable : date.IsRepresentable) {length index : Nat}
    (opens : (folder.openToAppend (fileName policy date index)).isOk)
    (room : HasRoom policy folder date length index) (budget : Nat) :
    search policy date length budget index folder = openFile policy date index folder := by
  obtain ⟨_, _, opened, _, ok, _⟩ := openFile_leaves formed representable opens
  rw [search, ok]
  apply advance_of_not_isFull
  rw [← Bool.not_eq_true, isFull_bytesBefore]
  exact not_not_intro room

section

variable (formed : folder.WellFormed) {date : Date} (representable : date.IsRepresentable)
  {length start : Nat} (opens : Opens policy folder date length start)

include formed representable opens

/-- A search that meets a full file goes on behind it, and the opening leaves no trace. -/
theorem search_of_full (full : ¬ HasRoom policy folder date length start) (budget : Nat) :
    search policy date length (budget + 1) start folder
      = search policy date length budget (start + 1) folder := by
  obtain ⟨file, ok, rfl, rfl, isFull, _⟩ := openFile_of_full formed opens.here full
  have again := openFile_prune formed representable (opens.next full).here
  calc search policy file.date length (budget + 1) file.index folder
      = advance policy length (budget + 1) file (prune policy file.date folder) := by
        rw [search, ok]
    _ = search policy file.date length budget (file.index + 1) (prune policy file.date folder) := by
        rw [advance_succ, if_pos isFull]
    _ = search policy file.date length budget (file.index + 1) folder := by
        rw [search, again, search]

/-- A search with enough openings to spare ends with the first file that has room, and the folder
is as if no other had been opened. -/
theorem search_eq {index budget : Nat}
    (first : IsFirstWithRoom policy folder date length start index)
    (enough : index ≤ start + budget) :
    search policy date length budget start folder = openFile policy date index folder := by
  -- On the openings to spare: each full file takes one of them.
  induction budget generalizing start with
  | zero =>
    obtain rfl : start = index := Nat.le_antisymm first.order enough
    exact search_of_hasRoom formed representable opens.here first.room 0
  | succ budget ih =>
    rcases Nat.eq_or_lt_of_le first.order with rfl | later
    · exact search_of_hasRoom formed representable opens.here first.room _
    · have full := first.full start (Nat.le_refl start) later
      rw [search_of_full formed representable opens full]
      apply ih (opens.next full) _ (by omega)
      exact ⟨later, first.room, fun earlier order => first.full earlier (by omega)⟩

theorem full_le_length {count : Nat}
    (full : ∀ index, start ≤ index → index < start + count →
      ¬ HasRoom policy folder date length index) : count ≤ folder.entries.length := by
  have passed : ∀ index, start ≤ index → index < start + count →
      (folder.openToAppend (fileName policy date index)).isOk
        ∧ ¬ HasRoom policy folder date length index := by
    intro index from_start below
    have reached := opens index from_start
      fun earlier order before => full earlier order (by omega)
    exact ⟨reached, full index from_start below⟩
  exact passed_le_length formed representable passed

/-- There is a first file with room, and no more files before it than the folder has entries. -/
theorem exists_isFirstWithRoom :
    ∃ index, IsFirstWithRoom policy folder date length start index
      ∧ index ≤ start + folder.entries.length := by
  classical
  have some : ∃ step, HasRoom policy folder date length (start + step) := by
    by_contra none
    have full : ∀ index, start ≤ index → index < start + (folder.entries.length + 1) →
        ¬ HasRoom policy folder date length index := by
      intro index order _ room
      apply none
      exact ⟨index - start, by rwa [Nat.add_sub_cancel' order]⟩
    have bound := full_le_length formed representable opens full
    omega
  have full : ∀ earlier, start ≤ earlier → earlier < start + Nat.find some →
      ¬ HasRoom policy folder date length earlier := by
    intro earlier order before room
    apply Nat.find_min some (m := earlier - start) (by omega)
    rwa [Nat.add_sub_cancel' order]
  have bound := full_le_length formed representable opens full
  exact ⟨start + Nat.find some, ⟨Nat.le_add_right _ _, Nat.find_spec some, full⟩, by omega⟩

end

end Gatehouse.RollingFile
