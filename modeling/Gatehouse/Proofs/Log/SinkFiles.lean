import Gatehouse.Proofs.Log.RollingRun

/-!
# What a rolling log leaves

The files of a sink, read in the order of their days and indices, are the lines of the records that
it was to write and whose day the last one still retains: each once, in the order of writing, and
each in a file of the day that was the latest one when it was written.
-/
namespace Gatehouse.RollingFile

/-- Whether a day and an index come before others or are the same. -/
def isInOrder (first second : Date × Nat) : Bool :=
  decide (first.1 < second.1) || (decide (first.1 = second.1) && decide (first.2 ≤ second.2))

/-- The files that a policy names, with their days and indices and in the order of them. -/
def sinkFiles (policy : Policy) (folder : Folder) : List ((Date × Nat) × List UInt8) :=
  let named := folder.files.filterMap fun (name, bytes) => (fileKey? policy name).map (·, bytes)
  named.mergeSort fun first second => isInOrder first.1 second.1

def Volume.toFile (policy : Policy) (volume : Volume) : (Date × Nat) × List UInt8 :=
  ((volume.date, volume.index), volume.bytes policy)

variable {policy : Policy}

/-! ## Order of files -/

theorem isInOrder_iff (first second : Date × Nat) :
    isInOrder first second = true
      ↔ first.1.day < second.1.day ∨ (first.1.day = second.1.day ∧ first.2 ≤ second.2) := by
  have same : first.1 = second.1 ↔ first.1.day = second.1.day :=
    ⟨congrArg Date.day, Date.eq_of_day_eq⟩
  simp [isInOrder, Date.lt_iff_day, same]

theorem isInOrder_antisymm {first second : Date × Nat} (forth : isInOrder first second = true)
    (back : isInOrder second first = true) : first = second := by
  rw [isInOrder_iff] at forth back
  exact Prod.ext (Date.eq_of_day_eq (by omega)) (by omega)

theorem sinkFiles_pairwise (folder : Folder) :
    (sinkFiles policy folder).Pairwise fun first second => isInOrder first.1 second.1 = true := by
  refine List.pairwise_mergeSort ?_ ?_ _
  · intro first second third
    simp only [isInOrder_iff]
    omega
  · intro first second
    simp only [Bool.or_eq_true, isInOrder_iff]
    omega

/-! ## Files of the policy -/

theorem mem_sinkFiles_iff {folder : Folder} (formed : folder.WellFormed) (date : Date)
    (index : Nat) (bytes : List UInt8) :
    ((date, index), bytes) ∈ sinkFiles policy folder
      ↔ date.IsRepresentable
        ∧ (folder.fileAt? (fileName policy date index)).map (·.2) = some bytes := by
  simp only [sinkFiles, List.mem_mergeSort, List.mem_filterMap, Prod.exists,
    Option.map_eq_some_iff, Folder.mem_files_iff formed, Prod.mk.injEq, fileKey?_eq_some_iff]
  constructor
  · rintro ⟨name, content, ⟨identity, held⟩, day, number, ⟨representable, rfl⟩, ⟨rfl, rfl⟩, rfl⟩
    exact ⟨representable, identity, content, held, rfl⟩
  · rintro ⟨representable, identity, content, held, rfl⟩
    exact ⟨_, content, ⟨identity, held⟩, date, index, ⟨representable, rfl⟩, ⟨rfl, rfl⟩, rfl⟩

theorem sinkFiles_nodup {folder : Folder} (formed : folder.WellFormed) :
    (sinkFiles policy folder).Nodup := by
  refine (List.mergeSort_perm _ _).nodup_iff.mpr (List.Pairwise.filterMap _ ?_ formed.names)
  rintro ⟨name, bytes⟩ ⟨other, content⟩ differs file taken found got same
  subst same
  simp only [Option.map_eq_some_iff] at taken got
  obtain ⟨⟨date, index⟩, read, rfl⟩ := taken
  obtain ⟨key, reread, same⟩ := got
  obtain ⟨rfl, _⟩ := Prod.mk.inj same
  rw [fileKey?_eq_some_iff] at read reread
  exact differs (read.2.symm.trans reread.2)

/-- In their order, the files are the volumes that the folder holds, oldest first. -/
theorem Holds.sinkFiles_eq {volumes : List Volume} {current : Option OpenFile} {folder : Folder}
    (holds : Holds policy volumes current folder)
    (ordered : volumes.Pairwise fun newer older => older.Before newer) :
    sinkFiles policy folder = volumes.reverse.map (Volume.toFile policy) := by
  have placed : (volumes.reverse.map (Volume.toFile policy)).Pairwise fun first second =>
      isInOrder first.1 second.1 = true ∧ first.1 ≠ second.1 := by
    refine List.pairwise_map.mpr (List.pairwise_reverse.mpr (ordered.imp ?_))
    intro newer older before
    constructor
    · rw [isInOrder_iff]
      rcases before with earlier | ⟨same, below⟩
      · exact .inl earlier
      · exact .inr ⟨congrArg Date.day same, Nat.le_of_lt below⟩
    · intro same
      obtain ⟨sameDate, sameIndex⟩ := Prod.mk.inj same
      rcases before with earlier | ⟨_, below⟩
      · exact absurd earlier (sameDate ▸ Int.lt_irrefl _)
      · omega
  have members : ∀ file, file ∈ sinkFiles policy folder
      ↔ file ∈ volumes.reverse.map (Volume.toFile policy) := by
    rintro ⟨⟨date, index⟩, bytes⟩
    rw [mem_sinkFiles_iff holds.formed, List.mem_map]
    constructor
    · rintro ⟨representable, held⟩
      rw [holds.files date index representable, bytesAt, Option.map_eq_some_iff] at held
      obtain ⟨volume, found, rfl⟩ := held
      have key := List.find?_some found
      rw [decide_eq_true_eq] at key
      obtain ⟨rfl, rfl⟩ := key
      exact ⟨volume, List.mem_reverse.mpr (List.mem_of_find?_eq_some found), rfl⟩
    · rintro ⟨volume, member, same⟩
      cases same
      rw [List.mem_reverse] at member
      have representable := holds.days volume member
      refine ⟨representable, ?_⟩
      rw [holds.files _ _ representable]
      exact bytesAt_of_mem ordered member
  -- Both lists are in order, and neither names a file twice.
  refine List.Perm.eq_of_pairwise ?_ (sinkFiles_pairwise folder) (placed.imp (·.1)) ?_
  · rintro ⟨⟨date, index⟩, bytes⟩ ⟨key, content⟩ here there forth back
    obtain rfl := isInOrder_antisymm forth back
    rw [← members] at there
    rw [mem_sinkFiles_iff holds.formed] at here there
    obtain rfl := Option.some.inj (here.2.symm.trans there.2)
    rfl
  · exact (List.perm_ext_iff_of_nodup (sinkFiles_nodup holds.formed)
      (placed.imp fun differs same => differs.2 (congrArg Prod.fst same))).mpr members

/-- A folder without files of the policy holds no volume. -/
theorem holds_nil {folder : Folder} (formed : folder.WellFormed)
    (clean : sinkFiles policy folder = []) : Holds policy [] none folder := by
  refine ⟨formed, ?_, by simp, .none⟩
  intro date index representable
  rw [bytesAt, List.find?_nil, Option.map_none, Option.eq_none_iff_forall_ne_some]
  intro bytes held
  have member := (mem_sinkFiles_iff formed date index bytes).mpr ⟨representable, held⟩
  rw [clean] at member
  cases member

/-- The indices of a day start at zero and have no gap. -/
theorem Shelved.indices {records : List Record} {volumes : List Volume}
    (shelved : Shelved policy records volumes) (index : Nat) :
    ∀ volume ∈ volumes, volume.index = index → ∀ number ≤ index,
      ∃ other ∈ volumes, other.date = volume.date ∧ other.index = number := by
  induction index with
  | zero =>
    intro volume member first number bound
    exact ⟨volume, member, rfl, by omega⟩
  | succ index ih =>
    intro volume member last number bound
    by_cases same : number = index + 1
    · exact ⟨volume, member, rfl, by omega⟩
    · rcases shelved.gapless volume member with first | ⟨previous, before, day, next⟩
      · omega
      · obtain ⟨other, found, sameDay, there⟩ :=
          ih previous before (by omega) number (by omega)
        exact ⟨other, found, sameDay.trans day, there⟩

theorem flatMap_filings (volumes : List Volume) :
    (volumes.map (Volume.toFile policy)).flatMap (·.2)
      = (volumes.flatMap Volume.filings).flatMap fun filing => lineBytes policy filing.1 := by
  induction volumes with
  | nil => rfl
  | cons volume rest ih =>
    rw [List.map_cons, List.flatMap_cons, List.flatMap_cons, List.flatMap_append, ih]
    simp [Volume.toFile, Volume.bytes, Volume.filings, List.flatMap_map]

/-- A sink that starts without files of its own, and whose writes all succeed, leaves the lines of
the enabled records whose day the last one retains, each once and in the order of writing. A file
holds records of one day only, no earlier than their own; the files of a day are counted from zero
without a gap, with fewer numbers than records. The other records have no part in it. The dates are
those that a timestamp can have. -/
theorem writeAll_leaves (policy : Policy) (plain : '/' ∉ policy.stem.toList) (folder : Folder)
    (formed : folder.WellFormed) (clean : sinkFiles policy folder = []) (records : List Record)
    (dates : ∀ record ∈ records, record.time.date.IsRepresentable) (current : Option OpenFile)
    (final : Folder) (ok : writeAll policy records none folder = .ok (current, final)) :
    let enabled := records.filter (·.level.isEnabled policy.maxLevel)
    let filings := retained policy (filed enabled)
    ((sinkFiles policy final).flatMap (·.2)
        = filings.flatMap fun filing => lineBytes policy filing.1)
      ∧ (∃ volumes : List Volume, sinkFiles policy final = volumes.map (Volume.toFile policy)
          ∧ volumes.flatMap Volume.filings = filings)
      ∧ (∀ filing ∈ filings, ¬ filing.2 < filing.1.time.date)
      ∧ (∀ date index bytes, ((date, index), bytes) ∈ sinkFiles policy final →
          index < enabled.length ∧ ∀ number ≤ index, ∃ content,
            ((date, number), content) ∈ sinkFiles policy final)
      ∧ writeAll policy enabled none folder = .ok (current, final)
      ∧ ∀ record, record.level.isEnabled policy.maxLevel = false →
          write policy record current final = (.ok (), current, final) := by
  intro enabled filings
  have enabledDates : ∀ record ∈ enabled, record.time.date.IsRepresentable := fun record member =>
    dates record (List.mem_filter.mp member).1
  have run : writeAll policy enabled none folder = .ok (current, final) := by
    rw [← ok]
    exact (writeAll_filter records none folder).symm
  -- The volumes of the abstract log, and the folder that holds them.
  let volumes := enabled.foldl (place policy) []
  have shelved : Shelved policy enabled volumes := shelved_foldl policy enabled enabledDates
  have start : Shelved policy [] [] := shelved_foldl policy [] (by simp)
  have holds : Holds policy volumes current final :=
    (holds_nil formed clean).writeAll plain start
      (fun record member => (List.mem_filter.mp member).2) enabledDates run
  have files := holds.sinkFiles_eq shelved.ordered
  refine ⟨?_, ⟨volumes.reverse, files, shelved.filings⟩, ?_, ?_, run, ?_⟩
  · rw [files, flatMap_filings, shelved.filings]
  · intro filing member
    exact date_le_filed (List.mem_filter.mp member).1
  · intro date index bytes member
    rw [files] at member
    obtain ⟨volume, held, same⟩ := List.mem_map.mp member
    cases same
    rw [List.mem_reverse] at held
    refine ⟨shelved.short volume held, ?_⟩
    intro number bound
    obtain ⟨other, found, sameDay, there⟩ :=
      shelved.indices volume.index volume held rfl number bound
    refine ⟨other.bytes policy, ?_⟩
    rw [files, ← sameDay, ← there]
    exact List.mem_map.mpr ⟨other, List.mem_reverse.mpr found, rfl⟩
  · intro record disabled
    exact write_of_not_isEnabled disabled current final

/-- Five records over five days in an empty folder, with files of 200 bytes that are kept for a day:
the first day is gone at the end, and a late record stays with the day before it. -/
theorem writeAll_leaves_two_days :
    let policy : Policy :=
      { Policy.ofStem "app" with maxSize := 200, maxAgeDays := 1, maxLevel := .info }
    let record (level : Level) (day : Int) : Record :=
      { level := level, message := "m", context := none, requestId := none, trace := none,
        metadata := [], time := ⟨day * 86400, 0⟩ }
    ∃ current final,
      writeAll policy [record .info 0, record .error 3, record .verbose 9, record .warn 1,
          record .info 4] none (Folder.empty "logs") = .ok (current, final)
        ∧ (sinkFiles policy final).flatMap (·.2)
          = [record .error 3, record .warn 1, record .info 4].flatMap (lineBytes policy) := by
  intro policy record
  let records :=
    [record .info 0, record .error 3, record .verbose 9, record .warn 1, record .info 4]
  have runs : (writeAll policy records none (Folder.empty "logs")).isOk = true := by decide +kernel
  cases ok : writeAll policy records none (Folder.empty "logs") with
  | error error =>
    rw [ok] at runs
    cases runs
  | ok state =>
    obtain ⟨current, final⟩ := state
    have clean : sinkFiles policy (Folder.empty "logs") = [] := by
      simp [sinkFiles, Folder.files, Folder.listing, Folder.empty]
    have leaves := writeAll_leaves policy (by decide +kernel) (Folder.empty "logs")
      (Folder.wellFormed_empty "logs") clean records (by decide +kernel) current final ok
    exact ⟨current, final, rfl, leaves.1⟩

end Gatehouse.RollingFile
