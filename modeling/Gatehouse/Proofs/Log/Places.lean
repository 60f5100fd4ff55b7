import Gatehouse.Proofs.Log.Folder

/-!
# Places and the paths to them

A folder seen as a partial map from all places to what stands there. A new entry changes this map at
one place, an append under one identity. A path leads through directories to a place whose name is
the last part of the path, and it keeps leading there as long as these directories stay.
-/
namespace Gatehouse.Folder

/-- What stands in a file that a path leads to. -/
def contentAt? (folder : Folder) (path : String) : Option (List UInt8) :=
  match folder.locate path with
  | .ok (.inside place false) =>
    match folder.find? place with
    | some (.file _ bytes) => some bytes
    | some .directory | none => none
  | .ok (.inside _ true) | .ok .directory | .error _ => none

/-- Whether a path leads to a place whose name a file may have. -/
structure LeadsTo (folder : Folder) (path : String) (place : Place) : Prop where
  located : folder.locate path = .ok (.inside place false)
  short : place.head?.any (nameLimit < size ·) = false

/-! ## What stands at a place -/

theorem mem_of_find?_file {folder : Folder} (formed : folder.WellFormed) {place : Place}
    {identity : Nat} {bytes : List UInt8}
    (held : folder.find? place = some (.file identity bytes)) :
    (place, .file identity bytes) ∈ folder.entries := by
  unfold find? at held
  split at held
  · cases held
  · exact (lookup_eq_some_iff_mem formed.places _ _).mp held

theorem fileAt?_isSome_iff (folder : Folder) (name : String) :
    (folder.fileAt? name).isSome
      ↔ ∃ identity bytes, folder.find? (name :: folder.home) = some (.file identity bytes) := by
  rw [find?_plain, fileAt?]
  cases folder.entries.lookup (name :: folder.home) with
  | none => simp
  | some entry => cases entry <;> simp

/-- Two places of one identity are one. -/
theorem eq_of_find?_file {folder : Folder} (formed : folder.WellFormed) {place other : Place}
    {identity : Nat} {bytes content : List UInt8}
    (here : folder.find? place = some (.file identity bytes))
    (there : folder.find? other = some (.file identity content)) : place = other :=
  formed.identities (mem_of_find?_file formed here) (mem_of_find?_file formed there)

theorem find?_add {folder : Folder} {place : Place} (free : folder.find? place = none)
    (entry : Entry) (other : Place) :
    (folder.add place entry).find? other
      = if other = place then some entry else folder.find? other := by
  have unheld := lookup_of_find?_none free
  simp only [find?, add, List.lookup_append]
  by_cases same : other = place
  · subst same
    have outside : ¬ other.isSuffixOf folder.home = true := fun inside => by
      rw [find?, if_pos inside] at free
      cases free
    simp [outside, unheld]
  · have differs : (other == place) = false := beq_false_of_ne same
    simp [List.lookup_cons, differs, same]

theorem find?_append (folder : Folder) (identity : Nat) (line : List UInt8) (place : Place) :
    (folder.append identity line).find? place
      = (folder.find? place).map (appendTo identity line) := by
  have entries : ∀ held : List (Place × Entry),
      (held.map fun first => (first.1, appendTo identity line first.2)).lookup place
        = (held.lookup place).map (appendTo identity line) := by
    intro held
    -- The places stay where they are in the list, so a lookup stops at the same entry.
    induction held with
    | nil => rfl
    | cons first rest ih =>
      rw [List.map_cons, List.lookup_cons, List.lookup_cons]
      split
      · rfl
      · exact ih
  unfold find?
  cases inside : place.isSuffixOf folder.home with
  | true => simp [append, inside, appendTo]
  | false => simpa [append, inside] using entries folder.entries

/-- An append to the file at a place leaves all other places alone. -/
theorem find?_append_of_ne {folder : Folder} (formed : folder.WellFormed) {place other : Place}
    {identity : Nat} {bytes : List UInt8}
    (held : folder.find? place = some (.file identity bytes)) (line : List UInt8)
    (apart : other ≠ place) : (folder.append identity line).find? other = folder.find? other := by
  rw [find?_append]
  cases there : folder.find? other with
  | none => rfl
  | some entry =>
    cases entry with
    | directory => rfl
    | file number content =>
      have differs : number ≠ identity := by
        rintro rfl
        exact apart (eq_of_find?_file formed there held)
      simp only [Option.map_some, appendTo, if_neg differs]

/-! ## Where paths lead -/

/-- What a path passes through stands in the other folder too. -/
structure KeepsDirectories (folder other : Folder) : Prop where
  home : other.home = folder.home
  reach : other.reach = folder.reach
  directories : ∀ {place}, folder.find? place = some .directory →
    other.find? place = some .directory

theorem KeepsDirectories.refl (folder : Folder) : folder.KeepsDirectories folder :=
  ⟨rfl, rfl, id⟩

theorem keepsDirectories_append (folder : Folder) (identity : Nat) (line : List UInt8) :
    folder.KeepsDirectories (folder.append identity line) where
  home := rfl
  reach := rfl
  directories := fun held => by rw [find?_append, held]; rfl

theorem keepsDirectories_add {folder : Folder} {place : Place} (free : folder.find? place = none)
    (entry : Entry) : folder.KeepsDirectories (folder.add place entry) where
  home := rfl
  reach := rfl
  directories := by
    intro other held
    rw [find?_add free, if_neg, held]
    rintro rfl
    rw [free] at held
    cases held

theorem KeepsDirectories.trans {first second third : Folder}
    (early : first.KeepsDirectories second) (late : second.KeepsDirectories third) :
    first.KeepsDirectories third where
  home := late.home.trans early.home
  reach := late.reach.trans early.reach
  directories := fun held => late.directories (early.directories held)

section

variable {folder other : Folder} (kept : folder.KeepsDirectories other)

include kept

theorem KeepsDirectories.look {place : Place} (looked : folder.look place = .ok (some .directory)) :
    other.look place = .ok (some .directory) := by
  unfold Folder.look at looked ⊢
  split at looked
  · cases looked
  next short => rw [if_neg short, kept.directories (Except.ok.inj looked)]

theorem KeepsDirectories.enter {place next : Place} {part : String}
    (ok : folder.enter place part = .ok next) : other.enter place part = .ok next := by
  unfold Folder.enter at ok ⊢
  split at ok
  next named =>
    rw [if_pos named]
    split at ok
    · cases ok
    · cases ok
    · cases ok
    next looked =>
      rw [kept.look looked]
      exact ok
  next unnamed =>
    rw [if_neg unnamed]
    exact ok

theorem KeepsDirectories.walk {place : Place} {parts : List String} {target : Target}
    (ok : folder.walk place parts = .ok target) : other.walk place parts = .ok target := by
  -- All but the last step enter a directory; what the last one leads to does not matter.
  induction parts generalizing place with
  | nil => exact ok
  | cons part rest ih =>
    unfold Folder.walk at ok ⊢
    split at ok
    next last =>
      rw [if_pos last]
      exact ok
    next more =>
      rw [if_neg more]
      split at ok
      · cases ok
      next next entered =>
        simp only [kept.enter entered]
        exact ih ok

theorem KeepsDirectories.locate {path : String} {target : Target}
    (ok : folder.locate path = .ok target) : other.locate path = .ok target := by
  simp only [Folder.locate, kept.home, kept.reach] at ok ⊢
  generalize (if isRooted path.toList then 0 else folder.reach) = reach at ok ⊢
  generalize (if isRooted path.toList then [] else folder.home) = start at ok ⊢
  split at ok
  · cases ok
  next clean =>
    rw [if_neg clean]
    split at ok
    · cases ok
    next short =>
      rw [if_neg short]
      exact kept.walk ok

theorem KeepsDirectories.leadsTo {path : String} {place : Place}
    (leads : folder.LeadsTo path place) : other.LeadsTo path place :=
  ⟨kept.locate leads.located, leads.short⟩

end

/-- A path leads to a place that bears its last part as a name. -/
theorem walk_inside {folder : Folder} {place there : Place} {parts : List String}
    (ok : folder.walk place parts = .ok (.inside there false)) :
    ∃ name outer, there = name :: outer ∧ parts.getLast? = some name := by
  -- A path that ends in slashes is marked as such, so a name that the walk stops at is its last part.
  induction parts generalizing place with
  | nil => cases ok
  | cons part rest ih =>
    unfold walk at ok
    split at ok
    · simp only [Except.ok.injEq, Target.inside.injEq, Bool.not_eq_false', List.isEmpty_iff] at ok
      obtain ⟨rfl, rfl⟩ := ok
      exact ⟨part, place, rfl, rfl⟩
    · split at ok
      · cases ok
      · obtain ⟨name, outer, same, last⟩ := ih ok
        refine ⟨name, outer, same, ?_⟩
        rw [List.getLast?_cons, last]
        rfl

theorem locate_inside {folder : Folder} {path : String} {there : Place}
    (ok : folder.locate path = .ok (.inside there false)) :
    ∃ name outer, there = name :: outer ∧ (parts path.toList).getLast? = some name := by
  simp only [locate] at ok
  generalize (if isRooted path.toList then 0 else folder.reach) = reach at ok
  generalize (if isRooted path.toList then [] else folder.home) = start at ok
  split at ok
  · cases ok
  · split at ok
    · cases ok
    · exact walk_inside ok

/-- A slash parts what stands before it from what stands behind it. -/
theorem parts_append_slash (outer base : List Char) :
    parts (outer ++ '/' :: base) = parts outer ++ parts base := by
  have cut : (outer ++ '/' :: base).splitOn '/' = outer.splitOn '/' ++ base.splitOn '/' :=
    List.splitOnP_append_cons outer base (by decide)
  rw [parts, cut, List.map_append, parts, parts]

/-- The last part of a path is what stands behind its last slash. -/
theorem getLast?_parts (outer : List Char) {base : List Char} (plain : '/' ∉ base) :
    (parts (outer ++ '/' :: base)).getLast? = some (String.ofList base) := by
  rw [parts_append_slash, parts_plain plain, List.getLast?_concat]

/-! ## Opening -/

/-- A path that leads to a place opens what stands there, or a new file. -/
theorem openToAppend_of_leadsTo {folder : Folder} {path : String} {place : Place}
    (leads : folder.LeadsTo path place) :
    folder.openToAppend path
      = match folder.find? place with
        | some (.file identity bytes) => .ok (identity, bytes.length, folder)
        | some .directory => .error .isDirectory
        | none => .ok (folder.fresh, 0, folder.add place (.file folder.fresh [])) := by
  simp only [openToAppend, openAt, leads.located, look, leads.short, Bool.false_eq_true, if_false]
  cases folder.find? place with
  | none => rfl
  | some entry => cases entry <;> rfl

theorem leadsTo_of_openToAppend {folder : Folder} {path : String}
    (ok : (folder.openToAppend path).isOk) :
    ∃ place, folder.LeadsTo path place ∧ folder.find? place ≠ some .directory := by
  cases located : folder.locate path with
  | error error => simp [openToAppend, openAt, located, Except.isOk, Except.toBool] at ok
  | ok target =>
    match target with
    | .directory => simp [openToAppend, openAt, located, Except.isOk, Except.toBool] at ok
    | .inside place true => simp [openToAppend, openAt, located, Except.isOk, Except.toBool] at ok
    | .inside place false =>
      cases short : place.head?.any (nameLimit < size ·) with
      | true => simp [openToAppend, openAt, located, look, short, Except.isOk, Except.toBool] at ok
      | false =>
        have leads : folder.LeadsTo path place := ⟨located, short⟩
        refine ⟨place, leads, fun directory => ?_⟩
        rw [openToAppend_of_leadsTo leads, directory] at ok
        cases ok

/-- A plain name that opens leads to the entry of that name. -/
theorem leadsTo_plain {folder : Folder} {name : String} (plain : IsPlain name)
    (ok : (folder.openToAppend name).isOk) : folder.LeadsTo name (name :: folder.home) := by
  obtain ⟨place, leads, _⟩ := leadsTo_of_openToAppend ok
  cases locate_plain plain leads.located
  exact leads

/-- An opened file stands where its name says: it stood there before, or it is new and empty. -/
theorem openToAppend_cases {folder opened : Folder} {name : String} (plain : IsPlain name)
    {identity size : Nat} (ok : folder.openToAppend name = .ok (identity, size, opened)) :
    (∃ bytes, folder.fileAt? name = some (identity, bytes) ∧ size = bytes.length
        ∧ opened = folder)
      ∨ (folder.entries.lookup (name :: folder.home) = none ∧ identity = folder.fresh ∧ size = 0
          ∧ opened = folder.add (name :: folder.home) (.file folder.fresh [])) := by
  have leads := leadsTo_plain plain (by rw [ok]; rfl)
  rw [openToAppend_of_leadsTo leads, find?_plain] at ok
  cases held : folder.entries.lookup (name :: folder.home) with
  | none =>
    rw [held] at ok
    cases ok
    exact .inr ⟨rfl, rfl, rfl, rfl⟩
  | some entry =>
    rw [held] at ok
    cases entry with
    | directory => cases ok
    | file found bytes =>
      cases ok
      exact .inl ⟨bytes, by simp [fileAt?, held], rfl, rfl⟩

theorem contentAt?_of_leadsTo {folder : Folder} {path : String} {place : Place}
    (leads : folder.LeadsTo path place) {bytes : List UInt8} :
    folder.contentAt? path = some bytes
      ↔ ∃ identity, folder.find? place = some (.file identity bytes) := by
  simp only [contentAt?, leads.located]
  cases folder.find? place with
  | none => simp
  | some entry => cases entry <;> simp

theorem contentAt?_of_free {folder : Folder} {path : String} {place : Place}
    (leads : folder.LeadsTo path place) (free : folder.find? place = none) :
    folder.contentAt? path = none := by
  simp only [contentAt?, leads.located, free]

/-- A path tells of the same content where it leads to the same place and the same stands there. -/
theorem contentAt?_congr {folder other : Folder} {path : String}
    (leads : ∀ target, other.locate path = .ok target ↔ folder.locate path = .ok target)
    (stands : ∀ place, folder.locate path = .ok (.inside place false) →
      other.find? place = folder.find? place) :
    other.contentAt? path = folder.contentAt? path := by
  unfold contentAt?
  cases located : folder.locate path with
  | error error =>
    -- Both paths lead nowhere, though maybe for different reasons.
    cases still : other.locate path with
    | error other => rfl
    | ok target =>
      rw [(leads target).mp still] at located
      cases located
  | ok target =>
    rw [(leads target).mpr located]
    cases target with
    | directory => rfl
    | inside place endsInSlash =>
      cases endsInSlash with
      | true => rfl
      | false => simp only [stands place located]

end Gatehouse.Folder
