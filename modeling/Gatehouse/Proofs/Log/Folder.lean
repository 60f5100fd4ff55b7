import Gatehouse.Log.Folder

/-!
# Files of a folder

A folder seen as a partial map from plain names to files. Every operation of a sink changes this map
at one name or takes names out of it, and none makes two files share a place or an identity.
-/
namespace Gatehouse.Folder

/-- Each place stands once, and each identity is taken once and below the fresh one. -/
structure WellFormed (folder : Folder) : Prop where
  places : (folder.entries.map (·.1)).Nodup
  identities : ∀ {place other identity bytes content},
    (place, Entry.file identity bytes) ∈ folder.entries →
    (other, Entry.file identity content) ∈ folder.entries → place = other
  fresh : ∀ {place identity bytes},
    (place, Entry.file identity bytes) ∈ folder.entries → identity < folder.fresh

/-- The file of a name in the folder itself: its identity and its bytes. -/
def fileAt? (folder : Folder) (name : String) : Option (Nat × List UInt8) :=
  match folder.entries.lookup (name :: folder.home) with
  | some (.file identity bytes) => some (identity, bytes)
  | some .directory | none => none

/-- A name that leads from the folder to an entry of its own. -/
def IsPlain (name : String) : Prop := '/' ∉ name.toList ∧ isName name = true

/-! ## Entries by place -/

theorem lookup_eq_some_iff_mem {entries : List (Place × Entry)}
    (places : (entries.map (·.1)).Nodup) (place : Place) (entry : Entry) :
    entries.lookup place = some entry ↔ (place, entry) ∈ entries := by
  induction entries with
  | nil => simp
  | cons first rest ih =>
    obtain ⟨other, held⟩ := first
    rw [List.map_cons, List.nodup_cons] at places
    rw [List.lookup_cons, List.mem_cons, Prod.mk.injEq]
    by_cases same : place = other
    · subst same
      have absent : (place, entry) ∉ rest := fun member =>
        places.1 (List.mem_map.mpr ⟨_, member, rfl⟩)
      simp [absent, eq_comm]
    · simp [beq_false_of_ne same, same, ih places.2]

theorem fileAt?_eq_some_iff {folder : Folder} (formed : folder.WellFormed) (name : String)
    (identity : Nat) (bytes : List UInt8) :
    folder.fileAt? name = some (identity, bytes)
      ↔ (name :: folder.home, Entry.file identity bytes) ∈ folder.entries := by
  rw [← lookup_eq_some_iff_mem formed.places]
  simp only [fileAt?]
  split
  next held => simp [held]
  next held => simp [held]
  next none => simp [none]

/-! ## Listing -/

/-- How a listing shows an entry of any place. -/
def shown? (home : Place) : Place × Entry → Option (String × List UInt8)
  | (name :: outer, .file _ bytes) => if outer = home then some (name, bytes) else none
  | _ => none

theorem files_eq (folder : Folder) :
    folder.files = folder.entries.filterMap (shown? folder.home) := by
  rw [files, listing, List.filterMap_filterMap]
  congr 1
  funext ⟨place, held⟩
  cases place with
  | nil => rfl
  | cons name outer =>
    by_cases own : outer = folder.home
    · cases held <;> simp [shown?, own]
    · cases held <;> simp [shown?, own]

theorem shown?_eq_some_iff {home place : Place} {entry : Entry} {name : String}
    {bytes : List UInt8} :
    shown? home (place, entry) = some (name, bytes)
      ↔ place = name :: home ∧ ∃ identity, entry = .file identity bytes := by
  constructor
  · intro shown
    unfold shown? at shown
    split at shown
    next inner outer identity content same =>
      split at shown
      next own =>
        cases shown
        cases same
        exact ⟨own ▸ rfl, identity, rfl⟩
      · cases shown
    · cases shown
  · rintro ⟨rfl, identity, rfl⟩
    exact if_pos rfl

/-- The files that a folder lists are those of its map. -/
theorem mem_files_iff {folder : Folder} (formed : folder.WellFormed) (name : String)
    (bytes : List UInt8) :
    (name, bytes) ∈ folder.files ↔ ∃ identity, folder.fileAt? name = some (identity, bytes) := by
  simp only [files_eq, List.mem_filterMap, Prod.exists, shown?_eq_some_iff,
    fileAt?_eq_some_iff formed]
  constructor
  · rintro ⟨_, _, member, rfl, identity, rfl⟩
    exact ⟨identity, member⟩
  · rintro ⟨identity, member⟩
    exact ⟨_, _, member, rfl, identity, rfl⟩

/-- No name is listed twice. -/
theorem WellFormed.names {folder : Folder} (formed : folder.WellFormed) :
    folder.files.Pairwise fun first second => first.1 ≠ second.1 := by
  rw [files_eq]
  refine List.Pairwise.filterMap _ ?_ (List.pairwise_map.mp formed.places)
  rintro ⟨place, entry⟩ ⟨other, held⟩ differs ⟨name, bytes⟩ first ⟨again, content⟩ second same
  obtain ⟨rfl, _⟩ := shown?_eq_some_iff.mp first
  obtain ⟨rfl, _⟩ := shown?_eq_some_iff.mp second
  exact differs (congrArg (· :: folder.home) same)

/-! ## Opening -/

theorem parts_plain {path : List Char} (plain : '/' ∉ path) :
    parts path = [String.ofList path] := by
  have whole : path.splitOn '/' = [path] :=
    List.splitOn_eq_singleton_of_beq_eq_false fun c member =>
      beq_false_of_ne fun same => plain (same ▸ member)
  rw [parts, whole, List.map_singleton]

theorem isRooted_plain {path : List Char} (plain : '/' ∉ path) : isRooted path = false := by
  rw [isRooted, beq_eq_false_iff_ne]
  exact fun slash => plain (List.mem_of_head? slash)

theorem locate_plain {folder : Folder} {name : String} (plain : IsPlain name) {target : Target}
    (located : folder.locate name = .ok target) :
    target = .inside (name :: folder.home) false := by
  have parted : parts name.toList = [name] := by
    rw [parts_plain plain.1, String.ofList_toList]
  simp only [locate, isRooted_plain plain.1, parted, Bool.false_eq_true, if_false] at located
  split at located
  · cases located
  · split at located
    · cases located
    · simp only [walk, plain.2, List.all_nil, Bool.and_self, if_true, List.isEmpty_nil,
        Bool.not_true, Except.ok.injEq] at located
      exact located.symm

theorem find?_plain (folder : Folder) (name : String) :
    folder.find? (name :: folder.home) = folder.entries.lookup (name :: folder.home) := by
  have inner : (name :: folder.home).isSuffixOf folder.home = false := by
    rw [Bool.eq_false_iff, ne_eq, List.isSuffixOf_iff_suffix]
    intro suffix
    have length := suffix.length_le
    simp only [List.length_cons] at length
    omega
  simp [find?, inner]

/-! ## What the operations keep -/

theorem wellFormed_empty (path : String) : (empty path).WellFormed where
  places := .nil
  identities := fun first => nomatch first
  fresh := fun member => nomatch member

/-- A new entry keeps a folder in order; a new file has the fresh identity. -/
theorem WellFormed.add {folder : Folder} (formed : folder.WellFormed) {place : Place}
    (free : folder.entries.lookup place = none) {entry : Entry}
    (new : ∀ identity bytes, entry = .file identity bytes → identity = folder.fresh) :
    (folder.add place entry).WellFormed where
  places := by
    have absent : place ∉ folder.entries.map (·.1) := by
      rw [List.lookup_eq_none_iff] at free
      rintro member
      obtain ⟨entry, held, rfl⟩ := List.mem_map.mp member
      simpa using free entry held
    simp only [Folder.add, List.map_append, List.map_cons, List.map_nil]
    exact List.nodup_append.mpr ⟨formed.places, by simp, by
      intro a member b single same
      rw [List.mem_singleton] at single
      exact absent (single ▸ same ▸ member)⟩
  identities := by
    intro here there identity bytes content first second
    simp only [Folder.add, List.mem_append, List.mem_singleton, Prod.mk.injEq] at first second
    rcases first with first | ⟨rfl, isFile⟩ <;> rcases second with second | ⟨rfl, isOther⟩
    · exact formed.identities first second
    · exact absurd (formed.fresh first) (new _ _ isOther.symm ▸ Nat.lt_irrefl _)
    · exact absurd (formed.fresh second) (new _ _ isFile.symm ▸ Nat.lt_irrefl _)
    · rfl
  fresh := by
    intro here identity bytes member
    simp only [Folder.add, List.mem_append, List.mem_singleton, Prod.mk.injEq] at member ⊢
    rcases member with member | ⟨_, isFile⟩
    · exact Nat.lt_succ_of_lt (formed.fresh member)
    · exact new _ _ isFile.symm ▸ Nat.lt_succ_self _

theorem WellFormed.add_file {folder : Folder} (formed : folder.WellFormed) {place : Place}
    (free : folder.entries.lookup place = none) (bytes : List UInt8) :
    (folder.add place (.file folder.fresh bytes)).WellFormed :=
  formed.add free fun _ _ same => (Entry.file.inj same).1.symm

theorem WellFormed.filter {folder : Folder} (formed : folder.WellFormed)
    (keeps : Place × Entry → Bool) :
    { folder with entries := folder.entries.filter keeps }.WellFormed where
  places := formed.places.sublist (List.filter_sublist.map _)
  identities := fun first second =>
    formed.identities (List.mem_filter.mp first).1 (List.mem_filter.mp second).1
  fresh := fun member => formed.fresh (List.mem_filter.mp member).1

theorem mem_append_entries {folder : Folder} {identity : Nat} {line : List UInt8} {place : Place}
    {other : Nat} {bytes : List UInt8} :
    (place, Entry.file other bytes) ∈ (folder.append identity line).entries
      ↔ ∃ old, (place, Entry.file other old) ∈ folder.entries
          ∧ bytes = if other = identity then old ++ line else old := by
  simp only [append, List.mem_map, Prod.mk.injEq, Prod.exists]
  constructor
  · rintro ⟨found, entry, member, rfl, changed⟩
    cases entry with
    | directory => cases changed
    | file was old =>
      simp only [appendTo] at changed
      split at changed <;> cases changed
      · exact ⟨old, member, by simp_all⟩
      · exact ⟨bytes, member, by simp_all⟩
  · rintro ⟨old, member, rfl⟩
    refine ⟨place, .file other old, member, rfl, ?_⟩
    simp only [appendTo]
    split <;> rfl

theorem WellFormed.append {folder : Folder} (formed : folder.WellFormed) (identity : Nat)
    (line : List UInt8) : (folder.append identity line).WellFormed where
  places := by
    simpa [Folder.append, List.map_map, Function.comp_def] using formed.places
  identities := by
    intro here there number bytes content first second
    obtain ⟨_, first, _⟩ := mem_append_entries.mp first
    obtain ⟨_, second, _⟩ := mem_append_entries.mp second
    exact formed.identities first second
  fresh := by
    intro here number bytes member
    obtain ⟨_, member, _⟩ := mem_append_entries.mp member
    exact formed.fresh member

theorem lookup_of_find?_none {folder : Folder} {place : Place} (free : folder.find? place = none) :
    folder.entries.lookup place = none := by
  unfold find? at free
  split at free
  · cases free
  · exact free

theorem find?_of_look {folder : Folder} {place : Place} {found : Option Entry}
    (looked : folder.look place = .ok found) : folder.find? place = found := by
  unfold look at looked
  split at looked
  · cases looked
  · exact Except.ok.inj looked

/-- Opening keeps a folder in order, and the opened file stands at its place. -/
theorem WellFormed.openAt {folder opened : Folder} (formed : folder.WellFormed) {path : String}
    {place : Place} {identity : Nat} {bytes : List UInt8}
    (ok : folder.openAt path = .ok (place, identity, bytes, opened)) :
    opened.WellFormed ∧ (place, Entry.file identity bytes) ∈ opened.entries := by
  unfold Folder.openAt at ok
  split at ok
  · cases ok
  · cases ok
  · cases ok
  · split at ok
    · cases ok
    · cases ok
    next looked =>
      cases ok
      have found := find?_of_look looked
      unfold find? at found
      split at found
      · cases found
      · exact ⟨formed, (lookup_eq_some_iff_mem formed.places _ _).mp found⟩
    next looked =>
      cases ok
      have free := lookup_of_find?_none (find?_of_look looked)
      exact ⟨formed.add_file free [], List.mem_append_right _ List.mem_cons_self⟩

theorem WellFormed.put {folder after : Folder} (formed : folder.WellFormed) {path : String}
    {bytes : List UInt8} (ok : folder.put path bytes = .ok after) : after.WellFormed := by
  unfold Folder.put at ok
  split at ok
  · cases ok
  next place identity was opened opening =>
    cases ok
    obtain ⟨kept, member⟩ := formed.openAt opening
    -- The file that is replaced stands there with the same identity.
    have before : ∀ {there number content},
        (there, Entry.file number content) ∈ opened.entries.map (fun held =>
          (held.1, if held.1 = place then .file identity bytes else held.2)) →
        ∃ old, (there, Entry.file number old) ∈ opened.entries := by
      intro there number content changed
      obtain ⟨⟨other, entry⟩, held, same⟩ := List.mem_map.mp changed
      simp only [Prod.mk.injEq] at same
      obtain ⟨rfl, same⟩ := same
      split at same
      next here =>
        cases same
        exact ⟨was, here ▸ member⟩
      · exact ⟨content, same ▸ held⟩
    constructor
    case places =>
      simpa [List.map_map, Function.comp_def] using kept.places
    case identities =>
      intro here there number first second one two
      obtain ⟨_, one⟩ := before one
      obtain ⟨_, two⟩ := before two
      exact kept.identities one two
    case fresh =>
      intro there number content changed
      obtain ⟨_, held⟩ := before changed
      exact kept.fresh held

theorem WellFormed.makeDirectory {folder after : Folder} (formed : folder.WellFormed)
    {path : String} (ok : folder.makeDirectory path = .ok after) : after.WellFormed := by
  unfold Folder.makeDirectory at ok
  split at ok
  · cases ok
  · cases ok
  · split at ok
    · cases ok
    · cases ok
    next looked =>
      cases ok
      exact formed.add (lookup_of_find?_none (find?_of_look looked)) (fun _ _ same => nomatch same)

theorem WellFormed.remove {folder after : Folder} (formed : folder.WellFormed) {path : String}
    (ok : folder.remove path = .ok after) : after.WellFormed := by
  unfold Folder.remove at ok
  split at ok
  · cases ok
  · cases ok
  · split at ok
    · cases ok
    · cases ok
    · cases ok
    · split at ok
      · cases ok
      · cases ok
        exact formed.filter _

/-! ## The map after an operation -/

theorem fileAt?_add (folder : Folder) (place : String) (identity : Nat) (bytes : List UInt8)
    (free : folder.entries.lookup (place :: folder.home) = none) (name : String) :
    (folder.add (place :: folder.home) (.file identity bytes)).fileAt? name
      = if name = place then some (identity, bytes) else folder.fileAt? name := by
  simp only [fileAt?, add, List.lookup_append]
  by_cases same : name = place
  · subst same
    simp [free]
  · have differs : (name :: folder.home == place :: folder.home) = false :=
      beq_false_of_ne fun equal => same (List.cons.inj equal).1
    simp [List.lookup_cons, differs, same]

theorem fileAt?_append {folder : Folder} (formed : folder.WellFormed) (identity : Nat)
    (line : List UInt8) (name : String) :
    (folder.append identity line).fileAt? name
      = (folder.fileAt? name).map fun file =>
          (file.1, if file.1 = identity then file.2 ++ line else file.2) := by
  apply Option.ext
  intro file
  obtain ⟨other, bytes⟩ := file
  rw [fileAt?_eq_some_iff (formed.append identity line), Option.map_eq_some_iff,
    show (folder.append identity line).home = folder.home from rfl, mem_append_entries]
  simp only [← fileAt?_eq_some_iff formed, Prod.exists, Prod.mk.injEq]
  constructor
  · rintro ⟨old, found, rfl⟩
    exact ⟨other, old, found, rfl, rfl⟩
  · rintro ⟨number, old, found, rfl, rfl⟩
    exact ⟨old, found, rfl⟩

/-- Bytes for a file of another identity. -/
theorem fileAt?_append_of_apart {folder : Folder} (formed : folder.WellFormed) {identity : Nat}
    {name : String} (apart : ∀ bytes, folder.fileAt? name ≠ some (identity, bytes))
    (line : List UInt8) : (folder.append identity line).fileAt? name = folder.fileAt? name := by
  rw [fileAt?_append formed]
  cases held : folder.fileAt? name with
  | none => rfl
  | some found =>
    have other : found.1 ≠ identity := fun same => apart found.2 (same ▸ held)
    simp only [Option.map_some, if_neg other]

theorem fileAt?_filter {folder : Folder} (formed : folder.WellFormed)
    (keeps : Place × Entry → Bool) (name : String) :
    { folder with entries := folder.entries.filter keeps }.fileAt? name
      = (folder.fileAt? name).filter fun file =>
          keeps (name :: folder.home, .file file.1 file.2) := by
  apply Option.ext
  intro file
  obtain ⟨identity, bytes⟩ := file
  rw [fileAt?_eq_some_iff (formed.filter keeps), Option.filter_eq_some_iff,
    fileAt?_eq_some_iff formed, List.mem_filter]

/-! ## Folders of given files -/

/-- A folder with just these files in it. -/
def ofFiles (path : String) (files : List (String × List UInt8)) : Folder :=
  { empty path with
    entries := files.zipIdx.map fun ((name, bytes), identity) =>
      (name :: (empty path).home, .file identity bytes)
    fresh := files.length }

theorem mem_ofFiles_iff {path : String} {files : List (String × List UInt8)} {place : Place}
    {identity : Nat} {bytes : List UInt8} :
    (place, .file identity bytes) ∈ (ofFiles path files).entries
      ↔ ∃ name, place = name :: (empty path).home ∧ files[identity]? = some (name, bytes) := by
  simp only [ofFiles, List.mem_map, Prod.exists, Prod.mk.injEq, Entry.file.injEq,
    List.mk_mem_zipIdx_iff_getElem?]
  constructor
  · rintro ⟨name, _, _, there, rfl, rfl, rfl⟩
    exact ⟨name, rfl, there⟩
  · rintro ⟨name, rfl, there⟩
    exact ⟨name, bytes, identity, there, rfl, rfl, rfl⟩

theorem wellFormed_ofFiles (path : String) {files : List (String × List UInt8)}
    (names : (files.map (·.1)).Nodup) : (ofFiles path files).WellFormed where
  places := by
    have same : (ofFiles path files).entries.map (·.1)
        = (files.map (·.1)).map (· :: (empty path).home) := by
      have all := congrArg (List.map fun file => file.1 :: (empty path).home)
        (List.zipIdx_map_fst 0 files)
      simpa only [ofFiles, List.map_map, Function.comp_def] using all
    rw [same]
    apply List.Pairwise.map _ _ names
    intro first second differs equal
    exact differs (List.cons.inj equal).1
  identities := by
    intro place other identity bytes content here there
    obtain ⟨name, rfl, first⟩ := mem_ofFiles_iff.mp here
    obtain ⟨again, rfl, second⟩ := mem_ofFiles_iff.mp there
    rw [first] at second
    cases second
    rfl
  fresh := by
    intro place identity bytes member
    obtain ⟨_, _, there⟩ := mem_ofFiles_iff.mp member
    exact (List.getElem?_eq_some_iff.mp there).1

end Gatehouse.Folder
