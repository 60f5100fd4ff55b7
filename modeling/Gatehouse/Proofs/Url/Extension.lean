import Gatehouse.Proofs.Url.Places

/-!
# Addresses with a path behind them

A path that is put behind an address begins with a slash, which ends host and port, and so leaves
them as they were. But blanks at the end of an address do not count only as long as nothing follows.
If host and port have not ended before them, the blanks become part of them, and then they are none.
-/
namespace Gatehouse.Url

/-- A text that is an address. -/
def IsAddress (text : List Char) : Prop := ∃ url, parse text = .ok url

/-- The scheme that a text begins with. -/
def scheme? (text : List Char) : Option (List Char) := (splitScheme (significant text)).map (·.1)

/-- Slashes with segments of letters and digits. -/
def IsPlainPath (path : List Char) : Prop :=
  ∃ segments : List (List Char), path = slashed segments
    ∧ ∀ segment ∈ segments, ∀ c ∈ segment, c.isAlphanum = true

/-- The blanks at the end of a text that count once something follows. -/
def trail (text : List Char) : List Char :=
  (text.reverse.takeWhile isOuterBlank).reverse.filter fun c => !isInnerBlank c

/-- Whether a text goes on behind host and port. -/
def IsPastHost (text : List Char) : Prop :=
  ∃ scheme rest, splitScheme (significant text) = some (scheme, rest)
    ∧ ∃ c ∈ rest.dropWhile (isSlash .web), endsAuthority .web c = true

/-! ## Texts that something follows -/

theorem splitScheme_append {text scheme rest : List Char}
    (found : splitScheme text = some (scheme, rest)) (more : List Char) :
    splitScheme (text ++ more) = some (scheme, rest ++ more) := by
  cases text with
  | nil => simp [splitScheme] at found
  | cons c later =>
    rw [splitScheme] at found
    rw [List.cons_append, splitScheme, ← List.cons_append]
    split at found
    next letter =>
      rw [if_pos letter]
      split at found
      next behind shape =>
        cases found
        have colon : ':' ∈ c :: later :=
          (List.dropWhile_suffix isSchemeChar).subset (shape ▸ List.mem_cons_self)
        rw [Run.dropWhile_append_of_stop isSchemeChar colon (by decide),
          Run.takeWhile_append_of_stop isSchemeChar colon (by decide), shape, List.cons_append]
        rfl
      next => cases found
    next => cases found

theorem isInnerBlank_of_visible {c : Char} (visible : isOuterBlank c = false) :
    isInnerBlank c = false := by
  rw [Bool.eq_false_iff]
  intro inner
  simp only [isInnerBlank, Bool.or_eq_true, beq_iff_eq] at inner
  rcases inner with (rfl | rfl) | rfl <;> exact absurd visible (by decide)

/-- A text that something follows keeps the blanks at its end. -/
theorem significant_append {text more : List Char} {c : Char} (member : c ∈ text)
    (visible : isOuterBlank c = false) (follows : more ≠ [])
    (plain : ∀ c ∈ more, isOuterBlank c = false) :
    significant (text ++ more) = significant text ++ trail text ++ more := by
  have parts : text.takeWhile isOuterBlank ++ text.dropWhile isOuterBlank = text :=
    List.takeWhile_append_dropWhile
  have behind : c ∈ text.dropWhile isOuterBlank := by
    rw [← parts, List.mem_append] at member
    refine member.resolve_left fun inFront => ?_
    have blank := List.mem_takeWhile_imp inFront
    simp [visible] at blank
  -- The blanks at the end are the same whether those in front are there or not.
  have blanks : text.reverse.takeWhile isOuterBlank
      = (text.dropWhile isOuterBlank).reverse.takeWhile isOuterBlank := by
    conv_lhs => rw [← parts, List.reverse_append]
    exact Run.takeWhile_append_of_stop isOuterBlank (List.mem_reverse.mpr behind) visible _
  have whole : (text.dropWhile isOuterBlank).filter (fun c => !isInnerBlank c)
      = significant text ++ trail text := by
    rw [significant, trail, blanks, ← List.filter_append, ← List.reverse_append,
      List.takeWhile_append_dropWhile, List.reverse_reverse]
  -- What follows ends in no blank, so nothing is cut off at the end.
  have back : (text.dropWhile isOuterBlank ++ more).reverse.dropWhile isOuterBlank
      = (text.dropWhile isOuterBlank ++ more).reverse := by
    obtain ⟨before, last, rfl⟩ := (List.eq_nil_or_concat more).resolve_left follows
    simp [plain last (by simp)]
  have kept : more.filter (fun c => !isInnerBlank c) = more :=
    List.filter_eq_self.mpr fun c member => by simp [isInnerBlank_of_visible (plain c member)]
  rw [significant, Run.dropWhile_append_of_stop isOuterBlank member visible, back,
    List.reverse_reverse, List.filter_append, whole, kept]

/-! ## Blanks in host and port -/

theorem high_of_isAlphanum {c : Char} (letter : c.isAlphanum = true) : 0x30 ≤ c.toNat := by
  by_contra low
  have none_ : ∀ n < 0x30, (Char.ofNat n).isAlphanum = false := by decide
  rw [← Char.ofNat_toNat c, none_ c.toNat (by omega)] at letter
  cases letter

theorem trail_low {text : List Char} {c : Char} (member : c ∈ trail text) : c.toNat ≤ 0x20 := by
  have blank : c ∈ text.reverse.takeWhile isOuterBlank :=
    List.mem_reverse.mp (List.mem_of_mem_filter member)
  simpa [isOuterBlank] using List.mem_takeWhile_imp blank

theorem goesOn_of_low {c : Char} (low : c.toNat ≤ 0x20) : goesOn c = true := by
  rw [goesOn, Bool.not_eq_true', Bool.eq_false_iff]
  intro ends
  simp only [endsAuthority, isSlash, Bool.or_eq_true, Bool.and_eq_true, beq_iff_eq] at ends
  rcases ends with ((rfl | ⟨rfl, -⟩) | rfl) | rfl <;> exact absurd low (by decide)

/-- A blank at the end is part of the host, or of the port if there is one, and spoils either. -/
theorem not_isPlace_concat {blank : Char} (low : blank.toNat ≤ 0x20) (place : List Char) :
    ¬ IsPlace (place ++ [blank]) := by
  have noColon : blank ≠ ':' := by
    rintro rfl
    exact absurd low (by decide)
  rintro ⟨-, ⟨host, read⟩, port⟩
  have name := hostPart_concat noColon false place
  split at name
  next whole =>
    -- The host goes to the end and takes the blank in.
    obtain ⟨fault, failed⟩ := Host.parse_concat low place
    rw [name, failed] at read
    cases read
  next short =>
    -- The host ends at a colon, and the blank is among the digits of the port.
    obtain ⟨digits, shape⟩ := (hostPart_cases false place).resolve_left short
    obtain ⟨number, found⟩ := port (digits ++ [blank]) (by
      rw [name, ← List.cons_append, ← List.append_assoc, ← shape])
    have noDigit : blank.isDigit = false := by
      rw [Bool.eq_false_iff]
      intro digit
      have high := high_of_isAlphanum (c := blank) (by simp [Char.isAlphanum, digit])
      omega
    simp [portNumber, noDigit] at found

/-- Only blanks that count spoil a place. -/
theorem isPlace_append_trail (place text : List Char) :
    IsPlace (place ++ trail text) ↔ IsPlace place ∧ trail text = [] := by
  rcases List.eq_nil_or_concat (trail text) with none_ | ⟨before, blank, some_⟩
  · simp [none_]
  · have low : blank.toNat ≤ 0x20 := trail_low (by rw [some_]; simp)
    have spoiled := not_isPlace_concat low (place ++ before)
    rw [List.append_assoc] at spoiled
    rw [some_, List.concat_eq_append]
    simp [spoiled]

/-! ## Paths behind addresses -/

/-- Only slashes, letters and digits stand in a path. -/
theorem IsPlainPath.visible {path : List Char} (plain : IsPlainPath path) {c : Char}
    (member : c ∈ path) : isOuterBlank c = false := by
  obtain ⟨segments, rfl, letters⟩ := plain
  obtain ⟨segment, inPath, either⟩ := List.mem_flatMap.mp member
  rcases List.mem_cons.mp either with rfl | inSegment
  · rfl
  · have high := high_of_isAlphanum (letters segment inPath c inSegment)
    rw [isOuterBlank, decide_eq_false_iff_not]
    omega

theorem IsPlainPath.begins {path : List Char} (plain : IsPlainPath path) (some_ : path ≠ []) :
    ∃ rest, path = '/' :: rest := by
  obtain ⟨segments, rfl, -⟩ := plain
  cases segments with
  | nil => exact absurd rfl some_
  | cons segment rest => exact ⟨_, rfl⟩

theorem exists_visible {text scheme rest : List Char}
    (split : splitScheme (significant text) = some (scheme, rest)) :
    ∃ c ∈ text, isOuterBlank c = false := by
  by_contra blank
  have all : ∀ c ∈ text, isOuterBlank c = true := by simpa using blank
  have nothing : significant text = [] := by
    rw [significant, List.dropWhile_eq_nil_iff.mpr all]
    rfl
  simp [nothing, splitScheme] at split

/-- User, host and port, from what follows the colon of a web address. -/
def authorityOf (rest : List Char) : List Char :=
  (rest.dropWhile (isSlash .web)).takeWhile goesOn

theorem isAddress_iff_of_web {text scheme rest : List Char}
    (split : splitScheme (significant text) = some (scheme, rest)) (web : kindOf scheme = .web) :
    IsAddress text ↔ IsPlace (placeOf (authorityOf rest)) := by
  rw [IsAddress, authorityOf, ← readNamed_isOk_iff scheme]
  simp only [parse, split, web]

/-- Something is behind the slashes of an address. -/
theorem exists_noSlash {rest : List Char} (place : IsPlace (placeOf (authorityOf rest))) :
    ∃ c ∈ rest, isSlash .web c = false := by
  by_contra slashes
  have all : ∀ c ∈ rest, isSlash .web c = true := by simpa using slashes
  have nothing : rest.dropWhile (isSlash .web) = [] := List.dropWhile_eq_nil_iff.mpr all
  simp [authorityOf, nothing, placeOf, IsPlace, hostPart] at place

/-- An authority that has ended stays as it is. -/
theorem authorityOf_append_of_past {rest : List Char} {c : Char}
    (member : c ∈ rest.dropWhile (isSlash .web)) (ends : endsAuthority .web c = true)
    {first : Char} (inRest : first ∈ rest) (noSlash : isSlash .web first = false)
    (more : List Char) : authorityOf (rest ++ more) = authorityOf rest := by
  have stops : goesOn c = false := by simp [goesOn, ends]
  rw [authorityOf, Run.dropWhile_append_of_stop (isSlash .web) inRest noSlash,
    Run.takeWhile_append_of_stop goesOn member stops, authorityOf]

/-- An authority that has not ended takes in what follows, up to a slash. -/
theorem authorityOf_append_of_open {rest more : List Char}
    (inside : ∀ c ∈ rest.dropWhile (isSlash .web) ++ more, goesOn c = true)
    {first : Char} (inRest : first ∈ rest) (noSlash : isSlash .web first = false)
    (path : List Char) :
    authorityOf (rest ++ (more ++ '/' :: path)) = authorityOf rest ++ more := by
  have slash : ∀ c ∈ ('/' :: path).head?, goesOn c = false := by
    intro c first
    cases first
    rfl
  have before := (List.forall_mem_append.mp inside).1
  rw [authorityOf, Run.dropWhile_append_of_stop (isSlash .web) inRest noSlash, ← List.append_assoc,
    Run.takeWhile_append inside slash, authorityOf, List.takeWhile_eq_self_iff.mpr before]

/-- A path leaves an address usable unless blanks would come into its host or port. -/
theorem isAddress_append_iff {base path : List Char} (address : IsAddress base)
    {scheme rest : List Char} (split : splitScheme (significant base) = some (scheme, rest))
    (web : kindOf scheme = .web) (plain : IsPlainPath path) :
    IsAddress (base ++ path) ↔ path = [] ∨ trail base = [] ∨ IsPastHost base := by
  by_cases follows : path = []
  · simp [follows, address]
  have place := (isAddress_iff_of_web split web).mp address
  obtain ⟨seen, inBase, visible⟩ := exists_visible split
  obtain ⟨first, inRest, noSlash⟩ := exists_noSlash place
  -- The path is read behind the base, and the blanks between them are read too.
  have whole := significant_append inBase visible follows fun c member => plain.visible member
  have longer := splitScheme_append split (trail base ++ path)
  rw [← List.append_assoc, ← whole] at longer
  rw [isAddress_iff_of_web longer web]
  by_cases past : IsPastHost base
  · obtain ⟨_, _, again, c, member, ends⟩ := id past
    obtain ⟨rfl, rfl⟩ := Prod.mk.inj (Option.some.inj (split.symm.trans again))
    rw [authorityOf_append_of_past member ends inRest noSlash]
    simp [past, place]
  · have inside : ∀ c ∈ rest.dropWhile (isSlash .web) ++ trail base, goesOn c = true := by
      intro c member
      rcases List.mem_append.mp member with before | blank
      · by_contra stops
        exact past ⟨scheme, rest, split, c, before, by simpa [goesOn] using stops⟩
      · exact goesOn_of_low (trail_low blank)
    have noSign : '@' ∉ trail base := fun sign => absurd (trail_low sign) (by decide)
    obtain ⟨later, rfl⟩ := plain.begins follows
    rw [authorityOf_append_of_open inside inRest noSlash, placeOf_append _ noSign,
      isPlace_append_trail]
    simp [past, place]

end Gatehouse.Url
