import Gatehouse.Proofs.Text.Runs
import Gatehouse.Proofs.Url.Hosts
import Gatehouse.Url.Basic

/-!
# The places that web addresses name

Behind its scheme and slashes, a web address names a user, a host and a port. Anything is a user,
and whatever follows is path, query and fragment, which cannot be wrong either. So whether the
address can be read is settled by host and port alone.
-/
namespace Gatehouse.Url

/-! ## Host and port -/

/-- Host and port of an authority: what follows its last at sign. -/
def placeOf (authority : List Char) : List Char :=
  (authority.reverse.takeWhile (· != '@')).reverse

/-- A host that can be read, and a port if a colon follows it. -/
def IsPlace (place : List Char) : Prop :=
  hostPart false place ≠ [] ∧ (∃ host, Host.parse (hostPart false place) = .ok host)
    ∧ ∀ digits, place = hostPart false place ++ ':' :: digits → ∃ port, portNumber digits = .ok port

/-- What does not end an authority. -/
def goesOn (c : Char) : Bool := !endsAuthority .web c

theorem hostPart_cases (bracketed : Bool) (text : List Char) :
    hostPart bracketed text = text
      ∨ ∃ digits, text = hostPart bracketed text ++ ':' :: digits := by
  -- On the text, inside or outside of brackets.
  induction text generalizing bracketed with
  | nil => exact .inl rfl
  | cons c rest ih =>
    rw [hostPart]
    split
    next stops =>
      simp only [Bool.and_eq_true, beq_iff_eq] at stops
      exact .inr ⟨rest, by simp [stops.1]⟩
    next =>
      refine (ih (c == '[' || (bracketed && c != ']'))).imp ?_ ?_
      · exact congrArg (c :: ·)
      · rintro ⟨digits, shape⟩
        exact ⟨digits, by rw [List.cons_append, ← shape]⟩

/-- A character at the end becomes part of the host, unless that has ended before. -/
theorem hostPart_concat {last : Char} (plain : last ≠ ':') (bracketed : Bool) (text : List Char) :
    hostPart bracketed (text ++ [last])
      = if hostPart bracketed text = text then text ++ [last] else hostPart bracketed text := by
  induction text generalizing bracketed with
  | nil => simp [hostPart, plain]
  | cons c rest ih =>
    rw [List.cons_append, hostPart, hostPart]
    split
    · simp
    · rw [ih]
      split <;> simp_all

section

variable {scheme place rest : List Char} {needsHost : Bool}

/-- A host that goes to the end of its authority has no port. -/
theorem readHost_of_whole (within : ∀ c ∈ place, goesOn c = true)
    (ends : ∀ c ∈ rest.head?, goesOn c = false) (some_ : place ≠ [])
    (whole : hostPart false place = place) {host : Host} (read : Host.parse place = .ok host) :
    readHost .web scheme (place ++ rest) needsHost = .ok ((host, none), rest) := by
  have inside := Run.takeWhile_append within ends
  unfold goesOn at inside
  simp only [readHost, inside, whole, List.drop_left]
  simp only [some_, read, bind, Except.bind, List.isEmpty_iff, if_false, reduceCtorEq, false_and]
  -- What ends an authority is no colon.
  split
  next digits => exact absurd (ends ':' rfl) (by decide)
  next => rfl

/-- A host that ends in front of a colon is followed by a port. -/
theorem readHost_of_port (within : ∀ c ∈ place, goesOn c = true)
    (ends : ∀ c ∈ rest.head?, goesOn c = false) (some_ : hostPart false place ≠ [])
    {digits : List Char} (shape : place = hostPart false place ++ ':' :: digits) {host : Host}
    (read : Host.parse (hostPart false place) = .ok host) :
    (∃ found, readHost .web scheme (place ++ rest) needsHost = .ok found)
      ↔ ∃ port, portNumber digits = .ok port := by
  have inside := Run.takeWhile_append within ends
  have port : (digits ++ rest).takeWhile goesOn = digits := by
    apply Run.takeWhile_append (fun c member => ?_) ends
    exact within c (shape ▸ List.mem_append_right _ (List.mem_cons_of_mem _ member))
  have behind : (place ++ rest).drop (hostPart false place).length = ':' :: (digits ++ rest) := by
    conv_lhs => rw [shape, List.append_assoc]
    rw [← shape, List.drop_left, List.cons_append]
  unfold goesOn at inside port
  simp only [readHost, inside, behind, port]
  simp only [some_, read, bind, Except.bind, List.isEmpty_iff, if_false, reduceCtorEq, false_and]
  cases portNumber digits <;> simp [pure, Except.pure]

/-- Whether host and port can be read does not depend on what follows them. -/
theorem readHost_isOk_iff (within : ∀ c ∈ place, goesOn c = true)
    (ends : ∀ c ∈ rest.head?, goesOn c = false) :
    (∃ found, readHost .web scheme (place ++ rest) needsHost = .ok found) ↔ IsPlace place := by
  unfold IsPlace
  have inside := Run.takeWhile_append within ends
  unfold goesOn at inside
  by_cases nothing : hostPart false place = []
  · -- A web address needs a host.
    simp [readHost, inside, nothing, bind, Except.bind, pure, Except.pure, throw, throwThe,
      MonadExceptOf.throw]
  cases read : Host.parse (hostPart false place) with
  | error fault => simp [readHost, inside, nothing, read, bind, Except.bind]
  | ok host =>
    have hosts : ∃ found, Except.ok host = (Except.ok found : Except Fault Host) := ⟨host, rfl⟩
    -- The host is all there is, or a port follows it.
    rcases hostPart_cases false place with whole | ⟨digits, shape⟩
    · have found : readHost .web scheme (place ++ rest) needsHost = .ok ((host, none), rest) :=
        readHost_of_whole within ends (whole ▸ nothing) whole (whole ▸ read)
      have noPort : ∀ digits, place ≠ hostPart false place ++ ':' :: digits := by
        intro digits shape
        have lengths := congrArg List.length shape
        rw [whole, List.length_append, List.length_cons] at lengths
        omega
      exact ⟨fun _ => ⟨nothing, hosts, fun digits shape => absurd shape (noPort digits)⟩,
        fun _ => ⟨_, found⟩⟩
    · rw [readHost_of_port within ends nothing shape read]
      constructor
      · intro port
        refine ⟨nothing, hosts, fun others again => ?_⟩
        -- Only one way to cut behind the host.
        obtain rfl : others = digits := by
          have same := List.append_cancel_left (again.symm.trans shape)
          exact (List.cons.inj same).2
        exact port
      · rintro ⟨-, -, port⟩
        exact port digits shape

end

/-! ## Authorities -/

/-- What is read on with for certain fails only where the first part does. -/
theorem isOk_bind_iff {α β : Type} {first : Except Fault α} {next : α → Except Fault β}
    (reads : ∀ found, ∃ whole, next found = .ok whole) :
    (∃ whole, first >>= next = .ok whole) ↔ ∃ found, first = .ok found := by
  cases first with
  | error fault => simp [bind, Except.bind]
  | ok found =>
    obtain ⟨whole, here⟩ := reads found
    simp [bind, Except.bind, here]

theorem placeOf_append (authority : List Char) {more : List Char} (plain : '@' ∉ more) :
    placeOf (authority ++ more) = placeOf authority ++ more := by
  have turned : ∀ c ∈ more.reverse, (c != '@') = true := by
    intro c member
    rw [bne_iff_ne]
    rintro rfl
    exact plain (List.mem_reverse.mp member)
  simp [placeOf, List.takeWhile_append_of_pos turned]

theorem placeOf_plain {authority : List Char} (plain : '@' ∉ authority) :
    placeOf authority = authority := by
  simpa [placeOf] using placeOf_append [] plain

theorem splitUser_cases (authority : List Char) :
    splitUser authority = none ∧ placeOf authority = authority
      ∨ ∃ user, splitUser authority = some (user, placeOf authority)
        ∧ authority = user ++ '@' :: placeOf authority := by
  by_cases sign : '@' ∈ authority
  · refine .inr ?_
    obtain ⟨place, user, turned, plain⟩ := List.eq_append_cons_of_mem (List.mem_reverse.mpr sign)
    -- The first sign from behind is the last one.
    have shape : authority = user.reverse ++ '@' :: place.reverse := by
      simpa using congrArg List.reverse turned
    have found : placeOf authority = place.reverse := by
      have plain' : '@' ∉ place.reverse := fun member => plain (List.mem_reverse.mp member)
      have cut := placeOf_append (user.reverse ++ ['@']) plain'
      rw [List.append_assoc, List.singleton_append, ← shape] at cut
      simpa [placeOf] using cut
    refine ⟨user.reverse, ?_, found ▸ shape⟩
    have before : authority.take (authority.length - (placeOf authority).length - 1)
        = user.reverse := by
      have lengths : authority.length - place.reverse.length - 1 = user.reverse.length := by
        rw [shape, List.length_append, List.length_cons]
        omega
      rw [found, lengths, shape, List.take_left]
    rw [splitUser, if_pos (by simpa using sign)]
    exact congrArg (fun user => some (user, placeOf authority)) before
  · exact .inl ⟨by simp [splitUser, sign], placeOf_plain sign⟩

/-- Whether an authority can be read is settled by its host and port. -/
theorem readAuthority_isOk_iff (scheme : List Char) {inside rest : List Char}
    (within : ∀ c ∈ inside, goesOn c = true) (ends : ∀ c ∈ rest.head?, goesOn c = false) :
    (∃ found, readAuthority .web scheme (inside ++ rest) = .ok found)
      ↔ IsPlace (placeOf inside) := by
  have cut := Run.takeWhile_append within ends
  unfold goesOn at cut
  -- Without a user the place is the authority; with one it is what stands behind the sign.
  rcases splitUser_cases inside with ⟨nobody, whole⟩ | ⟨user, somebody, shape⟩
  · have host : (∃ found, readHost .web scheme (inside ++ rest) false = .ok found)
        ↔ IsPlace inside := readHost_isOk_iff within ends
    rw [whole, ← host]
    simp only [readAuthority, cut, nobody]
    exact isOk_bind_iff fun _ => ⟨_, rfl⟩
  · have member : ∀ c ∈ placeOf inside, goesOn c = true := by
      intro c member
      exact within c (shape ▸ List.mem_append_right _ (List.mem_cons_of_mem _ member))
    have behind : (inside ++ rest).drop (user.length + 1) = placeOf inside ++ rest := by
      conv_lhs => rw [shape]
      simp [List.drop_append]
    have host : ∀ needsHost,
        (∃ found, readHost .web scheme (placeOf inside ++ rest) needsHost = .ok found)
          ↔ IsPlace (placeOf inside) := fun _ => readHost_isOk_iff member ends
    simp only [readAuthority, cut, somebody, behind]
    split
    next stops =>
      -- The end of the authority right behind the sign leaves no host.
      have nothing : placeOf inside = [] := by
        cases place : placeOf inside with
        | nil => rfl
        | cons c later =>
          have stays := member c (place ▸ List.mem_cons_self)
          simp only [goesOn, Bool.not_eq_true'] at stays
          simp [place, stays] at stops
      simp [IsPlace, nothing, hostPart, bind, Except.bind, throw, throwThe, MonadExceptOf.throw]
    next =>
      -- Whether there is a user changes only what is said of an empty host.
      rw [← host (!(readUser user).1.isEmpty || (readUser user).2.isSome)]
      exact isOk_bind_iff fun _ => ⟨_, rfl⟩

theorem readNamed_isOk_iff (scheme text : List Char) :
    (∃ url, readNamed .web scheme text = .ok url)
      ↔ IsPlace (placeOf (text.takeWhile goesOn)) := by
  have within : ∀ c ∈ text.takeWhile goesOn, goesOn c = true := by
    intro c member
    exact List.all_eq_true.mp List.all_takeWhile c member
  rw [← readAuthority_isOk_iff scheme within (Run.ends_dropWhile goesOn text),
    List.takeWhile_append_dropWhile]
  exact isOk_bind_iff fun _ => ⟨_, rfl⟩

end Gatehouse.Url
