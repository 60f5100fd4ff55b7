import Gatehouse.Proofs.Http.Conclusion
import Gatehouse.Proofs.Json.Grammar

/-!
# What bodies hold

A body is read twice over: that of a good response as the type which the caller wants, and that of
any other as the data of an error. Both readers give the value of a document where the body is one,
and the text of the body where it is none, and there is nothing else that either can give. So a
caller who takes any JSON, or any text of a body that has some, gets an answer from every body.
-/
namespace Gatehouse

/-! ## Strings among the documents -/

namespace Json

/-- A value that is a string is written as one. -/
theorem Spells.exists_text {depth : Nat} {core : List UInt8} {text : String}
    (spells : Spells depth core (.string text)) :
    ∃ raw, SpellsText raw text ∧ core = 0x22 :: (raw ++ [0x22]) := by
  have scalar : SpellsScalar core (.string text) := by
    cases depth with
    | zero => exact spells
    | succ depth =>
      rcases spells with scalar | nested
      · exact scalar
      · -- An object is no string either, whatever its fields are.
        generalize same : Json.string text = value at nested
        cases nested <;> cases same
  cases scalar with
  | string spells => exact ⟨_, spells, rfl⟩
  | positive _ held | negative _ held => cases Numeral.isNumber_of_value? held

/-- A value of another type is an error, whatever the value. -/
theorem mismatch_ne_ok {α : Type} (expected : String) (input : List UInt8) (found : α × List UInt8) :
    mismatch expected input ≠ .ok found := by
  intro ok
  -- A word that is read is an error too, as it is one of the wrong type.
  have word_ne : ∀ letters rest (fault : List UInt8 → Fault),
      (word letters rest).bind (fun rest => .error (fault rest)) ≠ .ok found := by
    intro letters rest fault taken
    cases held : word letters rest <;> rw [held] at taken <;> cases taken
  unfold mismatch at ok
  split at ok
  · cases ok
  iterate 3
    next => exact word_ne _ _ _ ok
  iterate 2
    next =>
      simp only at ok
      split at ok <;> cases ok
  · cases ok
  · cases ok
  · split at ok
    next =>
      simp only at ok
      split at ok <;> cases ok
    · cases ok

/-- The reader of strings takes exactly the values that are strings. -/
theorem readsExactly_text (depth : Nat) :
    ReadsExactly Decoder.text.read fun core text => Spells depth core (.string text) where
  sound := by
    intro input text rest ok
    obtain ⟨blanks, all, split⟩ := exists_blanks input
    simp only [Decoder.text] at ok
    split at ok
    next inner same =>
      obtain ⟨raw, spells, rfl⟩ := scanText_eq_ok_iff.mp ok
      exact ⟨blanks, _, all, .of_scalar (.string spells), by rw [split, same]; simp⟩
    · exact absurd ok (mismatch_ne_ok _ _ _)
  complete := by
    intro before core text rest all spells _
    obtain ⟨raw, spellsText, rfl⟩ := spells.exists_text
    have scanned := scanText_eq_ok_iff.mpr ⟨raw, spellsText, (rfl : _ = raw ++ 0x22 :: rest)⟩
    simp only [Decoder.text, skipBlanks_append all, List.cons_append, List.append_assoc,
      List.nil_append]
    exact scanned
  opens := fun spells => spells.opens

/-- A text is read as a string just if it is a document, and that of a string. -/
theorem whole_text_eq_ok_iff {input : List UInt8} {text : String} :
    whole Decoder.text.read input = .ok text ↔ IsDocument input (.string text) :=
  (readsExactly_text depthLimit).whole_eq_ok_iff

end Json

/-! ## Bodies -/

namespace Body

/-- What a body holds of some type: nothing if it is empty, the value that it spells, or else the
value of its own text. -/
inductive Holds {α : Type} (spells : List UInt8 → α → Prop) (ofText : String → α) :
    List UInt8 → Option α → Prop
  | nothing : Holds spells ofText [] none
  | document {body : List UInt8} {value : α} : body ≠ [] → spells body value →
      Holds spells ofText body (some value)
  | text {body : List UInt8} : body ≠ [] → (∀ value, ¬ spells body value) →
      Holds spells ofText body (some (ofText (lenientText body)))

section

variable {α : Type} {spells : List UInt8 → α → Prop} {ofText : String → α} {body : List UInt8}

/-- A reader that gives the value of a body, or the value of its text. -/
theorem holds_of_read {read : List UInt8 → Except Json.Error α}
    (exact : ∀ {value}, read body = .ok value ↔ spells body value) (some : body ≠ []) :
    Holds spells ofText body (.some ((read body).toOption.getD (ofText (lenientText body)))) := by
  cases found : read body with
  | ok value => exact .document some (exact.mp found)
  | error error =>
    apply Holds.text some
    intro value document
    rw [exact.mpr document] at found
    cases found

/-- A body holds one thing, if it spells one value at most. -/
theorem Holds.unique (single : ∀ {value other}, spells body value → spells body other → value = other)
    {held other : Option α} (first : Holds spells ofText body held)
    (second : Holds spells ofText body other) : held = other := by
  cases first with
  | nothing =>
    cases second with
    | nothing => rfl
    | document some | text some => exact absurd rfl some
  | document some document =>
    cases second with
    | nothing => exact absurd rfl some
    | document _ other => rw [single document other]
    | text _ none => exact absurd document (none _)
  | text some none =>
    cases second with
    | nothing => exact absurd rfl some
    | document _ other => exact absurd other (none _)
    | text => rfl

theorem Holds.eq_none_iff {held : Option α} (holds : Holds spells ofText body held) :
    held = none ↔ body = [] := by
  cases holds with
  | nothing => simp
  | document some => simp [some]
  | text some => simp [some]

end

variable {body : List UInt8}

/-- What comes as the data of an error. -/
theorem ofError_eq_iff {held : Option Json} :
    ofError body = held ↔ Holds Json.IsDocument Json.string body held := by
  have holds : Holds Json.IsDocument Json.string body (ofError body) := by
    cases body with
    | nil => exact .nothing
    | cons byte rest =>
      have holds : Holds Json.IsDocument Json.string (byte :: rest) _ :=
        holds_of_read Json.read_eq_ok_iff (List.cons_ne_nil byte rest)
      rw [ofError, List.isEmpty_cons]
      cases found : Json.read (byte :: rest) <;> rw [found] at holds <;> exact holds
  constructor
  · rintro rfl
    exact holds
  · exact holds.unique Json.IsDocument.unique

theorem ofError_eq_none_iff : ofError body = none ↔ body = [] :=
  (ofError_eq_iff.mp rfl).eq_none_iff

/-- What comes to a caller who takes strings. -/
theorem decode_text_eq_iff {held : Option String} :
    (decode .text body).toOption = held
      ↔ Holds (fun body text => Json.IsDocument body (.string text)) id body held := by
  have holds : Holds (fun body text => Json.IsDocument body (.string text)) id body
      (decode .text body).toOption := by
    cases body with
    | nil => exact .nothing
    | cons byte rest =>
      have holds : Holds (fun body text => Json.IsDocument body (.string text)) id (byte :: rest) _ :=
        holds_of_read Json.whole_text_eq_ok_iff (List.cons_ne_nil byte rest)
      rw [decode, List.isEmpty_cons]
      cases found : Json.whole Json.Decoder.text.read (byte :: rest) <;> rw [found] at holds <;>
        exact holds
  constructor
  · rintro rfl
    exact holds
  · apply holds.unique
    intro text other first second
    cases first.unique second
    rfl

/-- A caller who takes any JSON gets what an error would hold, and null where it would hold
nothing. -/
theorem decode_json (body : List UInt8) :
    decode .json body = .ok ((ofError body).getD .null) := by
  cases body with
  | nil => rfl
  | cons byte rest =>
    have same : Json.whole Json.Decoder.json.read (byte :: rest) = Json.read (byte :: rest) := rfl
    rw [decode, ofError, List.isEmpty_cons, same]
    cases Json.read (byte :: rest) <;> rfl

/-- How a body is read as the data of an error, as any JSON and as a string. -/
structure ReadAlike (body : List UInt8) : Prop where
  ofError : ∀ held, Body.ofError body = held ↔ Holds Json.IsDocument Json.string body held
  nothing : Body.ofError body = none ↔ body = []
  json : decode .json body = .ok ((Body.ofError body).getD .null)
  text : ∀ held, (decode .text body).toOption = held
    ↔ Holds (fun body text => Json.IsDocument body (.string text)) id body held
  fails : (∃ error, decode .text body = .error error) ↔ body = []

theorem readAlike (body : List UInt8) : ReadAlike body where
  ofError := fun _ => ofError_eq_iff
  nothing := ofError_eq_none_iff
  json := decode_json body
  text := fun _ => decode_text_eq_iff
  fails := by
    rw [← (decode_text_eq_iff.mp rfl).eq_none_iff]
    cases decode .text body <;> simp [Except.toOption]

end Body

namespace Call

/-- Bodies of good and of bad responses are read alike, and all of them are read: each gives the
value of its document, or else its text, and only the empty one gives nothing. So a call that takes
any JSON ends well with the first response of a good status, whatever its body, with the very data
that an error would have had from that body. -/
theorem bodies_are_read_alike (World Failure : Type) (config : ClientConfig) (method url : String)
    (body : Option Json) (options : CallOptions) (ambient : Option String)
    (logger : Logger World Failure) (outcomes : Nat → Outcome) (now : Nat) :
    let call : Exchange (CallResult Json) := request config .json method url body options ambient
    let told := call.history outcomes now
    let n := (requestsOf told.1).length
    (∀ bytes, Body.ReadAlike bytes)
      ∧ (∀ i < n, ∀ raw, outcomes i = .ok raw → 200 ≤ raw.status → raw.status < 300 →
        i + 1 = n
          ∧ told.2 = .ok ⟨(Body.ofError raw.body).getD .null, raw.status, raw.statusText,
              Headers.normalize raw.headers⟩)
      ∧ (∀ raw, outcomes (n - 1) = .ok raw → ¬(200 ≤ raw.status ∧ raw.status < 300) →
        told.2 = .error ⟨s!"Request failed with status code {raw.status}", .response,
          some raw.status, Body.ofError raw.body, none⟩)
      ∧ ∀ (rest : List Outcome) (sent : List Sent) (world : World) (spare : Nat), ∃ after,
          runAlone logger ⟨call, n + spare⟩
              ⟨now, (List.range n).map outcomes ++ rest, sent, world⟩ = (some told.2, after) := by
  intro call told n
  let spare := (setupOf config method url body options ambient).retry.maxAttempts - 1
  let retries := retriesTaken spare outcomes
  have made : n = retries + 1 :=
    length_requestsOf_request config .json method url body options ambient outcomes now
  have course : told.2 = (judge .json (outcomes retries)).result :=
    congrArg Prod.snd
      (request_history config .json method url body options ambient outcomes now)
  have ends := judge_concludes .json (outcomes retries)
  rw [← course] at ends
  refine ⟨Body.readAlike, ?_, ?_, ?_⟩
  · intro i inside raw answer low high
    -- A good status ends the call, so the outcome of that attempt is the last one.
    have here : i = retries := last_of_success (by omega) answer high
    rw [← here, answer] at ends
    refine ⟨by omega, ?_⟩
    generalize told.2 = result at ends
    cases ends with
    | answered _ _ read =>
      rw [Body.decode_json] at read
      cases read
      rfl
    | unreadable _ _ unread =>
      -- There is no body that any JSON is not read from.
      rw [Body.decode_json] at unread
      cases unread
    | refused bad => exact absurd ⟨low, high⟩ bad
  · intro raw answer bad
    rw [made, Nat.add_sub_cancel] at answer
    rw [answer] at ends
    generalize told.2 = result at ends
    cases ends with
    | answered low high => exact absurd ⟨low, high⟩ bad
    | unreadable low high => exact absurd ⟨low, high⟩ bad
    | refused => rfl
  · intro rest sent world spare
    exact ⟨_, runAlone_request_eq_history config .json method url body options ambient outcomes now
      logger rest sent world spare⟩

/-- An array that breaks off: with a refusal, which ends a call without retries, it is the text of
the error's data, and with a good status it is that of the response. -/
theorem bodies_are_read_alike_of_cut_short :
    let cut := bytesOf "[1,"
    let call : Exchange (CallResult Json) :=
      request .usual .json "GET" "/" none { CallOptions.none with retries := some 0 } none
    let answered (status : Nat) : Nat → Outcome := fun _ => .ok ⟨status, "", [], cut⟩
    Body.ReadAlike cut
      ∧ (call.history (answered 200) 0).2 = .ok ⟨.string "[1,", 200, "", []⟩
      ∧ (call.history (answered 500) 0).2
        = .error ⟨"Request failed with status code 500", .response, some 500,
            some (.string "[1,"), none⟩ := by
  intro cut call answered
  have alike := fun outcomes => bodies_are_read_alike Unit Unit .usual "GET" "/" none
    { CallOptions.none with retries := some 0 } none .silent outcomes 0
  have once : (requestsOf (call.history (answered 200) 0).1).length = 1 :=
    length_requestsOf_request .usual .json "GET" "/" none
      { CallOptions.none with retries := some 0 } none (answered 200) 0
  refine ⟨(alike (answered 200)).1 cut, ?_, ?_⟩
  · have good := (alike (answered 200)).2.1 0 (by rw [once]; decide) _ rfl (by decide) (by decide)
    exact good.2
  · have held : Body.ofError cut = some (.string "[1,") := rfl
    have bad := (alike (answered 500)).2.2.1 ⟨500, "", [], cut⟩ rfl (by decide)
    simp only [held] at bad
    exact bad

end Call

end Gatehouse
