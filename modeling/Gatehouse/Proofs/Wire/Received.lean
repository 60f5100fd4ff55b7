import Gatehouse.Proofs.Http.ResponseHeaders
import Gatehouse.Proofs.Inbound.RequestId
import Gatehouse.Wire.Server

/-!
# Received headers as a map

What arrives is a map of names in lower case to their values. Its headers say under each name all
values of that name, joined in the order of arrival, if every one of them can be read as a text. A
name with a value that cannot be read is left out, and nothing else is.
-/
namespace Gatehouse.Wire

open Inbound (charsOf bytesOf_charsOf charsOf_encode isVisible_iff)

/-- A value of visible ASCII and tabs. -/
def IsLegible (value : List UInt8) : Prop :=
  ∀ b ∈ value, 0x20 ≤ b.toNat ∧ b.toNat < 0x7F ∨ b.toNat = 0x09

/-- Distinct names, all in lower case. -/
structure Received.IsMap (received : Received) : Prop where
  distinct : (received.map (·.1)).Nodup
  lower : ∀ entry ∈ received, Text.lowered entry.1 = entry.1

/-! ## What arrives is a map -/

theorem Received.updates_add (name : String) (value : List UInt8) (received : Received) :
    Updates (· == name) name received (received.add name value) := by
  induction received with
  | nil => exact .last [value]
  | cons first rest ih =>
    obtain ⟨other, values⟩ := first
    rw [Received.add]
    split
    next here => exact .here values (values ++ [value]) rest (beq_iff_eq.mpr here)
    next elsewhere => exact .later values (beq_false_of_ne elsewhere) ih

theorem Received.IsMap.add {received : Received} (isMap : received.IsMap) {name : String}
    (lower : Text.lowered name = name) (value : List UInt8) : (received.add name value).IsMap := by
  have updates := Received.updates_add name value received
  constructor
  case distinct => exact updates.pairwise (fun _ => ne_of_beq_false) isMap.distinct
  case lower =>
    have names : ∀ other ∈ (received.add name value).map (·.1), Text.lowered other = other :=
      updates.forall_keys lower (List.forall_mem_map.mpr isMap.lower)
    exact List.forall_mem_map.mp names

theorem Received.isMap_ofLines {lines : List (String × List UInt8)}
    (lower : ∀ line ∈ lines, Text.lowered line.1 = line.1) : (Received.ofLines lines).IsMap := by
  -- From any map on, since lines are added one by one.
  have grows : ∀ received : Received, received.IsMap →
      Received.IsMap (lines.foldl (fun received line => received.add line.1 line.2) received) := by
    induction lines with
    | nil => exact fun _ isMap => isMap
    | cons line rest ih =>
      obtain ⟨first, later⟩ := List.forall_mem_cons.mp lower
      exact fun received isMap => ih later _ (isMap.add first line.2)
  exact grows [] ⟨List.nodup_nil, by simp⟩

/-- The headers of any reply are a map when they are received. -/
theorem Reply.isMap_readLines (reply : Reply) : (Received.ofLines reply.readLines).IsMap := by
  apply Received.isMap_ofLines
  intro line member
  obtain ⟨⟨name, value⟩, _, rfl⟩ := List.mem_map.mp member
  simp [Text.lowered, Function.comp_def, Text.lowerAscii_lowerAscii]

/-! ## The values of one name -/

theorem isLegible_iff (value : List UInt8) :
    IsLegible value ↔ ∀ b ∈ value, HeaderValue.isVisible b = true := by
  simp only [IsLegible, isVisible_iff]

/-- A legible value is the text that has its bytes. -/
theorem visibleText_eq_some_iff (value : List UInt8) (text : String) :
    (HeaderValue.visibleText? value).map String.ofList = some text
      ↔ IsLegible value ∧ bytesOf text = value := by
  rw [isLegible_iff, HeaderValue.visibleText?]
  simp only [List.all_eq_true]
  constructor
  · intro read
    split at read
    next visible =>
      simp only [Option.map_some, Option.some.injEq] at read
      subst read
      exact ⟨visible, bytesOf_charsOf visible⟩
    · simp at read
  · rintro ⟨visible, rfl⟩
    rw [if_pos visible]
    have same : charsOf (bytesOf text) = text.toList := charsOf_encode visible
    simp only [charsOf] at same
    simp [same]

theorem visibleTexts?_eq_some_iff (values : List (List UInt8)) (texts : List String) :
    visibleTexts? values = some texts
      ↔ (∀ value ∈ values, IsLegible value) ∧ texts.map bytesOf = values := by
  rw [visibleTexts?]
  -- Value by value: all must be legible for there to be any text.
  induction values generalizing texts with
  | nil => cases texts <;> simp
  | cons value rest ih =>
    rw [List.mapM_cons, List.forall_mem_cons]
    simp only [Option.bind_eq_bind, Option.bind_eq_some_iff, visibleText_eq_some_iff, ih,
      Option.pure_def, Option.some.injEq]
    constructor
    · rintro ⟨text, ⟨legible, here⟩, later, ⟨others, there⟩, rfl⟩
      exact ⟨⟨legible, others⟩, by simp [here, there]⟩
    · rintro ⟨⟨legible, others⟩, same⟩
      cases texts with
      | nil => simp at same
      | cons text later =>
        simp only [List.map_cons, List.cons.injEq] at same
        exact ⟨text, ⟨legible, same.1⟩, later, ⟨others, same.2⟩, rfl⟩

theorem bytesOf_intercalate (between : String) (texts : List String) :
    bytesOf (between.intercalate texts) = (bytesOf between).intercalate (texts.map bytesOf) := by
  induction texts with
  | nil => simp [bytesOf, Utf8.encode]
  | cons text rest ih =>
    -- What stands between comes only before a text that follows.
    cases rest with
    | nil => simp
    | cons next later =>
      simp only [String.intercalate_cons_cons, List.map_cons, List.intercalate_cons_cons] at ih ⊢
      simp only [bytesOf, String.toList_append, Utf8.encode_append] at ih ⊢
      rw [ih]

/-- One value or many: the header is all of them, joined. -/
theorem collectValues_text (values : List (List UInt8)) :
    (collectValues values).text? = (visibleTexts? values).map (", ".intercalate ·) := by
  rw [collectValues]
  cases visibleTexts? values with
  | none => rfl
  | some texts =>
    cases texts with
    | nil => rfl
    | cons text rest => cases rest <;> simp [RawHeader.text?]

theorem bytesOf_injective {left right : String} (same : bytesOf left = bytesOf right) :
    left = right := by
  have read := congrArg Utf8.decode? same
  simp only [bytesOf, Utf8.decode?_encode, Option.some.injEq] at read
  exact String.toList_injective read

theorem exists_texts {values : List (List UInt8)} (legible : ∀ value ∈ values, IsLegible value) :
    ∃ texts : List String, texts.map bytesOf = values := by
  refine ⟨values.map fun value => String.ofList (charsOf value), ?_⟩
  have same : ∀ value ∈ values, bytesOf (String.ofList (charsOf value)) = id value :=
    fun value member => bytesOf_charsOf ((isLegible_iff value).mp (legible value member))
  rw [List.map_map]
  exact (List.map_congr_left same).trans (List.map_id values)

theorem collectValues_eq_some_iff (values : List (List UInt8)) (text : String) :
    (collectValues values).text? = some text
      ↔ (∀ value ∈ values, IsLegible value)
        ∧ bytesOf text = (bytesOf ", ").intercalate values := by
  rw [collectValues_text, Option.map_eq_some_iff]
  simp only [visibleTexts?_eq_some_iff]
  constructor
  · rintro ⟨texts, ⟨legible, rfl⟩, rfl⟩
    exact ⟨legible, bytesOf_intercalate ", " texts⟩
  · rintro ⟨legible, joined⟩
    -- The bytes settle the text, so the text is that of the values' texts.
    obtain ⟨texts, rfl⟩ := exists_texts legible
    refine ⟨texts, ⟨legible, rfl⟩, bytesOf_injective ?_⟩
    rw [joined, bytesOf_intercalate]

/-- A name whose values cannot all be read has no text. -/
theorem collectValues_of_not_legible {values : List (List UInt8)}
    (illegible : ¬ ∀ value ∈ values, IsLegible value) : (collectValues values).text? = none := by
  cases read : (collectValues values).text? with
  | none => rfl
  | some text => exact absurd ((collectValues_eq_some_iff values text).mp read).1 illegible

/-! ## All names -/

theorem textFor_collected {received : Received} (isMap : received.IsMap) (name text : String)
    {entry : String × List (List UInt8)} (member : entry ∈ received) :
    Headers.textFor name (entry.1, collectValues entry.2) = some text
      ↔ entry.1 = name ∧ (∀ value ∈ entry.2, IsLegible value)
        ∧ bytesOf text = (bytesOf ", ").intercalate entry.2 := by
  rw [Headers.textFor, isMap.lower entry member, ← collectValues_eq_some_iff]
  split
  next same => simp [same]
  next differs => simp [differs]

/-- Each name is looked up by itself: there is no other entry that could come before or after. -/
theorem lookup_normalize_collect {received : Received} (isMap : received.IsMap)
    (name text : String) :
    (Headers.normalize (collect received)).lookup name = some text
      ↔ ∃ values, (name, values) ∈ received ∧ (∀ value ∈ values, IsLegible value)
        ∧ bytesOf text = (bytesOf ", ").intercalate values := by
  rw [Headers.lookup_normalize]
  constructor
  · intro found
    obtain ⟨entry, member, here⟩ := List.exists_of_findSome?_eq_some found
    rw [List.mem_reverse, collect, List.mem_map] at member
    obtain ⟨⟨other, values⟩, inside, rfl⟩ := member
    obtain ⟨rfl, read⟩ := (textFor_collected isMap name text inside).mp here
    exact ⟨values, inside, read⟩
  · rintro ⟨values, inside, read⟩
    have here := (textFor_collected isMap name text inside).mpr ⟨rfl, read⟩
    have member : (name, collectValues values) ∈ (collect received).reverse :=
      List.mem_reverse.mpr (List.mem_map.mpr ⟨_, inside, rfl⟩)
    cases found : (collect received).reverse.findSome? (Headers.textFor name) with
    | none =>
      rw [List.findSome?_eq_none_iff] at found
      rw [found _ member] at here
      cases here
    | some other =>
      obtain ⟨entry, elsewhere, there⟩ := List.exists_of_findSome?_eq_some found
      rw [List.mem_reverse, collect, List.mem_map] at elsewhere
      obtain ⟨⟨key, others⟩, outside, rfl⟩ := elsewhere
      obtain ⟨rfl, _⟩ := (textFor_collected isMap name other outside).mp there
      -- Distinct names make it the same entry.
      obtain rfl : values = others := by
        have same := List.inj_on_of_nodup_map isMap.distinct inside outside rfl
        exact congrArg Prod.snd same
      rw [there] at here
      exact here

/-- A received map of headers, read and normalized, has under a name the values that arrived under
it, joined with a comma and a blank in the order of arrival, however many there are, if all of them
are visible ASCII and tabs. It has no other names, and none twice. A name with any other value is
absent, and the rest is as if it had not arrived. -/
theorem received_headers_by_name {received : Received} (isMap : received.IsMap) :
    let headers := Headers.normalize (collect received)
    (∀ name text, headers.lookup name = some text ↔
        ∃ values, (name, values) ∈ received ∧ (∀ value ∈ values, IsLegible value)
          ∧ bytesOf text = (bytesOf ", ").intercalate values)
      ∧ (∀ name, name ∈ headers.map (·.1) ↔
          ∃ values, (name, values) ∈ received ∧ ∀ value ∈ values, IsLegible value)
      ∧ (headers.map (·.1)).Nodup
      ∧ ∀ before name values after, received = before ++ (name, values) :: after →
          (¬ ∀ value ∈ values, IsLegible value) →
          headers.lookup name = none
            ∧ headers = Headers.normalize (collect (before ++ after)) := by
  intro headers
  have found := lookup_normalize_collect isMap
  refine ⟨found, ?_, Headers.nodup_normalize _, ?_⟩
  · intro name
    rw [Headers.mem_names_iff, Option.isSome_iff_exists]
    constructor
    · rintro ⟨text, here⟩
      obtain ⟨values, inside, legible, _⟩ := (found name text).mp here
      exact ⟨values, inside, legible⟩
    · rintro ⟨values, inside, legible⟩
      obtain ⟨texts, rfl⟩ := exists_texts legible
      exact ⟨_, (found name _).mpr ⟨_, inside, legible, bytesOf_intercalate ", " texts⟩⟩
  · rintro before name values after rfl illegible
    constructor
    · cases here : headers.lookup name with
      | none => rfl
      | some text =>
        obtain ⟨others, inside, legible, _⟩ := (found name text).mp here
        have same := List.inj_on_of_nodup_map isMap.distinct inside
          (List.mem_append_right before List.mem_cons_self) rfl
        obtain rfl : others = values := congrArg Prod.snd same
        exact absurd legible illegible
    · -- What has no text is passed over when the map is built.
      have passed : ∀ kept, Headers.keep kept (name, collectValues values) = kept := by
        intro kept
        rw [Headers.keep, collectValues_of_not_legible illegible]
      simp only [headers, collect, Headers.normalize_eq, List.map_append, List.map_cons,
        List.foldl_append, List.foldl_cons, passed]

/-- Two cookies are joined, though another header came between them. Of two other values of one name
the second could be read, but the first could not. -/
theorem received_headers_by_name_of_cookies :
    let lines : List (String × List UInt8) :=
      [("Set-Cookie", bytesOf "a=1"), ("X-Bin", [0xFA]), ("set-cookie", bytesOf "b=2"),
        ("x-bin", bytesOf "text")]
    let received := Received.ofLines (Reply.readLines ⟨204, lines, [], 0⟩)
    let headers := Headers.normalize (collect received)
    received.IsMap
      ∧ headers.lookup "set-cookie" = some "a=1, b=2"
      ∧ headers.lookup "x-bin" = none := by
  intro lines received headers
  have isMap : received.IsMap := Reply.isMap_readLines _
  obtain ⟨found, _, _, passed⟩ := received_headers_by_name isMap
  have shape : received = [("set-cookie", [bytesOf "a=1", bytesOf "b=2"])]
      ++ ("x-bin", [[0xFA], bytesOf "text"]) :: [("connection", [bytesOf "close"])] := by
    decide +kernel
  refine ⟨isMap, (found _ _).mpr ⟨[bytesOf "a=1", bytesOf "b=2"], ?_, ?_, ?_⟩, ?_⟩
  · simp [shape]
  · unfold IsLegible
    decide +kernel
  · decide +kernel
  · have illegible : ¬ ∀ value ∈ [[0xFA], bytesOf "text"], IsLegible value := by
      unfold IsLegible
      decide +kernel
    exact (passed _ _ _ _ shape illegible).1

end Gatehouse.Wire
