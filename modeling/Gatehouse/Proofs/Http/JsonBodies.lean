import Gatehouse.Proofs.Http.Bodies
import Gatehouse.Proofs.Json.RoundTrip

/-!
# JSON bodies

A response body is read in two places: as the data of a response when its status is good, and as the
data of an error when it is not. Both take a body that is no JSON for text, so a value that the
reader refused would come out as a string. The text of a value is never refused, if it has no
binary64 numbers in it and nests no deeper than the reader goes.
-/
namespace Gatehouse

/-! ## The text of a value as a body -/

namespace Body

variable {value : Json}

theorem ofError_print (formed : value.WellFormed) (floatless : value.isFloatless = true)
    (fits : value.depth ≤ Json.depthLimit) :
    ofError (Utf8.encode value.print) = some value := by
  have document := Json.isDocument_print formed floatless fits
  exact ofError_eq_iff.mpr (.document document.ne_nil document)

theorem decode_print (formed : value.WellFormed) (floatless : value.isFloatless = true)
    (fits : value.depth ≤ Json.depthLimit) :
    decode .json (Utf8.encode value.print) = .ok value := by
  rw [decode_json, ofError_print formed floatless fits, Option.getD_some]

end Body

/-! ## Values of a given depth -/

namespace Json

/-- A value in so many arrays, one inside the other. -/
def nested : Nat → Json → Json
  | 0, value => value
  | levels + 1, value => .array [nested levels value]

variable {value : Json}

theorem depth_nested (levels : Nat) : (nested levels value).depth = value.depth + levels := by
  induction levels with
  | zero => rfl
  | succ levels ih =>
    rw [nested, depth, depthOfItems, depthOfItems, ih, Nat.max_zero, Nat.add_assoc]

theorem isFloatless_nested (levels : Nat) (floatless : value.isFloatless = true) :
    (nested levels value).isFloatless = true := by
  induction levels with
  | zero => exact floatless
  | succ levels ih =>
    rw [nested, isFloatless, areFloatlessItems, areFloatlessItems, ih, Bool.and_self]

theorem wellFormed_nested (levels : Nat) (formed : value.WellFormed) :
    (nested levels value).WellFormed := by
  induction levels with
  | zero => exact formed
  | succ levels ih =>
    rw [nested]
    apply WellFormed.array
    intro item member
    rw [List.mem_singleton.mp member]
    exact ih

end Json

namespace Call

/-! ## Calls that end with a JSON body -/

section

variable {value : Json} {result : CallResult Json} {status : Nat}

theorem Concludes.ofJson (ends : Concludes .json (.ok (.ofJson status value)) result)
    (formed : value.WellFormed) (floatless : value.isFloatless = true)
    (fits : value.depth ≤ Json.depthLimit) :
    result = if 200 ≤ status ∧ status < 300
      then .ok ⟨value, status, Status.phrase status, [("content-type", "application/json")]⟩
      else .error ⟨s!"Request failed with status code {status}", .response, some status,
        some value, none⟩ := by
  have decoded := Body.decode_print formed floatless fits
  cases ends with
  | answered low high read =>
    rw [if_pos ⟨low, high⟩]
    have same := Except.ok.inj (decoded.symm.trans read)
    rw [same]
    rfl
  | unreadable low high unread =>
    -- There is no such body: its text is decoded.
    cases decoded.symm.trans unread
  | refused bad =>
    have data := Body.ofError_print formed floatless fits
    simp only [RawResponse.ofJson] at bad data ⊢
    rw [if_neg bad, data]

end

/-- A JSON value that is a response's body comes to the caller of a call unchanged: as the data of
the response when the status is good, which also ends the call, and as the data of the error when
the call ends with another status. So null comes as null, and never as the text of it. -/
theorem json_bodies_survive (World Failure : Type) (config : ClientConfig) (method url : String)
    (body : Option Json) (options : CallOptions) (ambient : Option String)
    (logger : Logger World Failure) (outcomes : Nat → Outcome) (now : Nat) (value : Json)
    (formed : value.WellFormed) (floatless : value.isFloatless = true) (fits : value.depth < 128)
    (status : Nat) :
    let call : Exchange (CallResult Json) := request config .json method url body options ambient
    let told := call.history outcomes now
    let n := (requestsOf told.1).length
    (∀ i < n, outcomes i = .ok (.ofJson status value) → 200 ≤ status → status < 300 →
        i + 1 = n
          ∧ told.2
            = .ok ⟨value, status, Status.phrase status, [("content-type", "application/json")]⟩)
      ∧ (outcomes (n - 1) = .ok (.ofJson status value) → ¬(200 ≤ status ∧ status < 300) →
        told.2 = .error ⟨s!"Request failed with status code {status}", .response, some status,
          some value, none⟩)
      ∧ ∀ (rest : List Outcome) (sent : List Sent) (world : World) (spare : Nat), ∃ after,
          runAlone logger ⟨call, n + spare⟩
              ⟨now, (List.range n).map outcomes ++ rest, sent, world⟩ = (some told.2, after) := by
  intro call told n
  let spare := (setupOf config method url body options ambient).retry.maxAttempts - 1
  let retries := retriesTaken spare outcomes
  have made : n = retries + 1 :=
    length_requestsOf_request config .json method url body options ambient outcomes now
  -- What the last outcome makes of the call, if it has the value for a body.
  have last : outcomes retries = .ok (.ofJson status value) →
      told.2 = if 200 ≤ status ∧ status < 300
        then .ok ⟨value, status, Status.phrase status, [("content-type", "application/json")]⟩
        else .error ⟨s!"Request failed with status code {status}", .response, some status,
          some value, none⟩ := by
    intro answer
    have ends := judge_concludes .json (outcomes retries)
    have course : told.2 = (judge .json (outcomes retries)).result :=
      congrArg Prod.snd
        (request_history config .json method url body options ambient outcomes now)
    rw [answer] at ends
    rw [course, answer]
    exact ends.ofJson formed floatless (Nat.le_of_lt_succ fits)
  refine ⟨?_, ?_, ?_⟩
  · intro i inside answer low high
    have here : i = retries := last_of_success (by omega) answer high
    rw [here] at answer
    refine ⟨by omega, ?_⟩
    rw [last answer, if_pos ⟨low, high⟩]
  · intro answer bad
    rw [made, Nat.add_sub_cancel] at answer
    rw [last answer, if_neg bad]
  · intro rest sent world spare
    exact ⟨_, runAlone_request_eq_history config .json method url body options ambient outcomes now
      logger rest sent world spare⟩

/-- The integers at both ends of their range, under keys that have to be escaped, in 127 levels:
from a server that is busy and then is not, and from one that stays so. -/
theorem json_bodies_survive_at_limits :
    let ends : Json := .object [("", .null), ("\n\"", .integer (-0x8000000000000000)),
      ("\\", .integer 0xFFFFFFFFFFFFFFFF)]
    let value := ends.nested 126
    let call : Exchange (CallResult Json) :=
      request .usual .json "GET" "/" none { CallOptions.none with retries := some 1 } none
    let busy : Outcome := .ok (.ofJson 503 value)
    let made : Outcome := .ok (.ofJson 201 value)
    value.depth = 127
      ∧ (call.history (fun i => if i = 0 then busy else made) 0).2
        = .ok ⟨value, 201, "Created", [("content-type", "application/json")]⟩
      ∧ (call.history (fun _ => busy) 0).2
        = .error ⟨"Request failed with status code 503", .response, some 503, some value,
            none⟩ := by
  intro ends value call busy made
  have depth : value.depth = 127 := Json.depth_nested 126
  have floatless : value.isFloatless = true := Json.isFloatless_nested 126 rfl
  have formed : value.WellFormed := by
    apply Json.wellFormed_nested
    apply Json.WellFormed.object (by decide)
    intro field member
    simp only [List.mem_cons, List.not_mem_nil, or_false] at member
    rcases member with rfl | rfl | rfl
    · exact .null
    · exact .integer ⟨by decide, by decide⟩
    · exact .integer ⟨by decide, by decide⟩
  have survives := fun outcomes => json_bodies_survive Unit Unit .usual "GET" "/" none
    { CallOptions.none with retries := some 1 } none .silent outcomes 0 value formed floatless
    (by omega)
  -- The first outcome is transient and there is one retry.
  have twice : (requestsOf (call.history (fun i => if i = 0 then busy else made) 0).1).length = 2 :=
    length_requestsOf_request .usual .json "GET" "/" none
      { CallOptions.none with retries := some 1 } none (fun i => if i = 0 then busy else made) 0
  refine ⟨depth, ?_, ?_⟩
  · have answered := (survives (fun i => if i = 0 then busy else made) 201).1 1
    exact (answered (by rw [twice]; decide) rfl (by decide) (by decide)).2
  · exact (survives (fun _ => busy) 503).2.1 rfl (by decide)

end Call

end Gatehouse
