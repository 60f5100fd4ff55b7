import Gatehouse.Proofs.Http.Deeds

/-!
# Tasks that work through calls

A task may be answered by somebody who looks at its requests. What it does is then its history on
the answers that it got, so what holds of every history holds of it. A task that sends nothing but
through calls, and speaks under the id that is ambient, bears that id in all that it does.
-/
namespace Gatehouse

variable {Result : Type}

/-- The deeds of a task whose requests are answered one by one, counted from a number, and its
result. -/
def Exchange.dialogue (peer : Nat → Request → Outcome) :
    Exchange Result → Nat → Nat → List Deed × Result
  | .finish result, _, _ => ([], result)
  | .remark entry next, number, now =>
    let told := next.dialogue peer number now
    (.said entry :: told.1, told.2)
  | .clock next, number, now => (next now).dialogue peer number now
  | .pause span next, number, now =>
    let told := next.dialogue peer number (now + span.timerMillis)
    (.paused span :: told.1, told.2)
  | .giveWay next, number, now =>
    let told := next.dialogue peer number now
    (.gaveWay :: told.1, told.2)
  | .send request next, number, now =>
    let told := (next (peer number request)).dialogue peer (number + 1) now
    (.sent request :: told.1, told.2)

/-- A task in a dialogue does what it does on the answers that it gets. -/
theorem Exchange.dialogue_eq_history (peer : Nat → Request → Outcome) (task : Exchange Result)
    (number now : Nat) :
    ∃ outcomes, task.dialogue peer number now = task.history outcomes now := by
  induction task generalizing number now with
  | finish result => exact ⟨fun _ => Scene.exhausted, rfl⟩
  | remark entry next ih =>
    obtain ⟨outcomes, same⟩ := ih number now
    exact ⟨outcomes, by rw [dialogue, history, same]⟩
  | clock next ih => exact ih now number now
  | pause span next ih =>
    obtain ⟨outcomes, same⟩ := ih number (now + span.timerMillis)
    exact ⟨outcomes, by rw [dialogue, history_pause, same]⟩
  | giveWay next ih =>
    obtain ⟨outcomes, same⟩ := ih number now
    exact ⟨outcomes, by rw [dialogue, history, same]⟩
  | send request next ih =>
    obtain ⟨outcomes, same⟩ := ih (peer number request) (number + 1) now
    -- The first answer is that of the peer, and the rest are those of what follows.
    refine ⟨fun i => i.casesOn (peer number request) outcomes, ?_⟩
    rw [dialogue, history, same]
    rfl

/-- A task that speaks under an ambient id and sends nothing but through calls in its scope, with
any headers, and goes on with their results as it likes. -/
inductive Exchange.WorksThroughCalls (ambient : Option String) : Exchange Result → Prop
  | finish (result : Result) : WorksThroughCalls ambient (.finish result)
  | remark {entry : Remark} {next : Exchange Result} :
      entry.requestId = ambient → WorksThroughCalls ambient next →
      WorksThroughCalls ambient (.remark entry next)
  | clock {next : Nat → Exchange Result} :
      (∀ moment, WorksThroughCalls ambient (next moment)) → WorksThroughCalls ambient (.clock next)
  | pause (span : Span) {next : Exchange Result} :
      WorksThroughCalls ambient next → WorksThroughCalls ambient (.pause span next)
  | giveWay {next : Exchange Result} :
      WorksThroughCalls ambient next → WorksThroughCalls ambient (.giveWay next)
  | call {α : Type} (config : ClientConfig) (decoder : Json.Decoder α) (method url : String)
      (payload : Call.Payload) (options : CallOptions) {next : CallResult α → Exchange Result} :
      (∀ result, WorksThroughCalls ambient (next result)) →
      WorksThroughCalls ambient
        ((Call.requestWith config decoder method url payload options ambient).bind next)

/-- In a scope all requests of such a task carry the id of the scope, whatever its calls say. -/
theorem Exchange.WorksThroughCalls.bears {id : String} {task : Exchange Result}
    (works : task.WorksThroughCalls (some id)) :
    task.OnlyDoes (Deed.Bears (some id) (some id)) := by
  induction works with
  | finish result => trivial
  | remark speaks _ ih => exact ⟨speaks, ih⟩
  | clock _ ih => exact ih
  | pause span _ ih => exact ⟨trivial, ih⟩
  | giveWay _ ih => exact ⟨trivial, ih⟩
  | call config decoder method url payload options _ ih =>
    -- The id of the scope comes before all that the call has among its headers.
    exact (Call.requestWith_bears config decoder method url payload options (some id)).bind ih

end Gatehouse
