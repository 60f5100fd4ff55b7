import Gatehouse.Http.Transport
import Gatehouse.Log.Logger

/-!
# Exchanges

A task as the steps it asks for: it logs, reads the clock, lets time pass, lets others go first, or
sends a request and goes on with the outcome. What the steps do is up to who runs them, so an
exchange can be run alone, among others, or on a list of outcomes.
-/
namespace Gatehouse

/-- What a task logs: under which label, and under which request id. -/
structure Remark where
  label : String
  requestId : Option String
  note : Note

inductive Exchange (Result : Type)
  | finish (result : Result)
  | remark (remark : Remark) (next : Exchange Result)
  | clock (next : Nat → Exchange Result)
  | pause (span : Span) (next : Exchange Result)
  | giveWay (next : Exchange Result)
  | send (request : Request) (next : Outcome → Exchange Result)

namespace Exchange

/-- Goes on with another exchange. -/
def bind {α β : Type} : Exchange α → (α → Exchange β) → Exchange β
  | .finish result, next => next result
  | .remark entry rest, next => .remark entry (rest.bind next)
  | .clock rest, next => .clock fun moment => (rest moment).bind next
  | .pause span rest, next => .pause span (rest.bind next)
  | .giveWay rest, next => .giveWay (rest.bind next)
  | .send request rest, next => .send request fun outcome => (rest outcome).bind next

instance : Monad Exchange where
  pure := .finish
  bind := bind

theorem bind_assoc {α β γ : Type} (exchange : Exchange α) (f : α → Exchange β)
    (g : β → Exchange γ) : (exchange.bind f).bind g = exchange.bind fun a => (f a).bind g := by
  induction exchange with
  | finish => rfl
  | remark _ _ ih => simp [bind, ih]
  | clock _ ih => simp [bind, ih]
  | pause _ _ ih => simp [bind, ih]
  | giveWay _ ih => simp [bind, ih]
  | send _ _ ih => simp [bind, ih]

end Exchange

end Gatehouse
