import Gatehouse.Inbound.Stub
import Gatehouse.Proofs.Http.Conversation
import Gatehouse.Proofs.Inbound.Layers
import Gatehouse.Proofs.Wire.Carrier

/-!
# Chains of services

A service may work through calls that another service answers, and so on along a chain of any
length. The first service picks an id. Every call that is made under an id sends that id alone, what
carries a request keeps it, and a service that is sent it takes it over; so the whole chain is under
the id of its first service, however often requests are sent again and wherever they are lost.
-/
namespace Gatehouse.Inbound

open Wire (Carrier)

variable {Failure Body : Type}

/-- A handler in one layer at least. In the scope of a request it sends nothing but through
calls. -/
structure Service (Failure Body : Type) where
  outermostLogs : Bool
  othersLog : List Bool
  handler : Handler Failure Body
  works : ∀ id asked, (handler (some id) asked).WorksThroughCalls (some id)

namespace Service

/-- The layers around the handler below the outermost, as a request finds them. -/
def others (service : Service Failure Body) (fresh : Nat → String) : List Layer :=
  service.othersLog.mapIdx fun depth logs => ⟨logs, fresh (depth + 1)⟩

def layers (service : Service Failure Body) (fresh : Nat → String) : List Layer :=
  ⟨service.outermostLogs, fresh 0⟩ :: service.others fresh

end Service

/-! ## Stubs work through calls -/

namespace Stub

variable {α Result : Type} {ambient : Option String}

theorem logLines_works (lines : List String) {next : Exchange Result}
    (works : next.WorksThroughCalls ambient) :
    (logLines ambient lines next).WorksThroughCalls ambient := by
  induction lines with
  | nil => exact works
  | cons line rest ih => exact .remark rfl (.giveWay ih)

theorem rest_works (sleep : Option Span) {next : Exchange Result}
    (works : next.WorksThroughCalls ambient) :
    (Stub.rest sleep next).WorksThroughCalls ambient := by
  cases sleep with
  | none => exact works
  | some span => exact .pause span works

/-- Whether a stub makes no call of its own but one through a client. -/
def CallsOut (stub : Stub (CallResult α)) : Prop :=
  ∀ outbound, stub.outbound = some outbound →
    ∃ config decoder method url payload options,
      outbound = Call.requestWith config decoder method url payload options

theorem callOut_works {stub : Stub (CallResult α)} (calls : stub.CallsOut)
    {next : Option (CallResult α) → Exchange Result}
    (works : ∀ shown, (next shown).WorksThroughCalls ambient) :
    ((stub.callOut ambient).bind next).WorksThroughCalls ambient := by
  rw [callOut]
  cases outbound : stub.outbound with
  | none => exact works none
  | some call =>
    obtain ⟨config, decoder, method, url, payload, options, rfl⟩ := calls call outbound
    rw [Exchange.bind_assoc]
    exact .call config decoder method url payload options fun result => works (some result)

theorem handler_works {stub : Stub (CallResult α)} (calls : stub.CallsOut) (asked : Inquiry) :
    (stub.handler ambient asked).WorksThroughCalls ambient := by
  refine logLines_works stub.lines (callOut_works calls fun shown => rest_works stub.sleep ?_)
  cases stub.failure with
  | some message => exact .finish _
  | none => exact .finish _

end Stub

/-! ## Runs of chains -/

/-- What decides a run besides the services, wherever a path of requests leads: the ids that layers
would make, the moment, what is ambient there, how a request gets there, and what answers it beyond
the last service. A path has the number of its last request first. -/
structure Surroundings (Failure Body : Type) where
  fresh : List Nat → Nat → String
  random : ∀ path depth, isRandomUuid (fresh path depth) = true
  moment : List Nat → Nat
  ambient : List Nat → Option String
  carrier : List Nat → Carrier Failure Body
  beyond : List Nat → Inquiry → Except Failure (Reply Body)

/-- A request that was served: the layers that it went through, all that was done for it, and the
result. -/
structure Visit (Failure Body : Type) where
  layers : List Layer
  asked : Inquiry
  deeds : List Deed
  result : Except Failure (Reply Body)

/-- What becomes of a request on its way to what serves it and back. -/
def passOn (carrier : Carrier Failure Body)
    (served : Inquiry → List (Visit Failure Body) × Except Failure (Reply Body))
    (request : Request) : List (Visit Failure Body) × Outcome :=
  match carrier.ask request with
  | .error error => ([], .error error)
  | .ok asked => ((served asked).1, carrier.tell (served asked).2)

/-- The run of a service whose requests are answered by a peer. -/
def Service.attend (service : Service Failure Body) (around : Surroundings Failure Body)
    (path : List Nat) (peer : Nat → Request → Outcome) (asked : Inquiry) : Visit Failure Body :=
  let layers := service.layers (around.fresh path)
  let run := (layered layers service.handler (around.ambient path) asked).dialogue peer 0
    (around.moment path)
  ⟨layers, asked, run.1, run.2⟩

/-- The visits of a chain of services, that of the first service and then those that its requests
lead to, and the result. -/
def serve (around : Surroundings Failure Body) : List (Service Failure Body) → List Nat → Inquiry →
    List (Visit Failure Body) × Except Failure (Reply Body)
  | [], path, asked => ([], around.beyond path asked)
  | service :: further, path, asked =>
    let answer (number : Nat) : Request → List (Visit Failure Body) × Outcome :=
      passOn (around.carrier (number :: path)) (serve around further (number :: path))
    let visit := service.attend around path (fun number request => (answer number request).2) asked
    (visit :: (requestsOf visit.deeds).zipIdx.flatMap fun sent => (answer sent.2 sent.1).1,
      visit.result)

/-- Whether a visit is under one id: all layers serve its request under it, every record and every
request bears it, and so does the reply. -/
structure Visit.IsUnder (id : String) (visit : Visit Failure Body) : Prop where
  layers : ∀ outermost, outermost <+: visit.layers → outermost ≠ [] →
    ServeUnder Failure Body id outermost visit.asked
  deeds : ∀ deed ∈ visit.deeds, deed.Bears (some id) (some id)
  reply : ∀ reply, visit.result = .ok reply →
    reply.headers.valuesOf Headers.requestId = [bytesOf id]

/-- A visit is a history of the handler in its layers. -/
theorem Service.attend_eq_history (service : Service Failure Body)
    (around : Surroundings Failure Body) (path : List Nat) (peer : Nat → Request → Outcome)
    (asked : Inquiry) :
    let visit := service.attend around path peer asked
    ∃ outcomes, (visit.deeds, visit.result)
      = (layered visit.layers service.handler (around.ambient path) asked).history outcomes
          (around.moment path) :=
  Exchange.dialogue_eq_history peer
    (layered (service.layers (around.fresh path)) service.handler (around.ambient path) asked) 0
    (around.moment path)

/-- A service is under the id that its outermost layer picks. -/
theorem Service.attend_isUnder (service : Service Failure Body)
    (around : Surroundings Failure Body) (path : List Nat) (peer : Nat → Request → Outcome)
    {asked : Inquiry} {id : String} (clean : IsClean id)
    (picks : (sentId? asked.headers).getD (around.fresh path 0) = id) :
    (service.attend around path peer asked).IsUnder id := by
  let visit := service.attend around path peer asked
  -- The outermost layer picks the id, whatever layers there are below it.
  have serveUnder : ∀ others, ServeUnder Failure Body id
      (⟨service.outermostLogs, around.fresh path 0⟩ :: others) asked :=
    fun others => layers_serveUnder clean _ others asked picks
  obtain ⟨headers, _, passes⟩ : ServeUnder Failure Body id visit.layers asked := serveUnder _
  obtain ⟨outcomes, told⟩ := service.attend_eq_history around path peer asked
  have passed := passes service.handler (around.ambient path) outcomes (around.moment path)
  rw [← told] at passed
  constructor
  case layers =>
    intro outermost begins nonempty
    cases outermost with
    | nil => exact absurd rfl nonempty
    | cons layer others =>
      obtain ⟨rfl, _⟩ := List.cons_prefix_cons.mp begins
      exact serveUnder others
  case deeds => exact passed.bears ((service.works id _).bears.history outcomes _)
  case reply => exact fun reply replied => passed.stamps replied

theorem arrives_of_mem_passOn {carrier : Carrier Failure Body}
    {served : Inquiry → List (Visit Failure Body) × Except Failure (Reply Body)}
    {request : Request} {visit : Visit Failure Body}
    (member : visit ∈ (passOn carrier served request).1) :
    ∃ asked, carrier.ask request = .ok asked ∧ visit ∈ (served asked).1 := by
  rw [passOn] at member
  split at member
  next => cases member
  next asked arrives => exact ⟨asked, arrives, member⟩

/-- A service that is asked by a request that bears an id picks that id. -/
theorem picks_of_bears {carrier : Carrier Failure Body} {request : Request} {asked : Inquiry}
    {id : String} (clean : IsClean id) (bears : (Deed.sent request).Bears (some id) (some id))
    (arrives : carrier.ask request = .ok asked) (fresh : String) :
    (sentId? asked.headers).getD fresh = id := by
  have named : Headers.named Headers.requestId request.headers = [id] := bears
  have values := carrier.verbatim arrives (named ▸ List.cons_ne_nil id [])
  -- Names arrive in lower case, and this one is in lower case.
  have lower : Text.lowered Headers.requestId = Headers.requestId := by decide
  rw [lower, named] at values
  rw [sentId?_of_valuesOf clean values, Option.getD_some]

/-- Along a chain every visit is under the id that the first service picks. -/
theorem serve_isUnder (around : Surroundings Failure Body) (services : List (Service Failure Body))
    (path : List Nat) {asked : Inquiry} {id : String} (clean : IsClean id)
    (picks : (sentId? asked.headers).getD (around.fresh path 0) = id) :
    ∀ visit ∈ (serve around services path asked).1, visit.IsUnder id := by
  -- On the services: the requests of the first bear the id, so the next picks it as well.
  induction services generalizing path asked with
  | nil => exact fun _ member => nomatch member
  | cons service further ih =>
    refine List.forall_mem_cons.mpr ⟨service.attend_isUnder around path _ clean picks, ?_⟩
    intro visit member
    obtain ⟨sent, numbered, inside⟩ := List.mem_flatMap.mp member
    have bears := (service.attend_isUnder around path _ clean picks).deeds _
      (sent_of_mem_requestsOf (List.fst_mem_of_mem_zipIdx numbered))
    obtain ⟨next, arrives, served⟩ := arrives_of_mem_passOn inside
    exact ih _ (picks_of_bears clean bears arrives _) visit served

/-- A chain of services is under one id, the one that its first service uses: at every service and
in all of its layers, in every request that is sent, again or for the first time, and in every
reply, the caller's included. -/
theorem chain_is_under_one_id (around : Surroundings Failure Body) (first : Service Failure Body)
    (further : List (Service Failure Body)) (asked : Inquiry) :
    ∃ id, Uses asked.headers (around.fresh [] 0) id ∧
      let run := serve around (first :: further) [] asked
      (∀ visit ∈ run.1, visit.IsUnder id)
      ∧ ∀ reply, run.2 = .ok reply → reply.headers.valuesOf Headers.requestId = [bytesOf id] := by
  have uses := uses_sentId? asked.headers (around.fresh [] 0)
  have clean := uses.isClean (around.random [] 0)
  have under := serve_isUnder around (first :: further) [] clean rfl
  exact ⟨_, uses, under, (under _ List.mem_cons_self).reply⟩

/-- The front is asked with an id between blanks and calls the back with ids of its own. Its first
request is lost, and the second arrives: both bear the id of the caller. -/
theorem chain_is_under_one_id_retrying :
    let options : CallOptions :=
      { CallOptions.none with
        headers := [("X-Request-ID", "own"), ("x-request-id", "other")], retries := some 1 }
    let call : Outbound (CallResult Json) :=
      Call.requestWith .usual .json "GET" "http://[::1]/back" .nothing options
    let front : Stub (CallResult Json) := ⟨["front"], some call, none, none, 200, []⟩
    let back : Stub (CallResult Json) :=
      ⟨["back"], none, none, none, 200, [(Headers.requestId, bytesOf "mine")]⟩
    let tell : Except String (Reply (Sighting (CallResult Json))) → Outcome := fun _ =>
      .ok (.ofJson 200 .null)
    let around : Surroundings String (Sighting (CallResult Json)) :=
      { fresh := fun _ _ => "123e4567-e89b-42d3-a456-426614174000"
        random := fun _ _ => by decide +kernel
        moment := fun _ => 0
        ambient := fun _ => none
        carrier := fun path =>
          if path = [0] then
            ⟨fun _ => .error (.network "down" none), tell, fun arrives => nomatch arrives⟩
          else .ofTransport "agent" tell
        beyond := fun _ _ => .error "nobody" }
    let first : Service String (Sighting (CallResult Json)) :=
      ⟨false, [true], front.handler, fun _ => Stub.handler_works fun _ same =>
        ⟨_, _, _, _, _, _, (Option.some.inj same).symm⟩⟩
    let second : Service String (Sighting (CallResult Json)) :=
      ⟨true, [], back.handler, fun _ => Stub.handler_works fun _ same => nomatch same⟩
    let run := serve around [first, second] []
      ⟨"GET", "/", [(Headers.requestId, bytesOf " req-1 ")]⟩
    (run.1.map fun visit => (requestsOf visit.deeds).length) = [2, 0]
      ∧ ∀ visit ∈ run.1, ∀ request ∈ requestsOf visit.deeds,
        Headers.named Headers.requestId request.headers = ["req-1"] := by
  intro options call front back tell around first second run
  refine ⟨by decide +kernel, ?_⟩
  have taken : sentId? [(Headers.requestId, bytesOf " req-1 ")] = some "req-1" := by decide +kernel
  obtain ⟨id, uses, under, _⟩ := chain_is_under_one_id around first [second]
    ⟨"GET", "/", [(Headers.requestId, bytesOf " req-1 ")]⟩
  obtain rfl : id = "req-1" := by rw [uses.eq, taken, Option.getD_some]
  intro visit member request sent
  exact (under visit member).deeds _ (sent_of_mem_requestsOf sent)

end Gatehouse.Inbound
