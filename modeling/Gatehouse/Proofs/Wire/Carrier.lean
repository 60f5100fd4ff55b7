import Gatehouse.Proofs.Http.Headers
import Gatehouse.Proofs.Inbound.RequestId
import Gatehouse.Wire.Transport

/-!
# Requests as they arrive

What carries a request may lose it and may change the letter case of its names, but it keeps the
values of every name that the request has, and adds none to them. The transport is such a carrier:
it lowers the names and adds only headers whose names are missing.
-/
namespace Gatehouse.Wire

open Inbound (HeaderMap Inquiry)

/-- How requests get to a service, if they do, and what becomes of its results on their way back. -/
structure Carrier (Failure Body : Type) where
  ask : Request → Except TransportError Inquiry
  tell : Except Failure (Inbound.Reply Body) → Outcome
  verbatim : ∀ {request : Request} {asked : Inquiry} {name : String}, ask request = .ok asked →
    Headers.named name request.headers ≠ [] →
    asked.headers.valuesOf (Text.lowered name) = (Headers.named name request.headers).map bytesOf

theorem legalHeader?_eq_some {header : Header} {sent : String × List UInt8}
    (legal : legalHeader? header = some sent) :
    sent = (Text.lowered header.1, bytesOf header.2) := by
  simp only [legalHeader?, HeaderValue.ofText?] at legal
  split at legal
  · split at legal
    · exact (Option.some.inj legal).symm
    · cases legal
  · cases legal

/-- The legal form of headers has the values of every name. -/
theorem valuesOf_legalHeaders {headers : List Header} {sent : HeaderMap}
    (legal : headers.mapM legalHeader? = some sent) (name : String) :
    sent.valuesOf (Text.lowered name) = (Headers.named name headers).map bytesOf := by
  induction headers generalizing sent with
  | nil =>
    cases legal
    rfl
  | cons header rest ih =>
    simp only [List.mapM_cons, Option.bind_eq_bind, Option.bind_eq_some_iff, Option.pure_def,
      Option.some.injEq] at legal
    obtain ⟨first, here, others, there, rfl⟩ := legal
    obtain rfl := legalHeader?_eq_some here
    have later := ih there
    rw [HeaderMap.valuesOf] at later
    rw [HeaderMap.valuesOf, Headers.named_cons, Text.sameName, List.filter_cons]
    split
    · rw [List.map_cons, List.map_cons, later]
    · exact later

/-- A header that is supplied leaves the values of a name that is there. -/
theorem valuesOf_supply {headers : HeaderMap} {name : String} {values : List (List UInt8)}
    (here : headers.valuesOf name = values) (some_ : values ≠ []) (other : String)
    (value : List UInt8) : HeaderMap.valuesOf (supply other value headers) name = values := by
  rw [supply]
  split
  · exact here
  next absent =>
    -- The name that is supplied is absent, and this one is not.
    have differs : (other == name) = false := by
      rw [beq_eq_false_iff_ne]
      rintro rfl
      apply some_
      rw [← here, HeaderMap.valuesOf, List.map_eq_nil_iff, List.filter_eq_nil_iff]
      exact fun header member same => absent (List.any_eq_true.mpr ⟨header, member, same⟩)
    rw [HeaderMap.valuesOf] at here
    rw [HeaderMap.valuesOf, List.filter_append, List.filter_cons, differs]
    simpa using here

theorem valuesOf_outgoing {headers : HeaderMap} {name : String} {values : List (List UInt8)}
    (here : headers.valuesOf name = values) (some_ : values ≠ []) (agent : String)
    (request : Request) (url : Url) :
    HeaderMap.valuesOf (outgoing agent request url headers).headers name = values := by
  have completed := valuesOf_supply (valuesOf_supply (valuesOf_supply here some_ "accept"
    (bytesOf "*/*")) some_ "user-agent" (bytesOf agent)) some_ "host"
    (Utf8.encode url.hostAndPort)
  rw [outgoing]
  split
  · exact valuesOf_supply completed some_ _ _
  · exact completed

theorem legal_of_resolve {request : Request} {url : Url} {headers : HeaderMap}
    (resolved : resolve request = .ok (url, headers)) :
    request.headers.mapM legalHeader? = some headers := by
  -- Headers are looked at behind the address and its host, and before the scheme.
  rw [resolve] at resolved
  split at resolved
  next => cases resolved
  next =>
    split at resolved
    next => cases resolved
    next =>
      split at resolved
      next => cases resolved
      next headers legal =>
        dsimp only at resolved
        split at resolved
        next =>
          cases resolved
          exact legal
        next => cases resolved

/-- What arrives of a request that can be made. -/
def arrival (agent : String) (request : Request) : Except TransportError Inquiry :=
  match resolve request with
  | .error error => .error error
  | .ok (url, headers) =>
    let sent := outgoing agent request url headers
    .ok ⟨sent.method, String.ofList (Uri.path sent.target.toList), sent.headers⟩

theorem arrival_verbatim {agent name : String} {request : Request} {asked : Inquiry}
    (arrives : arrival agent request = .ok asked)
    (named : Headers.named name request.headers ≠ []) :
    asked.headers.valuesOf (Text.lowered name)
      = (Headers.named name request.headers).map bytesOf := by
  rw [arrival] at arrives
  split at arrives
  next => cases arrives
  next url headers resolved =>
    obtain rfl := Except.ok.inj arrives
    have sent := valuesOf_legalHeaders (legal_of_resolve resolved) name
    refine valuesOf_outgoing sent ?_ agent request url
    exact fun none => named (List.map_eq_nil_iff.mp none)

/-- The transport as a carrier. -/
def Carrier.ofTransport {Failure Body : Type} (agent : String)
    (tell : Except Failure (Inbound.Reply Body) → Outcome) : Carrier Failure Body where
  ask := arrival agent
  tell := tell
  verbatim := arrival_verbatim

end Gatehouse.Wire
