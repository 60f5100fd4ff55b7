import Gatehouse.Http.Client
import Gatehouse.Proofs.Http.Headers
import Gatehouse.Proofs.Http.History

/-!
# What a task can do

Facts about every deed of a task, whatever outcomes it is given, are read off the task itself. A
call bears one request id in all it does: it speaks under the id of its scope and sends no other id
than the one its requests carry. It never looks at the clock, so it does the same at any time.
-/
namespace Gatehouse

variable {Result : Type}

namespace Exchange

/-- Whatever outcomes a task is given and whenever it runs, its deeds are of a kind. -/
def OnlyDoes (kind : Deed → Prop) : Exchange Result → Prop
  | .finish _ => True
  | .remark entry next => kind (.said entry) ∧ next.OnlyDoes kind
  | .clock next => ∀ moment, (next moment).OnlyDoes kind
  | .pause span next => kind (.paused span) ∧ next.OnlyDoes kind
  | .giveWay next => kind .gaveWay ∧ next.OnlyDoes kind
  | .send request next => kind (.sent request) ∧ ∀ outcome, (next outcome).OnlyDoes kind

/-- A task that never looks at the clock. -/
def IsTimeless : Exchange Result → Prop
  | .finish _ => True
  | .remark _ next => next.IsTimeless
  | .clock _ => False
  | .pause _ next => next.IsTimeless
  | .giveWay next => next.IsTimeless
  | .send _ next => ∀ outcome, (next outcome).IsTimeless

theorem OnlyDoes.history {kind : Deed → Prop} {task : Exchange Result}
    (only : task.OnlyDoes kind) (outcomes : Nat → Outcome) (now : Nat) :
    ∀ deed ∈ (task.history outcomes now).1, kind deed := by
  induction task generalizing outcomes now with
  | finish result => exact fun _ member => nomatch member
  | remark entry next ih => exact List.forall_mem_cons.mpr ⟨only.1, ih only.2 outcomes now⟩
  | clock next ih => exact ih now (only now) outcomes now
  | pause span next ih =>
    rw [history_pause]
    exact List.forall_mem_cons.mpr ⟨only.1, ih only.2 outcomes _⟩
  | giveWay next ih => exact List.forall_mem_cons.mpr ⟨only.1, ih only.2 outcomes now⟩
  | send request next ih =>
    exact List.forall_mem_cons.mpr ⟨only.1, ih _ (only.2 _) _ now⟩

theorem OnlyDoes.imp {kind other : Deed → Prop} {task : Exchange Result}
    (only : task.OnlyDoes kind) (implies : ∀ deed, kind deed → other deed) :
    task.OnlyDoes other := by
  induction task with
  | finish result => trivial
  | remark entry next ih => exact ⟨implies _ only.1, ih only.2⟩
  | clock next ih => exact fun moment => ih moment (only moment)
  | pause span next ih => exact ⟨implies _ only.1, ih only.2⟩
  | giveWay next ih => exact ⟨implies _ only.1, ih only.2⟩
  | send request next ih => exact ⟨implies _ only.1, fun outcome => ih outcome (only.2 outcome)⟩

theorem OnlyDoes.bind {kind : Deed → Prop} {α β : Type} {task : Exchange α} {next : α → Exchange β}
    (only : task.OnlyDoes kind) (later : ∀ result, (next result).OnlyDoes kind) :
    (task.bind next).OnlyDoes kind := by
  induction task with
  | finish result => exact later result
  | remark entry rest ih => exact ⟨only.1, ih only.2⟩
  | clock rest ih => exact fun moment => ih moment (only moment)
  | pause span rest ih => exact ⟨only.1, ih only.2⟩
  | giveWay rest ih => exact ⟨only.1, ih only.2⟩
  | send request rest ih => exact ⟨only.1, fun outcome => ih outcome (only.2 outcome)⟩

theorem IsTimeless.history {task : Exchange Result} (timeless : task.IsTimeless)
    (outcomes : Nat → Outcome) (now later : Nat) :
    task.history outcomes now = task.history outcomes later := by
  induction task generalizing outcomes now later with
  | finish result => rfl
  | remark entry next ih => rw [Exchange.history, Exchange.history, ih timeless outcomes now later]
  | clock next => exact absurd timeless id
  | pause span next ih => rw [history_pause, history_pause, ih timeless outcomes _ (later + _)]
  | giveWay next ih => rw [Exchange.history, Exchange.history, ih timeless outcomes now later]
  | send request next ih =>
    rw [Exchange.history, Exchange.history, ih _ (timeless _) _ now later]

end Exchange

/-- A deed under a request id: what is said bears the id of the scope, and what is sent carries the
one for requests, or none. -/
def Deed.Bears (ambient carried : Option String) : Deed → Prop
  | .said remark => remark.requestId = ambient
  | .sent request => Headers.named Headers.requestId request.headers = carried.toList
  | .paused _ => True
  | .gaveWay => True

namespace Call

variable {α : Type}

theorem announce_onlyDoes {kind : Deed → Prop} {setup : Setup} {next : Exchange Result}
    (speaks : ∀ note, kind (.said ⟨label, setup.requestId, note⟩)) (only : next.OnlyDoes kind)
    (attempt : Nat) (outcome : Outcome) : (announce setup attempt outcome next).OnlyDoes kind := by
  unfold announce
  split
  · exact ⟨speaks _, only⟩
  · exact only

theorem announce_isTimeless {next : Exchange Result} (timeless : next.IsTimeless) (setup : Setup)
    (attempt : Nat) (outcome : Outcome) : (announce setup attempt outcome next).IsTimeless := by
  unfold announce
  split
  · exact timeless
  · exact timeless

/-- Attempts speak under the id of the call, send its request and pause, and nothing else. -/
theorem attemptFrom_onlyDoes {kind : Deed → Prop} {setup : Setup} (decoder : Json.Decoder α)
    (speaks : ∀ note, kind (.said ⟨label, setup.requestId, note⟩))
    (sends : kind (.sent setup.request)) (pauses : ∀ span, kind (.paused span))
    (spare attempt : Nat) : (attemptFrom setup decoder spare attempt).OnlyDoes kind := by
  -- On the attempts that are left: the last one gives up where the others may pause and go on.
  induction spare generalizing attempt with
  | zero =>
    rw [attemptFrom]
    refine ⟨speaks _, sends, fun outcome => announce_onlyDoes speaks ?_ attempt outcome⟩
    cases judge decoder outcome with
    | success response => trivial
    | failure failure cause => exact ⟨speaks _, speaks _, trivial⟩
  | succ spare ih =>
    rw [attemptFrom]
    refine ⟨speaks _, sends, fun outcome => announce_onlyDoes speaks ?_ attempt outcome⟩
    cases judge decoder outcome with
    | success response => trivial
    | failure failure cause =>
      refine ⟨speaks _, ?_⟩
      cases failure.isRetryable with
      | true => exact ⟨speaks _, pauses _, ih (attempt + 1)⟩
      | false => exact ⟨speaks _, trivial⟩

theorem attemptFrom_isTimeless (setup : Setup) (decoder : Json.Decoder α) (spare attempt : Nat) :
    (attemptFrom setup decoder spare attempt).IsTimeless := by
  induction spare generalizing attempt with
  | zero =>
    rw [attemptFrom]
    refine fun outcome => announce_isTimeless ?_ setup attempt outcome
    cases judge decoder outcome with
    | success response => trivial
    | failure failure cause => trivial
  | succ spare ih =>
    rw [attemptFrom]
    refine fun outcome => announce_isTimeless ?_ setup attempt outcome
    cases judge decoder outcome with
    | success response => trivial
    | failure failure cause =>
      simp only [say, Exchange.IsTimeless]
      split
      · exact ih (attempt + 1)
      · trivial

section

variable (config : ClientConfig) (decoder : Json.Decoder α) (method url : String)
  (payload : Payload) (options : CallOptions) (ambient : Option String)

/-- A call speaks under the id of its scope; its requests carry that id, or else the last one among
its own headers. -/
theorem requestWith_bears :
    (requestWith config decoder method url payload options ambient).OnlyDoes
      (Deed.Bears ambient
        (ambient.or (Headers.named Headers.requestId options.headers).getLast?)) := by
  have calls : ∀ body, (request config decoder method url body options ambient).OnlyDoes
      (Deed.Bears ambient
        (ambient.or (Headers.named Headers.requestId options.headers).getLast?)) := by
    intro body
    apply attemptFrom_onlyDoes
    case speaks => exact fun note => rfl
    case sends => exact Headers.named_merge options.headers ambient
    case pauses => exact fun span => trivial
  cases payload with
  | nothing => exact calls none
  | value body => exact calls (some body)
  | unserializable reason => exact ⟨rfl, trivial⟩

theorem requestWith_isTimeless :
    (requestWith config decoder method url payload options ambient).IsTimeless := by
  cases payload with
  | nothing => exact attemptFrom_isTimeless _ decoder _ 1
  | value body => exact attemptFrom_isTimeless _ decoder _ 1
  | unserializable reason => trivial

end

end Call

end Gatehouse
