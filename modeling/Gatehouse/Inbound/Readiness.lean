/-!
# Readiness of services

A service may be called once after it was found ready. Each handle on a service owns an inner
instance, which it polls when it is polled itself. A call gives that very instance to the future of
the call and leaves a clone of it in the handle; the instance is called when its future is driven
for the first time.
-/
namespace Gatehouse.Inbound

/-- What polling a service for readiness gives. -/
inductive Readiness
  | pending
  | ready
  | failed
deriving DecidableEq

/-- What is done with handles, and with the futures of calls. -/
inductive HandleStep
  | poll (handle : Nat) (answer : Readiness)
  | call (handle : Nat)
  | clone (handle : Nat)
  /-- Drives a future for the first time. Futures are counted among those that still wait for it. -/
  | drive (place : Nat)
deriving DecidableEq

/-- What an inner instance sees. -/
inductive Contact
  | polled (inner : Nat) (answer : Readiness)
  | called (inner : Nat)
  | cloned (inner copy : Nat)
deriving DecidableEq

structure Handles where
  /-- The inner instance of each handle. -/
  held : List Nat
  /-- The inner instances of the futures that were not driven yet. -/
  waiting : List Nat
  /-- The numbers of instances are below. -/
  fresh : Nat
deriving DecidableEq

namespace Handles

/-- One handle on each of so many services. -/
def opened (count : Nat) : Handles := ⟨List.range count, [], count⟩

/-- A step with a handle or a future that there is, and what an instance sees of it. -/
def step (handles : Handles) : HandleStep → Option (Handles × Contact)
  | .poll handle answer =>
    handles.held[handle]?.map fun inner => (handles, .polled inner answer)
  | .call handle =>
    handles.held[handle]?.map fun inner =>
      (⟨handles.held.set handle handles.fresh, handles.waiting ++ [inner], handles.fresh + 1⟩,
        .cloned inner handles.fresh)
  | .clone handle =>
    handles.held[handle]?.map fun inner =>
      (⟨handles.held ++ [handles.fresh], handles.waiting, handles.fresh + 1⟩,
        .cloned inner handles.fresh)
  | .drive place =>
    handles.waiting[place]?.map fun inner =>
      ({ handles with waiting := handles.waiting.eraseIdx place }, .called inner)

/-- All steps in turn, and what the instances see of them. -/
def run : List HandleStep → Handles → Option (Handles × List Contact)
  | [], handles => some (handles, [])
  | first :: rest, handles => do
    let (handles, contact) ← handles.step first
    let (handles, contacts) ← run rest handles
    some (handles, contact :: contacts)

end Handles

end Gatehouse.Inbound
