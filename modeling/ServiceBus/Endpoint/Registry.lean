import ServiceBus.Endpoint.Basic

/-
ServiceBus.Endpoint.Registry — the endpoints by name.

An indirect endpoint stands for the one registered under its key. Resolution
follows keys for at most `depth` look-ups, so a cycle is a configuration fault
and not an endless search.
-/
namespace ServiceBus

/-- The registered endpoints by name. -/
abbrev Registry := Dict Endpoint

namespace Registry

/-- The longest chain of keys that is followed. -/
def depth : Nat := 8

/-- Registers an endpoint under its name. -/
def register (r : Registry) (e : Endpoint) : Except Failure Registry :=
  if r.contains e.name then .error (.configuration (.duplicateEndpoint e.name))
  else .ok (r.insert e.name e)

/-- Follows keys from `current` for a number of look-ups; `key` is where the
search began. -/
def follow (r : Registry) (key : String) : Nat → String → Except Failure Endpoint
  | 0, _ => .error (.configuration (.indirectionTooDeep key))
  | n + 1, current =>
    match r.get? current with
    | none => .error (.unknownEndpoint current)
    | some e =>
      match e.kind with
      | .indirect next => follow r key n next
      | _ => .ok e

/-- The endpoint that a key stands for, with indirection followed. -/
def resolve (r : Registry) (key : String) : Except Failure Endpoint := r.follow key depth key

/-- The endpoint that an endpoint stands for: itself, unless it is indirect. -/
def concrete (r : Registry) (e : Endpoint) : Except Failure Endpoint :=
  match e.kind with
  | .indirect key => r.resolve key
  | _ => .ok e

/-- Registers the entries of a configuration in order, then checks that every
key leads to an endpoint. -/
def ofEntries (entries : List EndpointEntry) : Except Failure Registry := do
  let r ← entries.foldlM (fun (r : Registry) entry => do r.register (← Endpoint.ofEntry entry)) ∅
  entries.forM fun entry => match entry.key with
    | some key => do
      let _ ← r.resolve key
    | none => pure ()
  return r

end Registry

end ServiceBus
