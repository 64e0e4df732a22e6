import ServiceBus.Bus

/-
ServiceBus.Flow.Lifecycle — putting mediators and endpoints into use and taking
them out again.

A tree of mediators is put into use from left to right, and the first failure
ends that. Taking it out of use never fails.
-/
namespace ServiceBus

namespace Bus

/-- Puts an endpoint into use; the key of an indirect one must lead somewhere. -/
def initEndpoint (bus : Bus) (name : String) : Except Failure Unit × Bus :=
  match bus.endpoint name with
  | .error e => (.error e, bus)
  | .ok e =>
    match bus.endpoints.concrete e with
    | .error e => (.error e, bus)
    | .ok _ =>
      (.ok (), { bus with
        endpoints := bus.endpoints.modify name fun e => { e with initialized := true } })

/-- Takes an endpoint out of use. -/
def destroyEndpoint (bus : Bus) (name : String) : Bus :=
  { bus with endpoints := bus.endpoints.modify name Endpoint.destroy }

/-- Makes an endpoint forget its health. -/
def resetEndpoint (bus : Bus) (name : String) : Bus := bus.updateHealth name fun _ => {}

end Bus

namespace Mediator

mutual

/-- Puts a mediator into use. -/
def init (bus : Bus) : Mediator → Except Failure Unit × Bus
  | .recorder r => (.ok (), bus.enter ("init " ++ r.name))
  | .editor .. => (.ok (), bus)
  | .call c => match c.endpoint with
    | some name => bus.initEndpoint name
    | none => (.ok (), bus)
  | .sequence _ _ children _ => initAll bus children
  | .scatter _ targets => initTargets bus targets

/-- Puts mediators into use until one fails. -/
def initAll (bus : Bus) : List Mediator → Except Failure Unit × Bus
  | [] => (.ok (), bus)
  | m :: rest => match init bus m with
    | (.ok (), bus) => initAll bus rest
    | (.error e, bus) => (.error e, bus)

/-- Puts the targets of a scatter-gather into use until one fails. -/
def initTargets (bus : Bus) : List (Option String × Mediator) → Except Failure Unit × Bus
  | [] => (.ok (), bus)
  | (_, m) :: rest => match init bus m with
    | (.ok (), bus) => initTargets bus rest
    | (.error e, bus) => (.error e, bus)

end

mutual

/-- Takes a mediator out of use. -/
def destroy (bus : Bus) : Mediator → Bus
  | .recorder r => bus.enter ("destroy " ++ r.name)
  | .editor .. => bus
  | .call c => match c.endpoint with
    | some name => bus.destroyEndpoint name
    | none => bus
  | .sequence _ _ children _ => destroyAll bus children
  | .scatter _ targets => destroyTargets bus targets

/-- Takes mediators out of use. -/
def destroyAll (bus : Bus) : List Mediator → Bus
  | [] => bus
  | m :: rest => destroyAll (destroy bus m) rest

/-- Takes the targets of a scatter-gather out of use. -/
def destroyTargets (bus : Bus) : List (Option String × Mediator) → Bus
  | [] => bus
  | (_, m) :: rest => destroyTargets (destroy bus m) rest

end

end Mediator

end ServiceBus
