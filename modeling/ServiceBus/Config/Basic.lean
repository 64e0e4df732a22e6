import ServiceBus.Config.Logging
import ServiceBus.Endpoint.Defaults
import ServiceBus.Endpoint.Entry
import ServiceBus.Aggregation.Config

/-
ServiceBus.Config.Basic — the configuration of a bus.

A configuration is read from a value (`BusConfig.read`), checked
(`BusConfig.validate`) and written back (`BusConfig.write`). Every section may
be absent.
-/
namespace ServiceBus

/-- The configuration of a bus. -/
structure BusConfig where
  logging : LogConfig := {}
  endpointDefaults : EndpointDefaults := {}
  scatter : ScatterDefaults := {}
  endpoints : List EndpointEntry := []
deriving BEq, Inhabited

namespace BusConfig

/-- Reads the section on dispatching. -/
def readDispatch (s : Schema.Dialect) : Value → Except SchemaError EndpointDefaults :=
  s.record ["endpoint_defaults"] {}
    fun d k v => match k with
      | "endpoint_defaults" => EndpointDefaults.read s v
      | _ => .ok d

/-- Reads a configuration. -/
def read (s : Schema.Dialect) : Value → Except SchemaError BusConfig :=
  s.record ["logging", "dispatch", "scatter_gather", "endpoints"] {}
    fun c k v => match k with
      | "logging" => do return { c with logging := ← LogConfig.read s v }
      | "dispatch" => do return { c with endpointDefaults := ← readDispatch s v }
      | "scatter_gather" => do return { c with scatter := ← ScatterDefaults.read s v }
      | "endpoints" => do return { c with endpoints := ← Schema.list (EndpointEntry.read s) v }
      | _ => .ok c

/-- The value of a configuration. -/
def write (c : BusConfig) : Value :=
  .object [("dispatch", .object [("endpoint_defaults", c.endpointDefaults.write)]),
    ("endpoints", .list (c.endpoints.map EndpointEntry.write)), ("logging", c.logging.write),
    ("scatter_gather", c.scatter.write)]

/-- Checks the entries in order; each must be sound, and its name new. -/
def checkEntries (seen : List String) : List EndpointEntry → Except ConfigFault Unit
  | [] => .ok ()
  | e :: rest => do
    e.validate
    if seen.contains e.name then throw (.duplicateEndpoint e.name)
    checkEntries (e.name :: seen) rest

/-- Checks a configuration. The first fault in the order logging, defaults,
scatter-gather, endpoints is reported. -/
def validate (c : BusConfig) : Except ConfigFault Unit := do
  c.logging.validate
  c.endpointDefaults.validate
  match c.scatter.timeout with
  | some timeout => Config.checkPositive timeout "scatter_gather.timeout_ms"
  | none => pure ()
  checkEntries [] c.endpoints

/-- The entry of a name. -/
def endpoint? (c : BusConfig) (name : String) : Option EndpointEntry :=
  c.endpoints.find? fun e => e.name == name

end BusConfig

end ServiceBus
