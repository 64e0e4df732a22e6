import ServiceBus.Config.Check
import ServiceBus.Schema.Dialect

/-
ServiceBus.Endpoint.Defaults — what applies where an endpoint states no policy
of its own, or where its policy has no value for a message.
-/
namespace ServiceBus

/-- Policy defaults of all endpoints; durations are in milliseconds. -/
structure EndpointDefaults where
  initial : UInt64 := 30000
  factor : Float := 1.0
  maximum : UInt64 := 86400000
  retries : UInt32 := 0
  delay : UInt64 := 0
  /-- The longest wait for one attempt; none is no limit. -/
  timeout : Option UInt64 := none
deriving Repr, BEq, Inhabited

namespace EndpointDefaults

/-- Reads defaults; every field may be absent. -/
def read (s : Schema.Dialect) : Value → Except SchemaError EndpointDefaults :=
  s.record ["initial_suspend_ms", "progression_factor", "maximum_suspend_ms",
      "retries_before_suspension", "retry_delay_ms", "timeout_ms"] {}
    fun d k v => match k with
      | "initial_suspend_ms" => do return { d with initial := ← s.word64 v }
      | "progression_factor" => do return { d with factor := ← s.real v }
      | "maximum_suspend_ms" => do return { d with maximum := ← s.word64 v }
      | "retries_before_suspension" => do return { d with retries := ← s.word32 v }
      | "retry_delay_ms" => do return { d with delay := ← s.word64 v }
      | "timeout_ms" => do return { d with timeout := ← Schema.optional s.word64 v }
      | _ => .ok d

/-- The value of defaults. -/
def write (d : EndpointDefaults) : Value :=
  .object [("initial_suspend_ms", .int d.initial.toNat), ("maximum_suspend_ms", .int d.maximum.toNat),
    ("progression_factor", .ofFloat d.factor), ("retries_before_suspension", .int d.retries.toNat),
    ("retry_delay_ms", .int d.delay.toNat),
    ("timeout_ms", match d.timeout with | some n => .int n.toNat | none => .null)]

/-- Checks the factor, the two limits of a suspension and the timeout. -/
def validate (d : EndpointDefaults) : Except ConfigFault Unit := do
  Config.checkFactor d.factor "dispatch.endpoint_defaults.progression_factor"
  if d.maximum < d.initial then throw .defaultMaximumBelowInitial
  match d.timeout with
  | some t => Config.checkPositive t "dispatch.endpoint_defaults.timeout_ms"
  | none => pure ()

end EndpointDefaults

end ServiceBus
