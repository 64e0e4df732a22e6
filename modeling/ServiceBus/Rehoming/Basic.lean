import ServiceBus.Failure

/-
ServiceBus.Rehoming.Basic — where a call takes its request body from and where
it puts the reply.

This module holds the configuration and its written form; the moves
themselves are in `ServiceBus.Rehoming`.
-/
namespace ServiceBus

/-- Where the request body comes from. -/
inductive PayloadSource where
  | body
  | slot (slot : Slot)
  | inline (payload : Payload)
deriving Inhabited

/-- Where the reply body goes. -/
inductive PayloadTarget where
  | body
  | slot (slot : Slot)
deriving Repr, DecidableEq, Inhabited

/-- The moves of bodies configured on a call. -/
structure Rehoming where
  source : Option PayloadSource := none
  target : Option PayloadTarget := none
  /-- The message type of the source, if it is not the message's own. -/
  sourceType : Option String := none
deriving Inhabited

namespace PayloadSource

/-- Whether the request body is the message's own. -/
def isBody : PayloadSource → Bool
  | .body => true
  | _ => false

/-- Reads a source from its tagged form. -/
def read (v : Value) : Except SchemaError PayloadSource := do
  let t ← Schema.tagged "type" "value" v
  match ← Schema.variant [("body", 0), ("inline", 1), ("property", 2), ("variable", 3)] t.tag with
  | 0 => t.withoutContent .body
  | 1 => t.withContent fun c => (Payload.read c).map .inline
  | 2 => t.withContent fun c => (Schema.text c).map fun n => .slot (.property n)
  | _ => t.withContent fun c => (Schema.text c).map fun n => .slot (.variable n)

/-- The tagged form of a source. -/
def write : PayloadSource → Value
  | .body => .object [("type", .text "body")]
  | .slot (.property n) => .object [("type", .text "property"), ("value", .text n)]
  | .slot (.variable n) => .object [("type", .text "variable"), ("value", .text n)]
  | .inline p => .object [("type", .text "inline"), ("value", p.write)]

end PayloadSource

namespace PayloadTarget

/-- Reads a target from its tagged form. -/
def read (v : Value) : Except SchemaError PayloadTarget := do
  let t ← Schema.tagged "type" "value" v
  match ← Schema.variant [("body", 0), ("property", 1), ("variable", 2)] t.tag with
  | 0 => t.withoutContent .body
  | 1 => t.withContent fun c => (Schema.text c).map fun n => .slot (.property n)
  | _ => t.withContent fun c => (Schema.text c).map fun n => .slot (.variable n)

/-- The tagged form of a target. -/
def write : PayloadTarget → Value
  | .body => .object [("type", .text "body")]
  | .slot (.property n) => .object [("type", .text "property"), ("value", .text n)]
  | .slot (.variable n) => .object [("type", .text "variable"), ("value", .text n)]

end PayloadTarget

end ServiceBus
