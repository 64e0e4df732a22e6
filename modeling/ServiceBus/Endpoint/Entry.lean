import ServiceBus.Config.Check
import ServiceBus.Schema.Dialect

/-
ServiceBus.Endpoint.Entry — endpoints as a configuration names them.

The policy block is kept as data here; it is read when the endpoint is built.
-/
namespace ServiceBus

/-- The kinds of endpoint that a configuration can name. -/
inductive EntryKind where
  | address
  | wsdl
  | default
  | indirect
deriving Repr, DecidableEq, Inhabited

/-- A named endpoint of a configuration. -/
structure EndpointEntry where
  name : String
  kind : EntryKind
  uri : Option String := none
  service : Option String := none
  portName : Option String := none
  /-- The name of the endpoint that an indirect one stands for. -/
  key : Option String := none
  definition : Option Value := none
deriving BEq, Inhabited

namespace EntryKind

/-- The name of a kind. -/
def name : EntryKind → String
  | address => "address"
  | wsdl => "wsdl"
  | default => "default"
  | indirect => "indirect"

/-- Reads a kind from its name. -/
def read (s : Schema.Dialect) : Value → Except SchemaError EntryKind :=
  s.variant [("address", address), ("default", default), ("indirect", indirect),
    ("wsdl", wsdl)]

end EntryKind

namespace EndpointEntry

/-- Reads an entry; name and kind must be there. -/
def read (s : Schema.Dialect) (v : Value) : Except SchemaError EndpointEntry := do
  let (name, kind, e) ← s.record
      ["name", "kind", "uri", "service", "port", "key", "definition"]
      ((none, none, default) : Option String × Option EntryKind × EndpointEntry)
      (fun (name, kind, e) k v => match k with
        | "name" => do return (some (← s.text v), kind, e)
        | "kind" => do return (name, some (← EntryKind.read s v), e)
        | "uri" => do return (name, kind, { e with uri := ← Schema.optional s.text v })
        | "service" => do
          return (name, kind, { e with service := ← Schema.optional s.text v })
        | "port" => do return (name, kind, { e with portName := ← Schema.optional s.text v })
        | "key" => do return (name, kind, { e with key := ← Schema.optional s.text v })
        | "definition" => do
          return (name, kind, { e with definition := ← Schema.optional s.data v })
        | _ => .ok (name, kind, e)) v
  return { e with
    name := ← Schema.required "name" name
    kind := ← Schema.required "kind" kind }

/-- An optional member of an object. -/
def member (name : String) (v : Option Value) : List (String × Value) :=
  (v.map fun v => (name, v)).toList

/-- The value of an entry; absent fields are left out. -/
def write (e : EndpointEntry) : Value :=
  .object <| member "definition" e.definition ++ member "key" (e.key.map .text) ++
    [("kind", .text e.kind.name), ("name", .text e.name)] ++
    member "port" (e.portName.map .text) ++ member "service" (e.service.map .text) ++
    member "uri" (e.uri.map .text)

/-- Checks that the name and the fields of the kind are filled in. -/
def validate (e : EndpointEntry) : Except ConfigFault Unit := do
  Config.checkNotEmpty e.name "endpoints.name"
  let field (name : String) : String := "endpoints." ++ e.name ++ "." ++ name
  match e.kind with
  | .address => Config.checkUri (e.uri.getD "") (field "uri")
  | .wsdl =>
    Config.checkUri (e.uri.getD "") (field "uri")
    Config.checkNotEmpty (e.service.getD "") (field "service")
    Config.checkNotEmpty (e.portName.getD "") (field "port")
  | .indirect => Config.checkNotEmpty (e.key.getD "") (field "key")
  | .default => pure ()

end EndpointEntry

end ServiceBus
