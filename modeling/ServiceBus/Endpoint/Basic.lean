import ServiceBus.Endpoint.Entry
import ServiceBus.Endpoint.Health

/-
ServiceBus.Endpoint.Basic — endpoints: where messages are sent, under which
policy, and in which health.
-/
namespace ServiceBus

/-- What an endpoint stands for. -/
inductive EndpointKind where
  | address (uri : String)
  | wsdl (uri service portName : String)
  /-- Sends to the message's own destination. -/
  | default
  /-- Stands for the endpoint registered under a key at the time of use. -/
  | indirect (key : String)
deriving Repr, DecidableEq, Inhabited

/-- Whether a send returns with the reply or once the message is handed off. -/
inductive SendMode where
  | blocking
  | handOff
deriving Repr, DecidableEq, Inhabited

namespace SendMode

/-- The code of a failure that names none. -/
def defaultCode : SendMode → Int32
  | blocking => Code.blockingCallFailed
  | handOff => Code.handOffFailed

end SendMode

/-- A registered endpoint. -/
structure Endpoint where
  name : String
  kind : EndpointKind
  definition : Definition
  health : Health := {}
  initialized : Bool := false
deriving Inhabited

namespace Endpoint

/-- Builds an endpoint: the definition is checked first, then the fields of the
kind. An address becomes the definition's, unless it has one. -/
def make (name : String) (kind : EndpointKind) (definition : Definition) :
    Except Failure Endpoint := do
  definition.validate
  let withAddress (uri : String) : Except Failure Endpoint :=
    if Text.trimmed uri = "" then .error (.configuration (.missingAddress name))
    else .ok ⟨name, kind, { definition with address := definition.address.or (some uri) }, {}, false⟩
  match kind with
  | .address uri => withAddress uri
  | .wsdl uri _ _ => withAddress uri
  | .indirect key =>
    if Text.trimmed key = "" then throw (.configuration (.missingKey name))
    else return ⟨name, kind, definition, {}, false⟩
  | .default => return ⟨name, kind, definition, {}, false⟩

/-- Builds the endpoint that a configuration entry names: the definition is read
first, then the fields of the kind. -/
def ofEntry (e : EndpointEntry) : Except Failure Endpoint := do
  let definition ← match e.definition with
    | some v => Definition.ofValue v
    | none => pure {}
  let field (name : String) : Option String → Except Failure String
    | some s => .ok s
    | none => .error (.configuration (.missingField e.name name))
  let kind ← match e.kind with
    | .address => do pure (EndpointKind.address (← field "uri" e.uri))
    | .wsdl => do
      let uri ← field "uri" e.uri
      let service ← field "service" e.service
      let portName ← field "port" e.portName
      pure (EndpointKind.wsdl uri service portName)
    | .default => pure EndpointKind.default
    | .indirect => do pure (EndpointKind.indirect (← field "key" e.key))
  make e.name kind definition

/-- The code reported while the endpoint is suspended. -/
def suspendedCode (e : Endpoint) : Int32 :=
  match e.kind with
  | .address _ => Code.addressEndpointSuspended
  | .wsdl .. => Code.wsdlEndpointSuspended
  | .default => Code.defaultEndpointSuspended
  | .indirect _ => Code.defaultEndpointSuspended

/-- Takes the endpoint out of use; one that was in use forgets its health. -/
def destroy (e : Endpoint) : Endpoint :=
  if e.initialized then { e with initialized := false, health := {} } else e

end Endpoint

end ServiceBus
