import ServiceBus.Rehoming.Basic
import ServiceBus.Message

/-
ServiceBus.Rehoming — moving bodies before and after a call.

On the way out the configured source becomes the request body. On the way
back the reply goes to the configured target, and the former body, headers
and content type are restored if the way out replaced them. `record` leaves
on the message what the response path needs, and `Envelope.ofProperties` reads
it back.
-/
namespace ServiceBus

/-- Message type, content type and headers from before a call. -/
structure Envelope where
  messageType : Option String
  contentType : Option String
  headers : Dict String

namespace Envelope

/-- Takes them from a message. -/
def capture (m : Message) : Envelope := ⟨m.messageType, m.contentType, m.headers⟩

/-- Reads them back from the properties that `Rehoming.record` wrote. -/
def ofProperties (m : Message) : Envelope where
  messageType := m.textProperty? Property.savedMessageType
  contentType := m.textProperty? Property.savedContentType
  headers :=
    match m.property? Property.savedHeaders with
    | some v => match Schema.dict Schema.text v with
      | .ok headers => headers
      | .error _ => ∅
    | none => ∅

/-- Headers as a value. -/
def headersValue (headers : Dict String) : Value :=
  .object (headers.map Value.text).entries

end Envelope

/-- Whether two message types are the same but for the case of letters. -/
def sameType : Option String → Option String → Bool
  | some a, some b => Text.eqIgnoringCase a b
  | none, none => true
  | _, _ => false

namespace Rehoming

/-- The message type of the source: the configured one, else the message's
own. -/
def effectiveType (r : Rehoming) (before : Envelope) : Option String :=
  r.sourceType.or before.messageType

/-- The body that a source holds. -/
def readSource (m : Message) (source : PayloadSource) (messageType : Option String) :
    Except Failure Payload :=
  match source with
  | .body => .ok m.payload
  | .inline p => .ok p
  | .slot s =>
    match m.slot? s with
    | some v => .ok (.ofValue v messageType)
    | none => .error (.internal (.missingSource s))

/-- Puts a body where the target wants it. -/
def writeTarget (m : Message) (target : PayloadTarget) (p : Payload) : Message :=
  match target with
  | .body => m.setPayload p
  | .slot s => m.setSlot s p.toValue

/-- The way out: the source becomes the body. With a target too, the body is
parked first, also when the source then turns out to be missing. -/
def outbound (r : Rehoming) (m : Message) (before : Envelope) : Message × Except Failure Unit :=
  match r.source with
  | none => (m, .ok ())
  | some source =>
    let m := if r.target.isSome then m.setProperty Property.parkedBody m.payload.toValue else m
    let type := r.effectiveType before
    match if source.isBody then .ok m.payload else readSource m source type with
    | .error e => (m, .error e)
    | .ok p =>
      let m := { m with payload := p }
      match type with
      | some t => (if sameType (some t) before.messageType then m else m.setContentType t t, .ok ())
      | none => (m, .ok ())

/-- Sets or removes a text property. -/
def setOrRemove (m : Message) (name : String) : Option String → Message
  | some s => m.setProperty name (.text s)
  | none => m.removeProperty name

/-- Leaves on the message what the response path reads. -/
def record (r : Rehoming) (m : Message) (before : Envelope) : Message :=
  let m := match r.target with
    | some t => m.setProperty Property.inboundTarget t.write
    | none => m
  let m := match r.effectiveType before with
    | some t => m.setProperty Property.sourceMessageType (.text t)
    | none => m
  let m := setOrRemove m Property.savedMessageType before.messageType
  let m := setOrRemove m Property.savedContentType before.contentType
  let m := m.setProperty Property.sourceAvailable (.bool r.source.isSome)
  let m := m.setProperty Property.targetAvailable (.bool r.target.isSome)
  m.setProperty Property.savedHeaders (Envelope.headersValue before.headers)

/-- The way back: the reply goes to the target; with a source, the parked body
and the former headers come back, and the content type if the source had
another message type. -/
def inbound (r : Rehoming) (m : Message) (before : Envelope) : Message :=
  match r.target with
  | none => m
  | some target =>
    let m := writeTarget m target m.payload
    if r.source.isNone then m
    else
      let parked := (m.property? Property.parkedBody).getD .null
      let m := m.removeProperty Property.parkedBody
      let m := { m with payload := .ofValue parked before.messageType, headers := before.headers }
      if sameType (r.effectiveType before) before.messageType then m
      else match before.messageType with
        | some t => m.setContentType t (before.contentType.getD t)
        | none => m

end Rehoming

end ServiceBus
