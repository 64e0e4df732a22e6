import ServiceBus.Bus

/-
ServiceBus.Flow.Edit — edits of a message, one by one.

An edit changes the message, or asks it something; `Finding` is what came of
it. Handing the message to its fault handlers is the one edit that takes more
than a moment, so it is left to the flow that performs the edits.
-/
namespace ServiceBus

/-- What came of an edit. -/
inductive Finding where
  | done
  | flag (flag : Bool)
  /-- A value that was looked up or removed. -/
  | value (value : Option Value)
  | text (text : Option String)
  | code (code : Option Int32)
  | payload (payload : Payload)
  /-- The message became its own copy; whether the identity stayed. -/
  | forked (sameId : Bool)
  | handler (newest : Option FaultHandler) (count : Nat)
  | frames (frames : Continuation)
  | failed (failure : Failure)
  | invalid (fault : EditFault)
  /-- No handler has the name that was asked for. -/
  | noSuchHandler
  /-- The handler's sequence did not end in the time that it was given. -/
  | unending

namespace Message

/-- The message as its newest handler takes it over: that handler is off the
chain, and the frames of the abandoned flow are gone. -/
def takeHandler (m : Message) : Option (Mediator × Message) :=
  match m.faultHandlers with
  | [] => none
  | h :: rest => some (h.sequence, { m with faultHandlers := rest, continuation := [] })

end Message

namespace Edit

/-- Performs an edit that takes no time. -/
def perform (edit : Edit Mediator) (m : Message) (bus : Bus) : Finding × Message × Bus :=
  match edit with
  | setProperty k v => (.done, m.setProperty k v, bus)
  | getProperty k => (.value (m.property? k), m, bus)
  | removeProperty k => (.value (m.property? k), m.removeProperty k, bus)
  | hasProperty k => (.flag (m.properties.contains k), m, bus)
  | isTrue k => (.flag (m.isTrue k), m, bus)
  | getText k => (.text (m.textProperty? k), m, bus)
  | setVariable k v => (.done, m.setVariable k v, bus)
  | getVariable k => (.value (m.vars.get? k), m, bus)
  | removeVariable k => (.value (m.vars.get? k), m.removeVariable k, bus)
  | isOutOnly => (.flag m.isOutOnly, m, bus)
  | setOutOnly flag => (.done, m.setProperty Property.outOnly (.bool flag), bus)
  | setPayload p => (.done, m.setPayload p, bus)
  | replacePayload p => (.done, { m with payload := p }, bus)
  | takePayload => (.payload m.payload, { m with payload := .empty }, bus)
  | setContentType mt ct => (.done, m.setContentType mt ct, bus)
  | clearCallProperties => (.done, m.clearCallProperties, bus)
  | setError code message detail => (.done, m.setError code message detail, bus)
  | getErrorCode => (.code m.errorCode?, m, bus)
  | fork =>
    let (id, bus) := bus.freshId
    (.forked (decide (id = m.id)), m.fork id, bus)
  | handleFault => (.flag false, m, bus)
  | pushHandler name sequence =>
    let (id, bus) := bus.freshId
    (.done, m.pushHandler ⟨id, name, sequence⟩, bus)
  | popHandler =>
    (.text (m.headHandler?.map FaultHandler.name),
      { m with faultHandlers := m.faultHandlers.tail }, bus)
  | headHandler => (.handler m.headHandler? m.faultHandlers.length, m, bus)
  | popIfHead name =>
    match m.faultHandlers.find? fun h => h.name == name with
    | none => (.noSuchHandler, m, bus)
    | some h =>
      if m.headHandlerId? = some h.id then
        (.flag true, { m with faultHandlers := m.faultHandlers.tail }, bus)
      else (.flag false, m, bus)
  | clearHandlers => (.done, { m with faultHandlers := [] }, bus)
  | pushFrame f => (.done, m.pushFrame f, bus)
  | popFrame => (.text (m.continuation.head?.map Frame.text), m.popFrame, bus)
  | peekFrame => (.text (m.continuation.head?.map Frame.text), m, bus)
  | movePosition n => (.flag (!m.continuation.isEmpty), m.movePosition n, bus)
  | resumeFrame =>
    match m.resume with
    | .ok (f, m) => (.text (some f.text), m, bus)
    | .error e => (.failed e, m, bus)
  | pushTopAt n =>
    match m.continuation with
    | [] => (.flag false, m, bus)
    | top :: _ => (.done, m.pushFrame (top.moveTo n), bus)
  | clearFrames => (.done, { m with continuation := [] }, bus)
  | getFrames => (.frames m.continuation, m, bus)
  | setFrames c => (.done, { m with continuation := c }, bus)
  | setHeader k v => (.done, m.setHeader k v, bus)
  | removeHeader k => (.text (m.headers.get? k), { m with headers := m.headers.erase k }, bus)
  | clearHeaders => (.done, { m with headers := ∅ }, bus)
  | setMessageTypeOnly t => (.done, { m with messageType := t }, bus)
  | setContentTypeOnly t => (.done, { m with contentType := t }, bus)
  | setResponse flag => (.done, { m with response := flag }, bus)
  | setTo destination => (.done, { m with destination }, bus)
  | invalid fault => (.invalid fault, m, bus)

end Edit

end ServiceBus
