import ServiceBus.Simulation.Step
import ServiceBus.Flow.Lifecycle
import ServiceBus.Flow.Step

/-
ServiceBus.Simulation.World — what the steps of a simulation work on, and what
the steps that take no time do to it.

A step that takes time holds its message: until it ends, other steps find no
message of that name.
-/
namespace ServiceBus.Simulation

/-- The bus with its named mediators and messages. -/
structure World where
  bus : Bus := {}
  mediators : Dict Mediator := ∅
  messages : Dict Message := ∅
  /-- The frame that the last reply for a message name gave. -/
  frames : Dict Frame := ∅
  /-- The names that messages were given, with the identities that they then had. -/
  owners : Dict Id := ∅

instance : Inhabited World := ⟨{}⟩

namespace World

/-! ## Building -/

/-- Adds a message; its handlers are registered in order, the last one being the
newest. -/
def addMessage (w : World) (name : String) (build : Id → Message) (handlers : List String) : World :=
  let (id, bus) := w.bus.freshId
  let (m, bus) := handlers.foldl (fun (m, bus) handler =>
      match w.mediators.get? handler with
      | some sequence =>
        let (id, bus) := Bus.freshId bus
        (m.pushHandler ⟨id, handler, sequence⟩, bus)
      | none => (m, bus)) (build id, bus)
  { w with
    bus
    messages := w.messages.insert name m
    owners := w.owners.insert name id }

/-- Adds a mediator; a scatter-gather must have a sound configuration, and its
aggregator comes into being with it. -/
def addMediator (w : World) (id : String) (m : Mediator) : Except Failure World :=
  match m with
  | .scatter s targets => do
    s.config.validate targets.length
    return { w with mediators := w.mediators.insert id m }
  | _ => .ok { w with mediators := w.mediators.insert id m }

/-! ## Looking up -/

/-- The message of a name. -/
def message (w : World) (name : String) : Except Problem Message :=
  match w.messages.get? name with
  | some m => .ok m
  | none => .error (.noMessage name)

/-- The mediator of a name. -/
def mediator (w : World) (name : String) : Except Problem Mediator :=
  match w.mediators.get? name with
  | some m => .ok m
  | none => .error (.noMediator name)

/-- The call of a name. -/
def call (w : World) (name : String) : Except Problem Call := do
  match ← w.mediator name with
  | .call c => return c
  | _ => throw (.noMediator name)

/-- The scatter-gather of a name. -/
def scatter (w : World) (name : String) : Except Problem Scatter := do
  match ← w.mediator name with
  | .scatter s _ => return s
  | _ => throw (.noMediator name)

/-- The endpoint of a name. -/
def endpoint (w : World) (name : String) : Except Problem Endpoint :=
  match w.bus.endpoints.get? name with
  | some e => .ok e
  | none => .error (.noEndpoint name)

/-- The channel of a name. -/
def transport (w : World) (name : String) : Except Problem Transport :=
  match w.bus.transports.get? name with
  | some t => .ok t
  | none => .error (.noTransport name)

/-- The first name under which a message of an identity was declared. -/
def owner? (w : World) (id : Id) : Option String :=
  (w.owners.toList.find? fun (_, i) => i = id).map Prod.fst

/-- Puts a message under a name. -/
def put (w : World) (name : String) (m : Message) : World :=
  { w with messages := w.messages.insert name m }

/-- Gives a message a name of its own. -/
def declare (w : World) (name : String) (m : Message) : World :=
  { w.put name m with owners := w.owners.insert name m.id }

/-- Takes a message away from its name while a step holds it. -/
def hold (w : World) (name : String) : World := { w with messages := w.messages.erase name }

/-! ## Steps that take no time -/

/-- What a step without duration gives: its result, and the message that it
shows. -/
abbrev Shown := Result × Option Message

/-- A result that shows no message. -/
def plain (r : Result) : Shown := (r, none)

/-- The reply to a call on the response path. -/
def respond (w : World) (callName name : String) : Except Problem (Shown × World) := do
  let c ← w.call callName
  let m ← w.message name
  let (frame, m, bus) := c.respond m w.bus
  let w := { w with bus }
  let w := match frame with
    | .ok f => { w with frames := w.frames.insert name f }
    | .error _ => w
  return ((.frame frame, some m), w.put name m)

/-- An expression as value, truth value and text. -/
def evaluate (w : World) (name expression : String) : Except Problem (Shown × World) := do
  let m ← w.message name
  let ev := w.bus.evaluator
  let evaluation : Evaluation :=
    ⟨ev expression m, Evaluator.truth ev expression m, Evaluator.textOf ev expression m⟩
  let bus := w.bus.noteEvaluated [expression, expression, expression]
  return ((.evaluation evaluation, some m), { w with bus })

/-- A fault that arrived for an endpoint. -/
def recordFault (w : World) (endpointName name : String) (fault : TransportFault) :
    Except Problem (Shown × World) := do
  let e ← w.endpoint endpointName
  let m ← w.message name
  let (failure, m, bus) := w.bus.recordFaultResponse e.name fault m
  return ((.surfaced failure, some m), { w with bus }.put name m)

/-- An endpoint from outside. -/
def describeEndpoint (w : World) (name : String) : Except Problem EndpointView := do
  let e ← w.endpoint name
  return ⟨e, w.bus.endpoints.concrete e⟩

/-- Registers the endpoint of an entry, and gives its name. -/
def register (w : World) (entry : EndpointEntry) : Except Failure String × World :=
  match Endpoint.ofEntry entry with
  | .error e => (.error e, w)
  | .ok e =>
    match w.bus.endpoints.register e with
    | .error err => (.error err, w)
    | .ok endpoints => (.ok e.name, { w with bus := { w.bus with endpoints } })

/-- The messages that a channel was given. -/
def calls (w : World) (name : String) : Except Problem (List Sent) := do
  let t ← w.transport name
  return t.calls.map fun s => ⟨s.address, w.owner? s.message.id, s.message⟩

/-- How often a channel was used. -/
def callCount (w : World) (name : String) (address : Option String) : Except Problem CallCount := do
  let calls ← w.calls name
  let matching := address.map fun a => (calls.filter fun s => s.address == some a).length
  return ⟨calls.length, matching, calls.getLast?.bind Sent.owner⟩

/-- The messages that a recorder saw. -/
def invocations (w : World) (name : String) : Except Problem (List (Option String)) := do
  match ← w.mediator name with
  | .recorder r => return ((w.bus.seen.get? r.id).getD []).reverse.map w.owner?
  | _ => throw (.noMediator name)

/-- A mediator from outside. -/
def describe (w : World) (name : String) : Except Problem Description := do
  return match ← w.mediator name with
    | .recorder r => .plain r.name
    | .editor name _ _ => .plain name
    | .call c => .call c
    | .sequence name kind children _ => .sequence name kind children.length
    | .scatter s targets => .scatter s (targets.map fun (id, m) => (id, m.name))

/-- Changes a channel. -/
def updateTransport (w : World) (name : String) (f : Transport → Transport) :
    Except Problem (Shown × World) := do
  let t ← w.transport name
  return (plain .done, { w with bus := w.bus.setTransport name (f t) })

/-- Takes a step that takes no time; none for the steps that take some. -/
def perform? (w : World) : Step → Option (Except Problem (Shown × World))
  | .respond callName name => some (w.respond callName name)
  | .evaluate name expression => some (w.evaluate name expression)
  | .recordFault endpointName name fault => some (w.recordFault endpointName name fault)
  | .recordResponse name => some do
    let e ← w.endpoint name
    let (outcome, bus) := w.bus.recordResponse e.name
    return (plain (.outcome outcome), { w with bus })
  | .initEndpoint name => some do
    let e ← w.endpoint name
    let (outcome, bus) := w.bus.initEndpoint e.name
    return (plain (.outcome outcome), { w with bus })
  | .destroyEndpoint name => some do
    let e ← w.endpoint name
    return (plain .done, { w with bus := w.bus.destroyEndpoint e.name })
  | .resetEndpoint name => some do
    let e ← w.endpoint name
    return (plain .done, { w with bus := w.bus.resetEndpoint e.name })
  | .init name => some do
    let (outcome, bus) := (← w.mediator name).init w.bus
    return (plain (.outcome outcome), { w with bus })
  | .destroy name => some do
    return (plain (.outcome (.ok ())), { w with bus := (← w.mediator name).destroy w.bus })
  | .endpoint name => some do return (plain (.endpoint (← w.describeEndpoint name)), w)
  | .healths => some <| .ok
    (plain (.healths (w.bus.endpoints.toList.map fun (name, e) => (name, e.health))), w)
  | .resolve key => some <| .ok
    (plain (.name ((w.bus.endpoints.resolve key).map Endpoint.name)), w)
  | .register entry => some <|
    let (name, w) := w.register entry
    .ok (plain (.name name), w)
  | .copy name other => some do
    let m ← w.message name
    return (plain .done, w.declare other m)
  | .calls name => some do return (plain (.calls (← w.calls name)), w)
  | .callCount name address => some do
    return (plain (.callCount (← w.callCount name address)), w)
  | .push name outcome => some (w.updateTransport name (·.push outcome))
  | .clear name => some (w.updateTransport name Transport.clear)
  | .invocations name => some do return (plain (.invocations (← w.invocations name)), w)
  | .evaluated expression => some <| .ok <|
    let all := w.bus.evaluated.reverse
    (plain (.evaluated all (expression.map fun e => all.count e)), w)
  | .describe name => some do return (plain (.description (← w.describe name)), w)
  | .deliver name messageName => some do
    let s ← w.scatter name
    let m ← w.message messageName
    let (contribution, bus) := s.deliver m w.bus
    return (plain (.contribution contribution), { w with bus })
  | .openCount name => some do
    return (plain (.count (w.bus.openCount (← w.scatter name).aggregator)), w)
  | .buffer name correlation => some do
    let s ← w.scatter name
    return (plain (.buffer ((w.bus.findBuffer? s.aggregator correlation).bind w.bus.buffer?)), w)
  | .impossible problem => some (.error problem)
  | .mediate .. | .execute .. | .faultResponse .. | .resume .. | .edit .. | .send .. | .advance _
  | .takeSent .. | .concurrent _ => none

end World

end ServiceBus.Simulation
