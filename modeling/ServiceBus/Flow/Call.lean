import ServiceBus.Flow.Dispatch

/-
ServiceBus.Flow.Call — the call of an endpoint from a flow, and the reply to it.

A blocking call waits for the reply and goes on. A call that is handed off
pushes a frame and stops the flow; the reply comes back by `Call.respond`, or
as a fault by `Flow.faultResponse`. A call on a message that wants no reply is
handed off on a copy, and the flow goes on with the message it has. A dispatch
that fails diverts the flow to the newest fault handler.
-/
namespace ServiceBus

namespace Call

/-- The way in which a call sends. -/
def mode (c : Call) : SendMode := if c.blocking then .blocking else .handOff

/-- The failure of a send without endpoint, attached to the message. -/
def implicitFailure (mode : SendMode) (fault : TransportFault) (m : Message) :
    Failure × Message :=
  let code := fault.code.getD mode.defaultCode
  let text := fault.message.getD unnamedFault
  (.dispatch code text fault.detail, m.setError code text fault.detail)

/-- The way back of a call whose reply arrived on the response path. The answer is
the frame to resume at. -/
def respond (c : Call) (m : Message) (bus : Bus) : Except Failure Frame × Message × Bus :=
  match m.resume with
  | .error e => (.error e, m, bus)
  | .ok (frame, m) =>
    let m := { m with response := true }.removeProperty Property.continuationCall
    let (recorded, bus) := match c.endpoint with
      | some name => bus.recordResponse name
      | none => (.ok (), bus)
    match recorded with
    | .error e => (.error e, m, bus)
    | .ok () => (.ok frame, c.rehoming.inbound m (Envelope.ofProperties m), bus)

/-- The error properties that a copy hands on to the message that goes on. -/
def copyError (copy m : Message) : Message :=
  [Property.errorCode, Property.errorMessage, Property.errorDetail].foldl
    (fun m k => match copy.property? k with
      | some v => m.setProperty k v
      | none => m) m

end Call

namespace Flow

/-- Hands a message to its newest fault handler; `handled` is the reply once the
handler's sequence is through, `unhandled` the one where there is no handler. -/
def runHandler (m : Message) (handled unhandled : Reply) (k : List Pending) : Flow :=
  match m.takeHandler with
  | some (sequence, m) => .busy m (.mediate sequence) (.reply handled :: k)
  | none => answer m unhandled k

/-- What follows a failed send. A failure that is none of the dispatch is passed
on; a discarded message stops; any other failure is described on the message
and goes to the newest fault handler, if there is one. -/
def divert (failure : Failure) (m : Message) (k : List Pending) : Flow :=
  match failure with
  | .timeout _ =>
    answer (m.setProperty Property.responseDiscarded (.bool true)) (.proceed false) k
  | _ =>
    if !failure.isDispatch then answer m (.failed failure) k
    else
      let m := match failure with
        | .suspended _ code _ => m.setError code failure.message none
        | _ => m
      let m := m.setProperty Property.sendingFault (.bool true)
      let m := m.setProperty Property.errorException (.text failure.message)
      runHandler m (.proceed false) (.failed failure) k

/-- Sends the message of a call. -/
def send (c : Call) (m : Message) (k : List Pending) (bus : Bus) : Flow × Bus :=
  match c.endpoint with
  | some endpoint => dispatch endpoint c.transport c.mode m k bus
  | none => transmit c.transport none m (.implicit c.mode :: k) bus

/-- Notes the newest fault handler on the message. -/
def noteHandler (m : Message) : Message :=
  match m.headHandlerId? with
  | some id => m.setProperty Property.lastFaultHandler (.text id.text)
  | none => m

/-- Begins a call. A call that is handed off needs a frame to come back to, and
that is checked before the message is changed. -/
def call (c : Call) (m : Message) (k : List Pending) (bus : Bus) : Flow × Bus :=
  if !c.blocking && m.continuation.isEmpty then
    (answer m (.failed (.invariant .noFrameForCall)) k, bus)
  else
    let envelope := Envelope.capture m
    match c.rehoming.outbound m envelope with
    | (m, .error e) => (answer m (.failed e) k, bus)
    | (m, .ok ()) =>
      let m := c.rehoming.record m envelope
      if c.blocking then
        let m := m.setProperty Property.blockingSender (.text c.name)
        let m := { m with properties := m.properties.eraseAll Property.perBlockingCall }
        send c (noteHandler m) (.blockingCall c envelope m.headHandlerId? :: k) bus
      else
        let m := (noteHandler m).clearCallProperties
        let outgoing (m : Message) : Message :=
          let m := m.setProperty Property.continuationCall (.bool true)
          match m.continuation with
          | top :: _ => m.pushFrame top
          | [] => m
        if m.isOutOnly then
          let (id, bus) := bus.freshId
          send c (outgoing (m.fork id)) (.outOnly c m :: k) bus
        else send c (outgoing m) (.handOff c :: k) bus

/-- What follows the send of a blocking call. A fault handler that ran meanwhile
stops the flow. -/
def afterBlockingCall (c : Call) (envelope : Envelope) (handler : Option Id) (r : Reply)
    (m : Message) (k : List Pending) : Flow :=
  match r.verdict with
  | .error e => divert e (m.setProperty Property.blockingSenderError (.bool true)) k
  | .ok _ =>
    if m.headHandlerId? ≠ handler then answer m (.proceed false) k
    else if m.isTrue Property.blockingSenderError then answer m (.proceed false) k
    else answer (c.rehoming.inbound m envelope) (.proceed true) k

/-- What follows the send of a call that waits for its reply on the response
path. -/
def afterHandOff (r : Reply) (m : Message) (k : List Pending) : Flow :=
  match r.verdict with
  | .error e => divert e m.popFrame k
  | .ok _ => answer m (.proceed false) k

/-- What follows the send of a copy. -/
def afterOutOnly (left : Message) (r : Reply) (copy : Message) (k : List Pending) : Flow :=
  match r.verdict with
  | .error e => divert e (Call.copyError copy left) k
  | .ok _ => answer left (.proceed true) k

/-- The way back of a call whose reply is a fault. -/
def faultResponse (c : Call) (fault : TransportFault) (m : Message) (bus : Bus) : Flow × Bus :=
  match m.resume with
  | .error e => (answer m (.failed e) [], bus)
  | .ok (_, m) =>
    let m := { m with response := true }
    match c.endpoint with
    | some name =>
      match bus.recordFaultResponse name fault m with
      | (.error e, m, bus) => (answer m (.failed e) [], bus)
      | (.ok failure, m, bus) => (divert failure m [], bus)
    | none =>
      let (failure, m) := Call.implicitFailure c.mode fault m
      (divert failure m [], bus)

end Flow

end ServiceBus
