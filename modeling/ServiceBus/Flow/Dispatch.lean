import ServiceBus.Flow.Basic

/-
ServiceBus.Flow.Dispatch — sending a message to an endpoint.

A send goes to the concrete endpoint behind a name, attempt by attempt. Each
attempt first asks the health of the endpoint; a suspended one refuses, and no
channel is used. The outcome of each attempt is recorded, and a failure that
may be retried leads to the next attempt once the retry delay is over.
-/
namespace ServiceBus

/-- What a failure is called that has no text of its own. -/
def unnamedFault : String := "Error while performing the call operation"

/-- The failure that a fault surfaces as, attached to the message. A timeout on
an endpoint that discards is no dispatch failure. -/
def Endpoint.surface (name : String) (action : TimeoutAction) (code : Int32)
    (fault : TransportFault) (m : Message) : Failure × Message :=
  let text := fault.message.getD unnamedFault
  let m := m.setError code text fault.detail
  if code = Code.timeout ∧ action = .discard then (.timeout (name ++ ": " ++ text), m)
  else (.dispatch code text fault.detail, m)

namespace Bus

/-- The policy of an endpoint for a message. -/
def settingsFor (bus : Bus) (e : Endpoint) (m : Message) : Settings × Bus :=
  (Settings.resolve e.definition m bus.evaluator bus.defaults,
    bus.noteEvaluated e.definition.settingsExpressions)

/-- The timeout of an endpoint for a message. -/
def timeoutFor (bus : Bus) (e : Endpoint) (m : Message) : TimeoutSettings × Bus :=
  (TimeoutSettings.resolve e.definition m bus.evaluator bus.defaults,
    bus.noteEvaluated e.definition.timeoutExpressions)

/-- Records a reply that arrived for an endpoint. -/
def recordResponse (bus : Bus) (endpoint : String) : Except Failure Unit × Bus :=
  match bus.concrete endpoint with
  | .error e => (.error e, bus)
  | .ok e => (.ok (), bus.updateHealth e.name Health.recordSuccess)

/-- Records a failure of a concrete endpoint, and says what may be done next. -/
def recordFailure (bus : Bus) (e : Endpoint) (code : Int32) (s : Settings) : Verdict × Bus :=
  let verdict := (e.health.recordFailure bus.now code s).1
  let bus := bus.updateHealth e.name fun h => (h.recordFailure bus.now code s).2
  match verdict with
  | .suspended _ => (verdict, bus.measure (.suspended e.name))
  | _ => (verdict, bus)

/-- Records a fault that arrived for an endpoint, and attaches it to the
message. The answer is the failure that it surfaces as. -/
def recordFaultResponse (bus : Bus) (endpoint : String) (fault : TransportFault) (m : Message) :
    Except Failure Failure × Message × Bus :=
  match bus.concrete endpoint with
  | .error e => (.error e, m, bus)
  | .ok e =>
    let code := fault.code.getD Code.handOffFailed
    let (settings, bus) := bus.settingsFor e m
    let bus := bus.measure (.faulted e.name code)
    let (_, bus) := bus.recordFailure e code settings
    let (timeout, bus) := bus.timeoutFor e m
    let (failure, m) := Endpoint.surface e.name timeout.action code fault m
    (.ok failure, m, bus)

end Bus

namespace Flow

/-- The message at the start of an attempt. -/
def marked (d : Dispatch) (m : Message) : Message :=
  m.setProperty Property.lastEndpoint (.text d.endpoint)

/-- Begins to send a message to an endpoint: the concrete endpoint and its policy
for this message are settled before the first attempt. -/
def dispatch (endpoint channel : String) (mode : SendMode) (m : Message) (k : List Pending)
    (bus : Bus) : Flow × Bus :=
  match bus.concrete endpoint with
  | .error e => (answer m (.failed e) k, bus)
  | .ok e =>
    let m := m.setProperty Property.lastEndpoint (.text e.name)
    let (settings, bus) := bus.settingsFor e m
    let (timeout, bus) := bus.timeoutFor e m
    (.busy m (.attempt ⟨e.name, e.definition.address, e.suspendedCode, channel, mode, settings,
      timeout⟩) k, bus)

/-- Gives a message to a channel. -/
def transmit (channel : String) (address : Option String) (m : Message) (k : List Pending)
    (bus : Bus) : Flow × Bus :=
  let t := bus.transport channel
  let (outcome, t') := t.accept (address.or m.destination) m
  (.busy m (.transmit outcome ((t.edits[t.sends]?).getD [])) k, bus.setTransport channel t')

/-- One attempt: refused by a suspended endpoint, else given to the channel. -/
def attempt (d : Dispatch) (m : Message) (k : List Pending) (bus : Bus) : Flow × Bus :=
  match bus.endpoint d.endpoint with
  | .error e => (answer m (.failed e) k, bus)
  | .ok e =>
    match e.health.refusal bus.now with
    | some remaining =>
      (answer m (.failed (.suspended d.endpoint d.suspendedCode remaining)) k,
        bus.measure (.dispatched d.endpoint .suspended 0))
    | none =>
      let (deadline, bus) := match d.timeout.limit with
        | some limit =>
          let (t, bus) := bus.startTimer limit
          (some t, bus)
        | none => (none, bus)
      transmit d.channel d.address m (.attempt d bus.now deadline :: k) bus

/-- The fault of an attempt that was cut off. -/
def cutOff (d : Dispatch) : TransportFault where
  code := some Code.timeout
  message := some ("Send timeout after " ++
    String.ofList (Decimal.digits (d.timeout.limit.getD 0)) ++ "ms")

/-- An attempt that succeeded. -/
def delivered (d : Dispatch) (started : Time) (m : Message) (k : List Pending) (bus : Bus) :
    Flow × Bus :=
  let bus := bus.measure (.dispatched d.endpoint .success (bus.now - started))
  let bus := match d.mode with
    | .blocking => bus.updateHealth d.endpoint Health.recordSuccess
    | .handOff => bus
  (answer m (.proceed true) k, bus)

/-- The next attempt. -/
def again (d : Dispatch) (m : Message) (k : List Pending) : Flow :=
  .busy (marked d m.clearCallProperties) (.attempt d) k

/-- An attempt that failed: the failure is recorded, then either the next attempt
follows or the fault surfaces. -/
def undelivered (d : Dispatch) (started : Time) (fault : TransportFault) (m : Message)
    (k : List Pending) (bus : Bus) : Flow × Bus :=
  let code := fault.code.getD d.mode.defaultCode
  let outcome : DispatchOutcome := if code = Code.timeout then .timeout else .fault
  let bus := bus.measure (.dispatched d.endpoint outcome (bus.now - started))
  let bus := bus.measure (.faulted d.endpoint code)
  match bus.endpoint d.endpoint with
  | .error e => (answer m (.failed e) k, bus)
  | .ok e =>
    match bus.recordFailure e code d.settings with
    | (.retry delay, bus) =>
      if delay = 0 then (again d m k, bus)
      else
        let (t, bus) := bus.startTimer delay
        (.busy m (.sleep t) (.retry d :: k), bus)
    | (_, bus) =>
      let (failure, m) := Endpoint.surface d.endpoint d.timeout.action code fault m
      (answer m (.failed failure) k, bus)

end Flow

end ServiceBus
