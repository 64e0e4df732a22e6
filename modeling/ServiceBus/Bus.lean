import ServiceBus.Endpoint.Registry
import ServiceBus.Aggregation.Buffer
import ServiceBus.Transport
import ServiceBus.Time

/-
ServiceBus.Bus — everything that the messages in flight share.

  - the clock, and the time up to which timers have rung;
  - the endpoints with their health, and the defaults of their policies;
  - the evaluator of expressions, and the log of what was evaluated;
  - the channels;
  - the buffers of all aggregations, and the aggregators that find the open
    ones by correlation identity;
  - the measurements, and the order in which steps were entered.

A buffer keeps its reference for ever, so whoever holds the reference still
finds the buffer when its aggregator no longer does.
-/
namespace ServiceBus

/-- A point in time to wait for. Of two timers due at once, the one with the
lower ticket rings first. -/
structure Timer where
  due : Time
  ticket : Nat
deriving Repr, DecidableEq, Inhabited

namespace Timer

/-- Whether one timer rings before another one. -/
def before (s t : Timer) : Bool := s.due < t.due || (s.due == t.due && s.ticket < t.ticket)

/-- The one of two timers that rings first. -/
def earlier (s t : Timer) : Timer := if t.before s then t else s

/-- The timer of a list that rings first. -/
def first? : List Timer → Option Timer
  | [] => none
  | t :: rest => match first? rest with
    | some s => some (t.earlier s)
    | none => some t

end Timer

/-- The buffers that an aggregator finds by correlation identity. -/
abbrev Aggregator := Dict Nat

/-- What the messages in flight share. -/
structure Bus where
  now : Time := 0
  /-- Timers due at this time or earlier have rung. -/
  rung : Time := 0
  nextId : Nat := 0
  nextTicket : Nat := 0
  endpoints : Registry := ∅
  defaults : EndpointDefaults := {}
  evaluator : Evaluator := Evaluator.lookup
  /-- The expressions evaluated so far, latest first. -/
  evaluated : List String := []
  transports : Dict Transport := ∅
  /-- Every buffer that was ever opened; its reference is its place. -/
  buffers : List Buffer := []
  aggregators : Dict Aggregator := ∅
  /-- The log of measurements, latest first. -/
  metrics : List Metric := []
  /-- The names of the steps entered, latest first. -/
  trace : List String := []
  /-- The messages that each recorder saw, latest first. -/
  seen : Dict (List Id) := ∅

instance : Inhabited Bus := ⟨{}⟩

namespace Bus

/-- Hands out an identity. -/
def freshId (b : Bus) : Id × Bus := (⟨b.nextId⟩, { b with nextId := b.nextId + 1 })

/-- A timer that rings after a delay, in milliseconds. -/
def startTimer (b : Bus) (delay : Nat) : Timer × Bus :=
  (⟨b.now + delay, b.nextTicket⟩, { b with nextTicket := b.nextTicket + 1 })

/-- Whether a timer has rung. -/
def hasRung (b : Bus) (t : Timer) : Bool := decide (t.due ≤ b.rung)

/-- Logs a measurement. -/
def measure (b : Bus) (m : Metric) : Bus := { b with metrics := m :: b.metrics }

/-- Notes that a step was entered. -/
def enter (b : Bus) (name : String) : Bus := { b with trace := name :: b.trace }

/-- Notes expressions as evaluated, in their order. -/
def noteEvaluated (b : Bus) (expressions : List String) : Bus :=
  { b with evaluated := expressions.reverse ++ b.evaluated }

/-- Evaluates an expression on a message. -/
def evaluate (b : Bus) (expression : String) (m : Message) : Except EvaluationError Value × Bus :=
  (b.evaluator expression m, b.noteEvaluated [expression])

/-- The value of a policy field that may be absent and may have none. -/
def resolve? {α : Type} [Field α] (b : Bus) (p : Option (Policy α)) (m : Message) :
    Option α × Bus :=
  (Policy.resolve? p b.evaluator m, b.noteEvaluated (p.bind Policy.expression?).toList)

/-! ## Endpoints -/

/-- The endpoint of a name. -/
def endpoint (b : Bus) (name : String) : Except Failure Endpoint :=
  match b.endpoints.get? name with
  | some e => .ok e
  | none => .error (.unknownEndpoint name)

/-- Changes the health of an endpoint. -/
def updateHealth (b : Bus) (name : String) (f : Health → Health) : Bus :=
  { b with endpoints := b.endpoints.modify name fun e => { e with health := f e.health } }

/-- The concrete endpoint that a name stands for. -/
def concrete (b : Bus) (name : String) : Except Failure Endpoint := do
  b.endpoints.concrete (← b.endpoint name)

/-! ## Buffers -/

/-- The buffer of a reference. -/
def buffer? (b : Bus) (ref : Nat) : Option Buffer := b.buffers[ref]?

/-- Changes the buffer of a reference. -/
def updateBuffer (b : Bus) (ref : Nat) (f : Buffer → Buffer) : Bus :=
  { b with buffers := b.buffers.modify ref f }

/-- Whether the buffer of a reference is closed. -/
def isBufferClosed (b : Bus) (ref : Nat) : Bool :=
  match b.buffer? ref with
  | some buffer => buffer.isClosed
  | none => false

/-- The references that an aggregator holds. -/
def aggregator (b : Bus) (name : String) : Aggregator := (b.aggregators.get? name).getD ∅

/-- The reference that an aggregator finds by a correlation identity. -/
def findBuffer? (b : Bus) (aggregator correlation : String) : Option Nat :=
  (b.aggregator aggregator).get? correlation

/-- Opens a buffer. It takes the place of a closed one, and is refused while an
open one has the same correlation identity. -/
def openBuffer (b : Bus) (aggregator correlation : String) (limits : BufferLimits) :
    Except Failure Nat × Bus :=
  let refused := match b.findBuffer? aggregator correlation with
    | some ref => !b.isBufferClosed ref
    | none => false
  if refused then (.error (.internal (.aggregationInProgress correlation)), b)
  else
    (.ok b.buffers.length, { b with
      buffers := b.buffers ++ [Buffer.opened correlation limits]
      aggregators := b.aggregators.insert aggregator
        ((b.aggregator aggregator).insert correlation b.buffers.length) })

/-- Makes an aggregator forget a correlation identity. -/
def forgetBuffer (b : Bus) (aggregator correlation : String) : Bus :=
  { b with
    aggregators := b.aggregators.insert aggregator ((b.aggregator aggregator).erase correlation) }

/-- The number of buffers that an aggregator finds. -/
def openCount (b : Bus) (aggregator : String) : Nat := (b.aggregator aggregator).size

/-! ## Channels -/

/-- The channel of a name; an unknown one succeeds with every send. -/
def transport (b : Bus) (name : String) : Transport := (b.transports.get? name).getD {}

/-- Changes a channel. -/
def setTransport (b : Bus) (name : String) (t : Transport) : Bus :=
  { b with transports := b.transports.insert name t }

end Bus

end ServiceBus
