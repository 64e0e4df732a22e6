import ServiceBus.Bus
import ServiceBus.Mediator

/-
ServiceBus.Aggregation.Run — one run of a scatter-gather, apart from the
running of its branches.

`Scatter.open` settles what holds for the whole run and opens its buffer.
`Scatter.branch` makes the message of a branch. What a branch brings in goes to
the buffer by `Scatter.contribute`, also when it comes over the response path
(`Scatter.deliver`). `Scatter.conclude` joins the results of the closed
buffer.
-/
namespace ServiceBus

/-- The outcome of a run. -/
structure AggregationReport where
  correlation : String
  merged : Nat
  excluded : Nat
  reason : CloseReason
  warning : Option PartialWarning
deriving Repr, DecidableEq

/-- A run in progress: its identity, its buffer and the time it may take. -/
structure Gathering where
  scatter : Scatter
  correlation : String
  buffer : Nat
  deadline : Option Timer
  /-- The targets not yet started, with their branch numbers. -/
  waiting : List (Nat × Mediator)

namespace Scatter

/-- The correlation identity of a run: the text of the expression, or a fresh
identity where that is missing or empty. -/
def correlationOf (s : Scatter) (m : Message) (bus : Bus) : String × Bus :=
  let fresh (bus : Bus) : String × Bus :=
    let (id, bus) := bus.freshId
    (id.text, bus)
  match s.config.policy.correlation with
  | none => fresh bus
  | some e =>
    let text := Evaluator.textOf bus.evaluator e m
    let bus := bus.noteEvaluated [e]
    match text with
    | .ok "" => fresh bus
    | .ok text => (text, bus)
    | .error _ => fresh bus

/-- Begins a run: settles its identity, limits and timeout, and opens the
buffer. A timeout of zero counts as none. -/
def begin (s : Scatter) (targets : List Mediator) (m : Message) (bus : Bus) :
    Except Failure Gathering × Bus :=
  let (correlation, bus) := s.correlationOf m bus
  let (minimum, bus) := bus.resolve? s.config.policy.minimum m
  let (maximum, bus) := bus.resolve? s.config.policy.maximum m
  let (timeout, bus) := bus.resolve? s.config.policy.timeout m
  let timeout := (timeout.filter (0 < ·)).or s.config.defaultTimeout
  match bus.openBuffer s.aggregator correlation ⟨targets.length, minimum, maximum⟩ with
  | (.error e, bus) => (.error e, bus)
  | (.ok buffer, bus) =>
    let (deadline, bus) := match timeout with
      | some ms =>
        let (t, bus) := bus.startTimer ms.toNat
        (some t, bus)
      | none => (none, bus)
    let waiting := (List.range targets.length).zip targets
    (.ok ⟨s, correlation, buffer, deadline, waiting⟩, bus)

/-- The message of a branch: a copy under an identity of its own that carries the
correlation identity and the number of the branch. -/
def branch (s : Scatter) (correlation : String) (index : Nat) (m : Message) (bus : Bus) :
    Message × Bus :=
  let (id, bus) := bus.freshId
  let m := (m.fork id).removeProperty Property.continuationCall
  let m := m.removeProperty Property.partialResult
  let m := m.setProperty Property.correlation (.text correlation)
  let m := m.setProperty Property.branchIndex (.int index)
  let m := m.setProperty Property.branchAsync (.bool s.config.parallel)
  let name := s.name ++ "-branch-" ++ String.ofList (Decimal.digits index)
  (m.pushFrame (Frame.start .anonymous name), bus)

/-- Brings the result of a branch in: the value of its expression, or its body.
A branch whose expression has no value is excluded. -/
def contribute (s : Scatter) (buffer index : Nat) (m : Message) (bus : Bus) :
    Contribution × Bus :=
  let (payload, bus) : Option Payload × Bus := match s.config.policy.value with
    | none => (some m.payload, bus)
    | some e =>
      match bus.evaluate e m with
      | (.ok v, bus) => (some (.ofValue v m.messageType), bus)
      | (.error _, bus) => (none, bus)
  match payload with
  | none => (.rejected, bus.updateBuffer buffer (·.exclude index))
  | some payload =>
    let (completed, bus) : Bool × Bus := match s.config.policy.completion with
      | none => (false, bus)
      | some e =>
        let bus' := bus.noteEvaluated [e]
        match Evaluator.truth bus.evaluator e m with
        | .ok b => (b, bus')
        | .error _ => (false, bus')
    match bus.buffer? buffer with
    | none => (.rejected, bus)
    | some b =>
      let (answer, b) := b.add ⟨index, payload⟩ completed
      (answer, bus.updateBuffer buffer fun _ => b)

/-- Whether a branch that stopped waits for a reply: its call was handed off, did
not fail, and left a frame to resume at. -/
def awaitsReply (m : Message) : Bool :=
  m.isTrue Property.continuationCall && !m.isTrue Property.sendingFault &&
    !m.isTrue Property.responseDiscarded && !m.continuation.isEmpty

/-- Takes the outcome of a branch into account. A broken rule ends the run. -/
def accept (s : Scatter) (buffer index : Nat) (m : Message) (outcome : Except Failure Bool)
    (bus : Bus) : Except Failure Unit × Bus :=
  match outcome with
  | .ok true => (.ok (), (s.contribute buffer index m bus).2)
  | .ok false =>
    if awaitsReply m then (.ok (), bus.updateBuffer buffer (·.markAwaiting index))
    else (.ok (), bus.updateBuffer buffer (·.exclude index))
  | .error (.invariant cause) => (.error (.invariant cause), bus)
  | .error _ => (.ok (), bus.updateBuffer buffer (·.exclude index))

/-- The number of the branch that a message belongs to. -/
def branchOf (m : Message) : Option Nat :=
  match m.property? Property.branchIndex with
  | some (.int i) => if Width.word64.holds i then some i.toNat else none
  | _ => none

/-- Takes the reply of a branch that waited for it. It is rejected if its run is
unknown or over, or if the branch is already settled. -/
def deliver (s : Scatter) (m : Message) (bus : Bus) : Except Failure Contribution × Bus :=
  match (m.textProperty? Property.correlation).bind (bus.findBuffer? s.aggregator) with
  | none => (.ok .rejected, bus)
  | some ref =>
    if bus.isBufferClosed ref then (.ok .rejected, bus)
    else
      match branchOf m, bus.buffer? ref with
      | some index, some b =>
        match b.settleAwaiting index with
        | (false, _) => (.ok .rejected, bus)
        | (true, b) =>
          let bus := bus.updateBuffer ref fun _ => b
          if m.isTrue Property.sendingFault then
            (.ok .accepted, bus.updateBuffer ref (·.exclude index))
          else
            let (answer, bus) := s.contribute ref index m bus
            (.ok answer, bus)
      | _, _ => (.error (.invariant (.noBranchIndex m.id.text)), bus)

/-- The results of a run joined in the configured form. -/
def merge (form : AggregateForm) (results : List BranchResult) : Payload :=
  match form with
  | .json => .json (.list (results.map fun r => r.payload.toValue))
  | .xml root =>
    .xml ("<" ++ root ++ ">" ++ String.join (results.map fun r => r.payload.xmlFragment) ++
      "</" ++ root ++ ">")

/-- Puts the joined result in its place. -/
def place (place : ResultPlace) (m : Message) (merged : Payload) : Message :=
  match place with
  | .body => m.setPayload merged
  | .variable name => m.setVariable name merged.toValue

/-- Results in the order in which they are joined: as accepted, or by branch if
branches run one after the other. -/
def ordered (s : Scatter) (results : List BranchResult) : List BranchResult :=
  if s.config.parallel then results
  else results.mergeSort fun a b => decide (a.branch ≤ b.branch)

/-- Ends a run whose buffer is closed. -/
def conclude (g : Gathering) (m : Message) (bus : Bus) :
    Except Failure AggregationReport × Message × Bus :=
  let s := g.scatter
  let buffer := (bus.buffer? g.buffer).getD default
  let (contents, rest) := buffer.take
  let bus := (bus.updateBuffer g.buffer fun _ => rest).forgetBuffer s.aggregator g.correlation
  match contents with
  | .error e => (.error e, m, bus)
  | .ok closed =>
    let results := s.ordered closed.results
    let m := place s.config.place m (merge s.config.form results)
    let warning := buffer.partialWarning results.length closed.reason
    let m := m.setProperty Property.partialResult (.bool warning.isSome)
    (.ok ⟨g.correlation, results.length, closed.excluded, closed.reason, warning⟩, m,
      bus.measure (.closed closed.reason warning.isSome))

end Scatter

end ServiceBus
