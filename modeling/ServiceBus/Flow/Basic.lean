import ServiceBus.Flow.Edit
import ServiceBus.Aggregation.Run
import ServiceBus.Rehoming

/-
ServiceBus.Flow.Basic — a message on its way through a mediator, as a value.

A flow is a message, the task at hand, and the work that is left once the task
has its reply, innermost first. It stops at any task that waits, so flows can
take turns. Where a scatter-gather runs branches, every branch is a flow of its
own inside the flow that gathers them.
-/
namespace ServiceBus

/-- What a task ends with. -/
inductive Reply where
  /-- Mediation goes on, or stops for now. -/
  | proceed (flag : Bool)
  | failed (failure : Failure)
  /-- A channel did not deliver. -/
  | refused (fault : TransportFault)
  | gathered (report : AggregationReport)
  | edited (findings : List Finding)

namespace Reply

/-- What a reply means for the mediator that asked. -/
def verdict : Reply → Except Failure Bool
  | proceed flag => .ok flag
  | failed e => .error e
  | refused f => .error (.dispatch (f.code.getD Code.handOffFailed) f.text f.detail)
  | gathered _ => .ok true
  | edited _ => .ok true

end Reply

/-- The attempts to send a message to one concrete endpoint, with its policy
resolved for the message. -/
structure Dispatch where
  endpoint : String
  /-- The address of the endpoint; without one, the message's own destination. -/
  address : Option String
  suspendedCode : Int32
  channel : String
  mode : SendMode
  settings : Settings
  timeout : TimeoutSettings
deriving Inhabited

/-- A sequence as the flow remembers it while a child runs. -/
structure SequenceRun where
  name : String
  /-- Whether the sequence registered a fault handler when it began. -/
  guarded : Bool
deriving Repr, DecidableEq, Inhabited

/-- Work left for when the task at hand has its reply. -/
inductive Pending where
  /-- The children behind the one at `position`. -/
  | children (run : SequenceRun) (position : Nat) (rest : List Mediator)
  /-- What a recorder does after its delay. -/
  | record (recorder : Recorder)
  | edits (rest : List (Edit Mediator)) (findings : List Finding)
  /-- A fixed reply in place of any but a failure. -/
  | reply (reply : Reply)
  /-- A blocking call whose reply is awaited; `handler` was the newest fault
  handler before. -/
  | blockingCall (call : Call) (envelope : Envelope) (handler : Option Id)
  | handOff (call : Call)
  /-- A call on a copy, and the message that goes on. -/
  | outOnly (call : Call) (message : Message)
  /-- A send without endpoint. -/
  | implicit (mode : SendMode)
  /-- An attempt that a channel works on, since when, and when it is cut off. -/
  | attempt (dispatch : Dispatch) (started : Time) (deadline : Option Timer)
  /-- The next attempt, after the retry delay. -/
  | retry (dispatch : Dispatch)
  /-- What a channel does after its delay. -/
  | transmit (outcome : Outcome) (edits : List (Edit Mediator))

/-- The task at hand. -/
inductive Task where
  | mediate (mediator : Mediator)
  | edit (edits : List (Edit Mediator)) (findings : List Finding)
  | attempt (dispatch : Dispatch)
  | transmit (outcome : Outcome) (edits : List (Edit Mediator))
  | sleep (timer : Timer)
  /-- Waits for ever. -/
  | hang
  | reply (reply : Reply)

/-- A message in flight. -/
inductive Flow where
  | busy (message : Message) (task : Task) (pending : List Pending)
  /-- Waits for its branches. -/
  | gathering (message : Message) (gathering : Gathering) (branches : List (Nat × Flow))
      (pending : List Pending)
  /-- Runs one of its branches, apart from the others. -/
  | branching (message : Message) (gathering : Gathering) (index : Nat) (branch : Flow)
      (others : List (Nat × Flow)) (pending : List Pending)

namespace Flow

/-- The message that a flow was started on, in its present state. -/
def message : Flow → Message
  | busy m _ _ => m
  | gathering m _ _ _ => m
  | branching m _ _ _ _ _ => m

/-- The work left for later. -/
def pending : Flow → List Pending
  | busy _ _ k => k
  | gathering _ _ _ k => k
  | branching _ _ _ _ _ k => k

/-- The message and the reply of a flow that has come to its end. -/
def finished? : Flow → Option (Message × Reply)
  | busy m (.reply r) [] => some (m, r)
  | _ => none

/-- A flow that has nothing left but to give a reply. -/
def answer (m : Message) (r : Reply) (k : List Pending) : Flow := .busy m (.reply r) k

/-- The message that the innermost `k` steps leave when they are given up: the
one that went on outside the outermost call on a copy. -/
def outside (m : Message) : List Pending → Message
  | [] => m
  | .outOnly _ left :: k => outside left k
  | _ :: k => outside m k

/-- The message as the one who started the flow sees it. -/
def visible (f : Flow) : Message := outside f.message f.pending

end Flow

end ServiceBus
