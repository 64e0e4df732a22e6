import ServiceBus.Flow.Basic

/-
ServiceBus.Simulation.Step — the steps of a simulation, and their results.

A simulation works on named messages with named mediators, endpoints and
channels. A step is one operation on them; some take time, and several runs of
steps may take turns (`Step.concurrent`).
-/
namespace ServiceBus.Simulation

/-- Which frame to resume at. -/
inductive FrameChoice where
  | given (frame : Frame)
  /-- The one that the last reply for this message name gave. -/
  | last
  /-- The frame on top of the message's stack. -/
  | top
deriving Repr, DecidableEq, Inhabited

/-- Why a step cannot be taken. -/
inductive Problem where
  | noMessage (name : String)
  | noMediator (name : String)
  | noEndpoint (name : String)
  | noTransport (name : String)
  /-- The channel was not given as many messages. -/
  | noSuchCall
  | noFrame
  | unknownStep (name : String)
  | missingField (name : String)
  | unreadable (error : SchemaError)

namespace Problem

/-- The text of a problem. -/
def message : Problem → String
  | noMessage name => "no message " ++ name
  | noMediator name => "no mediator " ++ name
  | noEndpoint name => "no endpoint " ++ name
  | noTransport name => "no transport " ++ name
  | noSuchCall => "no such call"
  | noFrame => "no frame"
  | unknownStep name => "unknown op " ++ name
  | missingField name => "missing text field " ++ name
  | unreadable e => e.message

end Problem

/-- One step. -/
inductive Step where
  | mediate (mediator message : String)
  | execute (scatter message : String)
  | respond (call message : String)
  | faultResponse (call message : String) (fault : TransportFault)
  | resume (sequence message : String) (frame : FrameChoice)
  | edit (message : String) (edits : List (Edit Mediator))
  | evaluate (message expression : String)
  | send (endpoint transport message : String) (mode : SendMode)
  | recordFault (endpoint message : String) (fault : TransportFault)
  | recordResponse (endpoint : String)
  | initEndpoint (endpoint : String)
  | destroyEndpoint (endpoint : String)
  | resetEndpoint (endpoint : String)
  | init (mediator : String)
  | destroy (mediator : String)
  | endpoint (endpoint : String)
  | healths
  | resolve (key : String)
  | register (entry : EndpointEntry)
  | advance (duration : Nat)
  | takeSent (transport : String) (index : Nat) (name : String) (edits : List (Edit Mediator))
  | copy (message name : String)
  | calls (transport : String)
  | callCount (transport : String) (address : Option String)
  | push (transport : String) (outcome : Outcome)
  | clear (transport : String)
  | invocations (recorder : String)
  | evaluated (expression : Option String)
  | describe (mediator : String)
  | deliver (scatter message : String)
  | openCount (scatter : String)
  | buffer (scatter correlation : String)
  /-- Runs take turns; each waits for a while before its first step. -/
  | concurrent (runs : List (Nat × List Step))
  | impossible (problem : Problem)

instance : Inhabited Step := ⟨.healths⟩

/-- What was evaluated: the value, its truth and its text. -/
structure Evaluation where
  value : Except EvaluationError Value
  truth : Except EvaluationError Bool
  text : Except EvaluationError String

/-- A message that was sent, with the name of the message whose identity it
has. -/
structure Sent where
  address : Option String
  owner : Option String
  message : Message

/-- How many messages a channel was given, in all and for an address. -/
structure CallCount where
  all : Nat
  matching : Option Nat
  lastOwner : Option String

/-- An endpoint, and the one that it stands for. -/
structure EndpointView where
  own : Endpoint
  resolved : Except Failure Endpoint

/-- A mediator from outside. -/
inductive Description where
  | plain (name : String)
  | call (call : Call)
  | sequence (name : String) (kind : SequenceKind) (length : Nat)
  | scatter (scatter : Scatter) (targets : List (Option String × String))

mutual

/-- The result of a step. -/
inductive Result where
  | done
  | verdict (verdict : Except Failure Bool)
  | report (report : Except Failure AggregationReport)
  | frame (frame : Except Failure Frame)
  | findings (findings : List Finding)
  | evaluation (evaluation : Evaluation)
  /-- Success without a value, or the failure. -/
  | outcome (outcome : Except Failure Unit)
  /-- The failure that a fault surfaces as. -/
  | surfaced (failure : Except Failure Failure)
  | endpoint (view : EndpointView)
  | healths (endpoints : List (String × Health))
  | name (name : Except Failure String)
  | message (message : Message)
  | calls (calls : List Sent)
  | callCount (count : CallCount)
  | invocations (owners : List (Option String))
  | evaluated (expressions : List String) (count : Option Nat)
  | description (description : Description)
  | contribution (contribution : Except Failure Contribution)
  | count (count : Nat)
  | buffer (buffer : Option Buffer)
  | runs (runs : List (List Answer))
  /-- The step did not end within the longest time that a step may take. -/
  | hang
  | impossible (problem : Problem)

/-- A result, the time at which it was there, the message of the step as it then
was, and the steps entered meanwhile. -/
inductive Answer where
  | mk (result : Result) (time : Nat) (message : Option Message) (trace : List String)

end

end ServiceBus.Simulation
