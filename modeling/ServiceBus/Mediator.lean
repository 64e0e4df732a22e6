import ServiceBus.Rehoming.Basic
import ServiceBus.Aggregation.Config

/-
ServiceBus.Mediator — the steps that a message goes through.

A mediator is a tree. Its leaves are calls, which send the message to an
endpoint, recorders, which stand for any other step and note that they ran,
and editors, which apply a list of edits. Sequences run their children in
order; a scatter-gather runs each target on a copy of the message.
-/
namespace ServiceBus

/-- Why an edit cannot be performed. -/
inductive EditFault where
  | unreadable (error : SchemaError)
  | unknown (name : String)
  | noMediator (name : String)

namespace EditFault

/-- The text of a fault. -/
def message : EditFault → String
  | unreadable e => e.message
  | unknown name => "unknown op " ++ name
  | noMediator name => "no mediator " ++ name

end EditFault

/-- One change of a message, or one question about it. -/
inductive Edit (μ : Type) where
  | setProperty (name : String) (value : Value)
  | getProperty (name : String)
  | removeProperty (name : String)
  | hasProperty (name : String)
  | isTrue (name : String)
  | getText (name : String)
  | setVariable (name : String) (value : Value)
  | getVariable (name : String)
  | removeVariable (name : String)
  | isOutOnly
  | setOutOnly (flag : Bool)
  | setPayload (payload : Payload)
  /-- Changes the body alone. -/
  | replacePayload (payload : Payload)
  | takePayload
  | setContentType (messageType contentType : String)
  | clearCallProperties
  | setError (code : Int32) (message : String) (detail : Option String)
  | getErrorCode
  | fork
  | handleFault
  | pushHandler (name : String) (sequence : μ)
  | popHandler
  | headHandler
  /-- Drops the newest handler if it is the newest one of that name. -/
  | popIfHead (name : String)
  | clearHandlers
  | pushFrame (frame : Frame)
  | popFrame
  | peekFrame
  | movePosition (position : Nat)
  | resumeFrame
  /-- Pushes the top frame again, at another position. -/
  | pushTopAt (position : Nat)
  | clearFrames
  | getFrames
  | setFrames (frames : Continuation)
  | setHeader (name value : String)
  | removeHeader (name : String)
  | clearHeaders
  | setMessageTypeOnly (messageType : Option String)
  | setContentTypeOnly (contentType : Option String)
  | setResponse (flag : Bool)
  | setTo (destination : Option String)
  /-- An edit that cannot be performed. -/
  | invalid (fault : EditFault)

/-- A step that notes the messages it sees and changes them as configured. -/
structure Recorder where
  id : String
  name : String
  result : Bool := true
  error : Option Failure := none
  payload : Option Payload := none
  properties : List (String × Value) := []
  delay : Option Nat := none
  /-- Whether the message is handed to its fault handlers. -/
  divert : Bool := false

/-- A step that sends the message through a transport. -/
structure Call where
  name : String
  transport : String
  /-- The registered endpoint; without one, the message's own destination. -/
  endpoint : Option String := none
  /-- A blocking call waits for the reply; any other is handed off, and the
  reply arrives on the response path. -/
  blocking : Bool := false
  rehoming : Rehoming := {}

/-- A scatter-gather without its targets. -/
structure Scatter where
  name : String
  config : ScatterConfig
  /-- The aggregator that holds its buffers. -/
  aggregator : String

/-- A tree of steps. -/
inductive Mediator where
  | recorder (recorder : Recorder)
  | editor (name : String) (edits : List (Edit Mediator)) (result : Bool)
  | call (call : Call)
  | sequence (name : String) (kind : SequenceKind) (children : List Mediator)
      (onError : Option Mediator)
  | scatter (scatter : Scatter) (targets : List (Option String × Mediator))

namespace Mediator

/-- The name of a mediator. -/
def name : Mediator → String
  | recorder r => r.name
  | editor name _ _ => name
  | call c => c.name
  | sequence name _ _ _ => name
  | scatter s _ => s.name

end Mediator

instance : Inhabited Mediator := ⟨.sequence "" .anonymous [] none⟩

end ServiceBus
