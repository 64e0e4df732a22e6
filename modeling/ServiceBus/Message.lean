import ServiceBus.Mediator
import ServiceBus.Id

/-
ServiceBus.Message — a message on its way through the bus.

A message owns its body, its properties, variables and transport headers, the
stack of frames to resume at, and the chain of fault handlers. Fault handlers
are told apart by identity, so a sequence registered twice is two handlers.
-/
namespace ServiceBus

/-! ## Names of properties that the bus itself reads and writes -/

namespace Property

def receivingSequence : String := "RECEIVING_SEQUENCE"
def dynamicUrl : String := "DYNAMIC_URL_VALUE"
def lastEndpoint : String := "last_endpoint"
def blockingSenderError : String := "blocking.sender.error"
def blockingSender : String := "blocking.message.sender"
def lastFaultHandler : String := "LAST_SEQ_FAULT_HANDLER"
def continuationCall : String := "CONTINUATION_CALL"
def outOnly : String := "OUT_ONLY"
def responseDiscarded : String := "RESPONSE_DISCARDED"
def errorCode : String := "ERROR_CODE"
def errorMessage : String := "ERROR_MESSAGE"
def errorDetail : String := "ERROR_DETAIL"
def errorException : String := "ERROR_EXCEPTION"
def sendingFault : String := "SENDING_FAULT"
def parkedBody : String := "_INTERMEDIATE_ORIGINAL_BODY"
def inboundTarget : String := "_TARGET_FOR_INBOUND_PAYLOAD"
def savedMessageType : String := "_ORIGINAL_MESSAGE_TYPE"
def sourceMessageType : String := "_SOURCE_MESSAGE_TYPE"
def sourceAvailable : String := "_IS_SOURCE_AVAILABLE"
def targetAvailable : String := "IS_TARGET_AVAILABLE"
def savedHeaders : String := "_ORIGINAL_TRANSPORT_HEADERS"
def savedContentType : String := "_ORIGINAL_CONTENT_TYPE"
def correlation : String := "SCATTER_GATHER_CORRELATION_ID"
def branchIndex : String := "SCATTER_GATHER_BRANCH_INDEX"
def branchAsync : String := "SCATTER_GATHER_ASYNC"
def partialResult : String := "SCATTER_GATHER_PARTIAL"

/-- Bookkeeping of one call, dropped before the next attempt. -/
def perCall : List String :=
  [receivingSequence, dynamicUrl, lastEndpoint, blockingSender, blockingSenderError]

/-- What a blocking call drops before it sends; its own mark stays. -/
def perBlockingCall : List String :=
  [receivingSequence, dynamicUrl, lastEndpoint, blockingSenderError]

end Property

/-- The transport header that repeats the content type. -/
def contentTypeHeader : String := "Content-Type"

/-- A recovery sequence registered on a message. -/
structure FaultHandler where
  id : Id
  name : String
  sequence : Mediator

/-- A message in flight. -/
structure Message where
  id : Id
  properties : Dict Value := ∅
  vars : Dict Value := ∅
  payload : Payload := .empty
  headers : Dict String := ∅
  messageType : Option String := none
  contentType : Option String := none
  continuation : Continuation := []
  /-- The handler registered last stands first and runs first. -/
  faultHandlers : List FaultHandler := []
  response : Bool := false
  /-- Where a call without endpoint sends the message. -/
  destination : Option String := none
deriving Inhabited

namespace Message

/-- The value of a property. -/
def property? (m : Message) (name : String) : Option Value := m.properties.get? name

/-- Sets a property. -/
def setProperty (m : Message) (name : String) (v : Value) : Message :=
  { m with properties := m.properties.insert name v }

/-- Removes a property. -/
def removeProperty (m : Message) (name : String) : Message :=
  { m with properties := m.properties.erase name }

/-- Whether a property is the truth value or the text `true`, in any case. -/
def isTrue (m : Message) (name : String) : Bool :=
  match m.property? name with
  | some (.bool b) => b
  | some (.text s) => Text.eqIgnoringCase s "true"
  | _ => false

/-- The text of a property that is one. -/
def textProperty? (m : Message) (name : String) : Option String :=
  (m.property? name).bind Value.text?

/-- Sets a variable. -/
def setVariable (m : Message) (name : String) (v : Value) : Message :=
  { m with vars := m.vars.insert name v }

/-- Removes a variable. -/
def removeVariable (m : Message) (name : String) : Message :=
  { m with vars := m.vars.erase name }

/-- The value in a place. -/
def slot? (m : Message) : Slot → Option Value
  | .property name => m.properties.get? name
  | .variable name => m.vars.get? name

/-- Puts a value into a place. -/
def setSlot (m : Message) (s : Slot) (v : Value) : Message :=
  match s with
  | .property name => m.setProperty name v
  | .variable name => m.setVariable name v

/-- Whether no reply is wanted. -/
def isOutOnly (m : Message) : Bool := m.isTrue Property.outOnly

/-- Replaces the body; message type and content type follow it. -/
def setPayload (m : Message) (p : Payload) : Message :=
  match p.contentType? with
  | some t => { m with payload := p, messageType := some t, contentType := some t }
  | none => { m with payload := p }

/-- Sets a transport header. -/
def setHeader (m : Message) (name value : String) : Message :=
  { m with headers := m.headers.insert name value }

/-- Switches message type and content type, and the header that repeats it. -/
def setContentType (m : Message) (messageType contentType : String) : Message :=
  { m with
    messageType := some messageType
    contentType := some contentType
    headers := m.headers.insert contentTypeHeader contentType }

/-- Drops what an earlier call left behind. -/
def clearCallProperties (m : Message) : Message :=
  { m with properties := m.properties.eraseAll Property.perCall }

/-- Attaches a classified failure. -/
def setError (m : Message) (code : Int32) (message : String) (detail : Option String) : Message :=
  let m := (m.setProperty Property.errorCode (.int code.toInt)).setProperty
    Property.errorMessage (.text message)
  match detail with
  | some d => m.setProperty Property.errorDetail (.text d)
  | none => m.removeProperty Property.errorDetail

/-- The code of the failure attached last. -/
def errorCode? (m : Message) : Option Int32 :=
  match m.property? Property.errorCode with
  | some (.int i) => if Width.int32.holds i then some (Int32.ofInt i) else none
  | _ => none

/-- A copy under an identity of its own. -/
def fork (m : Message) (id : Id) : Message := { m with id }

/-- Registers a fault handler. -/
def pushHandler (m : Message) (h : FaultHandler) : Message :=
  { m with faultHandlers := h :: m.faultHandlers }

/-- The handler registered last. -/
def headHandler? (m : Message) : Option FaultHandler := m.faultHandlers.head?

/-- The identity of the handler registered last. -/
def headHandlerId? (m : Message) : Option Id := m.headHandler?.map FaultHandler.id

/-- Pushes a frame. -/
def pushFrame (m : Message) (f : Frame) : Message :=
  { m with continuation := f :: m.continuation }

/-- Drops the top frame. -/
def popFrame (m : Message) : Message := { m with continuation := m.continuation.tail }

/-- Moves the top frame to a position. -/
def movePosition (m : Message) (position : Nat) : Message :=
  { m with continuation := Continuation.moveTo position m.continuation }

/-- Takes the top frame off, to resume at it. -/
def resume (m : Message) : Except Failure (Frame × Message) :=
  match m.continuation with
  | f :: rest => .ok (f, { m with continuation := rest })
  | [] => .error (.invariant .noFrameToResume)

end Message

end ServiceBus
