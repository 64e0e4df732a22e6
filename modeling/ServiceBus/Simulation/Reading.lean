import ServiceBus.Simulation.Run
import ServiceBus.Endpoint.Builder

/-
ServiceBus.Simulation.Reading — simulations in written form.

A simulation is written as an object with endpoints, mediators, channels,
messages and steps. Optional members may be absent or null. An edit is a list
of its name and its arguments; one that cannot be read is kept and answered
when its turn comes, and so is such a step.
-/
namespace ServiceBus.Simulation

/-- Why a written simulation cannot be set up. -/
inductive SetupError where
  | unreadable (error : SchemaError)
  /-- A part is not sound; the mediator at fault, if it is one. -/
  | refused (mediator : Option String) (failure : Failure)
  | missingField (name : String)
  | noMediator (name : String)
  | unknown (what name : String)

namespace SetupError

/-- The text of an error. -/
def message : SetupError → String
  | unreadable e => e.message
  | refused _ f => f.message
  | missingField name => (Problem.missingField name).message
  | noMediator name => (Problem.noMediator name).message
  | unknown what name => "unknown " ++ what ++ " " ++ name

end SetupError

/-- A part of a simulation, or why it cannot be set up. -/
abbrev Setup := Except SetupError

/-! ## Members -/

/-- A member that is there and not null. -/
def field? (v : Value) (name : String) : Option Value :=
  match v.member? name with
  | some .null => none
  | r => r

/-- A member that is a text. -/
def textField? (v : Value) (name : String) : Option String := (field? v name).bind Value.text?

/-- A text that must be there. -/
def textField (v : Value) (name : String) : Setup String :=
  match textField? v name with
  | some s => .ok s
  | none => .error (.missingField name)

/-- The items of a list. -/
def items : Option Value → List Value
  | some (.list l) => l
  | _ => []

/-- The items of a list member. -/
def itemsOf (v : Value) (name : String) : List Value := items (v.member? name)

/-- The members of an object member. -/
def membersOf (v : Value) (name : String) : List (String × Value) :=
  match v.member? name with
  | some (.object l) => l
  | _ => []

/-- The texts of a list member. -/
def textsOf (v : Value) (name : String) : List String := (itemsOf v name).filterMap Value.text?

/-- A natural number. -/
def natural? : Value → Option Nat
  | .int i => if 0 ≤ i then some i.toNat else none
  | _ => none

/-- A member that is a natural number. -/
def naturalOf (v : Value) (name : String) (default : Nat) : Nat :=
  ((field? v name).bind natural?).getD default

/-- A member that is a truth value. -/
def flagOf (v : Value) (name : String) (default : Bool) : Bool :=
  match field? v name with
  | some (.bool b) => b
  | _ => default

/-- A code. -/
def code? (v : Value) : Option Int32 := v.int?.map Int32.ofInt

/-- A value that is read from its data form. -/
def data {α : Type} (r : Except SchemaError α) : Setup α := r.mapError SetupError.unreadable

/-- A member that is read from its data form, if it is there. -/
def dataOf {α : Type} (v : Value) (name : String) (read : Value → Except SchemaError α) :
    Setup (Option α) :=
  match field? v name with
  | some f => (data (read f)).map some
  | none => .ok none

/-! ## Messages and faults -/

/-- A message under a given identity. The message type and the content type are
those of the body, unless they are given. -/
def readMessage (v : Value) (id : Id) : Setup Message := do
  let m : Message := { id }
  let m := match ← dataOf v "payload" Payload.read with
    | some p => m.setPayload p
    | none => m
  let headers ← dataOf v "headers" (Schema.dict Schema.text)
  let m := { m with
    properties := Dict.ofList (membersOf v "properties")
    vars := Dict.ofList (membersOf v "variables")
    headers := headers.getD ∅
    destination := textField? v "to"
    response := flagOf v "response" false }
  let m := if flagOf v "out_only" false then m.setProperty Property.outOnly (.bool true) else m
  let m := match v.member? "message_type" with
    | some t => { m with messageType := t.text? }
    | none => m
  let m := match v.member? "content_type" with
    | some t => { m with contentType := t.text? }
    | none => m
  let frames ← data ((itemsOf v "continuation").mapM Frame.read)
  return { m with continuation := frames.reverse }

/-- A fault of a channel. -/
def readFault (v : Value) : TransportFault where
  code := (field? v "code").bind code?
  message := textField? v "message"
  detail := textField? v "detail"

/-- A failure by its kind and the fields that go with it. -/
def readFailure (v : Value) : Setup Failure := do
  let text := (textField? v "message").getD ""
  let code := ((field? v "code").bind code?).getD 0
  match ← textField v "kind" with
  | "Configuration" => return .configuration (.stated text)
  | "DispatchFault" => return .dispatch code text (textField? v "detail")
  | "EndpointSuspended" =>
    return .suspended ((textField? v "endpoint").getD "") code (naturalOf v "remaining_ms" 0)
  | "InvariantViolation" => return .invariant (.stated text)
  | "Expression" => return .expression ((textField? v "expression").getD "") (.stated text)
  | "Serialization" => return .serialization (.refused text)
  | "Timeout" => return .timeout text
  | "EndpointNotFound" => return .unknownEndpoint ((textField? v "key").getD "")
  | "Internal" => return .internal (.stated text)
  | other => throw (.unknown "error kind" other)

/-! ## Edits -/

/-- An edit by its name and arguments. -/
def readEdit (mediators : Dict Mediator) (name : String) (args : List Value) :
    Except SchemaError (Edit Mediator) := do
  let arg (i : Nat) : Value := args[i]?.getD .null
  let text (i : Nat) : Except SchemaError String := Schema.text (arg i)
  let text? (i : Nat) : Except SchemaError (Option String) := Schema.optional Schema.text (arg i)
  let position (i : Nat) : Except SchemaError Nat := do return (← Schema.word64 (arg i)).toNat
  match name with
  | "set" => return .setProperty (← text 0) (arg 1)
  | "get" => return .getProperty (← text 0)
  | "remove" => return .removeProperty (← text 0)
  | "has" => return .hasProperty (← text 0)
  | "bool" => return .isTrue (← text 0)
  | "str" => return .getText (← text 0)
  | "set_var" => return .setVariable (← text 0) (arg 1)
  | "get_var" => return .getVariable (← text 0)
  | "remove_var" => return .removeVariable (← text 0)
  | "is_out_only" => return .isOutOnly
  | "set_out_only" => return .setOutOnly (← Schema.bool (arg 0))
  | "set_payload" => return .setPayload (← Payload.read (arg 0))
  | "raw_payload" => return .replacePayload (← Payload.read (arg 0))
  | "take_payload" => return .takePayload
  | "set_content_type" => return .setContentType (← text 0) (← text 1)
  | "clear_per_call" => return .clearCallProperties
  | "set_error" => return .setError (← Schema.int32 (arg 0)) (← text 1) (← text? 2)
  | "error_code" => return .getErrorCode
  | "fork" => return .fork
  | "handle_fault" => return .handleFault
  | "push_handler" =>
    let id ← text 1
    match mediators.get? id with
    | some m => return .pushHandler (← text 0) m
    | none => return .invalid (.noMediator id)
  | "pop_handler" => return .popHandler
  | "head_handler" => return .headHandler
  | "pop_if_head" => return .popIfHead (← text 0)
  | "clear_handlers" => return .clearHandlers
  | "push_frame" => return .pushFrame (← Frame.read (arg 0))
  | "pop_frame" => return .popFrame
  | "peek_frame" => return .peekFrame
  | "update_position" => return .movePosition (← position 0)
  | "resume_frame" => return .resumeFrame
  | "push_top_at" => return .pushTopAt (← position 0)
  | "clear_frames" => return .clearFrames
  | "stack" => return .getFrames
  | "set_stack" => return .setFrames (← Continuation.read (arg 0))
  | "header" => return .setHeader (← text 0) (← text 1)
  | "remove_header" => return .removeHeader (← text 0)
  | "clear_headers" => return .clearHeaders
  | "message_type" => return .setMessageTypeOnly (← text? 0)
  | "content_type" => return .setContentTypeOnly (← text? 0)
  | "response" => return .setResponse (← Schema.bool (arg 0))
  | "to" => return .setTo (← text? 0)
  | other => return .invalid (.unknown other)

/-- An edit in written form. -/
def edit (mediators : Dict Mediator) (v : Value) : Edit Mediator :=
  match v with
  | .list (.text name :: args) =>
    match readEdit mediators name args with
    | .ok e => e
    | .error e => .invalid (.unreadable e)
  | _ => .invalid (.unknown "")

/-- The edits of a list member. -/
def editsOf (mediators : Dict Mediator) (v : Value) (name : String) : List (Edit Mediator) :=
  (itemsOf v name).map (edit mediators)

/-! ## Mediators -/

/-- A recorder. -/
def readRecorder (id name : String) (v : Value) : Setup Recorder := do
  let error ← match field? v "error" with
    | some f => (readFailure f).map some
    | none => pure none
  let payload ← dataOf v "payload" Payload.read
  let properties := (itemsOf v "properties").filterMap fun
    | .list [.text k, value] => some (k, value)
    | _ => none
  return {
    id, name, error, payload, properties
    result := flagOf v "result" true
    delay := (field? v "delay_ms").bind natural?
    divert := flagOf v "divert" false }

/-- The moves of bodies around a call. A source may come with the type of its
body. -/
def readRehoming (v : Value) : Setup Rehoming := do
  let source ← dataOf v "source" PayloadSource.read
  let target ← dataOf v "target" PayloadTarget.read
  return { source, target, sourceType := textField? v "source_type" }

/-- The configuration of a scatter-gather. -/
def readScatterConfig (v : Value) : Setup ScatterConfig := do
  let form ← data (AggregateForm.read ((v.member? "content_type").getD .null))
  let place ← data (ResultPlace.read ((v.member? "result").getD .null))
  let defaults ← dataOf v "defaults" (ScatterDefaults.read .plain)
  let config := ScatterConfig.ofDefaults (defaults.getD {}) form place
  let config := if flagOf v "sequential" false then config.sequential else config
  match ← dataOf v "aggregation" AggregationPolicy.read with
  | some policy => return { config with policy }
  | none => return config

/-- A mediator that was set up before. -/
def mediatorOf (mediators : Dict Mediator) (id : String) : Setup Mediator :=
  match mediators.get? id with
  | some m => .ok m
  | none => .error (.noMediator id)

/-- A mediator that may refer to those before it. -/
def readMediator (mediators : Dict Mediator) (id : String) (v : Value) : Setup Mediator := do
  let name := (textField? v "name").getD id
  match (textField? v "type").getD "record" with
  | "record" => return .recorder (← readRecorder id name v)
  | "edit" => return .editor name (editsOf mediators v "ops") (flagOf v "result" true)
  | "call" =>
    let rehoming ← readRehoming v
    let sourceType := if rehoming.source.isSome then rehoming.sourceType else none
    return .call {
      name
      rehoming := { rehoming with sourceType }
      transport := (textField? v "transport").getD ""
      endpoint := textField? v "endpoint"
      blocking := flagOf v "blocking" false }
  | "sequence" =>
    let kind := (← dataOf v "sequence_type" SequenceKind.read).getD .anonymous
    let children ← (textsOf v "children").mapM (mediatorOf mediators)
    let onError ← (textField? v "on_error").mapM (mediatorOf mediators)
    return .sequence name kind children onError
  | "scatter" =>
    let config ← readScatterConfig v
    let targets ← (itemsOf v "targets").mapM fun t => do
      return (textField? t "id", ← mediatorOf mediators (← textField t "sequence"))
    let aggregator := match textField? v "share_with" with
      | some other => match mediators.get? other with
        | some (.scatter s _) => s.aggregator
        | _ => other
      | none => id
    return .scatter ⟨name, config, aggregator⟩ targets
  | other => throw (.unknown "mediator type" other)

/-- Sets up a mediator. -/
def addMediator (w : World) (v : Value) : Setup World := do
  let id ← textField v "id"
  (w.addMediator id (← readMediator w.mediators id v)).mapError (SetupError.refused (some id))

/-! ## Channels -/

/-- An outcome of at most `depth` levels. -/
def readOutcome : Nat → Value → Except SchemaError Outcome
  | 0, _ => .error .noForm
  | depth + 1, v =>
    match v with
    | .text "success" => .ok .success
    | .text "hang" => .ok .hang
    | .text other => .error (.unknownVariant other)
    | _ =>
      match v.member? "respond", v.member? "fault", v.member? "then" with
      | some p, _, _ => (Payload.read p).map .respond
      | _, some f, _ => .ok (.fault (readFault f))
      | _, _, some rest => (readOutcome depth rest).map (.after (naturalOf v "after" 0))
      | _, _, _ => .error .noForm

/-- An outcome in written form. -/
def outcome (v : Value) : Except SchemaError Outcome := readOutcome v.depth v

/-- A channel. -/
def readTransport (mediators : Dict Mediator) (v : Value) : Except SchemaError Transport := do
  let byAddress ← (membersOf v "by_address").mapM fun (a, l) => do
    return (a, ← (items (some l)).mapM outcome)
  let standing ← match field? v "default" with
    | some o => outcome o
    | none => pure .success
  return {
    script := ← (itemsOf v "script").mapM outcome
    byAddress := Dict.ofList byAddress
    standing
    edits := (itemsOf v "edits").map fun l => (items (some l)).map (edit mediators) }

/-! ## Steps -/

/-- The frame to resume at. -/
def readFrameChoice (v : Value) : Except SchemaError FrameChoice :=
  match v with
  | .text "last" => .ok .last
  | .text "peek" => .ok .top
  | v => (Frame.read v).map .given

/-- A step that is not made of others. -/
def readStep (mediators : Dict Mediator) (name : String) (v : Value) : Except Problem Step := do
  let text (name : String) : Except Problem String :=
    match textField? v name with
    | some s => .ok s
    | none => .error (.missingField name)
  let member (name : String) : Value := (v.member? name).getD .null
  let read {α : Type} (r : Except SchemaError α) : Except Problem α := r.mapError .unreadable
  match name with
  | "mediate" => return .mediate (← text "mediator") (← text "message")
  | "execute" => return .execute (← text "mediator") (← text "message")
  | "on_response" => return .respond (← text "mediator") (← text "message")
  | "on_fault" =>
    return .faultResponse (← text "mediator") (← text "message") (readFault (member "fault"))
  | "resume" =>
    return .resume (← text "mediator") (← text "message") (← read (readFrameChoice (member "frame")))
  | "edit" => return .edit (← text "message") (editsOf mediators v "ops")
  | "evaluate" => return .evaluate (← text "message") (← text "expression")
  | "send" =>
    return .send (← text "endpoint") (← text "transport") (← text "message")
      (if flagOf v "blocking" false then .blocking else .handOff)
  | "record_fault" =>
    return .recordFault (← text "endpoint") (← text "message") (readFault (member "fault"))
  | "record_response" => return .recordResponse (← text "endpoint")
  | "endpoint_init" => return .initEndpoint (← text "endpoint")
  | "endpoint_destroy" => return .destroyEndpoint (← text "endpoint")
  | "endpoint_reset" => return .resetEndpoint (← text "endpoint")
  | "init" => return .init (← text "mediator")
  | "destroy" => return .destroy (← text "mediator")
  | "endpoint" => return .endpoint (← text "endpoint")
  | "snapshots" => return .healths
  | "resolve" => return .resolve (← text "key")
  | "register" => return .register (← read (EndpointEntry.read .plain (member "entry")))
  | "advance" => return .advance (naturalOf v "ms" 0)
  | "take_sent" =>
    return .takeSent (← text "transport") (naturalOf v "index" 0) (← text "as")
      (editsOf mediators v "ops")
  | "copy" => return .copy (← text "message") (← text "as")
  | "calls" => return .calls (← text "transport")
  | "call_count" => return .callCount (← text "transport") (textField? v "address")
  | "push_outcome" => return .push (← text "transport") (← read (outcome (member "outcome")))
  | "clear_transport" => return .clear (← text "transport")
  | "invocations" => return .invocations (← text "mediator")
  | "evaluated" => return .evaluated (textField? v "expression")
  | "describe" => return .describe (← text "mediator")
  | "on_branch_response" => return .deliver (← text "mediator") (← text "message")
  | "open_count" => return .openCount (← text "mediator")
  | "buffer" => return .buffer (← text "mediator") (← text "correlation_id")
  | other => throw (.unknownStep other)

/-- A step of at most `depth` levels. -/
def stepWithin (mediators : Dict Mediator) : Nat → Value → Step
  | 0, _ => .impossible (.unknownStep "")
  | depth + 1, v =>
    match textField? v "do" with
    | none => .impossible (.missingField "do")
    | some "concurrent" =>
      .concurrent ((itemsOf v "runs").map fun r =>
        (naturalOf r "after" 0, (itemsOf r "steps").map (stepWithin mediators depth)))
    | some name =>
      match readStep mediators name v with
      | .ok s => s
      | .error p => .impossible p

/-- A step in written form. -/
def step (mediators : Dict Mediator) (v : Value) : Step := stepWithin mediators v.depth v

/-! ## Simulations -/

/-- An evaluator with fixed answers. -/
def readEvaluator (v : Value) : Evaluator :=
  Evaluator.table (textsOf v "failing") (Dict.ofList (membersOf v "values"))

/-- Sets up a simulation in a world without mediators and messages. The endpoints
that must all lead somewhere come first, then those registered one by one,
then mediators in order, channels, and messages by name. -/
def setup (w : World) (v : Value) : Setup World := do
  let entries := (← dataOf v "endpoints" (Schema.list (EndpointEntry.read .plain))).getD []
  let sound {α : Type} (r : Except Failure α) : Setup α := r.mapError (SetupError.refused none)
  let endpoints ← sound (Registry.ofEntries entries)
  let more := (← dataOf v "register" (Schema.list (EndpointEntry.read .plain))).getD []
  let endpoints ← more.foldlM (fun r e => do
    sound (Registry.register r (← sound (Endpoint.ofEntry e)))) endpoints
  let defaults := (← dataOf v "defaults" (EndpointDefaults.read .plain)).getD {}
  let evaluator := match field? v "evaluator" with
    | some e => readEvaluator e
    | none => Evaluator.lookup
  let w := { w with bus := { w.bus with endpoints, defaults, evaluator } }
  let w ← (itemsOf v "mediators").foldlM addMediator w
  let transports ← (membersOf v "transports").mapM fun (name, t) => do
    return (name, ← data (readTransport w.mediators t))
  let w := { w with bus := { w.bus with transports := Dict.ofList transports } }
  (membersOf v "messages").foldlM (fun w (name, m) => do
    let built ← readMessage m ⟨0⟩
    return w.addMessage name (fun id => built.fork id) (textsOf m "fault_handlers")) w

/-- Sets up a simulation and runs its steps. -/
def run (w : World) (v : Value) : Setup (List Answer × World) := do
  let w ← setup w v
  return w.run ((itemsOf v "steps").map (step w.mediators))

end ServiceBus.Simulation
