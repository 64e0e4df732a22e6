import ServiceBus.Config.Check
import ServiceBus.Failure
import ServiceBus.Policy

/-
ServiceBus.Endpoint.Definition — the declared policy of an endpoint.

A definition is read from data (`Definition.read`), checked
(`Definition.validate`) and written back (`Definition.write`); absent fields
stay absent and expressions keep their text.
-/
namespace ServiceBus

/-- The format of the messages an endpoint takes. -/
inductive MessageFormat where
  | soap11
  | soap12
  | pox
  | get
  | rest
deriving Repr, DecidableEq, Inhabited

/-- How attachments are sent. -/
inductive Optimization where
  | mtom
  | swa
deriving Repr, DecidableEq, Inhabited

/-- The version of the addressing headers. -/
inductive AddressingVersion where
  | final
  | submission
deriving Repr, DecidableEq, Inhabited

/-- How an endpoint is addressed. -/
structure Addressing where
  version : AddressingVersion := .final
  separateListener : Bool := false
deriving Repr, DecidableEq, Inhabited

/-- The security policies of an endpoint. -/
structure Security where
  policy : Option (Policy String) := none
  inbound : Option String := none
  outbound : Option String := none
deriving Repr, DecidableEq, Inhabited

/-- How long an attempt may take and what happens then. -/
structure TimeoutPolicy where
  duration : Option (Policy UInt64) := none
  action : Option (Policy TimeoutAction) := none
deriving Repr, DecidableEq, Inhabited

/-- For how long a failing endpoint is suspended. -/
structure SuspendPolicy where
  /-- Codes that suspend at once. -/
  codes : Option (Policy ErrorCodes) := none
  initial : Option (Policy UInt64) := none
  factor : Option (Policy Float) := none
  maximum : Option (Policy UInt64) := none
deriving Repr, BEq, Inhabited

/-- How many failures are retried before a suspension. -/
structure MarkPolicy where
  /-- Codes that count; without any, every code that may be retried. -/
  codes : Option (Policy ErrorCodes) := none
  retries : Option (Policy UInt32) := none
  delay : Option (Policy UInt64) := none
deriving Repr, DecidableEq, Inhabited

/-- The codes that may be retried, or those that may not. -/
structure RetryLists where
  disabled : List Int32 := []
  enabled : List Int32 := []
deriving Repr, DecidableEq, Inhabited

/-- The declared policy of an endpoint. -/
structure Definition where
  address : Option String := none
  format : Option MessageFormat := none
  optimize : Option Optimization := none
  charset : Option String := none
  addressing : Option Addressing := none
  security : Option Security := none
  timeout : Option TimeoutPolicy := none
  suspend : Option SuspendPolicy := none
  mark : Option MarkPolicy := none
  retry : Option RetryLists := none
deriving Repr, BEq, Inhabited

/-! ## Reading -/

namespace MessageFormat

/-- The name of a format. -/
def name : MessageFormat → String
  | soap11 => "soap11"
  | soap12 => "soap12"
  | pox => "pox"
  | get => "get"
  | rest => "rest"

/-- Reads a format from its name. -/
def read : Value → Except SchemaError MessageFormat :=
  Schema.variant [("get", get), ("pox", pox), ("rest", rest), ("soap11", soap11),
    ("soap12", soap12)]

end MessageFormat

namespace Optimization

/-- The name of an optimization. -/
def name : Optimization → String
  | mtom => "mtom"
  | swa => "swa"

/-- Reads an optimization from its name. -/
def read : Value → Except SchemaError Optimization :=
  Schema.variant [("mtom", mtom), ("swa", swa)]

end Optimization

namespace AddressingVersion

/-- The name of a version. -/
def name : AddressingVersion → String
  | final => "final"
  | submission => "submission"

/-- Reads a version from its name. -/
def read : Value → Except SchemaError AddressingVersion :=
  Schema.variant [("final", final), ("submission", submission)]

end AddressingVersion

namespace Addressing

/-- Reads the addressing of an endpoint. -/
def read : Value → Except SchemaError Addressing :=
  Schema.record ["version", "separate_listener"] {}
    fun a k v => match k with
      | "version" => do return { a with version := ← AddressingVersion.read v }
      | "separate_listener" => do return { a with separateListener := ← Schema.bool v }
      | _ => .ok a

/-- The value of the addressing of an endpoint. -/
def write (a : Addressing) : Value :=
  .object [("separate_listener", .bool a.separateListener), ("version", .text a.version.name)]

end Addressing

/-- An optional member of an object. -/
def member {α : Type} (name : String) (write : α → Value) : Option α → List (String × Value)
  | some a => [(name, write a)]
  | none => []

namespace Security

/-- Reads the security of an endpoint. -/
def read : Value → Except SchemaError Security :=
  Schema.record ["policy", "inbound_policy", "outbound_policy"] {}
    fun s k v => match k with
      | "policy" => do return { s with policy := ← Schema.optional Policy.read v }
      | "inbound_policy" => do return { s with inbound := ← Schema.optional Schema.text v }
      | "outbound_policy" => do return { s with outbound := ← Schema.optional Schema.text v }
      | _ => .ok s

/-- The value of the security of an endpoint. -/
def write (s : Security) : Value :=
  .object <| member "inbound_policy" .text s.inbound ++ member "outbound_policy" .text s.outbound ++
    member "policy" Policy.write s.policy

end Security

namespace TimeoutPolicy

/-- Reads a timeout policy. -/
def read : Value → Except SchemaError TimeoutPolicy :=
  Schema.record ["duration_ms", "response_action"] {}
    fun t k v => match k with
      | "duration_ms" => do return { t with duration := ← Schema.optional Policy.read v }
      | "response_action" => do return { t with action := ← Schema.optional Policy.read v }
      | _ => .ok t

/-- The value of a timeout policy. -/
def write (t : TimeoutPolicy) : Value :=
  .object <| member "duration_ms" Policy.write t.duration ++
    member "response_action" Policy.write t.action

end TimeoutPolicy

namespace SuspendPolicy

/-- Reads a suspension policy. -/
def read : Value → Except SchemaError SuspendPolicy :=
  Schema.record ["error_codes", "initial_duration_ms", "progression_factor",
      "maximum_duration_ms"] {}
    fun s k v => match k with
      | "error_codes" => do return { s with codes := ← Schema.optional Policy.read v }
      | "initial_duration_ms" => do return { s with initial := ← Schema.optional Policy.read v }
      | "progression_factor" => do return { s with factor := ← Schema.optional Policy.read v }
      | "maximum_duration_ms" => do return { s with maximum := ← Schema.optional Policy.read v }
      | _ => .ok s

/-- The value of a suspension policy. -/
def write (s : SuspendPolicy) : Value :=
  .object <| member "error_codes" Policy.write s.codes ++
    member "initial_duration_ms" Policy.write s.initial ++
    member "maximum_duration_ms" Policy.write s.maximum ++
    member "progression_factor" Policy.write s.factor

end SuspendPolicy

namespace MarkPolicy

/-- Reads a retry count policy. -/
def read : Value → Except SchemaError MarkPolicy :=
  Schema.record ["error_codes", "retries_before_suspension", "retry_delay_ms"] {}
    fun p k v => match k with
      | "error_codes" => do return { p with codes := ← Schema.optional Policy.read v }
      | "retries_before_suspension" => do
        return { p with retries := ← Schema.optional Policy.read v }
      | "retry_delay_ms" => do return { p with delay := ← Schema.optional Policy.read v }
      | _ => .ok p

/-- The value of a retry count policy. -/
def write (p : MarkPolicy) : Value :=
  .object <| member "error_codes" Policy.write p.codes ++
    member "retries_before_suspension" Policy.write p.retries ++
    member "retry_delay_ms" Policy.write p.delay

end MarkPolicy

namespace RetryLists

/-- Whether a code may be retried: it is enabled, or, where no code is enabled,
it is not disabled. -/
def allows (r : RetryLists) (code : Int32) : Bool :=
  if r.enabled.isEmpty then !r.disabled.contains code else r.enabled.contains code

/-- Reads the retry lists of an endpoint. -/
def read : Value → Except SchemaError RetryLists :=
  Schema.record ["disabled_error_codes", "enabled_error_codes"] {}
    fun r k v => match k with
      | "disabled_error_codes" => do return { r with disabled := ← Schema.list Schema.int32 v }
      | "enabled_error_codes" => do return { r with enabled := ← Schema.list Schema.int32 v }
      | _ => .ok r

/-- A list member, left out when empty. -/
def listMember (name : String) (codes : List Int32) : List (String × Value) :=
  if codes.isEmpty then [] else [(name, (ErrorCodes.mk codes).write)]

/-- The value of retry lists. -/
def write (r : RetryLists) : Value :=
  .object <| listMember "disabled_error_codes" r.disabled ++
    listMember "enabled_error_codes" r.enabled

end RetryLists

namespace Definition

/-- Reads a definition without checking it. -/
def read : Value → Except SchemaError Definition :=
  Schema.record ["address", "format", "optimize", "charset_encoding", "addressing", "security",
      "timeout", "suspend_on_failure", "mark_for_suspension", "retry_config"] {}
    fun d k v => match k with
      | "address" => do return { d with address := ← Schema.optional Schema.text v }
      | "format" => do return { d with format := ← Schema.optional MessageFormat.read v }
      | "optimize" => do return { d with optimize := ← Schema.optional Optimization.read v }
      | "charset_encoding" => do return { d with charset := ← Schema.optional Schema.text v }
      | "addressing" => do return { d with addressing := ← Schema.optional Addressing.read v }
      | "security" => do return { d with security := ← Schema.optional Security.read v }
      | "timeout" => do return { d with timeout := ← Schema.optional TimeoutPolicy.read v }
      | "suspend_on_failure" => do
        return { d with suspend := ← Schema.optional SuspendPolicy.read v }
      | "mark_for_suspension" => do return { d with mark := ← Schema.optional MarkPolicy.read v }
      | "retry_config" => do return { d with retry := ← Schema.optional RetryLists.read v }
      | _ => .ok d

/-- The value of a definition; absent fields are left out. -/
def write (d : Definition) : Value :=
  .object <| member "address" .text d.address ++
    member "addressing" Addressing.write d.addressing ++
    member "charset_encoding" .text d.charset ++
    member "format" (fun f => .text f.name) d.format ++
    member "mark_for_suspension" MarkPolicy.write d.mark ++
    member "optimize" (fun o => .text o.name) d.optimize ++
    member "retry_config" RetryLists.write d.retry ++
    member "security" Security.write d.security ++
    member "suspend_on_failure" SuspendPolicy.write d.suspend ++
    member "timeout" TimeoutPolicy.write d.timeout

/-- Whether the declared timeout is zero. -/
def hasZeroTimeout (d : Definition) : Bool :=
  match d.timeout with
  | some { duration := some (.literal n), .. } => n == 0
  | _ => false

/-- Checks what is known before a message: the literals and the retry lists.
The first fault in the order timeout, factor, maximum, retry lists, security is
reported. -/
def validate (d : Definition) : Except Failure Unit := do
  if d.hasZeroTimeout then throw (.configuration .timeoutNotPositive)
  match d.suspend with
  | none => pure ()
  | some s =>
    match s.factor with
    | some (.literal factor) =>
      if !Config.isFactor factor then throw (.configuration (.progressionBelowOne factor))
    | _ => pure ()
    match s.initial, s.maximum with
    | some (.literal initial), some (.literal maximum) =>
      if maximum < initial then
        throw (.configuration (.maximumBelowInitial maximum initial))
    | _, _ => pure ()
  match d.retry with
  | none => pure ()
  | some r =>
    if !r.disabled.isEmpty && !r.enabled.isEmpty then
      throw (.configuration .retryListsExclusive)
  match d.security with
  | some { policy := some (.literal key), .. } =>
    if Text.trimmed key = "" then throw (.configuration .blankSecurityKey)
  | _ => pure ()

/-- Reads and checks a definition. -/
def ofValue (v : Value) : Except Failure Definition := do
  match read v with
  | .error e => throw (.serialization e)
  | .ok d =>
    d.validate
    return d

/-- The retry lists, empty where none are declared. -/
def retryLists (d : Definition) : RetryLists := d.retry.getD {}

/-- The expression of a field, if it has one. -/
def expressionOf {α : Type} : Option (Policy α) → List String
  | some (.expression e) => [e]
  | _ => []

/-- The expressions that decide on suspension and retries, in the order in which
they are evaluated. -/
def settingsExpressions (d : Definition) : List String :=
  (match d.suspend with
    | some s => expressionOf s.codes ++ expressionOf s.initial ++ expressionOf s.factor ++
        expressionOf s.maximum
    | none => []) ++
  (match d.mark with
    | some p => expressionOf p.codes ++ expressionOf p.retries ++ expressionOf p.delay
    | none => [])

/-- The expressions that decide on the timeout, in the order in which they are
evaluated. -/
def timeoutExpressions (d : Definition) : List String :=
  match d.timeout with
  | some t => expressionOf t.duration ++ expressionOf t.action
  | none => []

end Definition

end ServiceBus
