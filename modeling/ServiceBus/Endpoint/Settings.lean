import ServiceBus.Endpoint.Definition
import ServiceBus.Endpoint.Defaults
import ServiceBus.Expression

/-
ServiceBus.Endpoint.Settings — the policy of an endpoint resolved for one
message.

Resolution never fails: a field that is not declared, or whose expression has
no value, takes its default, and two corrections keep the result sane. A
factor below one becomes the default factor, and a maximum below the initial
duration is raised to it.
-/
namespace ServiceBus

/-- The policy of an endpoint for one message; durations are in
milliseconds. -/
structure Settings where
  suspendCodes : ErrorCodes
  markCodes : ErrorCodes
  initial : Nat
  factor : Float
  maximum : Nat
  retries : UInt32
  delay : Nat
  retry : RetryLists
deriving Repr, BEq, Inhabited

namespace Settings

/-- The settings where nothing is declared. -/
def ofDefaults (d : EndpointDefaults) : Settings where
  suspendCodes := ErrorCodes.none
  markCodes := ErrorCodes.none
  initial := d.initial.toNat
  factor := d.factor
  maximum := d.maximum.toNat
  retries := d.retries
  delay := d.delay.toNat
  retry := {}

/-- A field that may be absent, with a default for where it has no value. -/
def field {α : Type} [Field α] (p : Option (Policy α)) (ev : Evaluator) (m : Message)
    (default : α) : α :=
  match p with
  | some p => p.resolveOr ev m default
  | none => default

/-- A factor, or the default in place of one that is not usable. -/
def factorOr (default x : Float) : Float := if Config.isFactor x then x else default

/-- The policy of a definition for a message. -/
def resolve (d : Definition) (m : Message) (ev : Evaluator) (defaults : EndpointDefaults) :
    Settings :=
  let base := { ofDefaults defaults with retry := d.retryLists }
  let base := match d.suspend with
    | none => base
    | some s => { base with
        suspendCodes := field s.codes ev m ErrorCodes.none
        initial := (field s.initial ev m defaults.initial).toNat
        factor := match s.factor with
          | some p => factorOr defaults.factor (p.resolveOr ev m defaults.factor)
          | none => defaults.factor
        maximum := (field s.maximum ev m defaults.maximum).toNat }
  let base := match d.mark with
    | none => base
    | some p => { base with
        markCodes := field p.codes ev m ErrorCodes.none
        retries := field p.retries ev m defaults.retries
        delay := (field p.delay ev m defaults.delay).toNat }
  { base with maximum := max base.maximum base.initial }

/-- Whether a failure with this code counts towards a suspension and may be
retried. -/
def counts (s : Settings) (code : Int32) : Bool :=
  s.retry.allows code && (s.markCodes.isEmpty || s.markCodes.contains code)

/-- Whether a failure with this code suspends at once. -/
def suspendsAtOnce (s : Settings) (code : Int32) : Bool := s.suspendCodes.contains code

/-- The duration that follows another one: longer by the factor, cut to whole
milliseconds, and never above the maximum. -/
def grow (s : Settings) (current : Nat) : Nat :=
  min (Float.ofNat current * s.factor).toUInt64.toNat s.maximum

end Settings

/-- How long an attempt may take, and what happens then. -/
structure TimeoutSettings where
  limit : Option Nat
  action : TimeoutAction
deriving Repr, DecidableEq, Inhabited

namespace TimeoutSettings

/-- The timeout of a definition for a message. A declared policy takes zero for
no limit; the default taken without a policy is used as it is. -/
def resolve (d : Definition) (m : Message) (ev : Evaluator) (defaults : EndpointDefaults) :
    TimeoutSettings :=
  match d.timeout with
  | none => ⟨defaults.timeout.map UInt64.toNat, .never⟩
  | some t =>
    let duration := match t.duration with
      | some p => match p.resolve ev m with
        | .ok n => some n
        | .error _ => defaults.timeout
      | none => defaults.timeout
    ⟨(duration.filter (0 < ·)).map UInt64.toNat, Settings.field t.action ev m .never⟩

end TimeoutSettings

end ServiceBus
