import ServiceBus.Endpoint.Settings
import ServiceBus.Time

/-
ServiceBus.Endpoint.Health — the health of an endpoint over time.

An endpoint is active, retrying after failures, or suspended. A failure that
counts beyond the allowed retries suspends it; while it stays suspended, each
further one lengthens the suspension by the factor of the settings. A success
makes it active again.

Durations are configured, and lengthened, in whole milliseconds, but a suspension
may begin at any time, and so may the question what is left of it.
-/
namespace ServiceBus

/-- The state an endpoint is in. -/
inductive HealthState where
  | active
  | retrying
  | suspended
deriving Repr, DecidableEq, Inhabited

namespace HealthState

/-- The name of a state. -/
def name : HealthState → String
  | active => "Active"
  | retrying => "Retrying"
  | suspended => "Suspended"

end HealthState

/-- The health of one endpoint. -/
structure Health where
  state : HealthState := .active
  /-- Counted failures since the last success. -/
  failures : Nat := 0
  /-- The duration of the suspension now in force, in milliseconds. -/
  current : Option Nat := none
  /-- The time at which that suspension ends. -/
  deadline : Option Time := none
  total : Nat := 0
  succeeded : Nat := 0
  failed : Nat := 0
  suspensions : Nat := 0
deriving Repr, DecidableEq, Inhabited

/-- What may be done after a failure. -/
inductive Verdict where
  | retry (delay : Nat)
  | suspended (duration : Nat)
  /-- The failure does not count and is reported as it is. -/
  | surface
deriving Repr, DecidableEq

namespace Health

/-- The rest of the suspension at a time. -/
def remaining (h : Health) (now : Time) : Time :=
  match h.deadline with
  | some deadline => deadline - now
  | none => 0

/-- The rest of the suspension that keeps a dispatch from going out; none lets
it go. -/
def rest? (h : Health) (now : Time) : Option Time :=
  if h.state = .suspended ∧ 0 < h.remaining now then some (h.remaining now) else none

/-- What a dispatch is told that may not go out: the whole milliseconds of that
rest, also where they are none. -/
def refusal (h : Health) (now : Time) : Option Nat := (h.rest? now).map Time.millis

/-- Records a success. -/
def recordSuccess (h : Health) : Health :=
  { h with
    state := .active
    failures := 0
    current := none
    deadline := none
    total := h.total + 1
    succeeded := h.succeeded + 1 }

/-- The duration of the next suspension. -/
def nextDuration (h : Health) (s : Settings) : Nat :=
  match h.state, h.current with
  | .suspended, some current => s.grow current
  | _, _ => min s.initial s.maximum

/-- Suspends the endpoint from now on. -/
def suspend (h : Health) (now : Time) (s : Settings) : Health :=
  { h with
    state := .suspended
    current := some (h.nextDuration s)
    deadline := some (now + h.nextDuration s)
    suspensions := h.suspensions + 1 }

/-- Records a failure with its code, and says what may be done next. -/
def recordFailure (h : Health) (now : Time) (code : Int32) (s : Settings) : Verdict × Health :=
  let h := { h with total := h.total + 1, failed := h.failed + 1 }
  if s.suspendsAtOnce code then
    (.suspended (h.nextDuration s), { h with failures := h.failures + 1 }.suspend now s)
  else if !s.counts code then (.surface, h)
  else
    let h := { h with failures := h.failures + 1 }
    if h.state ≠ .suspended ∧ h.failures ≤ s.retries.toNat then
      (.retry s.delay, { h with state := .retrying })
    else (.suspended (h.nextDuration s), h.suspend now s)

/-- The share of failures among all recorded outcomes. -/
def failureRate (h : Health) : Float :=
  if h.total = 0 then 0.0 else Float.ofNat h.failed / Float.ofNat h.total

/-- The health at a time, as data. -/
def write (h : Health) (now : Time) : Value :=
  .object [("consecutive_failures", .int h.failures),
    ("current_suspend_ms", match h.current with | some n => .int n | none => .null),
    ("failed_calls", .int h.failed),
    ("remaining_suspend_ms", .int (h.remaining now).millis),
    ("state", .text h.state.name),
    ("successful_calls", .int h.succeeded),
    ("suspensions", .int h.suspensions),
    ("total_calls", .int h.total)]

end Health

end ServiceBus
