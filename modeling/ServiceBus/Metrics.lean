import ServiceBus.Dict
import ServiceBus.ErrorCodes
import ServiceBus.Time

/-
ServiceBus.Metrics — what the bus counts and measures.

The measurements are kept as a log of events, latest first. A counter is the
number of its events in the log, and a histogram the values of its events in
the order of recording; `Metrics.report` shows both under their names.
-/
namespace ServiceBus

/-- How an attempt to dispatch a message ended. -/
inductive DispatchOutcome where
  | success
  | fault
  | suspended
  | timeout
deriving Repr, DecidableEq, Inhabited

/-- Why an aggregation was closed. -/
inductive CloseReason where
  | maxMessages
  | completionCondition
  | timeout
  | allBranches
deriving Repr, DecidableEq, Inhabited

namespace DispatchOutcome

/-- The name of an outcome. -/
def name : DispatchOutcome → String
  | success => "success"
  | fault => "fault"
  | suspended => "suspended"
  | timeout => "timeout"

end DispatchOutcome

namespace CloseReason

/-- The name of a reason. -/
def name : CloseReason → String
  | maxMessages => "max_messages"
  | completionCondition => "completion_condition"
  | timeout => "timeout"
  | allBranches => "all_branches"

/-- Reads a reason from its name. -/
def read : Value → Except SchemaError CloseReason :=
  Schema.variant [("all_branches", allBranches), ("completion_condition", completionCondition),
    ("max_messages", maxMessages), ("timeout", timeout)]

end CloseReason

/-- One measured event. -/
inductive Metric where
  | dispatched (endpoint : String) (outcome : DispatchOutcome) (elapsed : Time)
  | faulted (endpoint : String) (code : Int32)
  | suspended (endpoint : String)
  | closed (reason : CloseReason) (incomplete : Bool)
deriving Repr, DecidableEq

/-- What a name stands for in the report. -/
inductive Reading where
  | counter (count : Nat)
  | samples (values : List Nat)
deriving Repr, DecidableEq

namespace Metrics

/-- A name with its labels, which stand in the order of their names. -/
def title (name : String) (labels : List (String × String)) : String :=
  name ++ "\x7b" ++ String.intercalate "," (labels.map fun (k, v) => k ++ "=" ++ v) ++ "\x7d"

/-- The counter that an event adds to. -/
def counterTitle : Metric → String
  | .dispatched endpoint outcome _ =>
    title "mediation_dispatch_total" [("endpoint", endpoint), ("outcome", outcome.name)]
  | .faulted endpoint code =>
    title "mediation_dispatch_faults_total"
      [("code", String.ofList (ErrorCodes.codeText code)), ("endpoint", endpoint)]
  | .suspended endpoint => title "mediation_endpoint_suspensions_total" [("endpoint", endpoint)]
  | .closed reason incomplete =>
    title "mediation_aggregation_closed_total"
      [("partial", if incomplete then "true" else "false"), ("reason", reason.name)]

/-- The histogram that an event adds a value to, and the value, rounded to whole
milliseconds. -/
def sample? : Metric → Option (String × Nat)
  | .dispatched endpoint _ elapsed =>
    some (title "mediation_dispatch_duration_ms" [("endpoint", endpoint)], elapsed.nearestMillis)
  | _ => none

/-- Takes an event into the report. -/
def add (report : Dict Reading) (m : Metric) : Dict Reading :=
  let name := counterTitle m
  let report := match report.get? name with
    | some (.counter n) => report.insert name (.counter (n + 1))
    | _ => report.insert name (.counter 1)
  match sample? m with
  | none => report
  | some (name, value) =>
    match report.get? name with
    | some (.samples values) => report.insert name (.samples (values ++ [value]))
    | _ => report.insert name (.samples [value])

/-- All counters and histograms of a log by name. -/
def report (log : List Metric) : Dict Reading := log.reverse.foldl add ∅

end Metrics

end ServiceBus
