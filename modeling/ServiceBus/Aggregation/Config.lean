import ServiceBus.Failure
import ServiceBus.Policy
import ServiceBus.Schema.Dialect

/-
ServiceBus.Aggregation.Config — how a scatter-gather runs its branches and
joins their results.

`ScatterConfig.validate` is checked once, when the mediator is built.
-/
namespace ServiceBus

/-- The form of the joined result. -/
inductive AggregateForm where
  | json
  /-- XML needs the name of the root element. -/
  | xml (root : String)
deriving Repr, DecidableEq, Inhabited

/-- Where the joined result goes. -/
inductive ResultPlace where
  | body
  | variable (name : String)
deriving Repr, DecidableEq, Inhabited

/-- How results are valued, related to a run and counted. -/
structure AggregationPolicy where
  /-- What a branch contributes; its body, if there is no expression. -/
  value : Option String := none
  correlation : Option String := none
  completion : Option String := none
  timeout : Option (Policy UInt64) := none
  minimum : Option (Policy UInt32) := none
  maximum : Option (Policy UInt32) := none
deriving Inhabited

/-- What applies where a scatter-gather leaves a field open. -/
structure ScatterDefaults where
  parallel : Bool := true
  timeout : Option UInt64 := none
deriving Repr, DecidableEq, Inhabited

/-- The configuration of a scatter-gather without its branches. -/
structure ScatterConfig where
  parallel : Bool
  form : AggregateForm
  place : ResultPlace
  policy : AggregationPolicy
  defaultTimeout : Option UInt64
deriving Inhabited

namespace AggregateForm

/-- Reads a form: the tag `type`, and beside it the root element of XML. -/
def read (v : Value) : Except SchemaError AggregateForm := do
  let (tag, rest) ← match v with
    | .object members =>
      match Entries.get? "type" members with
      | some t => pure (t, Value.object members)
      | none => throw (.missingField "type")
    | .list (t :: rest) => pure (t, Value.list rest)
    | .list [] => throw .wrongLength
    | _ => throw (.wrongType "record")
  match ← Schema.text tag with
  | "json" =>
    match rest with
    | .list (_ :: _) => throw .wrongLength
    | _ => return .json
  | "xml" =>
    let root ← Schema.record ["root_element"] (none : Option String)
      (fun root k v => match k with
        | "root_element" => (Schema.text v).map some
        | _ => .ok root) rest
    return .xml (← Schema.required "root_element" root)
  | other => throw (.unknownVariant other)

/-- The value of a form. -/
def write : AggregateForm → Value
  | .json => .object [("type", .text "json")]
  | .xml root => .object [("root_element", .text root), ("type", .text "xml")]

end AggregateForm

namespace ResultPlace

/-- Reads a place from its tagged form. -/
def read (v : Value) : Except SchemaError ResultPlace := do
  let t ← Schema.tagged "type" "name" v
  match ← Schema.variant [("body", false), ("variable", true)] t.tag with
  | false => t.withoutContent .body
  | true => t.withContent fun c => (Schema.text c).map .variable

/-- The tagged form of a place. -/
def write : ResultPlace → Value
  | .body => .object [("type", .text "body")]
  | .variable name => .object [("name", .text name), ("type", .text "variable")]

end ResultPlace

namespace AggregationPolicy

/-- Reads a policy; every field may be absent or null. -/
def read : Value → Except SchemaError AggregationPolicy :=
  Schema.record ["value_expression", "correlation_expression", "completion_condition",
      "timeout_ms", "min_messages", "max_messages"] {}
    fun p k v => match k with
      | "value_expression" => do return { p with value := ← Schema.optional Schema.text v }
      | "correlation_expression" => do
        return { p with correlation := ← Schema.optional Schema.text v }
      | "completion_condition" => do
        return { p with completion := ← Schema.optional Schema.text v }
      | "timeout_ms" => do return { p with timeout := ← Schema.optional Policy.read v }
      | "min_messages" => do return { p with minimum := ← Schema.optional Policy.read v }
      | "max_messages" => do return { p with maximum := ← Schema.optional Policy.read v }
      | _ => .ok p

/-- The value of a policy; absent fields are left out. -/
def write (p : AggregationPolicy) : Value :=
  .object <|
    (p.completion.toList.map fun e => ("completion_condition", .text e)) ++
    (p.correlation.toList.map fun e => ("correlation_expression", .text e)) ++
    (p.maximum.toList.map fun n => ("max_messages", n.write)) ++
    (p.minimum.toList.map fun n => ("min_messages", n.write)) ++
    (p.timeout.toList.map fun n => ("timeout_ms", n.write)) ++
    (p.value.toList.map fun e => ("value_expression", .text e))

end AggregationPolicy

namespace ScatterDefaults

/-- Reads defaults; every field may be absent. -/
def read (s : Schema.Dialect) : Value → Except SchemaError ScatterDefaults :=
  s.record ["parallel_execution", "timeout_ms"] {}
    fun d k v => match k with
      | "parallel_execution" => do return { d with parallel := ← s.flag v }
      | "timeout_ms" => do return { d with timeout := ← Schema.optional s.word64 v }
      | _ => .ok d

/-- The value of defaults. -/
def write (d : ScatterDefaults) : Value :=
  .object [("parallel_execution", .bool d.parallel),
    ("timeout_ms", match d.timeout with | some n => .int n.toNat | none => .null)]

end ScatterDefaults

/-- Names of XML elements: a letter or underscore, then letters, numbers and the
characters `_ - . :`. -/
def isXmlName (name : String) : Bool :=
  match name.toList with
  | [] => false
  | c :: rest =>
    (Text.isLetter c || c = '_') &&
      rest.all fun c => Text.isLetterOrNumber c || c = '_' || c = '-' || c = '.' || c = ':'

namespace ScatterConfig

/-- A configuration for the given form and place, with the defaults for all
else. -/
def ofDefaults (d : ScatterDefaults) (form : AggregateForm) (place : ResultPlace) :
    ScatterConfig :=
  ⟨d.parallel, form, place, {}, d.timeout⟩

/-- The same configuration with its branches run one after the other. -/
def sequential (c : ScatterConfig) : ScatterConfig := { c with parallel := false }

/-- Checks a configuration for a number of branches. The first fault in the
order branches, root element, variable, counts, timeout is reported. -/
def validate (c : ScatterConfig) (targets : Nat) : Except Failure Unit := do
  if targets = 0 then throw (.configuration .noTargets)
  match c.form with
  | .xml root => if !isXmlName root then throw (.configuration (.badRootElement root))
  | .json => pure ()
  match c.place with
  | .variable name =>
    if Text.trimmed name = "" then throw (.configuration .blankResultVariable)
  | .body => pure ()
  match c.policy.minimum.bind Policy.literal?, c.policy.maximum.bind Policy.literal? with
  | some low, some high =>
    if high < low then throw (.configuration (.minimumAboveMaximum low high))
  | _, _ => pure ()
  if c.policy.timeout.bind Policy.literal? = some 0 then
    throw (.configuration .aggregationTimeoutNotPositive)

end ScatterConfig

end ServiceBus
