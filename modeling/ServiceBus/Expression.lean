import ServiceBus.Message

/-
ServiceBus.Expression — values computed from a message.

An evaluator is any function from an expression and a message to a value.
`Evaluator.lookup` resolves `${props.…}`, `${vars.…}`, `${headers.…}`,
`${payload…}` and `${messageId}`; `Evaluator.table` puts fixed answers in
front of it. A policy field is resolved at the moment of use, and a literal
never reaches the evaluator.
-/
namespace ServiceBus

/-- Gives an expression its value on a message. -/
abbrev Evaluator := String → Message → Except EvaluationError Value

namespace Evaluator

/-- What stands between `${` and the closing brace, without blanks around. -/
def inner? (expression : String) : Option (List Char) := do
  let rest ← Text.after? ['$', '\x7b'] (Text.trim expression.toList)
  let body ← Text.before? ['\x7d'] rest
  return Text.trim body

/-- Follows a path of member names into a value. -/
def follow (v : Value) : List String → Option Value
  | [] => some v
  | name :: rest =>
    match v.member? name with
    | some inner => follow inner rest
    | none => none

/-- Resolves the places of a message by their paths. -/
def lookup : Evaluator := fun expression m =>
  match inner? expression with
  | none => .error (.unsupported expression)
  | some body =>
    let found : Option Value → Except EvaluationError Value
      | some v => .ok v
      | none => .error (.notFound expression)
    if body = "messageId".toList then .ok (.text m.id.text)
    else if body = "payload".toList then
      match m.payload.toValue with
      | .null => .error (.notFound expression)
      | v => .ok v
    else
      match Text.splitFirst '.' body with
      | none => .error (.unsupported expression)
      | some (scope, path) =>
        let name := String.ofList path
        match String.ofList scope with
        | "props" => found (m.properties.get? name)
        | "vars" => found (m.vars.get? name)
        | "headers" => found ((m.headers.get? name).map .text)
        | "payload" =>
          found (follow m.payload.toValue
            ((Text.pieces (· = '.') path).map String.ofList))
        | _ => .error (.unsupported expression)

/-- Fixed answers in front of the look-up: first the expressions that fail, then
those with a given value. -/
def table (failing : List String) (values : Dict Value) : Evaluator := fun expression m =>
  if failing.contains expression then .error (.unsupported expression)
  else match values.get? expression with
    | some v => .ok v
    | none => lookup expression m

/-- The truth value of an expression: the value itself or its name in any
case. -/
def truth (ev : Evaluator) (expression : String) (m : Message) : Except EvaluationError Bool :=
  match ev expression m with
  | .error e => .error e
  | .ok (.bool b) => .ok b
  | .ok (.text s) =>
    if Text.eqIgnoringCase s "true" then .ok true
    else if Text.eqIgnoringCase s "false" then .ok false
    else .error (.notBoolean expression)
  | .ok _ => .error (.notBoolean expression)

/-- The text of an expression: a text itself, any other value in compact form;
null has none. -/
def textOf (ev : Evaluator) (expression : String) (m : Message) :
    Except EvaluationError String :=
  match ev expression m with
  | .error e => .error e
  | .ok (.text s) => .ok s
  | .ok .null => .error (.notFound expression)
  | .ok v => .ok v.compact

end Evaluator

namespace Policy

variable {α : Type} [Field α]

/-- The value of a policy field for a message. -/
def resolve (p : Policy α) (ev : Evaluator) (m : Message) : Except Failure α :=
  match p with
  | .literal a => .ok a
  | .expression e =>
    match ev e m with
    | .error err => .error (.ofEvaluation err)
    | .ok v =>
      match convert v with
      | .ok a => .ok a
      | .error err => .error (.expression e (.conversion v err))

/-- The value of a policy field, or a default where it has none. -/
def resolveOr (p : Policy α) (ev : Evaluator) (m : Message) (default : α) : α :=
  match p.resolve ev m with
  | .ok a => a
  | .error _ => default

/-- The value of a policy field that may be absent and may have none. -/
def resolve? (p : Option (Policy α)) (ev : Evaluator) (m : Message) : Option α :=
  match p with
  | some p => match p.resolve ev m with
    | .ok a => some a
    | .error _ => none
  | none => none

end Policy

end ServiceBus
