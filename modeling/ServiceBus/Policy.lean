import ServiceBus.ErrorCodes
import ServiceBus.Text.Letter
import ServiceBus.Decimal.Reading

/-
ServiceBus.Policy — policy fields that are fixed or computed from a message.

A field is a literal or an expression. An expression is written as its text in
braces; any other text is read as a literal by the field type's own rule.
`Field` collects what a type must offer to be used so.
-/
namespace ServiceBus

/-- What happens to a message whose call timed out. -/
inductive TimeoutAction where
  | never
  | discard
  | fault
deriving Repr, DecidableEq, Inhabited

namespace TimeoutAction

/-- The name of an action. -/
def text : TimeoutAction → String
  | never => "never"
  | discard => "discard"
  | fault => "fault"

/-- Reads an action from a text in any case, with blanks around it. -/
def ofText (s : String) : Except SchemaError TimeoutAction :=
  match Text.lowerCase (Text.trimmed s) with
  | "never" => .ok never
  | "none" => .ok never
  | "discard" => .ok discard
  | "fault" => .ok fault
  | other => .error (.refused ("Invalid timeout action, action : " ++ other ++ " is not supported"))

/-- Reads an action from a value. -/
def read : Value → Except SchemaError TimeoutAction :=
  Schema.variant [("discard", discard), ("fault", fault), ("never", never)]

end TimeoutAction

/-- A type of policy field: how its values are read from text and from data,
and how they are written as data and shown in running text. -/
class Field (α : Type) where
  ofText : String → Except SchemaError α
  read : Value → Except SchemaError α
  write : α → Value
  text : α → String

instance : Field UInt32 where
  ofText s := match Decimal.readNatural? (UInt32.size - 1) s.toList with
    | some n => .ok (UInt32.ofNat n)
    | none => .error (.noNumber "unsigned number of 32 bits")
  read := Schema.word32
  write n := .int n.toNat
  text n := String.ofList (Decimal.digits n.toNat)

instance : Field UInt64 where
  ofText s := match Decimal.readNatural? (UInt64.size - 1) s.toList with
    | some n => .ok (UInt64.ofNat n)
    | none => .error (.noNumber "unsigned number of 64 bits")
  read := Schema.word64
  write n := .int n.toNat
  text n := String.ofList (Decimal.digits n.toNat)

instance : Field Float where
  ofText s := match Decimal.readFloat? s.toList with
    | some x => .ok x
    | none => .error (.noNumber "number")
  read := Schema.float
  write := Value.ofFloat
  text := Decimal.plainText

instance : Field String where
  ofText s := .ok s
  read := Schema.text
  write := .text
  text s := s

instance : Field TimeoutAction where
  ofText := TimeoutAction.ofText
  read := TimeoutAction.read
  write a := .text a.text
  text := TimeoutAction.text

instance : Field ErrorCodes where
  ofText := ErrorCodes.ofText
  read := ErrorCodes.read
  write := ErrorCodes.write
  text := ErrorCodes.text

/-- A policy field: fixed, or computed from the message at the moment of
use. -/
inductive Policy (α : Type) where
  | literal (value : α)
  | expression (text : String)
deriving Repr, DecidableEq, Inhabited

namespace Policy

variable {α : Type}

/-- Whether the field is computed. -/
def isExpression : Policy α → Bool
  | literal _ => false
  | expression _ => true

/-- The fixed value, if the field has one. -/
def literal? : Policy α → Option α
  | literal a => some a
  | expression _ => none

/-- The text of the expression, if the field has one. -/
def expression? : Policy α → Option String
  | literal _ => none
  | expression e => some e

/-- What stands between braces, if the text without the blanks around it begins
with an opening and ends with a closing one. -/
def unbrace (cs : List Char) : Option (List Char) :=
  match Text.trim cs with
  | '\x7b' :: rest => Text.before? ['\x7d'] rest
  | _ => none

/-- An expression in braces. -/
def brace (e : String) : String := "\x7b" ++ e ++ "\x7d"

/-- Reads a policy field from a text. -/
def ofText [Field α] (s : String) : Except SchemaError (Policy α) :=
  match unbrace s.toList with
  | some e => .ok (.expression (String.ofList e))
  | none => (Field.ofText (Text.trimmed s)).map .literal

/-- Reads a policy field from a value: a text by its own rule, anything else
as a literal. -/
def read [Field α] : Value → Except SchemaError (Policy α)
  | .text s => ofText s
  | v =>
    match Field.read v with
    | .ok a => .ok (.literal a)
    | .error _ => .error .noForm

/-- The value that writes a policy field. -/
def write [Field α] : Policy α → Value
  | literal a => Field.write a
  | expression e => .text (brace e)

/-- A policy field in running text. -/
def text [Field α] : Policy α → String
  | literal a => Field.text a
  | expression e => brace e

/-- The literal that an expression's result stands for: a text that the field
type's rule accepts, else the value itself. -/
def convert [Field α] (v : Value) : Except SchemaError α :=
  match v with
  | .text s =>
    match Field.ofText (Text.trimmed s) with
    | .ok a => .ok a
    | .error _ => Field.read v
  | _ => Field.read v

end Policy

end ServiceBus
