import ServiceBus.Schema
import ServiceBus.Text.Blank

/-
ServiceBus.Payload — message bodies.

A body is moved around whole. It has a value view, under which it is stored
in a property or variable (`Payload.toValue`, `Payload.ofValue`), and a view
as an XML fragment, under which it enters an XML aggregate
(`Payload.xmlFragment`).
-/
namespace ServiceBus

/-- A message body. -/
inductive Payload where
  | empty
  | json (value : Value)
  | xml (text : String)
  | text (text : String)
deriving Inhabited

/-! ## Names of content types -/
namespace ContentType

def json : String := "application/json"
def xml : String := "application/xml"
def text : String := "text/plain"

end ContentType

namespace Payload

/-- Whether there is no body. -/
def isEmpty : Payload → Bool
  | empty => true
  | _ => false

/-- The content type that goes with a kind of body. -/
def contentType? : Payload → Option String
  | empty => none
  | json _ => some ContentType.json
  | xml _ => some ContentType.xml
  | text _ => some ContentType.text

/-- The value under which a body is stored in a property or variable. -/
def toValue : Payload → Value
  | empty => .null
  | json v => v
  | xml s => .text s
  | text s => .text s

/-- Whether a message type names a kind of XML: the letters `xml` stand
somewhere in it. -/
def isXmlType (messageType : Option String) : Bool :=
  match messageType with
  | some t => (Text.splitAtPattern "xml".toList t.toList).isSome
  | none => false

/-- The body that a stored value stands for, given the message type it was
stored under. -/
def ofValue (v : Value) (messageType : Option String) : Payload :=
  match v with
  | .null => .empty
  | .text s =>
    if isXmlType messageType then .xml s
    else if messageType = some ContentType.text then .text s
    else .json v
  | _ => .json v

/-- The entity of a character with a meaning in XML; any other character stands
for itself. -/
def escapeChar : Char → List Char
  | '<' => "&lt;".toList
  | '>' => "&gt;".toList
  | '&' => "&amp;".toList
  | '"' => "&quot;".toList
  | '\'' => "&apos;".toList
  | c => [c]

/-- A text as XML character data. -/
def escape (cs : List Char) : List Char := cs.flatMap escapeChar

/-- An XML text without the blanks around it and without what stands in front
of the first `?>`, if it begins with `<?xml`. -/
def dropDeclaration (cs : List Char) : List Char :=
  let body := Text.trim cs
  match Text.after? "<?xml".toList body with
  | none => body
  | some _ =>
    match Text.splitAtPattern "?>".toList body with
    | some (_, rest) => Text.trimStart rest
    | none => body

/-- The fragment under which a body enters an XML aggregate: XML without its
declaration, anything else as character data. -/
def xmlFragment : Payload → String
  | empty => ""
  | xml s => String.ofList (dropDeclaration s.toList)
  | text s => String.ofList (escape s.toList)
  | json v => String.ofList (escape v.compact.toList)

/-- Reads a body from its tagged form. -/
def read (v : Value) : Except SchemaError Payload := do
  let t ← Schema.tagged "type" "content" v
  match ← Schema.variant [("empty", 0), ("json", 1), ("xml", 2), ("text", 3)] t.tag with
  | 0 => t.withoutContent .empty
  | 1 => t.withContent fun c => .ok (.json c)
  | 2 => t.withContent fun c => (Schema.text c).map .xml
  | _ => t.withContent fun c => (Schema.text c).map .text

/-- The tagged form of a body. -/
def write : Payload → Value
  | empty => .object [("type", .text "empty")]
  | json v => .object [("content", v), ("type", .text "json")]
  | xml s => .object [("content", .text s), ("type", .text "xml")]
  | text s => .object [("content", .text s), ("type", .text "text")]

end Payload

end ServiceBus
