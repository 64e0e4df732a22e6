import ServiceBus.Schema
import ServiceBus.Decimal.Integer

/-
ServiceBus.Continuation — where mediation goes on once a reply arrives.

A frame names a sequence and the position of the mediator to resume after. A
message carries a stack of frames; the frame pushed last resumes first and is
the head of the list.
-/
namespace ServiceBus

/-- The kind of sequence that a frame points into. -/
inductive SequenceKind where
  | named
  | anonymous
  | proxy
  | api
  | template
deriving Repr, DecidableEq, Inhabited

namespace SequenceKind

/-- The name of a kind in data. -/
def name : SequenceKind → String
  | named => "named"
  | anonymous => "anonymous"
  | proxy => "proxy"
  | api => "api"
  | template => "template"

/-- The name of a kind in running text. -/
def title : SequenceKind → String
  | named => "NAMED"
  | anonymous => "ANON"
  | proxy => "PROXY_INSEQ"
  | api => "API_INSEQ"
  | template => "SEQUENCE_TEMPLATE"

/-- Reads a kind from its name. -/
def read : Value → Except SchemaError SequenceKind :=
  Schema.variant [("anonymous", anonymous), ("api", api), ("named", named), ("proxy", proxy),
    ("template", template)]

end SequenceKind

/-- A place to resume at: the mediator behind `position` in a sequence. -/
structure Frame where
  kind : SequenceKind
  sequence : String
  position : Nat
deriving Repr, DecidableEq, Inhabited

namespace Frame

/-- The frame of a sequence that starts. -/
def start (kind : SequenceKind) (sequence : String) : Frame := ⟨kind, sequence, 0⟩

/-- The frame of the same sequence at another position. -/
def moveTo (f : Frame) (position : Nat) : Frame := { f with position }

/-- A frame in running text. -/
def text (f : Frame) : String :=
  f.kind.title ++ ":" ++ f.sequence ++ "@" ++ String.ofList (Decimal.digits f.position)

/-- The value of a frame. -/
def write (f : Frame) : Value :=
  .object [("position", .int f.position), ("sequence_name", .text f.sequence),
    ("sequence_type", .text f.kind.name)]

/-- Reads a frame from a value. -/
def read (v : Value) : Except SchemaError Frame := do
  let (kind, sequence, position) ←
    Schema.record ["sequence_type", "sequence_name", "position"]
      ((none, none, none) : Option SequenceKind × Option String × Option Nat)
      (fun (kind, sequence, position) k v => match k with
        | "sequence_type" => do return (some (← SequenceKind.read v), sequence, position)
        | "sequence_name" => do return (kind, some (← Schema.text v), position)
        | "position" => do return (kind, sequence, some (← Schema.word64 v).toNat)
        | _ => .ok (kind, sequence, position)) v
  return ⟨← Schema.required "sequence_type" kind, ← Schema.required "sequence_name" sequence,
    ← Schema.required "position" position⟩

end Frame

/-- A stack of frames; the head resumes first. -/
abbrev Continuation := List Frame

namespace Continuation

/-- Moves the frame on top to a position. -/
def moveTo (position : Nat) : Continuation → Continuation
  | [] => []
  | top :: rest => top.moveTo position :: rest

/-- The value of a stack, bottom frame first. -/
def write (c : Continuation) : Value := .object [("frames", .list (c.reverse.map Frame.write))]

/-- Reads a stack from a value, bottom frame first. -/
def read (v : Value) : Except SchemaError Continuation := do
  let frames ← Schema.record ["frames"] (none : Option (List Frame))
    (fun frames k v => match k with
      | "frames" => (Schema.list Frame.read v).map some
      | _ => .ok frames) v
  return (← Schema.required "frames" frames).reverse

end Continuation

end ServiceBus
