import ServiceBus.Value

/-
ServiceBus.Schema — records, variants and numbers read from data values.

A record is read from an object, member by member in the order of the names,
or from a list that gives its fields in their declared order. Members that
the record does not know are passed over. A variant is a text, or an object
whose only member has that name and holds null. `SchemaError` says why a
value does not fit.
-/
namespace ServiceBus

/-- Why a value does not fit where it stands. -/
inductive SchemaError where
  /-- A value of another type was wanted. -/
  | wrongType (wanted : String)
  /-- The number lies outside the range of the field. -/
  | outOfRange (wanted : String)
  /-- A list has too few or too many items for the record it stands for. -/
  | wrongLength
  | missingField (name : String)
  | unknownVariant (name : String)
  /-- None of the forms a value may take fits. -/
  | noForm
  /-- A text does not write a number of the wanted kind. -/
  | noNumber (wanted : String)
  /-- The type's own rule refuses the text, for the stated reason. -/
  | refused (reason : String)
deriving Repr, DecidableEq

namespace SchemaError

/-- The text of an error. -/
def message : SchemaError → String
  | wrongType wanted => "invalid type: expected " ++ wanted
  | outOfRange wanted => "invalid value: expected " ++ wanted
  | wrongLength => "invalid length of list"
  | missingField name => "missing field " ++ name
  | unknownVariant name => "unknown variant " ++ name
  | noForm => "data did not match any variant"
  | noNumber wanted => "invalid digit found in text: expected " ++ wanted
  | refused reason => reason

end SchemaError

namespace Schema

/-- Reads a text. -/
def text : Value → Except SchemaError String
  | .text s => .ok s
  | _ => .error (.wrongType "text")

/-- Reads a truth value. -/
def bool : Value → Except SchemaError Bool
  | .bool b => .ok b
  | _ => .error (.wrongType "truth value")

/-- Reads a whole number that fits into a width. -/
def integer (w : Width) : Value → Except SchemaError Int
  | .int i => if w.holds i then .ok i else .error (.outOfRange "whole number")
  | _ => .error (.wrongType "whole number")

/-- Reads an unsigned number of 64 bits. -/
def word64 (v : Value) : Except SchemaError UInt64 :=
  (integer Width.word64 v).map fun i => UInt64.ofNat i.toNat

/-- Reads an unsigned number of 32 bits. -/
def word32 (v : Value) : Except SchemaError UInt32 :=
  (integer Width.word32 v).map fun i => UInt32.ofNat i.toNat

/-- Reads a signed number of 32 bits. -/
def int32 (v : Value) : Except SchemaError Int32 :=
  (integer Width.int32 v).map Int32.ofInt

/-- Reads a floating-point number; a whole number is one too. -/
def float : Value → Except SchemaError Float
  | .real x => .ok x
  | .int i => .ok (Float.ofInt i)
  | _ => .error (.wrongType "number")

/-- Reads a value that may be null. -/
def optional {α : Type} (read : Value → Except SchemaError α) : Value → Except SchemaError (Option α)
  | .null => .ok none
  | v => (read v).map some

/-- Reads a list whose items are all of one kind. -/
def list {α : Type} (read : Value → Except SchemaError α) : Value → Except SchemaError (List α)
  | .list items => items.mapM read
  | _ => .error (.wrongType "list")

/-- Reads a map whose values are all of one kind. -/
def dict {α : Type} (read : Value → Except SchemaError α) : Value → Except SchemaError (Dict α)
  | .object members => do
    let entries ← members.mapM fun (k, v) => do return (k, ← read v)
    return Dict.ofList entries
  | _ => .error (.wrongType "map")

/-- Reads one of the named variants. -/
def variant {α : Type} (variants : List (String × α)) : Value → Except SchemaError α
  | .text name => pick name
  | .object [(name, v)] => do
    let a ← pick name
    if v.isNull then return a else throw (.wrongType "null")
  | .object _ => .error (.outOfRange "map with a single member")
  | _ => .error (.wrongType "text or map")
where
  /-- The variant of a name. -/
  pick (name : String) : Except SchemaError α :=
    match Entries.get? name variants with
    | some a => .ok a
    | none => .error (.unknownVariant name)

/-- What a record is read from: its members by name, and whether items were
left over. -/
structure Fields where
  members : List (String × Value)
  surplus : Bool

/-- The members of a record with the given field names. -/
def fields (names : List String) : Value → Except SchemaError Fields
  | .object members => .ok ⟨members, false⟩
  | .list items => .ok ⟨names.zip items, decide (names.length < items.length)⟩
  | _ => .error (.wrongType "record")

/-- Reads a record by taking its members into account one after the other. -/
def record {σ : Type} (names : List String) (start : σ)
    (take : σ → String → Value → Except SchemaError σ) (v : Value) : Except SchemaError σ := do
  let fs ← fields names v
  let s ← fs.members.foldlM (fun s (k, v) => take s k v) start
  if fs.surplus then throw .wrongLength else return s

/-- The value of a field that must be there. -/
def required {α : Type} (name : String) : Option α → Except SchemaError α
  | some a => .ok a
  | none => .error (.missingField name)

/-- A variant given by a tag, with the content beside it. -/
structure Tagged where
  tag : Value
  content : Option Value
  surplus : Bool

/-- Takes apart an object with a tag member and a content member, or a list of
tag and content. -/
def tagged (tag content : String) : Value → Except SchemaError Tagged
  | .object members =>
    match Entries.get? tag members with
    | some t => .ok ⟨t, Entries.get? content members, false⟩
    | none => .error (.missingField tag)
  | .list (t :: c :: rest) => .ok ⟨t, some c, !rest.isEmpty⟩
  | .list _ => .error .wrongLength
  | _ => .error (.wrongType "record")

/-- The content of a tagged value that must have one. -/
def Tagged.withContent {α : Type} (t : Tagged) (read : Value → Except SchemaError α) :
    Except SchemaError α := do
  match t.content with
  | some v =>
    let a ← read v
    if t.surplus then throw .wrongLength else return a
  | none => throw (.missingField "content")

/-- A tagged value without content, for which null may stand. -/
def Tagged.withoutContent {α : Type} (t : Tagged) (a : α) : Except SchemaError α :=
  match t.content with
  | some .null => if t.surplus then .error .wrongLength else .ok a
  | none => .ok a
  | some _ => .error (.wrongType "null")

end Schema

end ServiceBus
