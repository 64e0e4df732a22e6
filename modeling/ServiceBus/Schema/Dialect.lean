import ServiceBus.Schema
import ServiceBus.Text.Letter
import ServiceBus.Decimal.Reading

/-
ServiceBus.Schema.Dialect — how the sources of a configuration give the fields
of a record.

  - Data gives each field in its own type.
  - A TOML document does too; its lists may be longer than the record they stand
    for, and its whole numbers may be too large for any field.
  - Settings come from layers of texts, so they are lenient: a number does for a
    text, a text for a number, and several words for a truth value.
-/
namespace ServiceBus.Schema

/-- How a source gives the fields of a record. -/
structure Dialect where
  text : Value → Except SchemaError String
  flag : Value → Except SchemaError Bool
  word32 : Value → Except SchemaError UInt32
  word64 : Value → Except SchemaError UInt64
  real : Value → Except SchemaError Float
  /-- The name of a variant. -/
  variantName : Value → Except SchemaError String
  /-- Data that is kept as it is. -/
  data : Value → Except SchemaError Value
  /-- Whether items of a list that the record has no fields for are passed
  over. -/
  surplus : Bool

namespace Dialect

/-- Reads a record. -/
def record {σ : Type} (d : Dialect) (names : List String) (start : σ)
    (take : σ → String → Value → Except SchemaError σ) (v : Value) : Except SchemaError σ := do
  let fs ← fields names v
  let s ← fs.members.foldlM (fun s (k, v) => take s k v) start
  if fs.surplus && !d.surplus then throw .wrongLength else return s

/-- Reads one of the named variants. -/
def variant {α : Type} (d : Dialect) (variants : List (String × α)) (v : Value) :
    Except SchemaError α := do
  let name ← d.variantName v
  match Entries.get? name variants with
  | some a => return a
  | none => throw (.unknownVariant name)

/-- The name of a variant that stands by itself, or as the only key of a table
whose value is accepted as empty. -/
def nameOf (empty : Value → Bool) : Value → Except SchemaError String
  | .text name => .ok name
  | .object [(name, v)] => if empty v then .ok name else .error (.wrongType "empty value")
  | .object _ => .error (.outOfRange "map with a single member")
  | _ => .error (.wrongType "text or map")

/-! ## Kept data -/

mutual

/-- A value that can be kept: whole numbers must fit into 64 bits, and what is
no finite number becomes null. -/
def kept : Value → Except SchemaError Value
  | .int i =>
    if Width.any64.holds i then .ok (.int i) else .error (.outOfRange "number of 64 bits")
  | .real x => .ok (.ofFloat x)
  | .list items => (keptItems items).map .list
  | .object members => (keptMembers members).map .object
  | v => .ok v

/-- The items of a list that can be kept. -/
def keptItems : List Value → Except SchemaError (List Value)
  | [] => .ok []
  | v :: rest => do return (← kept v) :: (← keptItems rest)

/-- The members of an object that can be kept. -/
def keptMembers : List (String × Value) → Except SchemaError (List (String × Value))
  | [] => .ok []
  | (k, v) :: rest => do return (k, ← kept v) :: (← keptMembers rest)

end

/-! ## Settings -/

/-- The truth value of a word that has one. -/
def truthOf? (s : String) : Option Bool :=
  match Text.lowerCase s with
  | "true" | "on" | "yes" => some true
  | "false" | "off" | "no" => some false
  | _ => none

/-- A setting as text. -/
def settingText : Value → Except SchemaError String
  | .text s => .ok s
  | .bool b => .ok (if b then "true" else "false")
  | .int i => .ok (String.ofList (Decimal.integerText i))
  | .real x => .ok (Decimal.plainText x)
  | _ => .error (.wrongType "text")

/-- A setting as truth value: any number but zero is true. -/
def settingFlag : Value → Except SchemaError Bool
  | .bool b => .ok b
  | .int i => .ok (i != 0)
  | .real x => .ok (x != 0)
  | .text s =>
    match s, truthOf? s with
    | "1", _ => .ok true
    | "0", _ => .ok false
    | _, some b => .ok b
    | _, none => .error (.wrongType "truth value")
  | _ => .error (.wrongType "truth value")

/-- A setting as unsigned number of 64 bits; a fraction is rounded. -/
def settingWord64 : Value → Except SchemaError UInt64
  | .bool b => .ok (if b then 1 else 0)
  | .int i => Schema.word64 (.int i)
  | .real x => .ok x.round.toUInt64
  | .text s =>
    match truthOf? s, Decimal.readNatural? (UInt64.size - 1) s.toList with
    | some b, _ => .ok (if b then 1 else 0)
    | none, some n => .ok (UInt64.ofNat n)
    | none, none => .error (.noNumber "unsigned number of 64 bits")
  | _ => .error (.wrongType "whole number")

/-- A setting as unsigned number of 32 bits: one of 64 bits that fits. -/
def settingWord32 (v : Value) : Except SchemaError UInt32 := do
  Schema.word32 (.int (← settingWord64 v).toNat)

/-- A setting as floating-point number. -/
def settingReal : Value → Except SchemaError Float
  | .bool b => .ok (if b then 1 else 0)
  | .int i => .ok (Float.ofInt i)
  | .real x => .ok x
  | .text s =>
    match truthOf? s, Decimal.readFloat? s.toList with
    | some b, _ => .ok (if b then 1 else 0)
    | none, some x => .ok x
    | none, none => .error (.noNumber "number")
  | _ => .error (.wrongType "number")

/-! ## The three sources -/

/-- Fields in data. -/
def plain : Dialect where
  text := Schema.text
  flag := Schema.bool
  word32 := Schema.word32
  word64 := Schema.word64
  real := Schema.float
  variantName := nameOf Value.isNull
  data := Except.ok
  surplus := false

/-- Fields in a TOML document. -/
def document : Dialect where
  text := Schema.text
  flag := Schema.bool
  word32 := Schema.word32
  word64 := Schema.word64
  real v := match v with
    | .real x => .ok x
    | v => do Schema.float (← kept v)
  variantName := nameOf fun
    | .list [] | .object [] => true
    | _ => false
  data := kept
  surplus := true

/-- Fields in layers of settings. -/
def settings : Dialect where
  text := settingText
  flag := settingFlag
  word32 := settingWord32
  word64 := settingWord64
  real := settingReal
  variantName := nameOf fun _ => true
  data := kept
  surplus := true

end Dialect

end ServiceBus.Schema
