import ServiceBus.Value
import ServiceBus.Text.Letter
import ServiceBus.Text.Blank
import ServiceBus.Decimal.Reading

/-
ServiceBus.Config.Layer — settings laid over one another.

Settings form a tree. A layer puts values at places in that tree; tables are
joined key by key, and anything else takes the place of what was there. A
place is written as a path, such as `logging.level` or `endpoints[0].name`.

`Layer.ofVariables` is the layer of the environment: the variables with the
project's prefix, two underscores in their names standing for a point.
-/
namespace ServiceBus.Config

/-! ## Places -/

/-- One step of a path through settings. -/
inductive PathStep where
  | key (name : String)
  /-- The item at a position; a negative one counts from the end. -/
  | item (position : Int)
deriving Repr, DecidableEq, Inhabited

/-- Whether a character may stand in a key of a path. -/
def isPathChar (c : Char) : Bool := c.isAlphanum || c = '_' || c = '-'

/-- Whether a character may stand on either side of a position. -/
def isPathBlank (c : Char) : Bool := c = ' ' || c = '\t'

/-- Reads a position: a whole number of 64 bits, without a plus sign. -/
def position? (cs : List Char) : Option Int :=
  match ((cs.dropWhile isPathBlank).reverse.dropWhile isPathBlank).reverse with
  | '+' :: _ => none
  | number => Decimal.readInteger? Width.int64 number

/-- Reads the steps behind the first key of a path, of which there are at most
`limit`. -/
def pathSteps? : Nat → List Char → Option (List PathStep)
  | _, [] => some []
  | limit + 1, '.' :: rest => do
    let name := rest.takeWhile isPathChar
    if name.isEmpty then none
    else return .key (String.ofList name) :: (← pathSteps? limit (rest.dropWhile isPathChar))
  | limit + 1, '[' :: rest => do
    let (inside, rest) ← Text.splitFirst ']' rest
    return .item (← position? inside) :: (← pathSteps? limit rest)
  | _, _ => none

/-- Reads a path; a text that is none is a single key. -/
def pathOf (s : String) : List PathStep :=
  let cs := s.toList
  let name := cs.takeWhile isPathChar
  let steps := if name.isEmpty then none else pathSteps? cs.length (cs.dropWhile isPathChar)
  match steps with
  | some steps => .key (String.ofList name) :: steps
  | none => [.key s]

/-! ## Trees of settings -/

/-- The members of a table of settings; anything else gives way to an empty
one. -/
def settingMembers : Value → List (String × Value)
  | .object members => members
  | _ => []

/-- The items of a list of settings; anything else gives way to an empty one. -/
def settingItems : Value → List Value
  | .list items => items
  | _ => []

/-- Items with one at a position: nulls behind them, or in front of them for a
position that counts from the end, as many as it takes. -/
def reaching (position : Int) (items : List Value) : List Value :=
  if 0 ≤ position then
    items ++ List.replicate (position.toNat + 1 - items.length) .null
  else List.replicate ((-position).toNat - items.length) .null ++ items

/-- The index of a position in items with one there. -/
def indexOf (position : Int) (items : List Value) : Nat :=
  if 0 ≤ position then position.toNat else items.length - (-position).toNat

/-- Changes what stands at a place. Tables and lists on the way come into
being. -/
def alter (change : Value → Value) : List PathStep → Value → Value
  | [], v => change v
  | .key name :: path, v =>
    let members := settingMembers v
    .object (Entries.insert name
      (alter change path ((Entries.get? name members).getD .null)) members)
  | .item position :: path, v =>
    let items := reaching position (settingItems v)
    .list (items.modify (indexOf position items) (alter change path))

mutual

/-- A setting laid over another one. -/
def overlay : Value → Value → Value
  | .object members, under =>
    overlayMembers members (match under with
      | .null => .object []
      | under => under)
  | v, _ => v

/-- The members of a table laid over another setting. -/
def overlayMembers : List (String × Value) → Value → Value
  | [], under => under
  | (name, v) :: rest, under =>
    let members := settingMembers under
    overlayMembers rest (.object
      (Entries.insert name (overlay v ((Entries.get? name members).getD .null)) members))

end

/-! ## Layers -/

/-- Settings by the path of their place. -/
abbrev Layer := List (String × Value)

namespace Layer

/-- Lays a layer over settings. -/
def apply (layer : Layer) (settings : Value) : Value :=
  layer.foldl (fun t (path, v) => alter (overlay v) (pathOf path) t) settings

/-- The settings of some layers, the first of which lies at the bottom. -/
def join (layers : List Layer) : Value := layers.foldl (fun t layer => layer.apply t) (.object [])

/-- What the names of the variables begin with, in small letters. -/
def variableStart : String := "mediation_"

/-- Puts a point for every two underscores. -/
def pointed : List Char → List Char
  | '_' :: '_' :: rest => '.' :: pointed rest
  | c :: rest => c :: pointed rest
  | [] => []

/-- The value of a variable: a truth value, a whole number of 64 bits or a
floating-point number if it writes one, else a text. -/
def valueOf (s : String) : Value :=
  match Text.lowerCase s with
  | "true" => .bool true
  | "false" => .bool false
  | _ =>
    match Decimal.readInteger? Width.int64 s.toList with
    | some i => .int i
    | none =>
      match Decimal.readFloat? s.toList with
      | some x => .real x
      | none => .text s

/-- The setting of a variable of the environment, if its name begins as it
must. -/
def settingOf? (name value : String) : Option (String × Value) :=
  (Text.after? variableStart.toList (Text.lowerCase name).toList).map
    fun rest => (String.ofList (pointed rest), valueOf value)

/-- The layer of the environment. -/
def ofVariables (environment : List (String × String)) : Layer :=
  environment.filterMap fun (name, value) => settingOf? name value

end Layer

end ServiceBus.Config
