import ServiceBus.Dict
import ServiceBus.Decimal.Shortest

/-
ServiceBus.Value — data values: the contents of messages, properties and
policies.

Whole numbers and floating-point numbers are different values, so `3` is not
`3.0`. The members of an object stand in the order of their names.
`Value.compact` is the one written form: no blanks, names in order, and only
quotation marks, backslashes and control characters escaped.
-/
namespace ServiceBus

/-- A data value. -/
inductive Value where
  | null
  | bool (b : Bool)
  | int (i : Int)
  | real (x : Float)
  | text (s : String)
  | list (items : List Value)
  | object (members : List (String × Value))
deriving Inhabited

namespace Value

/-- A floating-point number as a value; what is no finite number has no value
but null. -/
def ofFloat (x : Float) : Value := if x.isFinite then .real x else .null

/-- An object from its members, in any order. -/
def ofMembers (members : List (String × Value)) : Value :=
  .object (Dict.ofList members).entries

/-- A text or null. -/
def ofText? : Option String → Value
  | some s => .text s
  | none => .null

/-- The member of an object under a name. -/
def member? (name : String) : Value → Option Value
  | .object members => Entries.get? name members
  | _ => none

/-- The text, if the value is one. -/
def text? : Value → Option String
  | .text s => some s
  | _ => none

/-- The whole number, if the value is one. -/
def int? : Value → Option Int
  | .int i => some i
  | _ => none

/-- Whether the value is null. -/
def isNull : Value → Bool
  | .null => true
  | _ => false

mutual

/-- How many levels of lists and objects a value has. -/
def depth : Value → Nat
  | .list items => itemsDepth items + 1
  | .object members => membersDepth members + 1
  | _ => 1

/-- The greatest depth of the items of a list. -/
def itemsDepth : List Value → Nat
  | [] => 0
  | v :: rest => max (depth v) (itemsDepth rest)

/-- The greatest depth of the members of an object. -/
def membersDepth : List (String × Value) → Nat
  | [] => 0
  | (_, v) :: rest => max (depth v) (membersDepth rest)

end

mutual

/-- Equality of values. Floating-point numbers are compared as numbers. -/
def same : Value → Value → Bool
  | .null, .null => true
  | .bool a, .bool b => a == b
  | .int a, .int b => a == b
  | .real a, .real b => a == b
  | .text a, .text b => a == b
  | .list a, .list b => sameItems a b
  | .object a, .object b => sameMembers a b
  | _, _ => false

/-- Equality of lists of values. -/
def sameItems : List Value → List Value → Bool
  | [], [] => true
  | a :: as, b :: bs => same a b && sameItems as bs
  | _, _ => false

/-- Equality of lists of members. -/
def sameMembers : List (String × Value) → List (String × Value) → Bool
  | [], [] => true
  | (j, a) :: as, (k, b) :: bs => j == k && same a b && sameMembers as bs
  | _, _ => false

end

instance : BEq Value := ⟨same⟩

/-- The hexadecimal digit of a number below sixteen, in small letters. -/
def hexDigit (n : Nat) : Char := Char.ofNat (if n < 10 then 48 + n else 87 + n)

/-- A character inside quotation marks. -/
def escapeChar (c : Char) : List Char :=
  if c = '"' then ['\\', '"']
  else if c = '\\' then ['\\', '\\']
  else if 32 ≤ c.toNat then [c]
  else if c.toNat = 8 then ['\\', 'b']
  else if c.toNat = 9 then ['\\', 't']
  else if c.toNat = 10 then ['\\', 'n']
  else if c.toNat = 12 then ['\\', 'f']
  else if c.toNat = 13 then ['\\', 'r']
  else ['\\', 'u', '0', '0', hexDigit (c.toNat / 16), hexDigit (c.toNat % 16)]

/-- A text in quotation marks. -/
def quoted (s : String) : String :=
  String.ofList ('"' :: s.toList.flatMap escapeChar ++ ['"'])

mutual

/-- The compact text of a value. -/
def compact : Value → String
  | .null => "null"
  | .bool true => "true"
  | .bool false => "false"
  | .int i => String.ofList (Decimal.integerText i)
  | .real x => if x.isFinite then Decimal.dataLayout.text x else "null"
  | .text s => quoted s
  | .list items => "[" ++ compactItems true items ++ "]"
  | .object members => "\x7b" ++ compactMembers true members ++ "\x7d"

/-- The items of a list, separated by commas; `first` is false behind an item. -/
def compactItems (first : Bool) : List Value → String
  | [] => ""
  | v :: rest => (if first then "" else ",") ++ compact v ++ compactItems false rest

/-- The members of an object, separated by commas. -/
def compactMembers (first : Bool) : List (String × Value) → String
  | [] => ""
  | (k, v) :: rest =>
    (if first then "" else ",") ++ quoted k ++ ":" ++ compact v ++ compactMembers false rest

end

end Value

end ServiceBus
