import ServiceBus.Value

/-
ServiceBus.Id — identities of messages, fault handlers and aggregation runs.

Identities are handed out in order and never twice. Their text has the shape
of a universally unique identifier, so it is safe as a name among other
names.
-/
namespace ServiceBus

/-- An identity. -/
structure Id where
  serial : Nat
deriving Repr, DecidableEq, Inhabited

namespace Id

/-- The last `count` hexadecimal digits of a number. -/
def hexDigits (n : Nat) : Nat → List Char
  | 0 => []
  | count + 1 => hexDigits (n / 16) count ++ [Value.hexDigit (n % 16)]

/-- The text of an identity: 32 hexadecimal digits in groups of 8, 4, 4, 4 and
12. -/
def text (i : Id) : String :=
  let ds := hexDigits i.serial 32
  let group (start count : Nat) : List Char := (ds.drop start).take count
  String.ofList <| group 0 8 ++ '-' :: group 8 4 ++ '-' :: group 12 4 ++ '-' :: group 16 4 ++
    '-' :: group 20 12

end Id

end ServiceBus
