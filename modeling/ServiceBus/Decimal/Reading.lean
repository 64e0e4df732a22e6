import ServiceBus.Decimal.Integer

/-
ServiceBus.Decimal.Reading — floating-point numbers from decimal text.

A number is digits with an optional point among them and an optional
exponent; at least one digit must stand before or behind the point. The words
for infinity and for the value that is no number are read in either case.
-/
namespace ServiceBus.Decimal

/-- The nearest floating-point number to `mantissa * 10 ^ exponent`. Numbers
far outside the range are settled without computing the power. -/
def nearestFloat (negative : Bool) (mantissa : Nat) (exponent : Int) : Float :=
  let size : Int := exponent + (digits mantissa).length
  let x :=
    if mantissa = 0 then 0.0
    else if 400 < size then 1.0 / 0.0
    else if size < -400 then 0.0
    else if 0 ≤ exponent then Float.ofScientific mantissa false exponent.toNat
    else Float.ofScientific mantissa true (-exponent).toNat
  if negative then -x else x

/-- The leading decimal digits of a text, and the rest. -/
def spanDigits : List Char → List Nat × List Char
  | [] => ([], [])
  | c :: rest =>
    match digitValue? c with
    | some d => let (ds, r) := spanDigits rest; (d :: ds, r)
    | none => ([], c :: rest)

/-- The number that digits write. -/
def ofDigits (ds : List Nat) : Nat := ds.foldl (fun n d => 10 * n + d) 0

/-- Reads what follows the letter `e`: an optional sign and digits. -/
def readExponent? (cs : List Char) : Option Int :=
  let (negative, body) := match cs with
    | '+' :: rest => (false, rest)
    | '-' :: rest => (true, rest)
    | _ => (false, cs)
  (readDigits? body).map fun n => if negative then -(n : Int) else n

/-- Reads a number without sign. -/
def readUnsignedFloat? (negative : Bool) (cs : List Char) : Option Float :=
  let (whole, rest) := spanDigits cs
  let (fraction, rest) := match rest with
    | '.' :: more => spanDigits more
    | _ => ([], rest)
  if whole.isEmpty && fraction.isEmpty then none
  else
    let mantissa := ofDigits (whole ++ fraction)
    let shift := -(fraction.length : Int)
    match rest with
    | [] => some (nearestFloat negative mantissa shift)
    | c :: more =>
      if c = 'e' ∨ c = 'E' then
        (readExponent? more).map fun e => nearestFloat negative mantissa (shift + e)
      else none

/-- Reads a floating-point number that fills the whole text. -/
def readFloat? (cs : List Char) : Option Float :=
  let (negative, body) := match cs with
    | '+' :: rest => (false, rest)
    | '-' :: rest => (true, rest)
    | _ => (false, cs)
  let word := String.ofList (body.map Char.toLower)
  if word = "inf" ∨ word = "infinity" then
    some (if negative then -(1.0 / 0.0) else 1.0 / 0.0)
  else if word = "nan" then some (0.0 / 0.0)
  else readUnsignedFloat? negative body

end ServiceBus.Decimal
