import ServiceBus.Value
import ServiceBus.Decimal.Reading

/-
ServiceBus.Value.Reader — values from their written form.

The reader accepts blanks between tokens and every escape. A whole number
outside the range of 64-bit numbers, and the number `-0`, are read as
floating-point numbers. Of two members of one name the later counts.
-/
namespace ServiceBus.Value.Reader

/-- Blanks between tokens: space, tab, line feed and carriage return. -/
def isBlank (c : Char) : Bool := c = ' ' || c = '\t' || c = '\n' || c = '\r'

/-- Skips blanks. -/
def skip (cs : List Char) : List Char := cs.dropWhile isBlank

/-- The value of a hexadecimal digit. -/
def hexValue? (c : Char) : Option Nat :=
  let n := c.toNat
  if 48 ≤ n ∧ n ≤ 57 then some (n - 48)
  else if 97 ≤ n ∧ n ≤ 102 then some (n - 87)
  else if 65 ≤ n ∧ n ≤ 70 then some (n - 55)
  else none

/-- Reads four hexadecimal digits. -/
def hex4 : List Char → Option (Nat × List Char)
  | a :: b :: c :: d :: rest => do
    let a ← hexValue? a
    let b ← hexValue? b
    let c ← hexValue? c
    let d ← hexValue? d
    return (((a * 16 + b) * 16 + c) * 16 + d, rest)
  | _ => none

/-- Reads what follows `\u`: one code unit, or the two of a pair. -/
def unicodeEscape (cs : List Char) : Option (Char × List Char) :=
  match hex4 cs with
  | none => none
  | some (n, rest) =>
    if 0xD800 ≤ n ∧ n < 0xDC00 then
      match rest with
      | '\\' :: 'u' :: more =>
        match hex4 more with
        | some (m, tail) =>
          if 0xDC00 ≤ m ∧ m < 0xE000 then
            some (Char.ofNat (0x10000 + (n - 0xD800) * 1024 + (m - 0xDC00)), tail)
          else none
        | none => none
      | _ => none
    else if 0xDC00 ≤ n ∧ n < 0xE000 then none
    else some (Char.ofNat n, rest)

/-- The character of a one-letter escape. -/
def shortEscape? : Char → Option Char
  | '"' => some '"'
  | '\\' => some '\\'
  | '/' => some '/'
  | 'b' => some (Char.ofNat 8)
  | 'f' => some (Char.ofNat 12)
  | 'n' => some '\n'
  | 'r' => some '\r'
  | 't' => some '\t'
  | _ => none

/-- Reads the characters of a text up to its closing quotation mark; `seen`
holds those read before, latest first. -/
def textTail : Nat → List Char → List Char → Option (String × List Char)
  | 0, _, _ => none
  | fuel + 1, seen, cs =>
    match cs with
    | [] => none
    | '"' :: rest => some (String.ofList seen.reverse, rest)
    | '\\' :: 'u' :: rest =>
      match unicodeEscape rest with
      | some (c, more) => textTail fuel (c :: seen) more
      | none => none
    | '\\' :: e :: rest =>
      match shortEscape? e with
      | some c => textTail fuel (c :: seen) rest
      | none => none
    | c :: rest => if c.toNat < 32 then none else textTail fuel (c :: seen) rest

/-- Whether a character can stand in a number. -/
def isNumberChar (c : Char) : Bool :=
  c.isDigit || c = '-' || c = '+' || c = '.' || c = 'e' || c = 'E'

/-- Whether the digits of a number start with a needless zero. -/
def leadingZero : List Char → Bool
  | '0' :: c :: _ => c.isDigit
  | _ => false

/-! ## Numbers

A number with a point or an exponent, or one too long for 64 bits, is taken as
a significand of at most 64 bits and a power of ten. Digits that no longer fit
are dropped. The two are joined by one multiplication or division, so the last
bit may differ from the nearest floating-point number. -/

/-- Appends digits to a significand as long as it fits into 64 bits; also gives
how many were appended. -/
def appendDigits (significand : Nat) : List Nat → Nat × Nat
  | [] => (significand, 0)
  | d :: rest =>
    if UInt64.size ≤ 10 * significand + d then (significand, 0)
    else
      let (s, count) := appendDigits (10 * significand + d) rest
      (s, count + 1)

/-- The power of ten nearest to `10 ^ n`. -/
def powerOfTen (n : Nat) : Float := Decimal.nearestFloat false 1 n

/-- A number divided by `10 ^ n`, in steps of at most `10 ^ 308`; `steps` bounds
them, for after three of them nothing is left. -/
def divideByPower (x : Float) (n : Nat) : Nat → Float
  | 0 => 0.0
  | steps + 1 =>
    if n ≤ 308 then x / powerOfTen n
    else divideByPower (x / powerOfTen 308) (n - 308) steps

/-- A significand times a power of ten; none if that is too large. -/
def scale? (significand : Nat) (exponent : Int) : Option Float :=
  let x := (UInt64.ofNat significand).toFloat
  if significand = 0 then some 0.0
  else if 0 ≤ exponent then
    if 308 < exponent then none
    else
      let x := x * powerOfTen exponent.toNat
      if x.isFinite then some x else none
  else some (divideByPower x (-exponent).toNat 4)

/-- The floating-point number of a text without sign. -/
def unsignedFloat? (cs : List Char) : Option Float := do
  let (whole, rest) := Decimal.spanDigits cs
  let (significand, taken) := appendDigits 0 whole
  let shift : Int := whole.length - taken
  let (significand, shift, rest) ← match rest with
    | '.' :: more =>
      let (fraction, rest) := Decimal.spanDigits more
      if fraction.isEmpty then none
      else
        let (significand, taken) := appendDigits significand fraction
        some (significand, shift - taken, rest)
    | _ => some (significand, shift, rest)
  match rest with
  | [] => scale? significand shift
  | c :: more =>
    if c = 'e' ∨ c = 'E' then scale? significand (shift + (← Decimal.readExponent? more)) else none

/-- The value of a number text. -/
def number? (cs : List Char) : Option Value :=
  let (negative, body) := match cs with
    | '-' :: rest => (true, rest)
    | _ => (false, cs)
  let real : Option Value := (unsignedFloat? body).map fun x => .real (if negative then -x else x)
  if leadingZero body then none
  else match body with
  | [] => none
  | c :: _ =>
    if !c.isDigit then none
    else match Decimal.readDigits? body with
    | some n =>
      if negative then if n = 0 ∨ !Width.int64.holds (-n) then real else some (.int (-(n : Int)))
      else if n < UInt64.size then some (.int n)
      else real
    | none => real

mutual

/-- Reads a value; `fuel` bounds the calls and is never short when it exceeds
the number of characters. -/
def value : Nat → List Char → Option (Value × List Char)
  | 0, _ => none
  | fuel + 1, cs =>
    match skip cs with
    | 'n' :: 'u' :: 'l' :: 'l' :: rest => some (.null, rest)
    | 't' :: 'r' :: 'u' :: 'e' :: rest => some (.bool true, rest)
    | 'f' :: 'a' :: 'l' :: 's' :: 'e' :: rest => some (.bool false, rest)
    | '"' :: rest => (textTail (rest.length + 1) [] rest).map fun (s, r) => (.text s, r)
    | '[' :: rest =>
      match skip rest with
      | ']' :: more => some (.list [], more)
      | _ => (items fuel [] rest).map fun (vs, r) => (.list vs, r)
    | '\x7b' :: rest =>
      match skip rest with
      | '\x7d' :: more => some (.object [], more)
      | _ => (members fuel ∅ rest).map fun (ms, r) => (.object ms.entries, r)
    | cs' =>
      match number? (cs'.takeWhile isNumberChar) with
      | some v => some (v, cs'.dropWhile isNumberChar)
      | none => none

/-- Reads the items of a list up to its closing bracket. -/
def items : Nat → List Value → List Char → Option (List Value × List Char)
  | 0, _, _ => none
  | fuel + 1, seen, cs =>
    match value fuel cs with
    | some (v, rest) =>
      match skip rest with
      | ',' :: more => items fuel (v :: seen) more
      | ']' :: more => some ((v :: seen).reverse, more)
      | _ => none
    | none => none

/-- Reads the members of an object up to its closing brace. -/
def members : Nat → Dict Value → List Char → Option (Dict Value × List Char)
  | 0, _, _ => none
  | fuel + 1, seen, cs =>
    match skip cs with
    | '"' :: rest =>
      match textTail (rest.length + 1) [] rest with
      | some (name, afterName) =>
        match skip afterName with
        | ':' :: body =>
          match value fuel body with
          | some (v, afterValue) =>
            match skip afterValue with
            | ',' :: more => members fuel (seen.insert name v) more
            | '\x7d' :: more => some (seen.insert name v, more)
            | _ => none
          | none => none
        | _ => none
      | none => none
    | _ => none

end

end ServiceBus.Value.Reader

namespace ServiceBus.Value

/-- The value that a text writes, if it writes one and nothing else. -/
def read? (s : String) : Option Value :=
  let cs := s.toList
  match Reader.value (2 * cs.length + 2) cs with
  | some (v, rest) => if (Reader.skip rest).isEmpty then some v else none
  | none => none

end ServiceBus.Value
