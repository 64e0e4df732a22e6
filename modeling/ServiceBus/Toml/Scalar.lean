import ServiceBus.Toml.Basic
import ServiceBus.Decimal.Reading
import ServiceBus.Value.Reader
import ServiceBus.Text.Blank

/-
ServiceBus.Toml.Scalar — numbers, truth values, dates and times in a TOML
document.

A scalar is the longest run of characters that may stand in one. Underscores
may stand between two digits. A number in decimal notation has no needless
zeros in front; a fraction and an exponent have at least one digit. A
floating-point number must be finite, unless it is written as a word. Dates
and times must exist, and are brought into their normal form.
-/
namespace ServiceBus.Toml

/-- Whether a character may stand in a scalar. -/
def isScalarChar (c : Char) : Bool :=
  c.isAlphanum || c = '_' || c = '+' || c = '-' || c = '.' || c = ':'

/-! ## Numbers -/

/-- Takes away the underscores of a run of digits; each must stand between two
of them. -/
def ungroup (isDigit : Char → Bool) : List Char → Option (List Char)
  | [] => none
  | [c] => if isDigit c then some [c] else none
  | c :: '_' :: rest => if isDigit c then (ungroup isDigit rest).map (c :: ·) else none
  | c :: rest => if isDigit c then (ungroup isDigit rest).map (c :: ·) else none

/-- The number that digits of a base write. -/
def natural? (base : Nat) (cs : List Char) : Option Nat := do
  let value (c : Char) : Option Nat :=
    (Value.Reader.hexValue? c).bind fun d => if d < base then some d else none
  let ds ← ungroup (fun c => (value c).isSome) cs
  ds.foldlM (fun n c => (value c).map (n * base + ·)) 0

/-- The digits of a number in decimal notation without needless zeros. -/
def wholeDigits? (cs : List Char) : Option (List Char) := do
  let ds ← ungroup Char.isDigit cs
  match ds with
  | '0' :: _ :: _ => none
  | ds => some ds

/-- A sign, and what follows it. -/
def sign : List Char → Bool × List Char
  | '-' :: rest => (true, rest)
  | '+' :: rest => (false, rest)
  | cs => (false, cs)

/-- Reads a whole number. -/
def integer? : List Char → Option Int
  | '0' :: 'x' :: rest => (natural? 16 rest).map Int.ofNat
  | '0' :: 'o' :: rest => (natural? 8 rest).map Int.ofNat
  | '0' :: 'b' :: rest => (natural? 2 rest).map Int.ofNat
  | cs => do
    let (negative, body) := sign cs
    let n ← Decimal.readDigits? (← wholeDigits? body)
    return if negative then -(n : Int) else n

/-- Whether a character starts an exponent. -/
def isExponentMark (c : Char) : Bool := c = 'e' || c = 'E'

/-- The exponent of a number: nothing, or the letter, a sign and digits. -/
def exponent? : List Char → Option (List Char)
  | [] => some []
  | e :: rest => do
    let (negative, body) := sign rest
    let ds ← ungroup Char.isDigit body
    return e :: (if negative then ['-'] else []) ++ ds

/-- The same number without sign and underscores, if the text writes one with a
fraction or an exponent. -/
def plainFloat? (cs : List Char) : Option (List Char) := do
  let mantissa := cs.takeWhile fun c => !isExponentMark c
  let tail := cs.dropWhile fun c => !isExponentMark c
  let exponent ← exponent? tail
  match Text.splitFirst '.' mantissa with
  | some (whole, fraction) =>
    return (← wholeDigits? whole) ++ '.' :: (← ungroup Char.isDigit fraction) ++ exponent
  | none => if tail.isEmpty then none else return (← wholeDigits? mantissa) ++ exponent

/-- Reads a floating-point number. -/
def float? (cs : List Char) : Option Float := do
  let (negative, body) := sign cs
  let x ← match body with
    | ['i', 'n', 'f'] => some (1.0 / 0.0)
    | ['n', 'a', 'n'] => some (0.0 / 0.0)
    | _ => do
      let x ← Decimal.readFloat? (← plainFloat? body)
      if x.isFinite then some x else none
  return if negative then -x else x

/-! ## Dates and times -/

/-- The number that two digits write, if it lies between two bounds. -/
def twoDigits? (low high : Nat) (a b : Char) : Option Nat := do
  let n ← Decimal.readDigits? [a, b]
  if low ≤ n ∧ n ≤ high then some n else none

/-- The number of days of a month. -/
def daysOf (year month : Nat) : Nat :=
  if month = 2 then
    if year % 4 = 0 ∧ (year % 100 ≠ 0 ∨ year % 400 = 0) then 29 else 28
  else if month = 4 ∨ month = 6 ∨ month = 9 ∨ month = 11 then 30
  else 31

/-- Cuts off a date. -/
def date? : List Char → Option (List Char × List Char)
  | a :: b :: c :: d :: '-' :: m :: n :: '-' :: x :: y :: rest => do
    let year ← Decimal.readDigits? [a, b, c, d]
    let month ← twoDigits? 1 12 m n
    let _ ← twoDigits? 1 (daysOf year month) x y
    return ([a, b, c, d, '-', m, n, '-', x, y], rest)
  | _ => none

/-- A fraction of a second in normal form: at most nine digits, and no zeros at
the end. -/
def fraction (ds : List Char) : List Char :=
  match ((ds.take 9).reverse.dropWhile (· = '0')).reverse with
  | [] => []
  | ds => '.' :: ds

/-- Cuts off what follows the minutes of a time: seconds, if there are any, with
their fraction. -/
def seconds? : List Char → Option (List Char × List Char)
  | ':' :: x :: y :: '.' :: rest => do
    let _ ← twoDigits? 0 60 x y
    let ds := rest.takeWhile Char.isDigit
    if ds.isEmpty then none
    else return (':' :: x :: y :: fraction ds, rest.dropWhile Char.isDigit)
  | ':' :: x :: y :: rest => do
    let _ ← twoDigits? 0 60 x y
    return ([':', x, y], rest)
  | rest => some ([':', '0', '0'], rest)

/-- Cuts off a time. -/
def time? : List Char → Option (List Char × List Char)
  | a :: b :: ':' :: m :: n :: rest => do
    let _ ← twoDigits? 0 23 a b
    let _ ← twoDigits? 0 59 m n
    let (seconds, rest) ← seconds? rest
    return (a :: b :: ':' :: m :: n :: seconds, rest)
  | _ => none

/-- The distance to universal time that ends a text; no distance at all is
written with a plus sign. -/
def distance? : List Char → Option (List Char)
  | [] => some []
  | ['Z'] => some ['Z']
  | ['z'] => some ['Z']
  | [s, a, b, ':', m, n] => do
    if s = '+' ∨ s = '-' then
      let hours ← twoDigits? 0 24 a b
      let minutes ← twoDigits? 0 59 m n
      let s := if hours = 0 ∧ minutes = 0 then '+' else s
      return [s, a, b, ':', m, n]
    else none
  | _ => none

/-- Reads a date, a time or both, and gives the normal form. -/
def moment? (cs : List Char) : Option String :=
  match date? cs with
  | some (date, []) => some (String.ofList date)
  | some (date, t :: rest) =>
    if t = 'T' ∨ t = 't' ∨ t = ' ' then do
      let (time, rest) ← time? rest
      return String.ofList (date ++ 'T' :: time ++ (← distance? rest))
    else none
  | none =>
    match time? cs with
    | some (time, []) => some (String.ofList time)
    | _ => none

/-! ## Scalars -/

/-- The item that a scalar stands for. -/
def scalarItem? (cs : List Char) : Option Item :=
  match cs with
  | ['t', 'r', 'u', 'e'] => some (.flag true)
  | ['f', 'a', 'l', 's', 'e'] => some (.flag false)
  | _ =>
    match moment? cs with
    | some s => some (.moment s)
    | none =>
      match integer? cs with
      | some i => some (.integer i)
      | none => (float? cs).map .real

/-- Whether a date ends here, and a time follows behind a space. -/
def timeFollows (date rest : List Char) : Bool :=
  match date? date, rest with
  | some (_, []), ' ' :: d :: _ => d.isDigit
  | _, _ => false

/-- Reads a scalar. -/
def scalar (cs : List Char) : Option (Item × List Char) :=
  let run := cs.takeWhile isScalarChar
  let rest := cs.dropWhile isScalarChar
  if timeFollows run rest then
    let rest := rest.drop 1
    (scalarItem? (run ++ ' ' :: rest.takeWhile isScalarChar)).map
      fun i => (i, rest.dropWhile isScalarChar)
  else (scalarItem? run).map fun i => (i, rest)

end ServiceBus.Toml
