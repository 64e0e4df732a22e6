import ServiceBus.Decimal.Integer

/-
ServiceBus.Decimal.Shortest — the shortest decimal text of a floating-point
number.

A finite number other than zero is `m * 2 ^ q`. Every real number that is
nearer to it than to its neighbours reads back as the same number; the two
bounds belong to this interval exactly when `m` is even. For one digit, two
digits and so on, the two neighbours of the number on that decimal grid are
tested; the first grid with a hit gives the digits, of two hits the nearer.

`Layout` holds what a format decides: which numbers are written with an
exponent and whether whole numbers keep a `.0`.
-/
namespace ServiceBus.Decimal

/-- A positive number `mantissa * 2 ^ exponent`. `narrow` says that the next
smaller number is only half as far away as the next larger one. -/
structure Binary where
  mantissa : Nat
  exponent : Int
  narrow : Bool
deriving Repr, DecidableEq

/-- A positive number `digits * 10 ^ exponent`. -/
structure Scaled where
  digits : Nat
  exponent : Int
deriving Repr, DecidableEq

/-- The two factors that compare `x * 2 ^ q` with `y * 10 ^ e` in natural
numbers: `x` times the first against `y` times the second. -/
def factors (q e : Int) : Nat × Nat :=
  (Nat.pow 2 q.toNat * Nat.pow 10 (-e).toNat, Nat.pow 2 (-q).toNat * Nat.pow 10 e.toNat)

/-- The exponent of the leading decimal digit. -/
def Binary.leading (b : Binary) : Int :=
  let guess := ((b.mantissa.log2 : Int) + b.exponent) * 30103 / 100000
  let below (e : Int) : Bool :=
    let (f, g) := factors b.exponent e
    b.mantissa * f < g
  if below guess then guess - 1
  else if below (guess + 1) then guess
  else guess + 1

/-- The neighbour on the grid of multiples of `10 ^ e` that reads back as the
number, if there is one. -/
def Binary.onGrid? (b : Binary) (e : Int) : Option Nat :=
  let (f, g) := factors (b.exponent - 2) e
  let low := (4 * b.mantissa - (if b.narrow then 1 else 2)) * f
  let mid := 4 * b.mantissa * f
  let high := (4 * b.mantissa + 2) * f
  let inside (d : Nat) : Bool :=
    if b.mantissa % 2 = 0 then low ≤ d * g && d * g ≤ high
    else low < d * g && d * g < high
  let d := mid / g
  if inside d then
    if inside (d + 1) && ((d + 1) * g - mid < mid - d * g) then some (d + 1) else some d
  else if inside (d + 1) then some (d + 1)
  else none

/-- The first grid with a hit, from `count` digits on. -/
def Binary.search (b : Binary) (count : Nat) : Nat → Scaled
  | 0 => ⟨b.mantissa, 0⟩
  | tries + 1 =>
    let e := b.leading - count + 1
    match b.onGrid? e with
    | some d => ⟨d, e⟩
    | none => b.search (count + 1) tries

/-- Moves trailing zeros of the digits into the exponent. -/
def Scaled.dropZeros (s : Scaled) : Nat → Scaled
  | 0 => s
  | n + 1 => if s.digits % 10 = 0 then Scaled.dropZeros ⟨s.digits / 10, s.exponent + 1⟩ n else s

/-- The fewest digits that read back as the number, nearest first. -/
def Binary.shortest (b : Binary) : Scaled := (b.search 1 17).dropZeros 17

/-- What a floating-point number is. -/
inductive Shape where
  | nan
  | infinite (negative : Bool)
  | zero (negative : Bool)
  | finite (negative : Bool) (value : Binary)
deriving Repr, DecidableEq

/-- The value of the lowest bit of the exponent: 52 bits below it hold the
fraction. -/
def exponentUnit : Nat := 4503599627370496

/-- The value of the bit for the sign. -/
def signUnit : Nat := 9223372036854775808

/-- Takes a floating-point number apart. -/
def Shape.ofFloat (x : Float) : Shape :=
  let bits := x.toBits.toNat
  let negative : Bool := bits / signUnit % 2 == 1
  let exponent : Nat := bits / exponentUnit % 2048
  let fraction : Nat := bits % exponentUnit
  if exponent = 2047 then (if fraction = 0 then .infinite negative else .nan)
  else if exponent = 0 then
    if fraction = 0 then .zero negative else .finite negative ⟨fraction, -1074, false⟩
  else .finite negative ⟨exponentUnit + fraction, (exponent : Int) - 1075, fraction == 0 && decide (1 < exponent)⟩

/-- How a format writes numbers. -/
structure Layout where
  /-- Exponents of the leading digit that are written without an exponent;
  `none` is all of them. -/
  positional : Option (Int × Int)
  /-- Whether whole numbers without an exponent end in `.0`. -/
  pointZero : Bool

/-- Digits with the decimal point in its place and no exponent. -/
def positionalText (pointZero : Bool) (ds : List Char) (exponent : Int) : List Char :=
  if 0 ≤ exponent then
    ds ++ List.replicate exponent.toNat '0' ++ (if pointZero then ['.', '0'] else [])
  else
    let places := (-exponent).toNat
    if places < ds.length then
      ds.take (ds.length - places) ++ '.' :: ds.drop (ds.length - places)
    else
      '0' :: '.' :: List.replicate (places - ds.length) '0' ++ ds

/-- Digits with an exponent, whose sign is always written. -/
def exponentText (ds : List Char) (leading : Int) : List Char :=
  let head := match ds with
    | [] => []
    | [d] => [d]
    | d :: rest => d :: '.' :: rest
  let sign := if leading < 0 then '-' else '+'
  head ++ 'e' :: sign :: Decimal.digits leading.natAbs

/-- The text of a positive number in a format. -/
def Layout.textOf (layout : Layout) (s : Scaled) : List Char :=
  let ds := Decimal.digits s.digits
  let leading := s.exponent + ds.length - 1
  match layout.positional with
  | none => positionalText layout.pointZero ds s.exponent
  | some (low, high) =>
    if low ≤ leading ∧ leading ≤ high then positionalText layout.pointZero ds s.exponent
    else exponentText ds leading

/-- The text of a floating-point number in a format. -/
def Layout.text (layout : Layout) (x : Float) : String :=
  let sign (negative : Bool) : List Char := if negative then ['-'] else []
  String.ofList <| match Shape.ofFloat x with
    | .nan => "NaN".toList
    | .infinite negative => sign negative ++ "inf".toList
    | .zero negative => sign negative ++ '0' :: (if layout.pointZero then ['.', '0'] else [])
    | .finite negative b => sign negative ++ layout.textOf b.shortest

/-- Running text shows numbers without exponent and without needless `.0`. -/
def plainLayout : Layout := ⟨none, false⟩

/-- Data texts write an exponent from `1e+16` up and from `1e-6` down, and mark
whole numbers by `.0`. -/
def dataLayout : Layout := ⟨some (-5, 15), true⟩

/-- A floating-point number as running text shows it. -/
def plainText (x : Float) : String := plainLayout.text x

end ServiceBus.Decimal
