/-
ServiceBus.Text.Blank — blank characters, trimming and cutting text into
pieces.

`isBlank` is the Unicode property `White_Space`: 25 characters, of which core's
`Char.isWhitespace` knows a few.
-/
namespace ServiceBus.Text

/-- The 25 characters with the Unicode property `White_Space`. -/
def isBlank (c : Char) : Bool :=
  let n := c.toNat
  (9 ≤ n && n ≤ 13) || n == 0x20 || n == 0x85 || n == 0xA0 || n == 0x1680 ||
    (0x2000 ≤ n && n ≤ 0x200A) || n == 0x2028 || n == 0x2029 || n == 0x202F ||
    n == 0x205F || n == 0x3000

/-- Drops blank characters from the front. -/
def trimStart (cs : List Char) : List Char := cs.dropWhile isBlank

/-- Drops blank characters from the end. -/
def trimEnd (cs : List Char) : List Char := (cs.reverse.dropWhile isBlank).reverse

/-- Drops blank characters from both ends. -/
def trim (cs : List Char) : List Char := trimEnd (trimStart cs)

/-- A text without the blank characters at its ends. -/
def trimmed (s : String) : String := String.ofList (trim s.toList)

/-- The pieces between separators, empty ones included: one more than there
are separators. -/
def pieces (isSeparator : Char → Bool) : List Char → List (List Char)
  | [] => [[]]
  | c :: rest =>
    if isSeparator c then [] :: pieces isSeparator rest
    else match pieces isSeparator rest with
      | [] => [[c]]
      | piece :: more => (c :: piece) :: more

/-- The longest runs of characters that are no separators. -/
def words (isSeparator : Char → Bool) (cs : List Char) : List (List Char) :=
  (pieces isSeparator cs).filter (fun w => !w.isEmpty)

/-- The two sides of the first occurrence of a character. -/
def splitFirst (c : Char) : List Char → Option (List Char × List Char)
  | [] => none
  | d :: rest =>
    if d = c then some ([], rest)
    else (splitFirst c rest).map fun (l, r) => (d :: l, r)

/-- What follows a given beginning, if the text begins so. -/
def after? : List Char → List Char → Option (List Char)
  | [], cs => some cs
  | _ :: _, [] => none
  | a :: as, c :: cs => if a = c then after? as cs else none

/-- What stands before a given end, if the text ends so. -/
def before? (ending cs : List Char) : Option (List Char) :=
  (after? ending.reverse cs.reverse).map List.reverse

/-- The two sides of the first occurrence of a pattern; the pattern itself
belongs to neither. -/
def splitAtPattern (pattern : List Char) : List Char → Option (List Char × List Char)
  | [] => (after? pattern []).map fun r => ([], r)
  | c :: rest =>
    match after? pattern (c :: rest) with
    | some r => some ([], r)
    | none => (splitAtPattern pattern rest).map fun (l, r) => (c :: l, r)

/-- Small letters for the 26 capitals of ASCII, all else unchanged. -/
def asciiLower (cs : List Char) : List Char := cs.map Char.toLower

/-- Equality that takes the 26 letters of ASCII in either case for the same. -/
def eqIgnoringCase (a b : String) : Bool := asciiLower a.toList == asciiLower b.toList

end ServiceBus.Text
