import ServiceBus.Value.Reader

/-
ServiceBus.Toml.Quoted — keys and texts in a TOML document.

A text stands between quotation marks or between apostrophes, single or
threefold. It is first cut off at its closing mark; then, between quotation
marks, its escapes are decoded. Threefold marks allow line ends, and up to two
marks of the same kind directly before the closing ones belong to the text.
-/
namespace ServiceBus.Toml

/-- Space and tab. -/
def isGap (c : Char) : Bool := c = ' ' || c = '\t'

/-- Skips spaces and tabs. -/
def skipGap (cs : List Char) : List Char := cs.dropWhile isGap

/-- Control characters other than the tab, which may stand nowhere. -/
def isControl (c : Char) : Bool := (c.toNat < 32 && c != '\t') || c.toNat = 127

/-- Whether a character may stand in a key without quotation marks. -/
def isBare (c : Char) : Bool := c.isAlphanum || c = '-' || c = '_'

/-! ## Cutting texts off -/

/-- Puts characters in front of what was cut off. -/
def prepend (cs : List Char) (r : Option (List Char × List Char)) : Option (List Char × List Char) :=
  r.map fun (body, rest) => (cs ++ body, rest)

/-- Cuts off a text on one line at its closing mark. Behind a backslash a mark
closes nothing, if `escapes` is set. -/
def cutLine (mark : Char) (escapes : Bool) : List Char → Option (List Char × List Char)
  | [] => none
  | '\\' :: c :: rest =>
    if escapes then if isControl c then none else prepend ['\\', c] (cutLine mark escapes rest)
    else if c = mark then some (['\\'], rest)
    else if isControl c then none
    else prepend ['\\', c] (cutLine mark escapes rest)
  | c :: rest =>
    if c = mark then some ([], rest)
    else if isControl c then none
    else prepend [c] (cutLine mark escapes rest)

/-- Cuts off a text on several lines at its three closing quotation marks. -/
def cutQuotes : List Char → Option (List Char × List Char)
  | '"' :: '"' :: '"' :: '"' :: '"' :: rest => some (['"', '"'], rest)
  | '"' :: '"' :: '"' :: '"' :: rest => some (['"'], rest)
  | '"' :: '"' :: '"' :: rest => some ([], rest)
  | '\\' :: c :: rest =>
    if isControl c && c != '\n' then none else prepend ['\\', c] (cutQuotes rest)
  | c :: rest => if isControl c && c != '\n' then none else prepend [c] (cutQuotes rest)
  | [] => none

/-- Cuts off a text on several lines at its three closing apostrophes. -/
def cutApostrophes : List Char → Option (List Char × List Char)
  | '\'' :: '\'' :: '\'' :: '\'' :: '\'' :: rest => some (['\'', '\''], rest)
  | '\'' :: '\'' :: '\'' :: '\'' :: rest => some (['\''], rest)
  | '\'' :: '\'' :: '\'' :: rest => some ([], rest)
  | c :: rest => if isControl c && c != '\n' then none else prepend [c] (cutApostrophes rest)
  | [] => none

/-! ## Escapes -/

/-- The number that hexadecimal digits write. -/
def hexNumber? (cs : List Char) : Option Nat :=
  cs.foldlM (fun n c => (Value.Reader.hexValue? c).map (n * 16 + ·)) 0

/-- The character that hexadecimal digits name. -/
def scalar? (cs : List Char) : Option Char := do
  let n ← hexNumber? cs
  if n < 0xD800 ∨ (0xDFFF < n ∧ n < 0x110000) then some (Char.ofNat n) else none

/-- The character of a one-letter escape. -/
def shortEscape? : Char → Option Char
  | '"' => some '"'
  | '\\' => some '\\'
  | 'b' => some (Char.ofNat 8)
  | 'e' => some (Char.ofNat 27)
  | 'f' => some (Char.ofNat 12)
  | 'n' => some '\n'
  | 'r' => some '\r'
  | 't' => some '\t'
  | _ => none

/-- Whether only spaces and tabs stand before the next line end. -/
def endsLine (cs : List Char) : Bool :=
  match skipGap cs with
  | '\n' :: _ => true
  | _ => false

/-- Decodes the body of a text. A backslash at the end of a line takes away
everything up to the next character that is neither blank nor a line end;
`trimming` says that the decoder stands in such a gap. -/
def decode (trimming : Bool) : List Char → Option (List Char)
  | [] => some []
  | '\\' :: 'x' :: a :: b :: rest => do return (← scalar? [a, b]) :: (← decode false rest)
  | '\\' :: 'u' :: a :: b :: c :: d :: rest => do
    return (← scalar? [a, b, c, d]) :: (← decode false rest)
  | '\\' :: 'U' :: a :: b :: c :: d :: e :: f :: g :: h :: rest => do
    return (← scalar? [a, b, c, d, e, f, g, h]) :: (← decode false rest)
  | '\\' :: c :: rest =>
    if endsLine (c :: rest) then decode true rest
    else do return (← shortEscape? c) :: (← decode false rest)
  | c :: rest =>
    if trimming && (isGap c || c = '\n') then decode true rest
    else if c = '\\' then none
    else do return c :: (← decode false rest)

/-- Drops a line end at the very beginning. -/
def dropLineEnd : List Char → List Char
  | '\n' :: rest => rest
  | cs => cs

/-! ## Texts and keys -/

/-- Reads a text on one line. -/
def shortText? : List Char → Option (String × List Char)
  | '"' :: rest => do
    let (body, rest) ← cutLine '"' true rest
    return (String.ofList (← decode false body), rest)
  | '\'' :: rest => do
    let (body, rest) ← cutLine '\'' false rest
    return (String.ofList body, rest)
  | _ => none

/-- Reads a text in any of its four forms. -/
def text? : List Char → Option (String × List Char)
  | '"' :: '"' :: '"' :: rest => do
    let (body, rest) ← cutQuotes (dropLineEnd rest)
    return (String.ofList (← decode false body), rest)
  | '\'' :: '\'' :: '\'' :: rest => do
    let (body, rest) ← cutApostrophes (dropLineEnd rest)
    return (String.ofList body, rest)
  | cs => shortText? cs

/-- Reads one key. -/
def simpleKey? (cs : List Char) : Option (String × List Char) :=
  match cs with
  | '"' :: _ => shortText? cs
  | '\'' :: _ => shortText? cs
  | _ =>
    let name := cs.takeWhile isBare
    if name.isEmpty then none else some (String.ofList name, cs.dropWhile isBare)

/-- Reads a key of at most `limit` parts joined by points; blanks may stand
around the points. -/
def key? : Nat → List Char → Option (List String × List Char)
  | 0, _ => none
  | limit + 1, cs => do
    let (name, rest) ← simpleKey? (skipGap cs)
    match skipGap rest with
    | '.' :: more =>
      let (names, rest) ← key? limit more
      return (name :: names, rest)
    | rest => return ([name], rest)

end ServiceBus.Toml
