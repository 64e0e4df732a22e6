import ServiceBus.Toml.Quoted
import ServiceBus.Toml.Basic
import ServiceBus.Decimal.Shortest

/-
ServiceBus.Toml.Printer — TOML documents written for readers.

The lines of a table stand in front of its sub-tables, each of which has a
block of its own. A table that holds nothing but sub-tables needs no header. A
text is written in the plainest of its forms, and a list of two items or more
has one item on each line.
-/
namespace ServiceBus.Toml

/-! ## Texts and keys -/

/-- The longest run of a character in a text; `run` are already counted. -/
def longestRun (mark : Char) (run : Nat) : List Char → Nat
  | [] => run
  | c :: rest =>
    if c = mark then longestRun mark (run + 1) rest else max run (longestRun mark 0 rest)

/-- Whether a text has control characters that only an escape can write. -/
def needsEscapes (cs : List Char) : Bool := cs.any fun c => isControl c && c != '\n'

/-- A character between quotation marks, which is none itself. -/
def escapeChar (multiline : Bool) (c : Char) : List Char :=
  if c = '\\' then ['\\', '\\']
  else if c = '\t' then ['\\', 't']
  else if c = '\n' then if multiline then ['\n'] else ['\\', 'n']
  else if c = '\r' then ['\\', 'r']
  else if c.toNat = 8 then ['\\', 'b']
  else if c.toNat = 12 then ['\\', 'f']
  else if isControl c then
    ['\\', 'u', '0', '0', (Value.hexDigit (c.toNat / 16)).toUpper, (Value.hexDigit (c.toNat % 16)).toUpper]
  else [c]

/-- The body of a text between quotation marks. On several lines, two marks in
a row need no escape; `run` of them stand directly before. -/
def escape (multiline : Bool) (run : Nat) : List Char → List Char
  | [] => []
  | c :: rest =>
    if c = '"' then
      if multiline && run < 2 then c :: escape multiline (run + 1) rest
      else '\\' :: c :: escape multiline 0 rest
    else escapeChar multiline c ++ escape multiline 0 rest

/-- A text on one line, between quotation marks. -/
def basicText (cs : List Char) : List Char := '"' :: escape false 0 cs ++ ['"']

/-- A text between threefold marks; behind the opening ones the line ends if the
text has several lines. -/
def longText (mark : Char) (cs body : List Char) : List Char :=
  let marks := [mark, mark, mark]
  marks ++ (if cs.contains '\n' then ['\n'] else []) ++ body ++ marks

/-- The plainest form of a text: between quotation marks without escapes,
between apostrophes, either on several lines, or with escapes. -/
def textForm (s : String) : String :=
  let cs := s.toList
  let multiline := cs.contains '\n'
  let escapes := needsEscapes cs
  let backslash := cs.contains '\\'
  let quotes := longestRun '"' 0 cs
  let apostrophes := longestRun '\'' 0 cs
  String.ofList <|
    if !escapes && !backslash && quotes = 0 && !multiline then basicText cs
    else if !escapes && apostrophes = 0 && !multiline then '\'' :: cs ++ ['\'']
    else if !escapes && !backslash && quotes ≤ 2 then longText '"' cs (escape true 0 cs)
    else if !escapes && apostrophes ≤ 2 then longText '\'' cs cs
    else if multiline then longText '"' cs (escape true 0 cs)
    else basicText cs

/-- A key, in quotation marks or apostrophes if it needs them. -/
def keyForm (s : String) : String :=
  let cs := s.toList
  let simple := !needsEscapes cs && !cs.contains '\n'
  if !cs.isEmpty && cs.all isBare then s
  else String.ofList <|
    if simple && !cs.contains '\\' && !cs.contains '"' then basicText cs
    else if simple && !cs.contains '\'' then '\'' :: cs ++ ['\'']
    else basicText cs

/-- Numbers with a fraction are written without exponent. -/
def numberLayout : Decimal.Layout := ⟨none, true⟩

/-- A floating-point number. -/
def realForm (x : Float) : String := if x.isNaN then "nan" else numberLayout.text x

/-! ## Values -/

mutual

/-- An item as the value of a key. -/
def valueForm : Item → String
  | .text s => textForm s
  | .integer i => String.ofList (Decimal.integerText i)
  | .real x => realForm x
  | .flag b => if b then "true" else "false"
  | .moment s => s
  | .list [] => "[]"
  | .list [item] => "[" ++ valueForm item ++ "]"
  | .list items => "[" ++ itemRows items ++ "\n]"
  | .table _ entries => "\x7b" ++ memberForms true entries ++ "\x7d"
  | .tables [] => "[]"
  | .tables [entries] => "[\x7b" ++ memberForms true entries ++ "\x7d]"
  | .tables elements => "[" ++ tableRows elements ++ "\n]"

/-- The items of a list, each on a line of its own. -/
def itemRows : List Item → String
  | [] => ""
  | item :: rest => "\n    " ++ valueForm item ++ "," ++ itemRows rest

/-- Tables as items of a list, each on a line of its own. -/
def tableRows : List (List (String × Item)) → String
  | [] => ""
  | entries :: rest => "\n    \x7b" ++ memberForms true entries ++ "\x7d," ++ tableRows rest

/-- The entries of a table in braces; `first` is false behind an entry. -/
def memberForms (first : Bool) : List (String × Item) → String
  | [] => if first then "" else " "
  | (k, item) :: rest =>
    (if first then " " else ", ") ++ keyForm k ++ " = " ++ valueForm item ++ memberForms false rest

end

/-! ## Tables -/

/-- Whether an item is written as blocks of its own. -/
def isBlock : Item → Bool
  | .table _ _ => true
  | .tables (_ :: _) => true
  | _ => false

/-- The lines of a table for what needs no block of its own. -/
def tableLines (entries : Table) : String :=
  entries.foldl (fun s (k, item) =>
    if isBlock item then s else s ++ keyForm k ++ " = " ++ valueForm item ++ "\n") ""

/-- A path of keys. -/
def pathForm (path : List String) : String := ".".intercalate (path.map keyForm)

/-- The block of a table without its sub-tables: none if it is not needed. -/
def block (path : List String) (listed : Bool) (entries : Table) : List String :=
  let body := tableLines entries
  let needed := if path.isEmpty then !body.isEmpty
    else listed || !body.isEmpty || !entries.any fun (_, item) => isBlock item
  let header :=
    if path.isEmpty then ""
    else if listed then "[[" ++ pathForm path ++ "]]\n"
    else "[" ++ pathForm path ++ "]\n"
  if needed then [header ++ body] else []

mutual

/-- The blocks of the sub-tables of a table. -/
def subBlocks (path : List String) : List (String × Item) → List String
  | [] => []
  | (k, item) :: rest => itemBlocks (path ++ [k]) item ++ subBlocks path rest

/-- The blocks of what a key stands for. -/
def itemBlocks (path : List String) : Item → List String
  | .table _ entries => block path false entries ++ subBlocks path entries
  | .tables elements => listedBlocks path elements
  | _ => []

/-- The blocks of the tables of a list. -/
def listedBlocks (path : List String) : List (List (String × Item)) → List String
  | [] => []
  | entries :: rest => block path true entries ++ subBlocks path entries ++ listedBlocks path rest

end

namespace Document

/-- The document of a tree, its blocks separated by empty lines. -/
def text (root : Table) : String := "\n".intercalate (block [] false root ++ subBlocks [] root)

end Document

/-! ## Trees of data -/

namespace Item

/-- Tables of one kind, if all items are tables. -/
def tables? : List Item → Option (List Table)
  | [] => some []
  | table _ entries :: rest => (tables? rest).map (entries :: ·)
  | _ :: _ => none

/-- A list of items; where all of them are tables, they stand under headers. -/
def ofItems (items : List Item) : Item :=
  match items, tables? items with
  | _ :: _, some elements => tables elements
  | _, _ => list items

mutual

/-- The item that writes a value; null has none. -/
def ofValue? : Value → Option Item
  | .null => none
  | .bool b => some (flag b)
  | .int i => some (integer i)
  | .real x => some (real x)
  | .text s => some (text s)
  | .list values => (ofValues? values).map ofItems
  | .object members => (ofMembers? members).map (table .header)

/-- The items that write some values. -/
def ofValues? : List Value → Option (List Item)
  | [] => some []
  | v :: rest => do return (← ofValue? v) :: (← ofValues? rest)

/-- The entries that write some members. -/
def ofMembers? : List (String × Value) → Option (List (String × Item))
  | [] => some []
  | (k, v) :: rest => do return (k, ← ofValue? v) :: (← ofMembers? rest)

end

end Item

end ServiceBus.Toml
