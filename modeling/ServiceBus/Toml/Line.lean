import ServiceBus.Toml.Quoted
import ServiceBus.Toml.Scalar

/-
ServiceBus.Toml.Line — values and lines of a TOML document.

A document is a sequence of lines: entries, headers of tables and headers of
tables in lists; comments and blank lines say nothing. Lists and tables in
braces may spread over several lines and end in a comma. Values are nested at
most `maximumDepth` deep.
-/
namespace ServiceBus.Toml

/-- A line that says something. -/
inductive Line where
  | entry (key : List String) (value : Item)
  | header (path : List String)
  | listHeader (path : List String)
deriving Inhabited

/-- How deep lists and tables in braces may be nested. -/
def maximumDepth : Nat := 80

/-! ## Adding to a table -/

/-- Puts an item under a dotted key. Tables on the way come into being; they may
be added to only by dotted keys, and what has a value keeps it. -/
def put (item : Item) : List String → Table → Option Table
  | [], _ => none
  | [key], entries =>
    match Entries.get? key entries with
    | none => some (Entries.insert key item entries)
    | some _ => none
  | key :: next :: path, entries =>
    match Entries.get? key entries with
    | none => do
      let sub ← put item (next :: path) []
      return Entries.insert key (.table .dotted sub) entries
    | some (.table .dotted sub) => do
      let sub ← put item (next :: path) sub
      return Entries.insert key (.table .dotted sub) entries
    | some (.table .implied sub) =>
      if path.isEmpty then none
      else do
        let sub ← put item (next :: path) sub
        return Entries.insert key (.table .implied sub) entries
    | some (.tables elements) =>
      if path.isEmpty then none
      else do
        let sub ← put item (next :: path) (elements.getLast?.getD [])
        return Entries.insert key (.tables (elements.dropLast ++ [sub])) entries
    | some _ => none

/-! ## Values -/

/-- Skips a comment up to the end of its line; none if it holds a control
character. -/
def skipComment? (cs : List Char) : Option (List Char) :=
  let comment := cs.takeWhile (· ≠ '\n')
  if comment.any isControl then none else some (cs.dropWhile (· ≠ '\n'))

/-- Skips blanks, line ends and at most `limit` comments. -/
def skipLines? : Nat → List Char → Option (List Char)
  | 0, _ => none
  | limit + 1, cs =>
    match cs.dropWhile fun c => isGap c || c = '\n' with
    | '#' :: rest => do skipLines? limit (← skipComment? rest)
    | rest => some rest

mutual

/-- Reads a value. `fuel` bounds the calls, and is never short when it exceeds
twice the number of characters; `depth` bounds the nesting. -/
def value? : Nat → Nat → List Char → Option (Item × List Char)
  | 0, _, _ => none
  | fuel + 1, depth, cs =>
    match cs with
    | '"' :: _ => (text? cs).map fun (s, rest) => (.text s, rest)
    | '\'' :: _ => (text? cs).map fun (s, rest) => (.text s, rest)
    | '[' :: rest => if depth = 0 then none else items? fuel (depth - 1) [] rest
    | '\x7b' :: rest => if depth = 0 then none else entries? fuel (depth - 1) [] rest
    | _ => scalar cs

/-- Reads the items of a list behind those that were `seen`, latest first, up to
the closing bracket. -/
def items? : Nat → Nat → List Item → List Char → Option (Item × List Char)
  | 0, _, _, _ => none
  | fuel + 1, depth, seen, cs => do
    let cs ← skipLines? (cs.length + 1) cs
    match cs with
    | ']' :: rest => return (.list seen.reverse, rest)
    | _ =>
      let (item, rest) ← value? fuel depth cs
      let rest ← skipLines? (rest.length + 1) rest
      match rest with
      | ',' :: rest => items? fuel depth (item :: seen) rest
      | ']' :: rest => return (.list (item :: seen).reverse, rest)
      | _ => none

/-- Reads the entries of a table in braces, up to the closing brace. -/
def entries? : Nat → Nat → Table → List Char → Option (Item × List Char)
  | 0, _, _, _ => none
  | fuel + 1, depth, table, cs => do
    let cs ← skipLines? (cs.length + 1) cs
    match cs with
    | '\x7d' :: rest => return (.table .inline table, rest)
    | _ =>
      let (key, rest) ← key? (cs.length + 1) cs
      match rest with
      | '=' :: rest =>
        let (item, rest) ← value? fuel depth (skipGap rest)
        let table ← put item key table
        let rest ← skipLines? (rest.length + 1) rest
        match rest with
        | ',' :: rest => entries? fuel depth table rest
        | '\x7d' :: rest => return (.table .inline table, rest)
        | _ => none
      | _ => none

end

/-! ## Lines -/

/-- Reads one line up to where its comment or its end should stand. -/
def line? (cs : List Char) : Option (Line × List Char) := do
  let limit := cs.length + 1
  match cs with
  | '[' :: '[' :: rest =>
    match ← key? limit rest with
    | (path, ']' :: ']' :: rest) => return (.listHeader path, rest)
    | _ => none
  | '[' :: rest =>
    match ← key? limit rest with
    | (path, ']' :: rest) => return (.header path, rest)
    | _ => none
  | _ =>
    match ← key? limit cs with
    | (key, '=' :: rest) =>
      let (item, rest) ← value? (2 * limit) maximumDepth (skipGap rest)
      return (.entry key item, rest)
    | _ => none

/-- Reads what may follow a line: blanks and a comment, and the line end or the
end of the document. -/
def endLine? (cs : List Char) : Option (List Char) :=
  match skipGap cs with
  | [] => some []
  | '\n' :: rest => some rest
  | '#' :: rest => (skipComment? rest).map dropLineEnd
  | _ => none

/-- Reads the lines of a document; `fuel` bounds their number. -/
def lines? : Nat → List Char → Option (List Line)
  | 0, _ => none
  | fuel + 1, cs =>
    match skipGap cs with
    | [] => some []
    | '\n' :: rest => lines? fuel rest
    | '#' :: rest => do lines? fuel (← skipComment? rest)
    | cs => do
      let (line, rest) ← line? cs
      return line :: (← lines? fuel (← endLine? rest))

end ServiceBus.Toml
