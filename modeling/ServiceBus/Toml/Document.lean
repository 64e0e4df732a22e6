import ServiceBus.Toml.Line

/-
ServiceBus.Toml.Document — the tree that the lines of a TOML document build.

A header opens a table, once; the entries behind it belong to that table. A
list header adds a table to a list of such tables, and headers behind it lead
into the one added last. Nothing that was said before is taken back, so a
document that says something twice writes no tree (`Document.read?`).
-/
namespace ServiceBus.Toml

/-- Changes the table that a path leads to. Tables on the way come into being,
implied by what they hold. -/
def reach (change : Table → Option Table) : List String → Table → Option Table
  | [], entries => change entries
  | key :: path, entries =>
    match Entries.get? key entries with
    | none => do
      return Entries.insert key (.table .implied (← reach change path [])) entries
    | some (.table .inline _) => none
    | some (.table origin sub) => do
      return Entries.insert key (.table origin (← reach change path sub)) entries
    | some (.tables elements) => do
      let sub ← reach change path (elements.getLast?.getD [])
      return Entries.insert key (.tables (elements.dropLast ++ [sub])) entries
    | some _ => none

/-- Opens a table by its header. One that was only implied before keeps what it
holds. -/
def openTable (key : String) (entries : Table) : Option Table :=
  match Entries.get? key entries with
  | none => some (Entries.insert key (.table .header []) entries)
  | some (.table .implied sub) => some (Entries.insert key (.table .header sub) entries)
  | some _ => none

/-- Adds an empty table to a list of tables. -/
def addTable (key : String) (entries : Table) : Option Table :=
  match Entries.get? key entries with
  | none => some (Entries.insert key (.tables [[]]) entries)
  | some (.tables elements) => some (Entries.insert key (.tables (elements ++ [[]])) entries)
  | some _ => none

/-- A document while its lines are taken into account. -/
structure Document where
  root : Table
  /-- The path of the last header. -/
  path : List String

namespace Document

/-- Takes a line into account. -/
def add (d : Document) : Line → Option Document
  | .entry key item => do return { d with root := ← reach (put item key) d.path d.root }
  | .header path => do
    let key ← path.getLast?
    return ⟨← reach (openTable key) path.dropLast d.root, path⟩
  | .listHeader path => do
    let key ← path.getLast?
    return ⟨← reach (addTable key) path.dropLast d.root, path⟩

/-- The tree that lines build. -/
def ofLines? (lines : List Line) : Option Table := do
  return (← lines.foldlM add ⟨[], []⟩).root

/-- Line ends of two characters become line feeds; a carriage return elsewhere
stays, as the control character that it is. -/
def unifyLineEnds : List Char → List Char
  | '\r' :: '\n' :: rest => '\n' :: unifyLineEnds rest
  | c :: rest => c :: unifyLineEnds rest
  | [] => []

/-- Drops the mark that may stand in front of a text to tell its encoding. -/
def dropMark : List Char → List Char
  | c :: rest => if c.toNat = 0xFEFF then rest else c :: rest
  | [] => []

/-- The tree that a document writes. -/
def read? (s : String) : Option Table := do
  let cs := unifyLineEnds (dropMark s.toList)
  ofLines? (← lines? (cs.length + 1) cs)

end Document

end ServiceBus.Toml
