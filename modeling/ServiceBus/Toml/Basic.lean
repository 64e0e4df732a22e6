import ServiceBus.Value

/-
ServiceBus.Toml.Basic — the trees that TOML documents write.

A table remembers how it came to be, for that decides what may still be added
to it (`Origin`). Whole numbers have no width here; dates and times are kept in
their normal form. `Item.toValue` gives the tree as data.
-/
namespace ServiceBus.Toml

/-- How a table came to be. -/
inductive Origin where
  /-- By a header of one of its sub-tables. -/
  | implied
  /-- By a header of its own. -/
  | header
  /-- By a dotted key. -/
  | dotted
  /-- In braces; such a table is complete. -/
  | inline
deriving Repr, DecidableEq, Inhabited

/-- What a key stands for. -/
inductive Item where
  | text (s : String)
  | integer (i : Int)
  | real (x : Float)
  | flag (b : Bool)
  /-- A date, a time or both, in normal form. -/
  | moment (s : String)
  | list (items : List Item)
  | table (origin : Origin) (entries : List (String × Item))
  /-- Tables under repeated headers, in their order. -/
  | tables (elements : List (List (String × Item)))
deriving Inhabited

/-- The entries of a table. -/
abbrev Table := List (String × Item)

namespace Item

mutual

/-- The data that an item stands for; `moment` says what dates and times are. -/
def toValue (moment : String → Value) : Item → Value
  | text s => .text s
  | integer i => .int i
  | real x => .real x
  | flag b => .bool b
  | .moment s => moment s
  | list items => .list (valuesOf moment items)
  | table _ entries => .object (membersOf moment entries)
  | tables elements => .list (objectsOf moment elements)

/-- The data of the items of a list. -/
def valuesOf (moment : String → Value) : List Item → List Value
  | [] => []
  | i :: rest => toValue moment i :: valuesOf moment rest

/-- The data of the entries of a table, in the order of their keys. -/
def membersOf (moment : String → Value) : List (String × Item) → List (String × Value)
  | [] => []
  | (k, i) :: rest => Entries.insert k (toValue moment i) (membersOf moment rest)

/-- The data of a list of tables. -/
def objectsOf (moment : String → Value) : List (List (String × Item)) → List Value
  | [] => []
  | entries :: rest => .object (membersOf moment entries) :: objectsOf moment rest

end

mutual

/-- Whether all whole numbers of an item fit into a width. -/
def within (w : Width) : Item → Bool
  | integer i => w.holds i
  | list items => itemsWithin w items
  | table _ entries => entriesWithin w entries
  | tables elements => tablesWithin w elements
  | _ => true

/-- Whether all whole numbers of some items fit into a width. -/
def itemsWithin (w : Width) : List Item → Bool
  | [] => true
  | i :: rest => within w i && itemsWithin w rest

/-- Whether all whole numbers of some entries fit into a width. -/
def entriesWithin (w : Width) : List (String × Item) → Bool
  | [] => true
  | (_, i) :: rest => within w i && entriesWithin w rest

/-- Whether all whole numbers of some tables fit into a width. -/
def tablesWithin (w : Width) : List (List (String × Item)) → Bool
  | [] => true
  | entries :: rest => entriesWithin w entries && tablesWithin w rest

end

end Item

end ServiceBus.Toml
