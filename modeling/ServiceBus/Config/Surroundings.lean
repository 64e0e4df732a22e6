import ServiceBus.Dict
import ServiceBus.Text.Blank

/-
ServiceBus.Config.Surroundings — the files and variables around a program.

Everything a program reads is given as a value, so what it does with it is a
function. `Surroundings.ofFiles` makes the surroundings of a list of files: a
path is followed name by name, and every folder on the way must be there.
-/
namespace ServiceBus

/-- What stands at a path. -/
inductive FileState where
  | missing
  /-- Something that is no text, such as a folder. -/
  | unreadable
  | text (contents : String)
deriving Repr, DecidableEq, Inhabited

/-- The files and variables around a program. -/
structure Surroundings where
  file : String → FileState
  environment : List (String × String)

/-! ## Places -/

/-- Where a path leads. -/
inductive Place where
  /-- A folder that the current one lies in. -/
  | above
  /-- A place by the names on the way there from the current folder. -/
  | below (names : List String)
deriving Repr, DecidableEq, Inhabited

namespace Place

/-- The place of a name in a folder. Of what lies above the current folder only
the folders are known. -/
def enter? (folder : Place) (name : String) : Option Place :=
  match folder, name with
  | folder, "" | folder, "." => some folder
  | .above, ".." | .below [], ".." => some .above
  | .below names, ".." => some (.below names.dropLast)
  | .above, _ => none
  | .below names, name => some (.below (names ++ [name]))

/-- The folder that a path starts from. -/
def start (path : String) : Place := if path.startsWith "/" then .above else .below []

/-- The place that the names of a path alone lead to. -/
def named? (path : String) : Option Place := (path.splitOn "/").foldlM enter? (start path)

end Place

/-! ## Documents beside folders -/

/-- Whether a name says that it is a document: its last point stands behind its
first character and in front of `toml`. -/
def isDocumentName (name : String) : Bool :=
  match Text.before? ".toml".toList name.toList with
  | some stem => !stem.isEmpty
  | none => false

/-- The path of the document that has the name of a folder, if the path of the
folder ends with a name that says nothing of the kind itself. -/
def documentBeside? (folder : String) : Option String :=
  match (folder.splitOn "/").reverse.dropWhile fun name => name = "" || name = "." with
  | [] => none
  | name :: before =>
    if name = ".." || isDocumentName name then none
    else some ("/".intercalate (before.reverse ++ [name ++ ".toml"]))

namespace Surroundings

/-- The text of a file, or of the document beside a folder. -/
def textOf? (s : Surroundings) (path : String) : Option String :=
  match s.file path with
  | .text contents => some contents
  | .missing => none
  | .unreadable => (documentBeside? path).bind fun beside =>
    match s.file beside with
    | .text contents => some contents
    | _ => none

/-! ## Surroundings of given files -/

/-- Files by their places. -/
def placed (files : Dict String) : List (Place × String) :=
  files.toList.filterMap fun (path, contents) => (Place.named? path).map fun place => (place, contents)

/-- Whether a place is a folder. -/
def isFolder (files : List (Place × String)) : Place → Bool
  | .above => true
  | .below names => names.isEmpty || files.any fun
    | (.below file, _) => names.isPrefixOf file && names != file
    | (.above, _) => false

/-- What stands at a path, if there are the given files. -/
def fileOf (files : List (Place × String)) (path : String) : FileState :=
  if path = "" then .missing
  else
    let place? := (path.splitOn "/").foldlM
      (fun folder name => if isFolder files folder then folder.enter? name else none)
      (Place.start path)
    match place? with
    | none => .missing
    | some place =>
      match files.find? fun file => file.1 = place with
      | some (_, contents) => .text contents
      | none => if isFolder files place then .unreadable else .missing

/-- The surroundings with the given files in the current folder. -/
def ofFiles (files : Dict String) (environment : List (String × String)) : Surroundings :=
  ⟨fileOf (placed files), environment⟩

end Surroundings

end ServiceBus
