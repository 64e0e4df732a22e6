import ServiceBus.Config.Document
import ServiceBus.Config.Layer
import ServiceBus.Config.Surroundings

/-
ServiceBus.Config.Loading — configurations from files and the environment.

A configuration is the settings of a file with those of the environment laid
over them. The file is the one asked for, or else the first of `usualFiles`
that there is; without any, the environment stands alone. What files and
variables there are is given as `Surroundings`, so loading is a function.
-/
namespace ServiceBus

namespace BusConfig

/-- Where a configuration is looked for if none is asked for. -/
def usualFiles : List String :=
  ["config/mediation.toml", "mediation.toml", "/etc/mediation/config.toml"]

/-- The layer of a file's text, which may begin with a mark of its own in front of
that of the document; dates and times are settings in normal form. -/
def layer? (s : String) : Option Config.Layer := do
  let root ← Toml.Document.read? (String.ofList (Toml.Document.dropMark s.toList))
  if Toml.Item.entriesWithin Width.int64 root then
    return Toml.Item.membersOf Value.text root
  else none

/-- The layer of a file that is there. A folder gives way to the document beside
it. -/
def fileLayer (s : Surroundings) (path : String) : Except ConfigProblem Config.Layer :=
  match (s.textOf? path).bind layer? with
  | some layer => .ok layer
  | none => .error .unreadable

/-- The layers of the file to load: one, or none if there is no file and none
was asked for. -/
def fileLayers (s : Surroundings) : Option String → Except ConfigProblem (List Config.Layer)
  | some path =>
    if s.file path = .missing then .error (.noFile path)
    else do return [← fileLayer s path]
  | none =>
    match usualFiles.find? fun path => s.file path ≠ .missing with
    | some path => do return [← fileLayer s path]
    | none => .ok []

/-- Loads a configuration and checks it. -/
def load (s : Surroundings) (path : Option String) : Except ConfigProblem BusConfig := do
  let layers := (← fileLayers s path) ++ [Config.Layer.ofVariables s.environment]
  let c ← (read .settings (Config.Layer.join layers)).mapError ConfigProblem.unfit
  c.checked

end BusConfig

end ServiceBus
