import ServiceBus.CommandLine

/-
ServiceBus.Main — the program: reads the files and variables that a request
needs, carries the request out, and prints the outcome.
-/
namespace ServiceBus.Program

/-- What stands at a path of the file system. Nothing does at one that goes on behind a
file. -/
def stateOf (path : String) : IO FileState := do
  try
    return .text (← IO.FS.readFile path)
  catch
    | .noFileOrDirectory .. | .inappropriateType (some _) .. => return .missing
    | _ => return .unreadable

/-- The name and the value of a variable. -/
def variableOf (s : String) : Option (String × String) :=
  (Text.splitFirst '=' s.toList).map fun (name, value) => (String.ofList name, String.ofList value)

/-- The variables of the environment, where the system lists them. -/
def environment : IO (List (String × String)) := do
  match ← stateOf "/proc/self/environ" with
  | .text contents =>
    return (Text.pieces (fun c => c.toNat = 0) contents.toList).filterMap
      fun cs => variableOf (String.ofList cs)
  | _ => return []

/-- The surroundings as far as the given paths tell. -/
def surroundings (paths : List String) : IO Surroundings := do
  let states ← paths.mapM fun path => do return (path, ← stateOf path)
  return ⟨fun path => (Entries.get? path states).getD .missing, ← environment⟩

/-- Reads the arguments, carries the request out and prints the outcome. -/
def execute (arguments : List String) : IO UInt32 := do
  let request := CommandLine.read arguments
  let outcome := CommandLine.run (← surroundings (CommandLine.files request)) request
  (← IO.getStdout).putStr outcome.output
  (← IO.getStderr).putStr outcome.errors
  return outcome.exit.toUInt32

end ServiceBus.Program

/-- The program. -/
def main (arguments : List String) : IO UInt32 := ServiceBus.Program.execute arguments
