import ServiceBus.Config.Check
import ServiceBus.Schema.Dialect

/-
ServiceBus.Config.Logging — how much is logged, and in which form.
-/
namespace ServiceBus

/-- The form of log records. -/
inductive LogFormat where
  | json
  | pretty
  | compact
deriving Repr, DecidableEq, Inhabited

namespace LogFormat

/-- The name of a form. -/
def name : LogFormat → String
  | json => "json"
  | pretty => "pretty"
  | compact => "compact"

/-- Reads a form from its name. -/
def read (d : Schema.Dialect) : Value → Except SchemaError LogFormat :=
  d.variant [("compact", compact), ("json", json), ("pretty", pretty)]

/-- Reads a form from a text in any case. -/
def ofText (s : String) : Except SchemaError LogFormat :=
  match Text.lowerCase s with
  | "json" => .ok json
  | "pretty" => .ok pretty
  | "compact" => .ok compact
  | _ => .error (.refused
      ("Invalid log format: " ++ s ++ ". Valid formats: json, pretty, compact"))

end LogFormat

/-- The logging section of a configuration. -/
structure LogConfig where
  level : String := "info"
  format : LogFormat := .pretty
  location : Bool := false
  threadId : Bool := false
deriving Repr, DecidableEq, Inhabited

namespace LogConfig

/-- Reads the section; every field may be absent. -/
def read (d : Schema.Dialect) : Value → Except SchemaError LogConfig :=
  d.record ["level", "format", "include_location", "include_thread_id"] {}
    fun c k v => match k with
      | "level" => do return { c with level := ← d.text v }
      | "format" => do return { c with format := ← LogFormat.read d v }
      | "include_location" => do return { c with location := ← d.flag v }
      | "include_thread_id" => do return { c with threadId := ← d.flag v }
      | _ => .ok c

/-- The value of the section. -/
def write (c : LogConfig) : Value :=
  .object [("format", .text c.format.name), ("include_location", .bool c.location),
    ("include_thread_id", .bool c.threadId), ("level", .text c.level)]

/-- The level that the first directive of a filter names: what stands behind its
last equals sign. -/
def baseLevel (level : String) : String :=
  let directive := Text.trim (((Text.pieces (· = ',') level.toList).head?).getD [])
  String.ofList (((Text.pieces (· = '=') directive).getLast?).getD [])

/-- Checks the level. -/
def validate (c : LogConfig) : Except ConfigFault Unit :=
  if ["trace", "debug", "info", "warn", "error", "off"].contains
      (Text.lowerCase (baseLevel c.level)) then .ok ()
  else .error (.badLogLevel c.level)

end LogConfig

end ServiceBus
