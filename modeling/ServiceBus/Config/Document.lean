import ServiceBus.Config.Basic
import ServiceBus.Toml.Document
import ServiceBus.Toml.Printer

/-
ServiceBus.Config.Document — configurations as TOML documents.

`BusConfig.ofDocument` reads a document and checks the configuration;
`BusConfig.document?` writes one, which then reads as the same configuration.
Data under `definition` has a document only if it holds no null.
-/
namespace ServiceBus

/-- Why a configuration cannot be had. -/
inductive ConfigProblem where
  /-- There is no file at the path. -/
  | noFile (path : String)
  /-- The file cannot be read, or is no document. -/
  | unreadable
  /-- The settings do not fit the fields of a configuration. -/
  | unfit (error : SchemaError)
  /-- The text is no document of a configuration. -/
  | noDocument (error : Option SchemaError)
  /-- The configuration has no document. -/
  | unwritable
  | invalid (fault : ConfigFault)

namespace ConfigProblem

/-- The messages of a problem, from the outermost inwards. -/
def messages : ConfigProblem → List String
  | noFile path => ["配置文件不存在: " ++ path]
  | unreadable => ["构建配置失败", "the file is no TOML document"]
  | unfit e => ["反序列化配置失败", e.message]
  | noDocument none => ["解析TOML配置失败", "the text is no TOML document"]
  | noDocument (some e) => ["解析TOML配置失败", e.message]
  | unwritable => ["序列化配置为TOML失败", "null has no form in TOML"]
  | invalid f => [f.message]

end ConfigProblem

namespace BusConfig

/-- A date or time as data. -/
def momentData (s : String) : Value := .object [("$__toml_private_datetime", .text s)]

/-- Reads a document without checking the configuration. -/
def parseDocument (s : String) : Except ConfigProblem BusConfig :=
  match Toml.Document.read? s with
  | none => .error (.noDocument none)
  | some root =>
    if Toml.Item.entriesWithin Width.any128 root then
      (read .document (.object (Toml.Item.membersOf momentData root))).mapError
        fun e => .noDocument (some e)
    else .error (.noDocument none)

/-- Checks a configuration. -/
def checked (c : BusConfig) : Except ConfigProblem BusConfig := do
  c.validate.mapError ConfigProblem.invalid
  return c

/-- The configuration of a document. -/
def ofDocument (s : String) : Except ConfigProblem BusConfig := do (← parseDocument s).checked

/-! ## Writing -/

/-- The entry of a field that may be absent. -/
def optionalEntry (name : String) (item : Option Toml.Item) : Toml.Table :=
  (item.map fun i => (name, i)).toList

/-- A whole number. -/
def integerItem (n : UInt64) : Toml.Item := .integer n.toNat

/-- The table of the logging section. -/
def loggingTable (c : LogConfig) : Toml.Table :=
  [("level", .text c.level), ("format", .text c.format.name),
    ("include_location", .flag c.location), ("include_thread_id", .flag c.threadId)]

/-- The table of the endpoint defaults. -/
def defaultsTable (d : EndpointDefaults) : Toml.Table :=
  [("initial_suspend_ms", integerItem d.initial), ("progression_factor", .real d.factor),
    ("maximum_suspend_ms", integerItem d.maximum),
    ("retries_before_suspension", .integer d.retries.toNat),
    ("retry_delay_ms", integerItem d.delay)] ++
    optionalEntry "timeout_ms" (d.timeout.map integerItem)

/-- The table of the scatter-gather section. -/
def scatterTable (d : ScatterDefaults) : Toml.Table :=
  ("parallel_execution", .flag d.parallel) ::
    optionalEntry "timeout_ms" (d.timeout.map integerItem)

/-- The table of an endpoint; none if its definition holds null. -/
def entryTable? (e : EndpointEntry) : Option Toml.Table := do
  let definition ← match e.definition with
    | some v => do pure [("definition", ← Toml.Item.ofValue? v)]
    | none => pure []
  return [("name", .text e.name), ("kind", .text e.kind.name)] ++
    optionalEntry "uri" (e.uri.map .text) ++ optionalEntry "service" (e.service.map .text) ++
    optionalEntry "port" (e.portName.map .text) ++ optionalEntry "key" (e.key.map .text) ++ definition

/-- The tree of a configuration. -/
def table? (c : BusConfig) : Option Toml.Table := do
  let endpoints ← c.endpoints.mapM entryTable?
  return [("logging", .table .header (loggingTable c.logging)),
    ("dispatch", .table .header
      [("endpoint_defaults", .table .header (defaultsTable c.endpointDefaults))]),
    ("scatter_gather", .table .header (scatterTable c.scatter)),
    ("endpoints", .tables endpoints)]

/-- The document of a configuration. -/
def document (c : BusConfig) : Except ConfigProblem String :=
  match c.table? with
  | some table => .ok (Toml.Document.text table)
  | none => .error .unwritable

end BusConfig

end ServiceBus
