import ServiceBus.Config.Loading
import ServiceBus.Deployment

/-
ServiceBus.CommandLine — the commands `validate` and `endpoints`.

`CommandLine.read` makes a request of the arguments. `CommandLine.run` carries it
out in given surroundings, and gives what is printed and the exit code: 0 for
success, 1 for a failure, whose causes are printed, and 2 for arguments that
make no request.
-/
namespace ServiceBus.CommandLine

/-- What the program can do. -/
inductive Command where
  | validate
  | endpoints
deriving Repr, DecidableEq, Inhabited

/-- Options that may stand in front of a command and behind it. -/
structure Options where
  config : Option String := none
  logLevel : Option String := none
  logFormat : Option LogFormat := none
deriving Repr, DecidableEq, Inhabited

/-- What the arguments ask for. -/
inductive Request where
  | command (command : Command) (options : Options)
  | help
  | version
deriving Repr, DecidableEq, Inhabited

/-! ## Arguments -/

/-- An option with a value. -/
inductive Switch where
  | config
  | logLevel
  | logFormat
deriving Repr, DecidableEq, Inhabited

/-- The option of a long name. -/
def switchOf? : String → Option Switch
  | "config" => some .config
  | "log-level" => some .logLevel
  | "log-format" => some .logFormat
  | _ => none

/-- The option of a letter. -/
def letterOf? : Char → Option Switch
  | 'c' => some .config
  | 'l' => some .logLevel
  | _ => none

/-- The levels that may be asked for. -/
def levels : List String := ["trace", "debug", "info", "warn", "error"]

/-- The options with a value set; none if it was set before, or is not allowed. -/
def Options.set? (o : Options) (switch : Switch) (value : String) : Option Options :=
  match switch with
  | .config => if o.config.isSome then none else some { o with config := some value }
  | .logLevel =>
    if o.logLevel.isSome || !levels.contains value then none
    else some { o with logLevel := some value }
  | .logFormat =>
    if o.logFormat.isSome then none
    else
      match value with
      | "json" => some { o with logFormat := some .json }
      | "pretty" => some { o with logFormat := some .pretty }
      | "compact" => some { o with logFormat := some .compact }
      | _ => none

/-- Options over which others are laid. -/
def Options.under (o upper : Options) : Options where
  config := upper.config.or o.config
  logLevel := upper.logLevel.or o.logLevel
  logFormat := upper.logFormat.or o.logFormat

/-- What one argument is. -/
inductive Argument where
  /-- An option with its value, or one whose value is the next argument. -/
  | option (switch : Switch) (value : Option String)
  | help
  | version
  /-- Ends the options. -/
  | separator
  | word (s : String)
  | unknown
deriving Repr, DecidableEq, Inhabited

/-- Classifies an argument. -/
def Argument.of (s : String) : Argument :=
  match s.toList with
  | ['-', '-'] => .separator
  | '-' :: '-' :: rest =>
    let (name, value) := match Text.splitFirst '=' rest with
      | some (name, value) => (String.ofList name, some (String.ofList value))
      | none => (String.ofList rest, none)
    match switchOf? name, name, value with
    | some switch, _, value => .option switch value
    | none, "help", none => .help
    | none, "version", none => .version
    | _, _, _ => .unknown
  | '-' :: c :: rest =>
    match letterOf? c, c, rest with
    | some switch, _, [] => .option switch none
    | some switch, _, '=' :: value => .option switch (some (String.ofList value))
    | some switch, _, value => .option switch (some (String.ofList value))
    | none, 'h', _ => .help
    | none, 'V', _ => .version
    | _, _, _ => .unknown
  | _ => .word s

/-- Whether an argument can be the value of an option in front of it. -/
def Argument.isValue (s : String) : Bool :=
  match Argument.of s with
  | .word _ => true
  | _ => false

/-- Reads the arguments behind a command. -/
def readOptions (o : Options) : List String → Option (Options ⊕ Unit)
  | [] => some (.inl o)
  | [s] =>
    match Argument.of s with
    | .option switch (some value) => (o.set? switch value).map .inl
    | .help => some (.inr ())
    | .separator => some (.inl o)
    | _ => none
  | s :: next :: rest =>
    match Argument.of s with
    | .option switch (some value) => (o.set? switch value).bind fun o => readOptions o (next :: rest)
    | .option switch none =>
      if Argument.isValue next then (o.set? switch next).bind fun o => readOptions o rest else none
    | .help => some (.inr ())
    | _ => none

/-- Reads the arguments: options, a command, and options again. An option behind
the command counts more than the same option in front of it. -/
def readArguments (o : Options) : List String → Option Request
  | [] => none
  | [s] =>
    match Argument.of s with
    | .word "validate" => some (.command .validate o)
    | .word "endpoints" => some (.command .endpoints o)
    | .word "help" => some .help
    | .help => some .help
    | .version => some .version
    | _ => none
  | s :: next :: rest =>
    let behind (command : Command) : Option Request :=
      (readOptions {} (next :: rest)).map fun
        | .inl upper => .command command (o.under upper)
        | .inr () => .help
    match Argument.of s with
    | .option switch (some value) =>
      (o.set? switch value).bind fun o => readArguments o (next :: rest)
    | .option switch none =>
      if Argument.isValue next then (o.set? switch next).bind fun o => readArguments o rest
      else none
    | .word "validate" => behind .validate
    | .word "endpoints" => behind .endpoints
    | .word "help" =>
      if rest.isEmpty && ["validate", "endpoints", "help"].contains next then some .help else none
    | .help => some .help
    | .version => some .version
    | _ => none

/-- The request that arguments make, if they make one. -/
def read (arguments : List String) : Option Request := readArguments {} arguments

/-- The files that a request may read: those that it names, and the documents
beside them. -/
def files : Option Request → List String
  | some (.command _ o) =>
    let named := match o.config with
      | some path => [path]
      | none => BusConfig.usualFiles
    named.flatMap fun path => path :: (documentBeside? path).toList
  | _ => []

/-! ## Answers -/

/-- What a run prints, and its exit code. -/
structure Outcome where
  exit : UInt8
  output : String
  errors : String
deriving Repr, DecidableEq, Inhabited

/-- A text whose lines behind the first are indented. -/
def indented (width : Nat) (s : String) : String :=
  ("\n" ++ String.ofList (List.replicate width ' ')).intercalate (s.splitOn "\n")

/-- Causes with their numbers. -/
def numbered (n : Nat) : List String → List String
  | [] => []
  | cause :: rest =>
    let number := String.ofList (Decimal.digits n)
    let padding := String.ofList (List.replicate (5 - number.length) ' ')
    (padding ++ number ++ ": " ++ indented 7 cause) :: numbered (n + 1) rest

/-- What is printed for a failure: its message, and its causes if it has any,
numbered if there are several. -/
def errorText : List String → String
  | [] => ""
  | [message] => "Error: " ++ message ++ "\n"
  | [message, cause] => "Error: " ++ message ++ "\n\nCaused by:\n    " ++ indented 4 cause ++ "\n"
  | message :: causes =>
    "Error: " ++ message ++ "\n\nCaused by:\n" ++ "\n".intercalate (numbered 0 causes) ++ "\n"

/-- The outcome of a failure. -/
def failed (messages : List String) : Outcome := ⟨1, "", errorText messages⟩

/-- A natural number in running text. -/
def count (n : Nat) : String := String.ofList (Decimal.digits n)

/-- The lines on an endpoint. -/
def reportText (r : EndpointReport) : String :=
  let s := r.settings
  r.endpoint.name ++ " [" ++ r.kind ++ "] " ++ r.address?.getD "-" ++ "\n" ++
    (if r.target.name = r.endpoint.name then "" else "  解析到: " ++ r.target.name ++ "\n") ++
    "  挂起: 初始 " ++ count s.initial ++ "ms, 倍数 " ++ Decimal.plainText s.factor ++ ", 上限 " ++
    count s.maximum ++ "ms\n" ++
    "  重试: 挂起前 " ++ count s.retries.toNat ++ " 次, 间隔 " ++ count s.delay ++ "ms\n" ++
    "  状态: " ++ r.target.health.state.name ++ "\n" ++
    "  定义: " ++ r.target.definition.write.compact ++ "\n"

/-- Builds the bus and puts its endpoints into use. -/
def validate (c : BusConfig) : Outcome :=
  match Deployment.build c with
  | .error p => failed p.messages
  | .ok d =>
    match d.init.1 with
    | .error p => failed p.messages
    | .ok () => ⟨0, "配置有效: " ++ count d.endpoints.length ++ " 个端点\n", ""⟩

/-- Builds the bus and lists its endpoints. -/
def endpoints (c : BusConfig) : Outcome :=
  match (do (← Deployment.build c).reports : Except DeploymentProblem (List EndpointReport)) with
  | .error p => failed p.messages
  | .ok [] => ⟨0, "没有声明任何端点\n", ""⟩
  | .ok reports => ⟨0, String.join (reports.map reportText), ""⟩

/-- A configuration with the options for logging in place of its own. -/
def withLogging (o : Options) (c : BusConfig) : BusConfig :=
  { c with logging := { c.logging with
      level := o.logLevel.getD c.logging.level
      format := o.logFormat.getD c.logging.format } }

/-- What stands around a problem of loading. -/
def loadingMessage : Option String → String
  | some path => "加载配置文件失败: " ++ path
  | none => "加载配置失败"

/-- The program's name and version. -/
def versionText : String := "mediation 1.0.0\n"

/-- How the program is used. -/
def usageText : String :=
  "Usage: mediation [OPTIONS] <COMMAND>\n\nCommands:\n  validate\n  endpoints\n\nOptions:\n" ++
    "  -c, --config <FILE>\n  -l, --log-level <LEVEL>\n      --log-format <FORMAT>\n" ++
    "  -h, --help\n  -V, --version\n"

/-- Carries out a request. -/
def run (s : Surroundings) : Option Request → Outcome
  | none => ⟨2, "", usageText⟩
  | some .help => ⟨0, usageText, ""⟩
  | some .version => ⟨0, versionText, ""⟩
  | some (.command command o) =>
    match BusConfig.load s o.config with
    | .error p => failed (loadingMessage o.config :: p.messages)
    | .ok c =>
      match command with
      | .validate => validate (withLogging o c)
      | .endpoints => endpoints (withLogging o c)

end ServiceBus.CommandLine
