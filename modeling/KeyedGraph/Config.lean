import KeyedGraph.Settings

/-!
# Configuration

A configuration is built in layers, and the later layer wins field by field: the defaults, a
file, the variables of the environment, and the properties of the workload.
-/

namespace KeyedGraph

open Text (Environment unlessBlank)

/-- Logging settings, as the layers give them. -/
structure LoggingSettings where
  format : Option String := none
  filter : Option String := none
  file : Option String := none
deriving DecidableEq, Repr

/-- A whole configuration. -/
structure Config where
  connection : Settings := {}
  logging : LoggingSettings := {}
deriving DecidableEq, Repr

/-! ### The layer of the file -/

/-- The entries of the file's section on the connection. -/
structure ConnectionSection where
  url : Option String := none
  user : Option String := none
  password : Option String := none
  database : Option String := none
  maxConnections : Option Nat := none
  fetchSize : Option Nat := none
deriving DecidableEq, Repr

/-- The sections of a configuration file. -/
structure ConfigFile where
  connection : Option ConnectionSection := none
  logging : Option LoggingSettings := none
deriving DecidableEq, Repr

/-- The settings that a section gives. References to variables are expanded in the URL and the
credentials; the database's name is taken as it stands. -/
def ConnectionSection.settings (env : Environment) (file : ConnectionSection) : Settings :=
  let base : Settings := {}
  { url := (file.url.map (Text.expand env)).getD base.url
    user := (file.user.map (Text.expand env)).getD base.user
    password := (file.password.map (Text.expand env)).getD base.password
    database := file.database.getD base.database
    maxConnections := file.maxConnections
    fetchSize := file.fetchSize }

/-- The configuration that a file gives on top of the defaults. -/
def ConfigFile.config (env : Environment) (file : ConfigFile) : Config :=
  { connection := (file.connection.map (·.settings env)).getD {}
    logging := file.logging.getD {} }

/-- The configuration that a file's text gives on top of the defaults, if `read` can read it. -/
def Config.ofText (read : String → Except String ConfigFile) (env : Environment)
    (text : String) : Except Error Config :=
  match read text with
  | .ok file => .ok (file.config env)
  | .error report => .error (.operationFailed "parse_config_file" (.malformedDocument report))

/-! ### The layer of the environment -/

/-- The settings with the overrides of the environment. A blank variable overrides nothing,
except that any password that is set counts. -/
def Settings.withEnvironment (s : Settings) (env : Environment) : Settings :=
  { s with
    url := (unlessBlank (env "GRAPHKV_NEO4J_URL")).getD s.url
    user := (unlessBlank (env "GRAPHKV_NEO4J_USER")).getD s.user
    password := (env "GRAPHKV_NEO4J_PASSWORD").getD s.password
    database := (unlessBlank (env "GRAPHKV_NEO4J_DATABASE")).getD s.database }

/-- The logging settings with the overrides of the environment that are not blank. -/
def LoggingSettings.withEnvironment (l : LoggingSettings) (env : Environment) :
    LoggingSettings :=
  { l with
    filter := unlessBlank (env "GRAPHKV_LOG") <|> l.filter
    format := unlessBlank (env "GRAPHKV_LOG_FORMAT") <|> l.format }

/-- The configuration with the overrides of the environment. -/
def Config.withEnvironment (c : Config) (env : Environment) : Config :=
  { connection := c.connection.withEnvironment env
    logging := c.logging.withEnvironment env }

/-! ### The layer of the properties -/

/-- The configuration with the properties of the workload. -/
def Config.withProperties (c : Config) (properties : Properties) : Except Error Config :=
  match c.connection.applyProperties properties with
  | (.ok (), connection) => .ok { c with connection := connection }
  | (.error e, _) => .error e

/-! ### Diagnostics -/

/-- The diagnostic form of an optional text. -/
def describeText (quote : String → String) : Option String → String
  | none => "None"
  | some s => "Some(" ++ quote s ++ ")"

/-- The diagnostic form of logging settings. Paths may have a form of their own. -/
def LoggingSettings.describe (quotePath : String → String) (l : LoggingSettings) : String :=
  "LoggingSettings \x7b format: " ++ describeText Text.quote l.format ++ ", filter: " ++
    describeText Text.quote l.filter ++ ", file: " ++ describeText quotePath l.file ++ " \x7d"

/-- The diagnostic form of a configuration. -/
def Config.describe (quotePath : String → String) (c : Config) : String :=
  "GraphkvConfig \x7b connection: " ++ c.connection.describe ++ ", logging: " ++
    c.logging.describe quotePath ++ " \x7d"

end KeyedGraph
