import KeyedGraph.Config
import KeyedGraph.Event
import KeyedGraph.FileSystem
import KeyedGraph.Logging.Line

/-!
# Where a configuration comes from

A configuration is read from a named file or from the default place. The default place never
fails: a file there that cannot be read is reported and left out as a whole. The overrides of the
environment are on top in every case.
-/

namespace KeyedGraph

open Text (Environment unlessBlank)

/-- What a process finds when it starts: the variables of its environment, the files and how to
work on them, the directory of a user's configuration files, if there is one, how configuration
documents are read, which reports on what is none, and what reads filters and writes the log. -/
structure Host (φ : Type) where
  env : Environment
  files : φ
  system : FileSystem φ
  configDir : Option String
  readDocument : String → Except String ConfigFile
  library : LogLibrary

namespace Host

variable {φ : Type}

/-- The default place of the configuration file. -/
def configPath? (host : Host φ) : Option String :=
  match unlessBlank (host.env "GRAPHKV_CONFIG_PATH") with
  | some path => some path
  | none => host.configDir.map fun dir => joinPath (joinPath dir "graphkv") "config.toml"

/-- Reads the configuration of a named file. -/
def loadFile (host : Host φ) (path : String) : Except Error Config :=
  match host.system.readText host.files path with
  | .ok text => Config.ofText host.readDocument host.env text
  | .error cause => .error (.operationFailed "read_config_file" (.fileAt path cause))

/-- The report on a configuration file that is left out. -/
def unreadableFile (path : String) (e : Error) : Event :=
  .log {
    level := .warn
    target := "graphkv::config"
    message := "Ignoring unreadable config file"
    fields := [("path", .message path), ("error", .message e.message)] }

/-- The configuration of the file in the default place, if it is there and can be read. -/
def loadPresent (host : Host φ) : Option Config × List Event :=
  match host.configPath? with
  | none => (none, [])
  | some path =>
    if host.system.pathExists host.files path then
      match host.loadFile path with
      | .ok config => (some config, [])
      | .error e => (none, [unreadableFile path e])
    else (none, [])

/-- Reads the configuration of the default place, with the overrides of the environment. -/
def loadDefault (host : Host φ) : Config × List Event :=
  let (config, events) := host.loadPresent
  ((config.getD {}).withEnvironment host.env, events)

/-- Reads the configuration of a named file, or else of the default place, with the overrides of
the environment and the properties on top. -/
def loadConfig (host : Host φ) (path : Option String) (properties : Properties) :
    Except Error Config × List Event :=
  match path with
  | some path =>
    match host.loadFile path with
    | .ok config => ((config.withEnvironment host.env).withProperties properties, [])
    | .error e => (.error e, [])
  | none =>
    let (config, events) := host.loadDefault
    (config.withProperties properties, events)

end Host

/-! ### Directories of a user -/

/-- The home directory: the variable if it is set and not empty, else the account's. -/
def homeDir? (env : Environment) (accountHome : Option String) : Option String :=
  match env "HOME" with
  | some dir => if dir.isEmpty then accountHome else some dir
  | none => accountHome

/-- The directory of a user's configuration files: the variable if it is an absolute path, else
the usual one below the home directory. -/
def userConfigDir? (env : Environment) (accountHome : Option String) : Option String := do
  let home ← homeDir? env accountHome
  match env "XDG_CONFIG_HOME" with
  | some dir => if isAbsolutePath dir then some dir else some (joinPath home ".config")
  | none => some (joinPath home ".config")

end KeyedGraph
