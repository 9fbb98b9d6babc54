import KeyedGraph.Config
import KeyedGraph.Logging.Line
import KeyedGraph.Text.Blank

/-!
# Logging configuration

How the settings of a process choose the format, the filter and the file of its log.
-/

namespace KeyedGraph

/-- A text with its ASCII capitals in lower case. -/
def asciiLower (s : String) : String :=
  String.ofList (s.toList.map Char.toLower)

/-- Reads the name of a format, in any case and with any blanks around it; every other name is
that of the text format. -/
def LogFormat.parse (s : String) : LogFormat :=
  if asciiLower (Text.trim s) = "json" then .json else .pretty

/-- What a log shows and where it goes: to a file, or else to the standard error. -/
structure LoggingConfig where
  format : LogFormat
  filter : Filter
  file : Option String

/-- The text of the filter of a process that was not told any. To be verbose raises its level. -/
def defaultFilterText (verbose : Bool) : String :=
  if verbose then "graphkv=debug,neo4rs=info" else "graphkv=info,neo4rs=warn"

/-- The filter that the settings ask for, if it can be read. -/
def LoggingSettings.readFilter? (library : LogLibrary) (settings : LoggingSettings)
    (verbose : Bool) : Option Filter :=
  library.readFilter (settings.filter.getD (defaultFilterText verbose))

/-- The logging configuration of the settings. A filter in the environment that can be read comes
before the settings' own; if neither can be read, the default of a process that is not verbose is
taken. -/
def LoggingConfig.ofSettings (library : LogLibrary) (env : Text.Environment)
    (settings : LoggingSettings) (verbose : Bool) : LoggingConfig :=
  { format := (settings.format.map LogFormat.parse).getD .pretty
    filter := ((env "RUST_LOG").bind library.readFilter <|>
      settings.readFilter? library verbose).getD
        (library.readFilterLeniently (defaultFilterText false))
    file := settings.file }

/-- The layout of the lines. Structured lines always tell the identity of the thread, and text
lines do so in a file, where they are plain. -/
def LoggingConfig.layout (config : LoggingConfig) : Layout :=
  match config.file, config.format with
  | some _, .json => { format := .json, threadIds := true, plain := false }
  | some _, .pretty => { format := .pretty, threadIds := true, plain := true }
  | none, .json => { format := .json, threadIds := true, plain := false }
  | none, .pretty => { format := .pretty, threadIds := false, plain := false }

@[simp] theorem LoggingConfig.format_layout (config : LoggingConfig) :
    config.layout.format = config.format := by
  unfold layout
  split
  all_goals
    rename_i h
    exact h.symm

end KeyedGraph
