import KeyedGraph.CommandLine.Pair
import KeyedGraph.Text.Numeral

/-!
# Slots of the command line

A slot is a place that arguments can fill: an option, by its short or long name, or an operand,
by its place. A level is what can stand on a command line before or behind the name of a command.
-/

namespace KeyedGraph.CommandLine

/-- A place for arguments. -/
inductive Slot
  | verbose
  | config
  | property
  | help
  | version
  | fields
  | count
  | table
  | key
  | start
  | values
deriving DecidableEq, Repr

/-- How often a slot takes values, or what it asks for instead. -/
inductive SlotKind
  | toggle
  | single
  | repeated
  | help
  | version
deriving DecidableEq, Repr

namespace Slot

/-- The kind of a slot. -/
def kind : Slot → SlotKind
  | .verbose => .toggle
  | .help => .help
  | .version => .version
  | .config | .count | .table | .key | .start => .single
  | .property | .fields | .values => .repeated

/-- The long name of an option. -/
def long? : Slot → Option String
  | .verbose => some "verbose"
  | .config => some "config"
  | .property => some "property"
  | .help => some "help"
  | .version => some "version"
  | .fields => some "fields"
  | .count => some "count"
  | _ => none

/-- The short name of an option. -/
def short? : Slot → Option Char
  | .verbose => some 'v'
  | .config => some 'c'
  | .property => some 'p'
  | .help => some 'h'
  | .version => some 'V'
  | .fields => some 'f'
  | .count => some 'n'
  | _ => none

/-- How messages name a slot. -/
def shown : Slot → String
  | .verbose => "--verbose"
  | .config => "--config <CONFIG>"
  | .property => "--property <PROPERTIES>"
  | .help => "--help"
  | .version => "--version"
  | .fields => "--fields <FIELDS>"
  | .count => "--count <COUNT>"
  | .table => "<TABLE>"
  | .key => "<KEY>"
  | .start => "<START_KEY>"
  | .values => "[VALUES]..."

/-- The values that one argument gives a slot: field names stand between commas. -/
def split (slot : Slot) (value : String) : List String :=
  match slot with
  | .fields => value.splitOn ","
  | _ => [value]

/-- What is wrong with a value of a slot, if anything. -/
def fault? (slot : Slot) (value : String) : Option String :=
  match slot with
  | .property | .values =>
    match parsePair value with
    | .ok _ => none
    | .error e => some e.message
  | .count =>
    match Text.readNumeral value.toList with
    | .ok _ => none
    | .error e => some e.message
  | _ => none

end Slot

/-- What can stand on one level: options, operands in their order, and the names of commands. -/
structure Level where
  options : List Slot
  operands : List Slot := []
  commands : List String := []

/-- The options that stand on every level. -/
def commonOptions : List Slot :=
  [.verbose, .config, .property, .help]

/-- The names of the commands. -/
def commandNames : List String :=
  ["check", "read", "scan", "insert", "update", "delete", "help"]

/-- The level before the command's name. -/
def outerLevel : Level :=
  { options := commonOptions ++ [.version]
    commands := commandNames }

/-- The level behind a command's name. -/
def commandLevel : String → Level
  | "read" => { options := commonOptions ++ [.fields], operands := [.table, .key] }
  | "scan" => { options := commonOptions ++ [.count, .fields], operands := [.table, .start] }
  | "insert" | "update" => { options := commonOptions, operands := [.table, .key, .values] }
  | "delete" => { options := commonOptions, operands := [.table, .key] }
  | _ => { options := commonOptions }

end KeyedGraph.CommandLine
