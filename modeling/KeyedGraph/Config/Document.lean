import KeyedGraph.Config
import KeyedGraph.Toml.Document

/-!
# Configuration documents

A configuration file is a TOML document with two sections, for the connection and for logging.
Keys that the sections do not know are passed over. A section may also be an array of its values
in the order of the fields.
-/

namespace KeyedGraph

open Toml (Value Entries)

/-- A text entry, if it is there. -/
def textEntry (entries : Entries) (key : String) : Option (Option String) :=
  match entries.lookup key with
  | none => some none
  | some (.text s) => some (some s)
  | some _ => none

/-- The size that a value holds. -/
def sizeValue : Value → Option Nat
  | .integer n => if 0 ≤ n && n ≤ Text.maxSize then some n.toNat else none
  | _ => none

/-- A size entry, if it is there. -/
def sizeEntry (entries : Entries) (key : String) : Option (Option Nat) :=
  match entries.lookup key with
  | none => some none
  | some v => (sizeValue v).map some

/-- Whether the entries under other keys than the known ones can be passed over. -/
def othersHeld (known : List String) (entries : Entries) : Bool :=
  Toml.allEntriesHeld (entries.filter fun (key, _) => !known.contains key)

/-- The section on the connection, from a table. -/
def ConnectionSection.ofEntries (entries : Entries) : Option ConnectionSection := do
  let url ← textEntry entries "url"
  let user ← textEntry entries "user"
  let password ← textEntry entries "password"
  let database ← textEntry entries "database"
  let maxConnections ← sizeEntry entries "max_connections"
  let fetchSize ← sizeEntry entries "fetch_size"
  let known := ["url", "user", "password", "database", "max_connections", "fetch_size"]
  if othersHeld known entries then
    some ⟨url, user, password, database, maxConnections, fetchSize⟩
  else none

/-- The section on the connection, from the values of an array. -/
def ConnectionSection.ofItems : List Value → Option ConnectionSection
  | .text url :: .text user :: .text password :: .text database :: maxConnections :: fetchSize ::
      _ => do
    let maxConnections ← sizeValue maxConnections
    let fetchSize ← sizeValue fetchSize
    some ⟨url, user, password, database, maxConnections, fetchSize⟩
  | _ => none

/-- The section on the connection, from its value. A moment counts as a section without
entries. -/
def ConnectionSection.ofValue : Value → Option ConnectionSection
  | .table _ entries => ofEntries entries
  | .array items => ofItems items
  | .tables elements => ofItems elements
  | .moment => some {}
  | _ => none

/-- The section on logging, from a table. -/
def LoggingSettings.ofEntries (entries : Entries) : Option LoggingSettings := do
  let format ← textEntry entries "format"
  let filter ← textEntry entries "filter"
  let file ← textEntry entries "file"
  if othersHeld ["format", "filter", "file"] entries then some ⟨format, filter, file⟩ else none

/-- The section on logging, from the values of an array. -/
def LoggingSettings.ofItems : List Value → Option LoggingSettings
  | .text format :: .text filter :: .text file :: _ => some ⟨format, filter, file⟩
  | _ => none

/-- The section on logging, from its value. A moment counts as a section without entries. -/
def LoggingSettings.ofValue : Value → Option LoggingSettings
  | .table _ entries => ofEntries entries
  | .array items => ofItems items
  | .tables elements => ofItems elements
  | .moment => some {}
  | _ => none

/-- A section, if its key is there. -/
def sectionEntry {α : Type} (ofValue : Value → Option α) (entries : Entries) (key : String) :
    Option (Option α) :=
  match entries.lookup key with
  | none => some none
  | some v => (ofValue v).map some

/-- The sections of a document. -/
def ConfigFile.ofEntries (entries : Entries) : Option ConfigFile := do
  let connection ← sectionEntry ConnectionSection.ofValue entries "neo4j"
  let logging ← sectionEntry LoggingSettings.ofValue entries "logging"
  if othersHeld ["neo4j", "logging"] entries then some ⟨connection, logging⟩ else none

/-- Reads a configuration file's text, or reports that it is no configuration document. -/
def ConfigFile.parse (text : String) : Except String ConfigFile :=
  match (Toml.readDocument text).bind ConfigFile.ofEntries with
  | some file => .ok file
  | none => .error "the text is not a configuration document"

end KeyedGraph
