import KeyedGraph.Error
import KeyedGraph.FileSystem
import KeyedGraph.Logging.Config

/-!
# The log of a process

A process has one log. It is set up at most once: the set-up that first succeeds decides the
layout, the filter and the place for good, and one whose file cannot be opened leaves the process
without a log, so that a later one may succeed.
-/

namespace KeyedGraph

/-- Where the lines of a log go. -/
inductive LogPlace
  | standardError
  | file (name : FileName)
deriving DecidableEq, Repr

/-- A log that is set up. -/
structure Log where
  layout : Layout
  filter : Filter
  place : LogPlace

/-- What a process has of a log: the files, the log if it is set up, and the lines that were
written, each with the place that it went to, the latest last. -/
structure LogState (φ : Type) where
  files : φ
  log : Option Log := none
  written : List (LogPlace × LogLine) := []

/-- The lines of those emissions that pass the filter. -/
def Log.linesOf (log : Log) (emissions : List Emission) : List LogLine :=
  (emissions.filter log.filter.passes).map fun emission => ⟨log.layout, emission⟩

variable {φ : Type}

/-! ### Set-up -/

/-- Opens a log file, making the directories above it that are missing. Directories that were
made stay also when the file cannot be opened. -/
def openLogFile (system : FileSystem φ) (files : φ) (path : String) :
    Except Error FileName × φ :=
  match parentPath? path with
  | none => openFile files
  | some parent =>
    match system.makeDirectories files parent with
    | (.ok (), files) => openFile files
    | (.error cause, files) => (.error (.operationFailed "create_log_dir" (.file cause)), files)
where
  openFile (files : φ) : Except Error FileName × φ :=
    match system.openForAppend files path with
    | (.ok name, files) => (.ok name, files)
    | (.error cause, files) =>
      (.error (.operationFailed "open_log_file" (.fileAt path cause)), files)

namespace LogState

/-- Sets the log up, if it is not yet. -/
def setUp (system : FileSystem φ) (s : LogState φ) (config : LoggingConfig) :
    Except Error Unit × LogState φ :=
  match s.log, config.file with
  | some _, _ => (.error (.operationFailed "logging_init" .alreadyInitialized), s)
  | none, none =>
    (.ok (), { s with log := some ⟨config.layout, config.filter, .standardError⟩ })
  | none, some path =>
    match openLogFile system s.files path with
    | (.error e, files) => (.error e, { s with files })
    | (.ok name, files) =>
      (.ok (), { s with files, log := some ⟨config.layout, config.filter, .file name⟩ })

/-! ### Lines -/

/-- Writes a line to a place. In a file it comes to stand at the end; whether the system took it
is not asked. -/
def put (system : FileSystem φ) (form : Nat → LogLine → ByteArray) (place : LogPlace)
    (s : LogState φ) (line : LogLine) : LogState φ :=
  { s with
    files :=
      match place with
      | .standardError => s.files
      | .file name => (system.append s.files name (form s.written.length line)).2
    written := s.written ++ [(place, line)] }

/-- Writes the emissions that pass to the log, if it is set up. -/
def write (system : FileSystem φ) (form : Nat → LogLine → ByteArray) (s : LogState φ)
    (emissions : List Emission) : LogState φ :=
  match s.log with
  | none => s
  | some log => (log.linesOf emissions).foldl (put system form log.place) s

/-- The lines that went to a place. -/
def linesAt (s : LogState φ) (place : LogPlace) : List LogLine :=
  (s.written.filter fun (p, _) => p = place).map Prod.snd

end LogState

end KeyedGraph
