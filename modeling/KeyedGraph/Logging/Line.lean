import KeyedGraph.Logging.Filter

/-!
# Lines of a log

An emission that passes becomes a line of the log in the log's layout. The bytes that a line is
written with are up to the library that writes it: they may hold the time, the thread and the
spans.
-/

namespace KeyedGraph

/-- How log lines are written. -/
inductive LogFormat
  | pretty
  | json
deriving DecidableEq, Repr

/-- How the lines of a log are laid out. Each tells the target and the name of the thread. -/
structure Layout where
  format : LogFormat
  threadIds : Bool
  plain : Bool
deriving DecidableEq, Repr

/-- A line of a log. -/
structure LogLine where
  layout : Layout
  emission : Emission
deriving DecidableEq, Repr

/-- What reads filters and writes lines for a process. -/
structure LogLibrary where
  /-- Reads a filter, if the text describes one. -/
  readFilter : String → Option Filter
  /-- Reads a filter and leaves out what describes none. -/
  readFilterLeniently : String → Filter
  /-- The bytes of the line that follows on a number of others. -/
  form : Nat → LogLine → ByteArray

end KeyedGraph
