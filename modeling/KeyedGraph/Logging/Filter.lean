import KeyedGraph.Event

/-!
# Filters of a log

A filter decides which emissions stand in a log. It may look at all that an emission shows: the
record, and the spans that were open around it. How a text describes a filter, and which texts
do, is settled by the library that reads it.
-/

namespace KeyedGraph

/-- A stretch of a run that records may be emitted in. -/
structure Span where
  name : String
  target : String
  level : LogLevel
  fields : List (String × FieldValue) := []
deriving DecidableEq, Repr

/-- A record that is emitted, and the spans that are open then, the outermost first. -/
structure Emission where
  record : LogRecord
  spans : List Span := []
deriving DecidableEq, Repr

/-- A filter: which emissions pass, and the text that shows it. -/
structure Filter where
  text : String
  passes : Emission → Bool

end KeyedGraph
