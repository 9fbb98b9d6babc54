import KeyedGraph.Status

/-!
# Events

What the library lets an observer see: log records with named fields, and metric samples. A step
returns its events in the order in which they happen.
-/

namespace KeyedGraph

/-- The severity of a log record, most severe first. -/
inductive LogLevel
  | error
  | warn
  | info
  | debug
  | trace
deriving DecidableEq, Repr

/-- The name of a severity in logs. -/
def LogLevel.name : LogLevel → String
  | .error => "ERROR"
  | .warn => "WARN"
  | .info => "INFO"
  | .debug => "DEBUG"
  | .trace => "TRACE"

/-- How verbose a severity is. -/
def LogLevel.rank : LogLevel → Nat
  | .error => 1
  | .warn => 2
  | .info => 3
  | .debug => 4
  | .trace => 5

/-- The value of a log record's field. A message shows as it is and a text between quotes. -/
inductive FieldValue
  | message (content : String)
  | text (content : String)
  | number (n : Nat)
deriving DecidableEq, Repr

/-- The content of a field, without regard to how it is shown. -/
def FieldValue.content : FieldValue → String
  | .message content => content
  | .text content => content
  | .number n => toString n

/-- A log record. -/
structure LogRecord where
  level : LogLevel
  target : String
  message : String
  fields : List (String × FieldValue) := []
deriving DecidableEq, Repr

/-- Something that an observer sees. -/
inductive Event
  | log (record : LogRecord)
  | operationCounted (operation : Operation) (status : Status)
  | operationTimed (operation : Operation)
  | activeClients (count : Nat)
deriving DecidableEq, Repr

/-- The counter of completed operations, by operation and status. -/
def operationsMetric : String := "graphkv_operations_total"

/-- The latency of operations. -/
def durationMetric : String := "graphkv_operation_duration_seconds"

/-- The gauge of clients that share the connection. -/
def activeClientsMetric : String := "graphkv_active_clients"

/-- The samples that end every operation. -/
def operationEvents (operation : Operation) (status : Status) : List Event :=
  [.operationCounted operation status, .operationTimed operation]

/-- The log records among the events. -/
def logRecords (events : List Event) : List LogRecord :=
  events.filterMap fun
    | .log record => some record
    | _ => none

end KeyedGraph
