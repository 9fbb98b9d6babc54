/-!
# Operations and their statuses

The five operations on records and what a client reports about each of them.
-/

namespace KeyedGraph

/-- What a client reports about one operation. -/
inductive Status
  | ok
  | error
  | notFound
  | badRequest
deriving DecidableEq, Repr

/-- The name of a status in results and metrics. -/
def Status.name : Status → String
  | .ok => "OK"
  | .error => "ERROR"
  | .notFound => "NOT_FOUND"
  | .badRequest => "BAD_REQUEST"

/-- Whether the operation was completed. -/
def Status.isOk (s : Status) : Bool :=
  s = .ok

/-- The operations on records. -/
inductive Operation
  | read
  | scan
  | update
  | insert
  | delete
deriving DecidableEq, Repr

/-- The name of an operation in events. -/
def Operation.name : Operation → String
  | .read => "read"
  | .scan => "scan"
  | .update => "update"
  | .insert => "insert"
  | .delete => "delete"

/-- All statuses. -/
def Status.all : List Status :=
  [.ok, .error, .notFound, .badRequest]

/-- All operations. -/
def Operation.all : List Operation :=
  [.read, .scan, .update, .insert, .delete]

theorem Status.name_injective {s t : Status} (h : s.name = t.name) : s = t := by
  revert h
  cases s <;> cases t <;> decide

theorem Operation.name_injective {o p : Operation} (h : o.name = p.name) : o = p := by
  revert h
  cases o <;> cases p <;> decide

end KeyedGraph
