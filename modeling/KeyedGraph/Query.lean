import KeyedGraph.Label
import KeyedGraph.Record
import KeyedGraph.Status

/-!
# Queries

A query is a statement about the nodes of one label, together with the values of its parameters.
The statement's text holds nothing that a user supplies but the label: keys, bounds and property
maps are bound as parameters.
-/

namespace KeyedGraph

/-- The column that holds the node in the rows of reads and scans. -/
def nodeColumn : String := "n"

/-- The column that holds how many nodes an update matched. -/
def matchedColumn : String := "matched"

/-- The column that holds how many nodes a deletion removed. -/
def deletedColumn : String := "deleted"

/-! ### Statements -/

/-- A statement: the probe of the connection, or an operation on the nodes of a label. -/
inductive Statement
  | probe
  | on (operation : Operation) (label : Label)
deriving DecidableEq

/-- The pattern that matches every node of a label. -/
def labelPattern (label : Label) : String :=
  "(n:" ++ label.quoted ++ ")"

/-- The pattern that matches the nodes of a label whose key is the parameter `key`. -/
def keyPattern (label : Label) : String :=
  "(n:" ++ label.quoted ++ " \x7b_key: $key\x7d)"

/-- The text of a statement. -/
def Statement.text : Statement → String
  | .probe => "RETURN 1"
  | .on .read label => "MATCH " ++ keyPattern label ++ " RETURN n LIMIT 1"
  | .on .scan label =>
    "MATCH " ++ labelPattern label ++
      " WHERE n._key >= $start_key RETURN n ORDER BY n._key LIMIT $limit"
  | .on .update label =>
    "MATCH " ++ keyPattern label ++ " SET n = $values RETURN count(n) AS matched"
  | .on .insert label => "CREATE " ++ labelPattern label ++ " SET n = $values"
  | .on .delete label =>
    "MATCH " ++ keyPattern label ++ " DETACH DELETE n RETURN count(*) AS deleted"

/-! ### Parameters -/

/-- The value of a parameter. -/
inductive Param
  | text (s : String)
  | integer (n : Nat)
  | fields (values : FieldSet)

/-- The largest integer that a parameter can hold. -/
def maxInteger : Nat := Nat.pow 2 63 - 1

/-- A statement with the values of its parameters, in the order in which they are bound. -/
structure Query where
  statement : Statement
  params : List (String × Param) := []

namespace Query

/-- The text of a query. -/
def text (q : Query) : String :=
  q.statement.text

/-- The value of a parameter, by its name. -/
def get? (q : Query) (name : String) : Option Param :=
  q.params.lookup name

/-! ### The queries of the store -/

/-- Asks whether the server answers. -/
def probe : Query :=
  { statement := .probe }

/-- Asks for one node by its key. -/
def read (label : Label) (key : String) : Query :=
  { statement := .on .read label
    params := [("key", .text key)] }

/-- Asks for at most `limit` nodes from `start` on, in the order of their keys. A limit that no
parameter can hold is lowered to the largest that one can. -/
def scan (label : Label) (start : String) (limit : Nat) : Query :=
  { statement := .on .scan label
    params := [("start_key", .text start), ("limit", .integer (min limit maxInteger))] }

/-- Replaces the properties of the nodes with a key. As the new properties replace all of the old
ones, the key is written back with them. -/
def update (label : Label) (key : String) (values : FieldSet) : Query :=
  { statement := .on .update label
    params := [("key", .text key), ("values", .fields (nodeProperties key values))] }

/-- Creates a node. -/
def insert (label : Label) (key : String) (values : FieldSet) : Query :=
  { statement := .on .insert label
    params := [("values", .fields (nodeProperties key values))] }

/-- Deletes the nodes with a key. -/
def delete (label : Label) (key : String) : Query :=
  { statement := .on .delete label
    params := [("key", .text key)] }

end Query

end KeyedGraph
