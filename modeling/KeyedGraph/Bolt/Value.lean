import KeyedGraph.Error
import KeyedGraph.Query

/-!
# Values of a server's rows

A server answers a query with rows of values. A stored node is read from a row if its column
holds a node all of whose properties are texts, and a count if its column holds an integer.
-/

namespace KeyedGraph.Bolt

/-- A value in a row. -/
inductive Value
  | null
  | truth (b : Bool)
  | integer (n : Int)
  | float (x : Float)
  | text (s : String)
  | list (elements : List Value)
  | map (entries : List (String × Value))
  | node (properties : List (String × Value))
deriving Inhabited

/-- A row: its values by their columns. -/
abbrev Row := List (String × Value)

/-- The value of a column; of two columns with one name the later counts. -/
def column? (row : Row) (name : String) : Option Value :=
  row.reverse.lookup name

/-- The rows that answer a query, and how they end: in full, or with a failure behind the last
row that came. -/
structure Stream where
  rows : List Row := []
  failure : Option String := none

/-- All rows of a stream, if it does not fail. -/
def Stream.all (s : Stream) : Except FailureCause (List Row) :=
  match s.failure with
  | some message => .error (.server message)
  | none => .ok s.rows

/-- The text properties of a node, if each is a text. -/
def textProperties : List (String × Value) → Except FailureCause (List (String × String))
  | [] => .ok []
  | (name, .text s) :: rest =>
    match textProperties rest with
    | .ok properties => .ok ((name, s) :: properties)
    | .error cause => .error cause
  | (name, _) :: _ => .error (.propertyNotText name)

/-- The node of a row. -/
def rowNode (row : Row) : Except FailureCause FieldSet :=
  match column? row nodeColumn with
  | some (.node properties) => (textProperties properties).map FieldSet.ofPairs
  | _ => .error (.columnNotNode nodeColumn)

/-- The nodes of rows, if every row has one. -/
def rowNodes : List Row → Except FailureCause (List FieldSet)
  | [] => .ok []
  | row :: rest =>
    match rowNode row with
    | .error cause => .error cause
    | .ok node => (rowNodes rest).map (node :: ·)

/-- The count in a column of a row; a negative one counts as zero. -/
def rowCount (column : String) (row : Row) : Except FailureCause Nat :=
  match column? row column with
  | some (.integer n) => .ok n.toNat
  | _ => .error (.columnNotInteger column)

/-! ### Answers from streams -/

/-- The first node of a stream, if there is one. -/
def Stream.first (s : Stream) : Except FailureCause (Option FieldSet) :=
  match s.all with
  | .error cause => .error cause
  | .ok [] => .ok none
  | .ok (row :: _) => (rowNode row).map some

/-- The nodes of a stream. -/
def Stream.nodes (s : Stream) : Except FailureCause (List FieldSet) :=
  match s.all with
  | .error cause => .error cause
  | .ok rows => rowNodes rows

/-- The count that a stream starts with; without a row it is zero. -/
def Stream.count (column : String) (s : Stream) : Except FailureCause Nat :=
  match s.all with
  | .error cause => .error cause
  | .ok [] => .ok 0
  | .ok (row :: _) => rowCount column row

end KeyedGraph.Bolt
