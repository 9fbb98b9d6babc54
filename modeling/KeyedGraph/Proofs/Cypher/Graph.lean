import KeyedGraph.Bolt
import KeyedGraph.Proofs.Cypher.Syntax

/-!
# Graphs and what commands do to them

A graph keeps the nodes of each label in the order of their creation. A command works on the
nodes of its label: its pattern binds some of them or a new one, its clauses unbind, change or
delete what is bound, and its projection returns what is bound in the end. A command that fails
leaves the graph as it was. The server of a graph runs whatever command the text of a query
stands for, with the values of the query's parameters.
-/

namespace KeyedGraph.Cypher

open Bolt (Value Row)

/-- The nodes of each label, and whether the key of a label's node has to be unique among
them. -/
structure Graph where
  nodes : String → List FieldSet
  uniqueKeys : Bool

/-- The graph with other nodes under one label. -/
def Graph.set (g : Graph) (label : String) (list : List FieldSet) : Graph :=
  { g with nodes := fun l => if l = label then list else g.nodes l }

/-- A node while a command runs. -/
structure Cell where
  node : FieldSet
  bound : Bool := false
  created : Bool := false
  deleted : Bool := false

/-- The values of a query's parameters. -/
abbrev Params := List (String × Param)

/-! ### Parameters -/

/-- A parameter that has to be a text. -/
def Params.text? (params : Params) (name : String) : Option String :=
  match params.lookup name with
  | some (.text s) => some s
  | _ => none

/-- A parameter that has to be an integer. -/
def Params.integer? (params : Params) (name : String) : Option Nat :=
  match params.lookup name with
  | some (.integer n) => some n
  | _ => none

/-- A parameter that has to be a map of texts. -/
def Params.fields? (params : Params) (name : String) : Option FieldSet :=
  match params.lookup name with
  | some (.fields values) => some values
  | _ => none

/-! ### Patterns and clauses -/

/-- The name that a pattern gives to its nodes. -/
def Opening.name : Opening → String
  | .matchAll name _ => name
  | .matchProperty name _ _ _ => name
  | .create name _ => name

/-- The label of a pattern. -/
def Opening.label : Opening → String
  | .matchAll _ label => label
  | .matchProperty _ label _ _ => label
  | .create _ label => label

/-- Binds the nodes that a pattern matches, or the one that it creates. A property that a node
does not have is equal to no value. -/
def Opening.cells (params : Params) (nodes : List FieldSet) : Opening → Option (List Cell)
  | .matchAll _ _ => some (nodes.map fun node => { node, bound := true })
  | .matchProperty _ _ property parameter =>
    (params.text? parameter).map fun value =>
      nodes.map fun node => { node, bound := node[property]? = some value }
  | .create _ _ =>
    some (nodes.map (fun node => { node }) ++ [{ node := ∅, bound := true, created := true }])

/-- The name of the nodes that a clause works on. -/
def Clause.name : Clause → String
  | .whereAtLeast name _ _ => name
  | .set name _ => name
  | .detachDelete name => name

/-- What a clause does to the nodes that are bound. -/
def Clause.apply (params : Params) (cells : List Cell) : Clause → Option (List Cell)
  | .whereAtLeast _ property parameter =>
    (params.text? parameter).map fun value =>
      cells.map fun c => { c with bound := c.bound && c.node[property]?.any (value ≤ ·) }
  | .set _ parameter =>
    (params.fields? parameter).map fun values =>
      cells.map fun c => if c.bound then { c with node := values } else c
  | .detachDelete _ =>
    some (cells.map fun c => if c.bound then { c with deleted := true } else c)

/-- Runs clauses one after the other; each has to be about the nodes of the pattern. -/
def runClauses (name : String) (params : Params) : List Clause → List Cell → Option (List Cell)
  | [], cells => some cells
  | clause :: rest, cells =>
    if clause.name = name then (clause.apply params cells).bind (runClauses name params rest)
    else none

/-! ### Projections -/

/-- Whether one node comes before another by a property, or with it; a node that does not have
the property comes last. -/
def propertyLe (property : String) (a b : FieldSet) : Bool :=
  match a[property]?, b[property]? with
  | some s, some t => s ≤ t
  | _, none => true
  | none, some _ => false

/-- A node as a value: its properties are texts. -/
def nodeValue (node : FieldSet) : Value :=
  .node (node.toList.map fun (name, s) => (name, .text s))

/-- How many rows there may be. -/
def Bound.value? (params : Params) : Bound → Option Nat
  | .number n => some n
  | .parameter name => params.integer? name

/-- Cuts rows off behind a bound. -/
def Projection.cut (p : Projection) (params : Params) (rows : List Row) : Option (List Row) :=
  match p.limit with
  | none => some rows
  | some bound => (bound.value? params).map rows.take

/-- The nodes in the order of a projection, which has to be by a property of theirs. -/
def Projection.sort (p : Projection) (name : String) (nodes : List FieldSet) :
    Option (List FieldSet) :=
  match p.order with
  | none => some nodes
  | some (name', property) =>
    if name' = name then some (nodes.mergeSort (propertyLe property)) else none

/-- The rows of a projection. Counting gives one row. -/
def Projection.rows (p : Projection) (name : String) (params : Params) (cells : List Cell) :
    Option (List Row) :=
  let bound := cells.filter Cell.bound
  match p.item with
  | .node name' =>
    if name' = name then
      (p.sort name (bound.map Cell.node)).bind fun nodes =>
        p.cut params (nodes.map fun node => [(name', nodeValue node)])
    else none
  | .count counted column =>
    if counted.all (· = name) then p.cut params [[(column, .integer bound.length)]] else none

/-! ### Commands -/

/-- Whether a node was created with the key of another. -/
def breaksUniqueness (cells : List Cell) : Bool :=
  cells.any fun c =>
    c.created && cells.any fun d =>
      !d.created && !d.deleted && (nodeKey? d.node).isSome && nodeKey? d.node = nodeKey? c.node

/-- The nodes that a command leaves. -/
def remaining (cells : List Cell) : List FieldSet :=
  (cells.filter fun c => !c.deleted).map Cell.node

/-- Runs a command: its rows and the graph behind it, unless it fails. -/
def Command.run (params : Params) (g : Graph) : Command → Option (List Row × Graph)
  | .number n => some ([[(toString n, .integer n)]], g)
  | .on opening clauses projection => do
    let cells ← opening.cells params (g.nodes opening.label)
    let cells ← runClauses opening.name params clauses cells
    let rows ← match projection with
      | some p => p.rows opening.name params cells
      | none => some []
    if g.uniqueKeys && breaksUniqueness cells then none
    else some (rows, g.set opening.label (remaining cells))

/-! ### The server -/

/-- Runs the command that a text stands for. -/
def execute (text : String) (params : Params) (g : Graph) : Option (List Row × Graph) :=
  (parse text).bind (Command.run params g)

/-- What is said of a query that fails. -/
def refusal : String := "the query failed"

/-- The server of a graph. It is told the text of a query and the values of its parameters, and
answers with all rows. -/
def server : Bolt.Server Graph :=
  { fetch := fun _ q g =>
      match execute q.text q.params g with
      | some (rows, g) => (.ok { rows }, g)
      | none => (.error refusal, g)
    run := fun _ q g =>
      match execute q.text q.params g with
      | some (_, g) => (.ok (), g)
      | none => (.error refusal, g) }

end KeyedGraph.Cypher
