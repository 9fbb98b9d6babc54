import KeyedGraph.Proofs.Cypher.Graph
import KeyedGraph.Proofs.Cypher.Statements
import KeyedGraph.Proofs.Store.Nodes

/-!
# What the queries of the store do

Each query of the store, run on a graph, does to the nodes of its label what a store in memory
does to them, and its rows hold the nodes or the count that the store reads from them.
-/

namespace KeyedGraph.Cypher

open Bolt

/-! ### Rows that hold nodes -/

/-- The row of a node. -/
def nodeRow (node : FieldSet) : Row :=
  [(nodeColumn, nodeValue node)]

lemma ofPairs_toList (node : FieldSet) : FieldSet.ofPairs node.toList = node := by
  refine Std.ExtTreeMap.ext_getElem? fun name => ?_
  cases h : node[name]? with
  | some s =>
    exact Std.ExtTreeMap.getElem?_insertMany_list_of_mem Std.ReflCmp.compare_self
      Std.ExtTreeMap.distinct_keys_toList (Std.ExtTreeMap.mem_toList_iff_getElem?_eq_some.mpr h)
  | none =>
    refine (Std.ExtTreeMap.getElem?_insertMany_list_of_contains_eq_false ?_).trans (by simp)
    rw [List.contains_eq_mem, decide_eq_false_iff_not]
    intro hm
    obtain ⟨⟨name', s⟩, hs, rfl⟩ := List.mem_map.mp hm
    rw [Std.ExtTreeMap.mem_toList_iff_getElem?_eq_some.mp hs] at h
    cases h

lemma textProperties_texts (properties : List (String × String)) :
    textProperties (properties.map fun (name, s) => (name, .text s)) = .ok properties := by
  induction properties with
  | nil => rfl
  | cons property rest ih => rw [List.map_cons, textProperties, ih]

/-- The node of a row comes back as it was. -/
lemma rowNode_nodeRow (node : FieldSet) : rowNode (nodeRow node) = .ok node := by
  have hc : column? (nodeRow node) nodeColumn = some (nodeValue node) := by
    simp [column?, nodeRow]
  simp only [rowNode, hc, nodeValue, textProperties_texts]
  exact congrArg Except.ok (ofPairs_toList node)

lemma rowNodes_map_nodeRow (nodes : List FieldSet) :
    rowNodes (nodes.map nodeRow) = .ok nodes := by
  induction nodes with
  | nil => rfl
  | cons node nodes ih =>
    rw [List.map_cons, rowNodes, rowNode_nodeRow, ih]
    rfl

lemma first_rows (nodes : List FieldSet) :
    Stream.first { rows := nodes.map nodeRow } = .ok nodes.head? := by
  cases nodes with
  | nil => rfl
  | cons node nodes =>
    simp only [Stream.first, Stream.all, List.map_cons, rowNode_nodeRow]
    rfl

lemma nodes_rows (nodes : List FieldSet) :
    Stream.nodes { rows := nodes.map nodeRow } = .ok nodes :=
  rowNodes_map_nodeRow nodes

lemma count_row (column : String) (n : Nat) :
    Stream.count column { rows := [[(column, .integer n)]] } = .ok n := by
  simp [Stream.count, Stream.all, rowCount, column?]

/-! ### Commands on cells -/

/-- The nodes of cells that are bound. -/
def boundNodes (cells : List Cell) : List FieldSet :=
  (cells.filter Cell.bound).map Cell.node

section Cells

variable (f : FieldSet → Cell) (nodes : List FieldSet)

lemma boundNodes_map :
    boundNodes (nodes.map f) =
      (nodes.filter fun node => (f node).bound).map fun node => (f node).node := by
  rw [boundNodes, List.filter_map, List.map_map]
  rfl

lemma remaining_map :
    remaining (nodes.map f) =
      (nodes.filter fun node => !(f node).deleted).map fun node => (f node).node := by
  rw [remaining, List.filter_map, List.map_map]
  rfl

variable {f} in
lemma remaining_map_of_not_deleted (h : ∀ node, (f node).deleted = false) :
    remaining (nodes.map f) = nodes.map fun node => (f node).node := by
  rw [remaining_map]
  congr 1
  exact List.filter_eq_self.mpr fun node _ => by rw [h]; rfl

variable {f} in
/-- Where nothing is created, nothing clashes. -/
lemma breaksUniqueness_map (h : ∀ node, (f node).created = false) :
    breaksUniqueness (nodes.map f) = false := by
  rw [breaksUniqueness, List.any_map, List.any_eq_false]
  intro node _
  simp [h]

end Cells

lemma set_self (g : Graph) (label : String) : g.set label (g.nodes label) = g := by
  obtain ⟨nodes, uniqueKeys⟩ := g
  simp only [Graph.set, Graph.mk.injEq, and_true]
  funext l
  split
  · rename_i h
    rw [h]
  · rfl

/-! ### What the queries of the store do -/

lemma execute_query (q : Query) (g : Graph) :
    execute q.text q.params g = (command q.statement).run q.params g := by
  rw [execute, Query.text, parse_text]
  rfl

section Commands

variable (opening : Opening) {params : Params} {g : Graph} {clauses : List Clause}
  {cells cells' : List Cell} (ho : opening.cells params (g.nodes opening.label) = some cells)
  (hc : runClauses opening.name params clauses cells = some cells')
include ho hc

/-- A command that creates nothing and returns rows leaves what remains of its cells. -/
lemma run_returning {p : Projection} {rows : List Row}
    (hr : p.rows opening.name params cells' = some rows) (hu : breaksUniqueness cells' = false) :
    (Command.on opening clauses (some p)).run params g =
      some (rows, g.set opening.label (remaining cells')) := by
  simp [Command.run, ho, hc, hr, hu]

/-- A command that returns nothing leaves what remains of its cells, unless keys clash. -/
lemma run_silent :
    (Command.on opening clauses none).run params g =
      if g.uniqueKeys && breaksUniqueness cells' then none
      else some ([], g.set opening.label (remaining cells')) := by
  simp [Command.run, ho, hc]

end Commands

/-- A node that is bound if it has the key. -/
def keyCell (key : String) (node : FieldSet) : Cell :=
  { node, bound := hasKey key node }

lemma cells_matchProperty (params : Params) {key : String} (hp : params.text? "key" = some key)
    (label : String) (nodes : List FieldSet) :
    (Opening.matchProperty "n" label "_key" "key").cells params nodes =
      some (nodes.map (keyCell key)) := by
  simp only [Opening.cells, hp, Option.map_some]
  congr 2
  funext node
  rw [keyCell, hasKey, beq_eq_decide]
  rfl

/-- A node with new properties, if it has the key. -/
def updatedCell (key : String) (values node : FieldSet) : Cell :=
  { node := if hasKey key node then values else node, bound := hasKey key node }

/-- A node that is deleted if it has the key. -/
def deletedCell (key : String) (node : FieldSet) : Cell :=
  { node, bound := hasKey key node, deleted := hasKey key node }

/-- A node that is bound if its key is at or behind a start key. -/
def reachedCell (start : String) (node : FieldSet) : Cell :=
  { node, bound := reaches start node }

lemma runClauses_set (params : Params) {values : FieldSet}
    (hp : params.fields? "values" = some values) (key : String) (nodes : List FieldSet) :
    runClauses "n" params [.set "n" "values"] (nodes.map (keyCell key)) =
      some (nodes.map (updatedCell key values)) := by
  simp only [runClauses, Clause.name, if_true, Clause.apply, hp, Option.map_some,
    Option.bind_some, List.map_map]
  congr 2
  funext node
  by_cases hk : hasKey key node = true <;> simp [keyCell, updatedCell, hk]

lemma runClauses_delete (params : Params) (key : String) (nodes : List FieldSet) :
    runClauses "n" params [.detachDelete "n"] (nodes.map (keyCell key)) =
      some (nodes.map (deletedCell key)) := by
  simp only [runClauses, Clause.name, if_true, Clause.apply, Option.bind_some, List.map_map]
  congr 2
  funext node
  by_cases hk : hasKey key node = true <;> simp [keyCell, deletedCell, hk]

lemma runClauses_where (params : Params) {start : String}
    (hp : params.text? "start_key" = some start) (nodes : List FieldSet) :
    runClauses "n" params [.whereAtLeast "n" "_key" "start_key"]
        (nodes.map fun node => { node, bound := true }) =
      some (nodes.map (reachedCell start)) := by
  simp only [runClauses, Clause.name, if_true, Clause.apply, hp, Option.map_some,
    Option.bind_some, List.map_map]
  congr 2
  funext node
  have hr : reaches start node = (nodeKey? node).any (start ≤ ·) := by
    rw [reaches]
    cases nodeKey? node <;> rfl
  rw [reachedCell, hr]
  rfl

lemma rows_node (params : Params) (cells : List Cell) (bound : Bound) :
    Projection.rows { item := .node "n", limit := some bound } "n" params cells =
      (bound.value? params).map ((boundNodes cells).map nodeRow).take := by
  simp [Projection.rows, Projection.sort, Projection.cut, boundNodes, nodeRow, nodeColumn,
    Function.comp_def]

lemma rows_count (counted : Option String) (h : counted.all (· = "n") = true) (column : String)
    (params : Params) (cells : List Cell) :
    Projection.rows { item := .count counted column } "n" params cells =
      some [[(column, .integer (boundNodes cells).length)]] := by
  simp [Projection.rows, Projection.cut, boundNodes, h]

section Queries

variable (g : Graph) (label : Label) (key : String)

lemma execute_read :
    execute (Query.read label key).text (Query.read label key).params g =
      some ((((g.nodes label.name).filter (hasKey key)).take 1).map nodeRow, g) := by
  let cells := (g.nodes label.name).map (keyCell key)
  have hb : boundNodes cells = (g.nodes label.name).filter (hasKey key) := by
    simp [cells, boundNodes_map, keyCell]
  have hr : remaining cells = g.nodes label.name :=
    (remaining_map_of_not_deleted _ fun _ => rfl).trans (List.map_id _)
  have hu : breaksUniqueness cells = false := breaksUniqueness_map _ fun _ => rfl
  have ho := cells_matchProperty [("key", .text key)] rfl label.name (g.nodes label.name)
  have hrows := rows_node [("key", .text key)] cells (.number 1)
  rw [execute_query]
  refine (run_returning (.matchProperty "n" label.name "_key" "key") ho rfl hrows hu).trans ?_
  rw [hb, hr]
  simp [Opening.label, set_self, List.map_take]

lemma execute_update (values : FieldSet) :
    execute (Query.update label key values).text (Query.update label key values).params g =
      some ([[(matchedColumn, .integer (countKey key (g.nodes label.name)))]],
        g.set label.name (replaceKey key values (g.nodes label.name))) := by
  let params : Params := [("key", .text key), ("values", .fields (nodeProperties key values))]
  let cells := (g.nodes label.name).map (updatedCell key (nodeProperties key values))
  have hb : (boundNodes cells).length = countKey key (g.nodes label.name) := by
    simp [cells, boundNodes_map, updatedCell, countKey, List.countP_eq_length_filter]
  have hr : remaining cells = replaceKey key values (g.nodes label.name) :=
    remaining_map_of_not_deleted _ fun _ => rfl
  have hu : breaksUniqueness cells = false := breaksUniqueness_map _ fun _ => rfl
  have ho := cells_matchProperty params rfl label.name (g.nodes label.name)
  have hrows := rows_count (some "n") rfl "matched" params cells
  have hc := runClauses_set params rfl key (g.nodes label.name)
  rw [execute_query]
  refine (run_returning (.matchProperty "n" label.name "_key" "key") ho hc hrows hu).trans ?_
  rw [hb, hr]
  rfl

lemma execute_delete :
    execute (Query.delete label key).text (Query.delete label key).params g =
      some ([[(deletedColumn, .integer (countKey key (g.nodes label.name)))]],
        g.set label.name (removeKey key (g.nodes label.name))) := by
  let cells := (g.nodes label.name).map (deletedCell key)
  have hb : (boundNodes cells).length = countKey key (g.nodes label.name) := by
    simp [cells, boundNodes_map, deletedCell, countKey, List.countP_eq_length_filter]
  have hr : remaining cells = removeKey key (g.nodes label.name) := by
    simp [cells, remaining_map, deletedCell, removeKey]
  have hu : breaksUniqueness cells = false := breaksUniqueness_map _ fun _ => rfl
  have ho := cells_matchProperty [("key", .text key)] rfl label.name (g.nodes label.name)
  have hrows := rows_count none rfl "deleted" [("key", .text key)] cells
  have hc := runClauses_delete [("key", .text key)] key (g.nodes label.name)
  rw [execute_query]
  refine (run_returning (.matchProperty "n" label.name "_key" "key") ho hc hrows hu).trans ?_
  rw [hb, hr]
  rfl

/-- Nodes that have the property are in one order by it, whether a node without it comes first or
last. -/
lemma mergeSort_propertyLe (start : String) (nodes : List FieldSet) :
    (nodes.filter (reaches start)).mergeSort (propertyLe "_key") =
      (nodes.filter (reaches start)).mergeSort keyLe := by
  have hk : ∀ a ∈ nodes.filter (reaches start), ∀ b ∈ nodes.filter (reaches start),
      propertyLe "_key" a b = keyLe a b := by
    intro a ha b hb
    obtain ⟨k, hk⟩ := exists_key_of_reaches (List.mem_filter.mp ha).2
    obtain ⟨l, hl⟩ := exists_key_of_reaches (List.mem_filter.mp hb).2
    have hk' : a["_key"]? = some k := hk
    have hl' : b["_key"]? = some l := hl
    simp only [propertyLe, keyLe, hk, hl, hk', hl']
  simpa using List.map_mergeSort (f := id) hk

lemma execute_scan (start : String) (limit : Nat) :
    execute (Query.scan label start limit).text (Query.scan label start limit).params g =
      some ((scanList start (min limit maxInteger) (g.nodes label.name)).map nodeRow, g) := by
  let params : Params := [("start_key", .text start), ("limit", .integer (min limit maxInteger))]
  let cells := (g.nodes label.name).map (reachedCell start)
  have hb : boundNodes cells = (g.nodes label.name).filter (reaches start) := by
    simp [cells, boundNodes_map, reachedCell]
  have hr : remaining cells = g.nodes label.name :=
    (remaining_map_of_not_deleted _ fun _ => rfl).trans (List.map_id _)
  have hu : breaksUniqueness cells = false := breaksUniqueness_map _ fun _ => rfl
  have hc := runClauses_where params rfl (g.nodes label.name)
  have hrows : Projection.rows
      { item := .node "n", order := some ("n", "_key"), limit := some (.parameter "limit") } "n"
      params cells =
        some ((((boundNodes cells).mergeSort (propertyLe "_key")).map nodeRow).take
          (min limit maxInteger)) := rfl
  rw [execute_query]
  refine (run_returning (.matchAll "n" label.name) rfl hc hrows hu).trans ?_
  rw [hb, hr, mergeSort_propertyLe]
  simp [Opening.label, set_self, List.map_take, scanList]

/-- A node is created at the end, unless the key has to be unique and is taken. -/
lemma execute_insert (values : FieldSet) :
    execute (Query.insert label key values).text (Query.insert label key values).params g =
      if g.uniqueKeys && (g.nodes label.name).any (hasKey key) then none
      else some ([], g.set label.name (g.nodes label.name ++ [nodeProperties key values])) := by
  let params : Params := [("values", .fields (nodeProperties key values))]
  let cells := (g.nodes label.name).map (fun node => ({ node } : Cell)) ++
    [{ node := nodeProperties key values, bound := true, created := true }]
  have hc : runClauses "n" params [.set "n" "values"] ((g.nodes label.name).map
      (fun node => ({ node } : Cell)) ++ [{ node := ∅, bound := true, created := true }]) =
        some cells := by
    simp [runClauses, Clause.name, Clause.apply, Params.fields?, params, cells]
  have hr : remaining cells = g.nodes label.name ++ [nodeProperties key values] := by
    simp [remaining, cells, List.filter_map, Function.comp_def]
  have hu : breaksUniqueness cells = (g.nodes label.name).any (hasKey key) := by
    have hk : (fun node => (nodeKey? node).isSome && decide (nodeKey? node = some key)) =
        hasKey key := by
      funext node
      rw [hasKey]
      cases nodeKey? node <;> simp [beq_eq_decide]
    have hn : ((g.nodes label.name).any fun _ => false) = false := by
      rw [List.any_eq_false]
      intro _ _
      exact Bool.false_ne_true
    simp [breaksUniqueness, cells, List.any_map, Function.comp_def, hk, hn]
  rw [execute_query]
  refine (run_silent (.create "n" label.name) rfl hc).trans ?_
  rw [hu, hr]
  rfl

end Queries

end KeyedGraph.Cypher
