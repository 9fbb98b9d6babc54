import KeyedGraph.Proofs.Cypher.Queries
import KeyedGraph.Proofs.Cypher.Texts
import KeyedGraph.Proofs.Text.ByteOrder
import Mathlib.Algebra.Group.Int.Defs

/-!
# What the parameters of a query carry

Keys and bounds are bound as they are, but for a limit that is larger than any integer of a
query. A record is bound with its key in the reserved field, whatever its fields say about that
one. So two queries of one operation on one table are the same exactly if the user's data differ
in nothing that the operation stores or looks for, and an update writes the key back that it
looks for.
-/

namespace KeyedGraph

/-! ### Bindings -/

/-- What an operation binds. -/
inductive UserData.Binds (data : UserData) : Operation → String → Param → Prop
  | key {operation : Operation} (ho : operation ∈ [.read, .update, .delete]) :
      Binds data operation "key" (.text data.key)
  | start : Binds data .scan "start_key" (.text data.start)
  | limit : Binds data .scan "limit" (.integer (min data.limit (2 ^ 63 - 1)))
  | values {operation : Operation} (ho : operation ∈ [.update, .insert]) {values : FieldSet}
      (hv : ∀ name : String,
        values[name]? = if name = keyField then some data.key else data.values[name]?) :
      Binds data operation "values" (.fields values)

/-- Two records have the same in every field but the reserved one. -/
def FieldSet.SameButKey (values values' : FieldSet) : Prop :=
  ∀ name : String, name ≠ keyField → values[name]? = values'[name]?

/-- An operation binds the same for both users. -/
def UserData.Agrees (data data' : UserData) : Operation → Prop
  | .read => data.key = data'.key
  | .scan =>
    data.start = data'.start ∧ min data.limit (2 ^ 63 - 1) = min data'.limit (2 ^ 63 - 1)
  | .update => data.key = data'.key ∧ data.values.SameButKey data'.values
  | .insert => data.key = data'.key ∧ data.values.SameButKey data'.values
  | .delete => data.key = data'.key

/-! ### Records as parameters -/

/-- The node of a record is the one field set that holds the key and the record's other
fields. -/
lemma eq_nodeProperties_iff {key : String} {values node : FieldSet} :
    node = nodeProperties key values ↔
      ∀ name : String, node[name]? = if name = keyField then some key else values[name]? := by
  constructor
  · rintro rfl name
    exact getElem?_nodeProperties key name values
  · intro h
    refine Std.ExtTreeMap.ext_getElem? fun name => ?_
    rw [h, getElem?_nodeProperties]

/-- Nodes tell the records that they are made from, but for the field of the key. -/
lemma nodeProperties_eq_iff {key key' : String} {values values' : FieldSet} :
    nodeProperties key values = nodeProperties key' values' ↔
      key = key' ∧ values.SameButKey values' := by
  rw [eq_nodeProperties_iff]
  simp only [getElem?_nodeProperties]
  constructor
  · intro h
    refine ⟨by simpa using h keyField, fun name hne => ?_⟩
    simpa [hne] using h name
  · rintro ⟨rfl, hs⟩ name
    by_cases hname : name = keyField
    · rw [if_pos hname, if_pos hname]
    · rw [if_neg hname, if_neg hname, hs name hname]

/-- Fields stand in the ascending order of their names, each name once. -/
lemma pairwise_keys (values : FieldSet) :
    values.keys.Pairwise fun name name' => Text.compareBytes name name' = .lt := by
  rw [Text.compareBytes_eq_compare]
  exact Std.ExtTreeMap.ordered_keys

namespace Query

variable {operation : Operation} {label : Label} {data data' : UserData} {name : String}
  {value : Param}

/-! ### Looking parameters up -/

/-- If each name is bound once, what is looked up is what is bound. -/
lemma get?_eq_some_iff {q : Query} (h : q.paramNames.Nodup) :
    q.get? name = some value ↔ (name, value) ∈ q.params := by
  obtain ⟨statement, params⟩ := q
  change (params.map Prod.fst).Nodup at h
  change params.lookup name = some value ↔ (name, value) ∈ params
  induction params with
  | nil => simp
  | cons p params ih =>
    obtain ⟨name', value'⟩ := p
    rw [List.map_cons, List.nodup_cons] at h
    rw [List.lookup_cons, List.mem_cons, Prod.mk.injEq]
    by_cases hname : name = name'
    · subst hname
      have hnot : (name, value) ∉ params :=
        fun hm => h.1 (List.mem_map.mpr ⟨(name, value), hm, rfl⟩)
      simp [hnot, eq_comm]
    · have hne : (name == name') = false := by simpa using hname
      simp [hne, hname, ih h.2]

/-- What a query has among its parameters is what its operation binds. -/
lemma mem_params_of :
    (name, value) ∈ (Query.of operation label data).params ↔
      data.Binds operation name value := by
  constructor
  · intro h
    cases operation with
    | read | delete =>
      obtain ⟨rfl, rfl⟩ : name = "key" ∧ value = .text data.key := by
        simpa [Query.of, read, delete] using h
      exact .key (by simp)
    | scan =>
      obtain ⟨rfl, rfl⟩ | ⟨rfl, rfl⟩ : name = "start_key" ∧ value = .text data.start ∨
          name = "limit" ∧ value = .integer (min data.limit maxInteger) := by
        simpa [Query.of, scan] using h
      · exact .start
      · exact .limit
    | update =>
      obtain ⟨rfl, rfl⟩ | ⟨rfl, rfl⟩ : name = "key" ∧ value = .text data.key ∨
          name = "values" ∧ value = .fields (nodeProperties data.key data.values) := by
        simpa [Query.of, update] using h
      · exact .key (by simp)
      · exact .values (by simp) (getElem?_nodeProperties data.key · data.values)
    | insert =>
      obtain ⟨rfl, rfl⟩ : name = "values" ∧
          value = .fields (nodeProperties data.key data.values) := by
        simpa [Query.of, insert] using h
      exact .values (by simp) (getElem?_nodeProperties data.key · data.values)
  · intro h
    cases h with
    | key ho =>
      obtain rfl | rfl | rfl :
          operation = .read ∨ operation = .update ∨ operation = .delete := by
        simpa using ho
      all_goals simp [Query.of, read, update, delete]
    | start => simp [Query.of, scan]
    | limit => simp [Query.of, scan, maxInteger]
    | values ho hv =>
      rw [eq_nodeProperties_iff.mpr hv]
      obtain rfl | rfl : operation = .update ∨ operation = .insert := by simpa using ho
      all_goals simp [Query.of, update, insert]

/-- Only a scan has a limit. -/
lemma limit_of_get? {n : Nat}
    (h : (Query.of operation label data).get? "limit" = some (.integer n)) :
    n = min data.limit (2 ^ 63 - 1) := by
  cases operation with
  | scan => exact (Param.integer.inj (Option.some.inj h)).symm
  | read | update | insert | delete =>
    simp [Query.of, read, update, insert, delete, get?, List.lookup_cons] at h

/-- Queries of one operation on one table are the same exactly if they bind the same. -/
lemma of_eq_iff :
    Query.of operation label data = Query.of operation label data' ↔
      data.Agrees data' operation := by
  have hmax : maxInteger = 2 ^ 63 - 1 := rfl
  cases operation with
  | read | delete => simp [Query.of, read, delete, UserData.Agrees]
  | scan => simp [Query.of, scan, UserData.Agrees, hmax]
  | update =>
    simp only [Query.of, update, UserData.Agrees, Query.mk.injEq, true_and, List.cons.injEq,
      Prod.mk.injEq, Param.text.injEq, Param.fields.injEq, and_true, nodeProperties_eq_iff,
      and_self_left]
  | insert =>
    simp only [Query.of, insert, UserData.Agrees, Query.mk.injEq, true_and, List.cons.injEq,
      Prod.mk.injEq, Param.fields.injEq, and_true, nodeProperties_eq_iff]

end Query

namespace Cypher

/-- An update leaves every node its key, on whatever graph it is run. -/
lemma nodeKeys_execute_update (label : Label) (key : String) (values : FieldSet) (g : Graph) :
    let q := Query.update label key values
    ∃ rows g', execute q.text q.params g = some (rows, g') ∧
      ∀ l, (g'.nodes l).map nodeKey? = (g.nodes l).map nodeKey? := by
  refine ⟨_, _, execute_update g label key values, fun l => ?_⟩
  by_cases hl : l = label.name
  · simp [Graph.set, hl, map_nodeKey?_replaceKey]
  · simp [Graph.set, hl]

end Cypher

/-- The parameters of a query are what its operation binds, each found by its name and nothing
else by any name. A limit is an integer that a query can hold, and does not fall if the user's
rises. Fields stand in the order of their names. An update leaves every node its key. Two queries
of one operation on one table are the same exactly if the operation binds the same for both
users. -/
theorem parameters_carry_user_data (operation : Operation) (label : Label)
    (data data' : UserData) :
    let q := Query.of operation label data
    let q' := Query.of operation label data'
    (∀ name value, (name, value) ∈ q.params ↔ data.Binds operation name value) ∧
    (∀ name value, q.get? name = some value ↔ (name, value) ∈ q.params) ∧
    (∀ n, q.get? "limit" = some (.integer n) → 0 ≤ (n : Int) ∧ (n : Int) ≤ 2 ^ 63 - 1 ∧
      ∀ n', q'.get? "limit" = some (.integer n') → data.limit ≤ data'.limit → n ≤ n') ∧
    (∀ values, q.get? "values" = some (.fields values) →
      values.keys.Pairwise fun name name' => Text.compareBytes name name' = .lt) ∧
    (operation = .update → ∀ g : Cypher.Graph,
      ∃ rows g', Cypher.execute q.text q.params g = some (rows, g') ∧
        ∀ l, (g'.nodes l).map nodeKey? = (g.nodes l).map nodeKey?) ∧
    (q = q' ↔ data.Agrees data' operation) := by
  intro q q'
  have hget (data : UserData) (name : String) (value : Param) :
      (Query.of operation label data).get? name = some value ↔
        (name, value) ∈ (Query.of operation label data).params := by
    refine Query.get?_eq_some_iff ?_
    rw [Query.paramNames_of]
    exact operation.nodup_parameters
  refine ⟨fun name value => Query.mem_params_of, hget data, fun n hn => ?_,
    fun values _ => pairwise_keys values, ?_, Query.of_eq_iff⟩
  · obtain rfl := Query.limit_of_get? hn
    refine ⟨Int.natCast_nonneg _, by omega, fun n' hn' hle => ?_⟩
    obtain rfl := Query.limit_of_get? hn'
    exact min_le_min_right _ hle
  · rintro rfl g
    exact Cypher.nodeKeys_execute_update label data.key data.values g

end KeyedGraph
