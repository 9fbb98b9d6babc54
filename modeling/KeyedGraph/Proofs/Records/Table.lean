import KeyedGraph.Proofs.Records.Projection
import KeyedGraph.Proofs.Store.Nodes
import KeyedGraph.Proofs.Text.ByteOrder
import Mathlib.Data.List.Nodup

/-!
# Tables

A table binds keys to records. Where keys are unique, the nodes of a label hold a table: each
binding is stored as one node, and there are no other nodes. The operations of a store in memory
on such nodes are the operations of a finite map.
-/

namespace KeyedGraph

/-- The fields of a record; the reserved one is not among them. -/
structure Record where
  fields : FieldSet
  keyField_notMem : keyField ∉ fields

namespace Record

/-- The record that values make: what they hold in the reserved field is left out. -/
def ofValues (values : FieldSet) : Record :=
  ⟨values.erase keyField, by simp⟩

/-- What a name is bound to among the fields that are asked for: all of the record's own, or
those that are named. Only then does the key stand among them. -/
def find? (record : Record) (key : String) : Selection → String → Option String
  | none, name => record.fields[name]?
  | some wanted, name =>
    if name ∈ wanted then if name = keyField then some key else record.fields[name]? else none

/-- The node that stores a record. -/
def node (record : Record) (key : String) : FieldSet :=
  nodeProperties key record.fields

@[simp] lemma nodeKey?_node (record : Record) (key : String) :
    nodeKey? (record.node key) = some key :=
  nodeKey?_nodeProperties key record.fields

@[simp] lemma node_ofValues (key : String) (values : FieldSet) :
    (ofValues values).node key = nodeProperties key values := by
  refine Std.ExtTreeMap.ext_getElem? fun name => ?_
  rw [node, getElem?_nodeProperties, getElem?_nodeProperties, ofValues,
    Std.ExtTreeMap.getElem?_erase]
  by_cases h : name = keyField
  · simp [h]
  · simp [h, Ne.symm h]

/-- What is asked for of a stored node are the fields of its record. -/
lemma getElem?_projectFields_node (record : Record) (key : String) (selection : Selection)
    (name : String) :
    (projectFields (record.node key) selection)[name]? = record.find? key selection name := by
  cases selection with
  | some wanted => rw [getElem?_projectFields_some, node, getElem?_nodeProperties, find?]
  | none =>
    rw [getElem?_projectFields_none, node, getElem?_nodeProperties, find?]
    by_cases h : name = keyField
    · rw [if_pos h, h]
      exact (Std.ExtTreeMap.getElem?_eq_none record.keyField_notMem).symm
    · rw [if_neg h, if_neg h]

end Record

/-- Records by their keys, in ascending order of the keys' bytes. -/
abbrev Table := Std.ExtTreeMap String Record Text.compareBytes

/-- The first bindings from a start key on. -/
def Table.page (table : Table) (start : String) (count : Nat) : List (String × Record) :=
  (table.toList.filter fun binding => (Text.compareBytes start binding.1).isLE).take count

/-- A node for each binding of the table, and no others. -/
structure Holds (nodes : List FieldSet) (table : Table) : Prop where
  nodup : (nodes.map nodeKey?).Nodup
  mem_iff (node : FieldSet) :
    node ∈ nodes ↔ ∃ (key : String) (record : Record), table[key]? = some record ∧
      node = record.node key

namespace Holds

variable {nodes : List FieldSet} {table : Table} {key : String} {node : FieldSet}

lemma nil : Holds [] ∅ where
  nodup := .nil
  mem_iff node := by simp

/-! ### Looking up -/

/-- The nodes with a key are what the table binds to it. -/
lemma mem_key_iff (h : Holds nodes table) :
    (node ∈ nodes ∧ nodeKey? node = some key) ↔
      ∃ record, table[key]? = some record ∧ node = record.node key := by
  rw [h.mem_iff]
  constructor
  · rintro ⟨⟨key', record, hr, rfl⟩, hk⟩
    obtain rfl : key' = key := by simpa using hk
    exact ⟨record, hr, rfl⟩
  · rintro ⟨record, hr, rfl⟩
    exact ⟨⟨key, record, hr, rfl⟩, by simp⟩

/-- A key is taken if it is bound. -/
lemma exists_key_iff (h : Holds nodes table) :
    (∃ node ∈ nodes, nodeKey? node = some key) ↔ key ∈ table := by
  rw [Std.ExtTreeMap.mem_iff_isSome_getElem?, Option.isSome_iff_exists]
  constructor
  · rintro ⟨node, hn⟩
    obtain ⟨record, hr, -⟩ := h.mem_key_iff.mp hn
    exact ⟨record, hr⟩
  · rintro ⟨record, hr⟩
    exact ⟨record.node key, h.mem_key_iff.mpr ⟨record, hr, rfl⟩⟩

lemma any_hasKey (h : Holds nodes table) : nodes.any (hasKey key) = true ↔ key ∈ table := by
  rw [← h.exists_key_iff]
  simp [hasKey_iff]

lemma findNode_eq (h : Holds nodes table) :
    findNode key nodes = table[key]?.map fun record => record.node key := by
  cases hf : findNode key nodes with
  | none =>
    rw [findNode, List.find?_eq_none] at hf
    have hk : key ∉ table := fun hk => by
      obtain ⟨node, hm, hn⟩ := h.exists_key_iff.mpr hk
      exact hf node hm (hasKey_iff.mpr hn)
    rw [Std.ExtTreeMap.getElem?_eq_none hk, Option.map_none]
  | some node =>
    obtain ⟨record, hr, rfl⟩ := h.mem_key_iff.mp
      ⟨List.mem_of_find?_eq_some hf, hasKey_iff.mp (List.find?_some hf)⟩
    rw [hr, Option.map_some]

/-! ### Changing -/

lemma append (h : Holds nodes table) (hk : key ∉ table) (values : FieldSet) :
    Holds (nodes ++ [nodeProperties key values]) (table.insert key (.ofValues values)) where
  nodup := by
    rw [List.map_append, List.nodup_append]
    refine ⟨h.nodup, by simp, ?_⟩
    intro k hm k' hm' heq
    obtain ⟨node, hn, rfl⟩ := List.mem_map.mp hm
    obtain rfl : k' = some key := by simpa using hm'
    exact hk (h.exists_key_iff.mp ⟨node, hn, heq⟩)
  mem_iff node := by
    simp only [List.mem_append, List.mem_singleton, h.mem_iff, Std.ExtTreeMap.getElem?_insert]
    constructor
    · rintro (⟨key', record, hr, rfl⟩ | rfl)
      · refine ⟨key', record, ?_, rfl⟩
        rw [if_neg, hr]
        rintro hc
        obtain rfl := Std.LawfulEqCmp.eq_of_compare hc
        rw [Std.ExtTreeMap.getElem?_eq_none hk] at hr
        cases hr
      · exact ⟨key, .ofValues values, by simp, by simp⟩
    · rintro ⟨key', record, hr, rfl⟩
      split at hr
      · rename_i hc
        obtain rfl := Std.LawfulEqCmp.eq_of_compare hc
        obtain rfl : Record.ofValues values = record := by simpa using hr
        exact .inr (by simp)
      · exact .inl ⟨key', record, hr, rfl⟩

lemma replaceKey (h : Holds nodes table) (key : String) (values : FieldSet) :
    Holds (replaceKey key values nodes)
      (if key ∈ table then table.insert key (.ofValues values) else table) where
  nodup := by
    rw [map_nodeKey?_replaceKey]
    exact h.nodup
  mem_iff node := by
    rw [mem_replaceKey, h.exists_key_iff, h.mem_iff]
    by_cases hk : key ∈ table
    · simp only [hk, if_true, and_true, Std.ExtTreeMap.getElem?_insert]
      constructor
      · rintro (⟨⟨key', record, hr, rfl⟩, hne⟩ | rfl)
        · refine ⟨key', record, ?_, rfl⟩
          rw [if_neg, hr]
          intro hc
          exact hne (by rw [Record.nodeKey?_node, Std.LawfulEqCmp.eq_of_compare hc])
        · exact ⟨key, .ofValues values, by simp, by simp⟩
      · rintro ⟨key', record, hr, rfl⟩
        split at hr
        · rename_i hc
          obtain rfl := Std.LawfulEqCmp.eq_of_compare hc
          obtain rfl : Record.ofValues values = record := by simpa using hr
          exact .inr (by simp)
        · rename_i hc
          refine .inl ⟨⟨key', record, hr, rfl⟩, ?_⟩
          rw [Record.nodeKey?_node]
          rintro ⟨rfl⟩
          exact hc Std.ReflCmp.compare_self
    · simp only [hk, if_false, and_false, or_false]
      refine ⟨And.left, fun hn => ⟨hn, ?_⟩⟩
      intro hkey
      exact hk (h.exists_key_iff.mp ⟨node, (h.mem_iff node).mpr hn, hkey⟩)

lemma removeKey (h : Holds nodes table) (key : String) :
    Holds (removeKey key nodes) (table.erase key) where
  nodup := h.nodup.sublist (List.filter_sublist.map nodeKey?)
  mem_iff node := by
    simp only [mem_removeKey, h.mem_iff, Std.ExtTreeMap.getElem?_erase]
    constructor
    · rintro ⟨⟨key', record, hr, rfl⟩, hne⟩
      refine ⟨key', record, ?_, rfl⟩
      rw [if_neg, hr]
      intro hc
      exact hne (by rw [Record.nodeKey?_node, Std.LawfulEqCmp.eq_of_compare hc])
    · rintro ⟨key', record, hr, rfl⟩
      split at hr
      · cases hr
      · rename_i hc
        refine ⟨⟨key', record, hr, rfl⟩, ?_⟩
        rw [Record.nodeKey?_node]
        rintro ⟨rfl⟩
        exact hc Std.ReflCmp.compare_self

/-! ### Scanning -/

/-- The nodes are those of the bindings, in some order. -/
lemma perm (h : Holds nodes table) :
    nodes.Perm (table.toList.map fun binding => binding.2.node binding.1) := by
  refine (List.perm_ext_iff_of_nodup h.nodup.of_map ?_).mpr fun node => ?_
  · refine List.Nodup.of_map nodeKey? ?_
    rw [List.map_map, List.nodup_iff_pairwise_ne, List.pairwise_map]
    refine Std.ExtTreeMap.distinct_keys_toList.imp fun {a b} hne heq => hne ?_
    obtain heq : a.1 = b.1 := by simpa using heq
    rw [heq]
    exact Std.ReflCmp.compare_self
  · rw [h.mem_iff]
    simp only [List.mem_map, Prod.exists, Std.ExtTreeMap.mem_toList_iff_getElem?_eq_some]
    exact ⟨fun ⟨key, record, hr, hn⟩ => ⟨key, record, hr, hn.symm⟩,
      fun ⟨key, record, hr, hn⟩ => ⟨key, record, hr, hn.symm⟩⟩

/-- A scan gives the nodes of the first bindings from its start key on. -/
lemma scanList_eq (h : Holds nodes table) (start : String) (count : Nat) :
    scanList start count nodes =
      (table.page start count).map fun binding => binding.2.node binding.1 := by
  have hperm : (nodes.filter (reaches start)).Perm
      ((table.toList.filter fun binding => (Text.compareBytes start binding.1).isLE).map
        fun binding => binding.2.node binding.1) := by
    refine (h.perm.filter _).trans (.of_eq ?_)
    rw [List.filter_map]
    congr 1
    refine List.filter_congr fun binding _ => ?_
    rw [Function.comp_apply, Record.node, reaches_nodeProperties, Text.isLE_compareBytes]
  rw [scanList, Table.page, List.map_take]
  congr 1
  refine ((List.mergeSort_perm _ _).trans hperm).eq_of_pairwise ?_
    (pairwise_ranked start nodes) ?_
  · intro a b ha hb hab hba
    obtain ⟨k, r, hr, rfl⟩ := (h.mem_iff a).mp (List.mem_filter.mp (List.mem_mergeSort.mp ha)).1
    obtain ⟨l, q, hq, rfl⟩ := (h.mem_iff b).mp (List.mem_filter.mp (hperm.mem_iff.mpr hb)).1
    rw [Record.node, Record.node, keyLe_nodeProperties, decide_eq_true_iff] at hab hba
    obtain rfl : k = l := String.le_antisymm hab hba
    obtain rfl : r = q := by simpa [hr] using hq
    rfl
  · rw [List.pairwise_map]
    refine (Std.ExtTreeMap.ordered_keys_toList.filter _).imp fun {a b} hlt => ?_
    rw [Record.node, Record.node, keyLe_nodeProperties, ← Text.isLE_compareBytes, hlt]
    rfl

end Holds

end KeyedGraph
