import KeyedGraph.Record
import Mathlib.Data.Finset.Basic
import Mathlib.Data.Finset.Dedup

/-!
# Projection

Fields that are asked for by name are taken out of a node one after another. Whatever was asked
for so far divides the node: the entries of these names were taken, and all others remain. So it
does not matter in which order a set of names is gone through, projections one behind the other
are one projection onto the names that all of them ask for, and the reserved field of a stored
node comes out with the key that it was written with, and only where it is asked for.
-/

namespace KeyedGraph

variable {node : FieldSet}

/-! ### Taking entries out -/

namespace Extraction

variable {extraction : Extraction} {seen : List String}

/-- Nothing remains under a name that was gone through, and what other names have stays. -/
lemma getElem?_remaining_take (extraction : Extraction) (name other : String) :
    (extraction.take name).remaining[other]? =
      if other = name then none else extraction.remaining[other]? := by
  rw [take]
  by_cases ho : other = name
  · subst ho
    cases hv : extraction.remaining[other]? with
    | none => simp [hv]
    | some value => simp
  · cases extraction.remaining[name]? with
    | none => simp [ho]
    | some value => simp [Std.ExtTreeMap.getElem?_erase, ho, Ne.symm ho]

/-- What remained under the name is taken, and what was taken for other names stays. -/
lemma getElem?_taken_take (extraction : Extraction) (name other : String) :
    (extraction.take name).taken[other]? =
      if other = name then extraction.remaining[other]?.or extraction.taken[other]?
      else extraction.taken[other]? := by
  rw [take]
  by_cases ho : other = name
  · subst ho
    cases hv : extraction.remaining[other]? with
    | none => simp
    | some value => simp
  · cases extraction.remaining[name]? with
    | none => simp [ho]
    | some value => simp [Std.ExtTreeMap.getElem?_insert, ho, Ne.symm ho]

/-- The names gone through so far divide a node: their entries were taken, and all others
remain. -/
structure Divides (extraction : Extraction) (node : FieldSet) (seen : List String) : Prop where
  remaining (name : String) :
    extraction.remaining[name]? = if name ∈ seen then none else node[name]?
  taken (name : String) :
    extraction.taken[name]? = if name ∈ seen then node[name]? else none

lemma Divides.start (node : FieldSet) :
    Divides { remaining := node, taken := ∅ } node [] where
  remaining name := by simp
  taken name := by simp

/-- One more name is gone through. -/
lemma Divides.take (h : extraction.Divides node seen) (name : String) :
    (extraction.take name).Divides node (seen ++ [name]) := by
  constructor
  · intro other
    rw [getElem?_remaining_take, h.remaining other]
    by_cases ho : other = name
    · simp [ho]
    · simp [ho]
  · intro other
    rw [getElem?_taken_take]
    by_cases ho : other = name
    · -- Nothing remains under a name that comes again, and what was taken for it stays.
      subst ho
      rw [if_pos rfl, h.remaining other, h.taken other]
      by_cases hs : other ∈ seen
      · simp [hs]
      · simp [hs]
    · rw [if_neg ho, h.taken other]
      simp [ho]

/-- All of some names are gone through. -/
lemma Divides.foldl_take (h : extraction.Divides node seen) (names : List String) :
    (names.foldl Extraction.take extraction).Divides node (seen ++ names) := by
  -- What was gone through grows by the head of the list at each step.
  induction names generalizing extraction seen with
  | nil =>
    rw [List.append_nil]
    exact h
  | cons name names ih =>
    rw [List.append_cons]
    exact ih (h.take name)

end Extraction

/-- What is taken for some names are the entries that the node has under them. -/
lemma getElem?_projectFields_some (node : FieldSet) (wanted : List String) (name : String) :
    (projectFields node (some wanted))[name]? = if name ∈ wanted then node[name]? else none :=
  ((Extraction.Divides.start node).foldl_take wanted).taken name

/-! ### Sets of names -/

/-- A set of names as it is gone through: all of its names, in any order, each at least once. -/
structure Traversal (names : Finset String) where
  order : List String
  mem_order (name : String) : name ∈ order ↔ name ∈ names

/-- Every set can be gone through. -/
instance (names : Finset String) : Nonempty (Traversal names) :=
  ⟨⟨names.toList, fun _ => Finset.mem_toList⟩⟩

/-- The names of the fields that there are. -/
def FieldSet.names (fields : FieldSet) : Finset String :=
  fields.keys.toFinset

lemma FieldSet.mem_names {fields : FieldSet} {name : String} :
    name ∈ fields.names ↔ name ∈ fields := by
  rw [names, List.mem_toFinset, Std.ExtTreeMap.mem_keys]

variable {W V : Finset String}

/-- A projection keeps what the node has under the names of the set, whatever their order. -/
lemma getElem?_projectFields (node : FieldSet) (w : Traversal W) (name : String) :
    (projectFields node (some w.order))[name]? = if name ∈ W then node[name]? else none := by
  simp only [getElem?_projectFields_some, w.mem_order]

/-- Two orders of one set of names take the same entries. -/
lemma projectFields_traversal (node : FieldSet) (w w' : Traversal W) :
    projectFields node (some w.order) = projectFields node (some w'.order) := by
  refine Std.ExtTreeMap.ext_getElem? fun name => ?_
  rw [getElem?_projectFields, getElem?_projectFields]

/-- A projection of a projection is the projection onto the names that both ask for. -/
lemma projectFields_projectFields (node : FieldSet) (w : Traversal W) (v : Traversal V)
    (both : Traversal (W ∩ V)) :
    projectFields (projectFields node (some w.order)) (some v.order) =
      projectFields node (some both.order) := by
  refine Std.ExtTreeMap.ext_getElem? fun name => ?_
  simp only [getElem?_projectFields, Finset.mem_inter]
  by_cases hv : name ∈ V
  · simp [hv]
  · simp [hv]

/-- To ask for a set of names again changes nothing. -/
lemma projectFields_twice (node : FieldSet) (w w' : Traversal W) :
    projectFields (projectFields node (some w.order)) (some w'.order) =
      projectFields node (some w.order) := by
  let both : Traversal (W ∩ W) :=
    ⟨w.order, fun name => by rw [Finset.inter_self, w.mem_order]⟩
  exact projectFields_projectFields node w w' both

/-- It does not matter which of two projections comes first. -/
lemma projectFields_comm (node : FieldSet) (w : Traversal W) (v : Traversal V) :
    projectFields (projectFields node (some w.order)) (some v.order) =
      projectFields (projectFields node (some v.order)) (some w.order) := by
  obtain ⟨both⟩ := (inferInstance : Nonempty (Traversal (W ∩ V)))
  let both' : Traversal (V ∩ W) :=
    ⟨both.order, fun name => (both.mem_order name).trans (by rw [Finset.inter_comm])⟩
  calc projectFields (projectFields node (some w.order)) (some v.order)
      = projectFields node (some both.order) := projectFields_projectFields node w v both
    _ = projectFields (projectFields node (some v.order)) (some w.order) :=
      (projectFields_projectFields node v w both').symm

/-- To ask for all of a record's own fields is to name them all. -/
lemma projectFields_none (own : Traversal (node.names.erase keyField)) :
    projectFields node none = projectFields node (some own.order) := by
  refine Std.ExtTreeMap.ext_getElem? fun name => ?_
  simp only [getElem?_projectFields_none, getElem?_projectFields, Finset.mem_erase,
    FieldSet.mem_names]
  by_cases hk : name = keyField
  · simp [hk]
  · by_cases hn : name ∈ node
    · simp [hk, hn]
    · simp [hk, hn]

/-! ### Stored nodes -/

/-- All of a stored node's own fields are the values that it was written with, but for what these
have in the reserved field. -/
lemma projectFields_nodeProperties_none (key : String) (values : FieldSet) :
    projectFields (nodeProperties key values) none = values.erase keyField := by
  refine Std.ExtTreeMap.ext_getElem? fun name => ?_
  rw [getElem?_projectFields_none, getElem?_nodeProperties, Std.ExtTreeMap.getElem?_erase]
  by_cases hk : name = keyField
  · simp [hk]
  · simp [hk, Ne.symm hk]

/-- Named fields of a stored node are those of the values that it was written with, and the key
if the reserved field is named. -/
lemma projectFields_nodeProperties_some (key : String) (values : FieldSet) (w : Traversal W) :
    projectFields (nodeProperties key values) (some w.order) =
      if keyField ∈ W then (projectFields values (some w.order)).insert keyField key
      else projectFields values (some w.order) := by
  refine Std.ExtTreeMap.ext_getElem? fun name => ?_
  rw [getElem?_projectFields, getElem?_nodeProperties]
  by_cases hw : keyField ∈ W
  · rw [if_pos hw, Std.ExtTreeMap.getElem?_insert, getElem?_projectFields]
    by_cases hk : name = keyField
    · simp [hk, hw]
    · simp [hk, Ne.symm hk]
  · rw [if_neg hw, getElem?_projectFields]
    by_cases hk : name = keyField
    · simp [hk, hw]
    · simp [hk]

/-- Fields that are asked for by name are exactly the entries that the node has under these
names, in whatever order the names are gone through. Projections one behind the other come to one
projection onto the names of both, so that the same one twice is the same as once, and which one
comes first does not matter. To ask for all of a record's own fields is to name all fields of the
node but the reserved one. A node that values were written to gives them back without what they
had in the reserved field, and by name it gives theirs, with the key in the reserved field just
if that one is named. -/
theorem projections_go_by_name (node : FieldSet) (key : String) (values : FieldSet)
    (W V : Finset String) (w w' : Traversal W) (v : Traversal V) (both : Traversal (W ∩ V))
    (own : Traversal (node.names.erase keyField)) :
    (∀ name value, (projectFields node (some w.order))[name]? = some value ↔
      node[name]? = some value ∧ name ∈ W) ∧
    projectFields node (some w.order) = projectFields node (some w'.order) ∧
    projectFields (projectFields node (some w.order)) (some v.order) =
      projectFields node (some both.order) ∧
    projectFields (projectFields node (some w.order)) (some w'.order) =
      projectFields node (some w.order) ∧
    projectFields (projectFields node (some w.order)) (some v.order) =
      projectFields (projectFields node (some v.order)) (some w.order) ∧
    projectFields node none = projectFields node (some own.order) ∧
    projectFields (nodeProperties key values) none = values.erase keyField ∧
    projectFields (nodeProperties key values) (some w.order) =
      if keyField ∈ W then (projectFields values (some w.order)).insert keyField key
      else projectFields values (some w.order) := by
  refine ⟨?_, projectFields_traversal node w w', projectFields_projectFields node w v both,
    projectFields_twice node w w', projectFields_comm node w v, projectFields_none own,
    projectFields_nodeProperties_none key values, projectFields_nodeProperties_some key values w⟩
  · intro name value
    rw [getElem?_projectFields]
    by_cases hw : name ∈ W
    · simp [hw]
    · simp [hw]

end KeyedGraph
