import Std.Data.ExtTreeMap

/-!
# Records

A record is a set of named text fields. A stored node carries its record's fields and, under the
reserved name `_key`, the key that the record is addressed by.
-/

namespace KeyedGraph

/-- Named text fields, kept in ascending order of their names. -/
abbrev FieldSet := Std.ExtTreeMap String String

/-- The reserved field that holds the key of a stored node. -/
def keyField : String := "_key"

/-- Binds the pairs from left to right, so that of two pairs with one name the later wins. -/
def FieldSet.ofPairs (pairs : List (String × String)) : FieldSet :=
  Std.ExtTreeMap.insertMany ∅ pairs

/-- The properties of the node that stores a record: its fields, with the key in its field. -/
def nodeProperties (key : String) (values : FieldSet) : FieldSet :=
  values.insert keyField key

/-- Which fields of a node are asked for: all of the record's own, or those that are named. -/
abbrev Selection := Option (List String)

/-- A node whose entries are being taken out: those that it still has, and those that were
taken. -/
structure Extraction where
  remaining : FieldSet
  taken : FieldSet

/-- Takes the entry of a field out of the node, if it is still there. -/
def Extraction.take (extraction : Extraction) (name : String) : Extraction :=
  match extraction.remaining[name]? with
  | some value =>
    { remaining := extraction.remaining.erase name
      taken := extraction.taken.insert name value }
  | none => extraction

/-- The fields of a node that are asked for. Named ones are taken out of the node one after
another, in the order in which they are named. -/
def projectFields (node : FieldSet) : Selection → FieldSet
  | none => node.erase keyField
  | some wanted => (wanted.foldl Extraction.take { remaining := node, taken := ∅ }).taken

/-- Adds fields to those that are there; for a name in both, the added one wins. -/
def FieldSet.extend (fields added : FieldSet) : FieldSet :=
  fields.insertMany added.toList

/-- The key that a stored node carries. -/
def nodeKey? (node : FieldSet) : Option String :=
  node[keyField]?

/-- Whether a stored node carries this key. -/
def hasKey (key : String) (node : FieldSet) : Bool :=
  nodeKey? node == some key

/-- Of the pairs with one name, the last is found. -/
theorem FieldSet.getElem?_ofPairs (pairs : List (String × String)) (name : String) :
    (ofPairs pairs)[name]? = pairs.reverse.lookup name := by
  rw [ofPairs, Std.ExtTreeMap.getElem?_insertMany_list, List.lookup_eq_findSome?,
    List.findSomeRev?_eq_findSome?_reverse, Std.ExtTreeMap.getElem?_empty, Option.or_none]
  congr 1
  funext ⟨name', s⟩
  by_cases h : name' = name
  · simp [h]
  · simp [h, Ne.symm h]

@[simp] theorem nodeKey?_nodeProperties (key : String) (values : FieldSet) :
    nodeKey? (nodeProperties key values) = some key := by
  simp [nodeKey?, nodeProperties]

theorem getElem?_nodeProperties (key name : String) (values : FieldSet) :
    (nodeProperties key values)[name]? =
      if name = keyField then some key else values[name]? := by
  rw [nodeProperties, Std.ExtTreeMap.getElem?_insert]
  by_cases h : name = keyField
  · simp [h]
  · simp [h, Ne.symm h]

theorem getElem?_projectFields_none (node : FieldSet) (name : String) :
    (projectFields node none)[name]? = if name = keyField then none else node[name]? := by
  rw [projectFields, Std.ExtTreeMap.getElem?_erase]
  by_cases h : name = keyField
  · simp [h]
  · simp [h, Ne.symm h]

end KeyedGraph
