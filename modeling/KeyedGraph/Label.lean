import KeyedGraph.Error
import KeyedGraph.Text.Identifier

/-!
# Labels

A table is stored as the nodes that carry a label of its name. Query languages cannot bind a
label as a parameter, so a label is part of the query's text: only identifiers of at most 64
bytes are labels, and `Label.parse` is the one way to get one from a table name.
-/

namespace KeyedGraph

/-- A table name that is safe to write into a query. -/
structure Label where
  name : String
  isIdentifier_name : Text.isIdentifier name.toList = true
  length_le : name.utf8ByteSize ≤ maxLabelLength
deriving DecidableEq

namespace Label

/-- Reads a table name as a label. -/
def parse (table : String) : Except Error Label :=
  if table.isEmpty then .error (.invalidInput .emptyTable)
  else if hl : maxLabelLength < table.utf8ByteSize then
    .error (.invalidInput (.longTable table))
  else if hi : Text.isIdentifier table.toList then .ok ⟨table, hi, Nat.le_of_not_lt hl⟩
  else .error (.invalidInput (.malformedTable table))

/-- The label as it stands in a query. -/
def quoted (l : Label) : String :=
  "`" ++ l.name ++ "`"

/-- A label is shown as its name. -/
instance : ToString Label :=
  ⟨Label.name⟩

/-- Reads a label where a text has to be converted to one. -/
def ofString (table : String) : Except Error Label :=
  parse table

theorem ext {l m : Label} (h : l.name = m.name) : l = m := by
  cases l; cases m; simp_all

/-- A label is what its own name reads as. -/
@[simp] theorem parse_name (l : Label) : parse l.name = .ok l := by
  have h0 : l.name.isEmpty = false := by
    have hne := Text.isIdentifier_ne_nil l.isIdentifier_name
    cases h : l.name.isEmpty with
    | false => rfl
    | true =>
      have : l.name = "" := by simpa using h
      simp [this] at hne
  have h1 : ¬ maxLabelLength < l.name.utf8ByteSize := Nat.not_lt.mpr l.length_le
  simp [parse, h0, h1, l.isIdentifier_name]

theorem name_of_parse {table : String} {l : Label} (h : parse table = .ok l) :
    l.name = table := by
  unfold parse at h
  split at h
  · simp at h
  · split at h
    · simp at h
    · split at h
      · have := Except.ok.inj h
        rw [← this]
      · simp at h

end Label

end KeyedGraph
