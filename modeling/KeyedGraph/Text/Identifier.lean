/-!
# Identifiers

An identifier starts with an ASCII letter or an underscore and goes on with ASCII letters, digits
and underscores. Node labels and the names in `${NAME}` references are identifiers.
-/

namespace KeyedGraph.Text

/-- Whether an identifier may start with this character. -/
def startsIdentifier (c : Char) : Bool :=
  c.isAlpha || c == '_'

/-- Whether an identifier may go on with this character. -/
def continuesIdentifier (c : Char) : Bool :=
  c.isAlphanum || c == '_'

/-- Whether the characters make up one identifier. -/
def isIdentifier : List Char → Bool
  | [] => false
  | c :: cs => startsIdentifier c && cs.all continuesIdentifier

theorem continuesIdentifier_of_starts {c : Char} (h : startsIdentifier c) :
    continuesIdentifier c := by
  simp only [startsIdentifier, continuesIdentifier, Char.isAlphanum, Bool.or_eq_true] at *
  grind

theorem isIdentifier_ne_nil {cs : List Char} (h : isIdentifier cs) : cs ≠ [] := by
  rintro rfl
  exact absurd h (by decide)

/-- Every character of an identifier may continue one. -/
theorem all_continuesIdentifier {cs : List Char} (h : isIdentifier cs) :
    cs.all continuesIdentifier = true := by
  cases cs with
  | nil => rfl
  | cons c cs =>
    simp only [isIdentifier, Bool.and_eq_true] at h
    rw [List.all_cons, continuesIdentifier_of_starts h.1, h.2, Bool.and_self]

end KeyedGraph.Text
