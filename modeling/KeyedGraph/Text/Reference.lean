import KeyedGraph.Text.Identifier

/-!
# References to variables

A reference is `${NAME}` with an identifier between the braces. Expansion is one pass from left
to right: the value of a variable is put in as it stands and is not looked at again, and a
variable that is not set counts as empty. Everything that is not a reference is kept.
-/

namespace KeyedGraph.Text

/-- A look-up of variables by name. -/
abbrev Environment := String → Option String

/-- Splits off the reference that a text starts with: its name and what follows it. -/
def leadingReference? : List Char → Option (List Char × List Char)
  | '$' :: '\x7b' :: cs =>
    match cs.dropWhile continuesIdentifier with
    | '\x7d' :: rest =>
      if isIdentifier (cs.takeWhile continuesIdentifier) then
        some (cs.takeWhile continuesIdentifier, rest)
      else none
    | _ => none
  | _ => none

theorem length_leadingReference {cs name rest : List Char}
    (h : leadingReference? cs = some (name, rest)) : rest.length < cs.length := by
  unfold leadingReference? at h
  split at h
  · rename_i tail
    split at h
    · rename_i after hd
      split at h
      · have hl := (List.dropWhile_suffix continuesIdentifier (l := tail)).length_le
        obtain ⟨-, rfl⟩ : _ ∧ after = rest := by simpa using h
        rw [hd] at hl
        simp only [List.length_cons] at hl ⊢
        omega
      · simp at h
    · simp at h
  · simp at h

/-- Expands the references in a list of characters. -/
def expandChars (lookup : Environment) (cs : List Char) : List Char :=
  match h : leadingReference? cs with
  | some (name, rest) =>
    have := length_leadingReference h
    ((lookup (String.ofList name)).getD "").toList ++ expandChars lookup rest
  | none =>
    match cs with
    | [] => []
    | c :: rest => c :: expandChars lookup rest
termination_by cs.length

/-- Expands the references in a text. -/
def expand (lookup : Environment) (s : String) : String :=
  String.ofList (expandChars lookup s.toList)

@[simp] theorem expandChars_nil (lookup : Environment) : expandChars lookup [] = [] := by
  rw [expandChars]
  rfl

theorem expandChars_of_reference {lookup : Environment} {cs name rest : List Char}
    (h : leadingReference? cs = some (name, rest)) :
    expandChars lookup cs =
      ((lookup (String.ofList name)).getD "").toList ++ expandChars lookup rest := by
  rw [expandChars]
  split
  · rename_i name' rest' h'
    obtain ⟨rfl, rfl⟩ : name' = name ∧ rest' = rest := by simpa using h'.symm.trans h
    rfl
  · rename_i h'
    simp [h] at h'

theorem expandChars_of_no_reference {lookup : Environment} {c : Char} {cs : List Char}
    (h : leadingReference? (c :: cs) = none) :
    expandChars lookup (c :: cs) = c :: expandChars lookup cs := by
  rw [expandChars]
  split
  · rename_i h'
    simp [h] at h'
  · rfl

end KeyedGraph.Text
