import KeyedGraph.FileTree
import KeyedGraph.Proofs.Except
import KeyedGraph.Proofs.FileSystem
import Mathlib.Tactic.Common

/-!
# File trees are file systems

A file tree keeps the laws of file systems, whatever it refuses: new directories are put only
where nothing stands, and a new file is empty. That holds of attempts that fail on their way,
too.
-/

namespace KeyedGraph.FileTree

/-- What the file with these names holds, if it is there. -/
def content (tree : FileTree) (names : FileName) : Option ByteArray :=
  match tree.find? names with
  | some (.file bytes) => some bytes
  | _ => none

variable {tree tree' : FileTree} {names other : FileName} {bytes : ByteArray}

/-! ### Putting an entry -/

lemma find?_put (hn : names ≠ []) (tree : FileTree) (entry : Entry) :
    (tree.put names entry).find? names = some entry := by
  cases names with
  | nil => exact absurd rfl hn
  | cons name rest => simp [find?, put]

lemma find?_put_of_ne (h : other ≠ names) (tree : FileTree) (entry : Entry) :
    (tree.put names entry).find? other = tree.find? other := by
  cases other with
  | nil => rfl
  | cons name rest =>
    have hne : (name :: rest == names) = false := beq_eq_false_iff_ne.mpr h
    simp [find?, put, List.lookup_cons, hne]

lemma content_put_of_ne (h : other ≠ names) (tree : FileTree) (entry : Entry) :
    (tree.put names entry).content other = tree.content other := by
  rw [content, content, find?_put_of_ne h]

/-- The root is a directory, and no file. -/
lemma ne_nil_of_find?_eq_none (h : tree.find? names = none) : names ≠ [] := by
  rintro rfl
  cases h

lemma ne_nil_of_content (h : tree.content names = some bytes) : names ≠ [] := by
  rintro rfl
  cases h

lemma content_put_file (hn : names ≠ []) (tree : FileTree) (bytes : ByteArray) :
    (tree.put names (.file bytes)).content names = some bytes := by
  rw [content, find?_put hn]

/-- A directory where nothing stands changes no file. -/
lemma content_put_directory (h : tree.find? names = none) (other : FileName) :
    (tree.put names .directory).content other = tree.content other := by
  by_cases ho : other = names
  · subst ho
    rw [content, content, find?_put (ne_nil_of_find?_eq_none h), h]
  · exact content_put_of_ne ho tree .directory

/-! ### Making directories -/

variable {workingDir : FileName} {path : String}

lemma content_makeDirectory (h : tree.makeDirectory workingDir path = .ok tree')
    (other : FileName) : tree'.content other = tree.content other := by
  rw [makeDirectory] at h
  obtain ⟨place, -, h⟩ := exists_of_bind_eq_ok h
  split at h
  · cases h
  · rename_i hf
    obtain ⟨-, -, h⟩ := exists_of_bind_eq_ok h
    obtain rfl := Except.ok.inj h
    exact content_put_directory hf other

lemma content_ensureDirectory (tree : FileTree) (workingDir : FileName) (path : String)
    (other : FileName) :
    (tree.ensureDirectory workingDir path).2.content other = tree.content other := by
  rw [ensureDirectory]
  cases hm : tree.makeDirectory workingDir path with
  | ok tree' => exact content_makeDirectory hm other
  | error cause => rfl

/-- Directories that are made on the way change no file, however far it goes. -/
lemma content_makeSteps (tree : FileTree) (workingDir : FileName) (absolute : Bool)
    (steps : List String) (other : FileName) :
    (tree.makeSteps workingDir absolute steps).2.content other = tree.content other := by
  induction steps generalizing tree with
  | nil => rfl
  | cons step before ih =>
    rw [makeSteps]
    split
    · have hbefore := ih tree
      split
      · rename_i tree' hm
        rw [content_ensureDirectory, ← hbefore, hm]
      · exact hbefore
    · exact content_ensureDirectory ..

/-! ### Opening a file -/

/-- An open file is one that was there, or a new one that is empty. -/
lemma openForAppend_cases (h : tree.openForAppend workingDir path = .ok (names, tree')) :
    (∃ bytes, tree.content names = some bytes) ∧ tree' = tree ∨
      tree.find? names = none ∧ tree' = tree.put names (.file ByteArray.empty) := by
  rw [openForAppend] at h
  obtain ⟨place, -, h⟩ := exists_of_bind_eq_ok h
  split at h
  · cases h
  · split at h
    · cases h
    · rename_i bytes hf
      obtain ⟨-, -, h⟩ := exists_of_bind_eq_ok h
      obtain ⟨rfl, rfl⟩ := Prod.mk.inj (Except.ok.inj h)
      exact .inl ⟨⟨bytes, by rw [content, hf]⟩, rfl⟩
    · rename_i hf
      obtain ⟨-, -, h⟩ := exists_of_bind_eq_ok h
      obtain ⟨rfl, rfl⟩ := Prod.mk.inj (Except.ok.inj h)
      exact .inr ⟨hf, rfl⟩

/-- An open file holds what it held before. -/
lemma content_of_openForAppend (h : tree.openForAppend workingDir path = .ok (names, tree')) :
    tree'.content names = some ((tree.content names).getD ByteArray.empty) := by
  rcases openForAppend_cases h with ⟨⟨bytes, hb⟩, rfl⟩ | ⟨hf, rfl⟩
  · rw [hb, Option.getD_some]
  · have hnone : tree.content names = none := by rw [content, hf]
    rw [content_put_file (ne_nil_of_find?_eq_none hf), hnone, Option.getD_none]

/-- No other file is touched. -/
lemma content_of_openForAppend_of_ne
    (h : tree.openForAppend workingDir path = .ok (names, tree')) (hn : other ≠ names) :
    tree'.content other = tree.content other := by
  rcases openForAppend_cases h with ⟨-, rfl⟩ | ⟨-, rfl⟩
  · rfl
  · exact content_put_of_ne hn tree _

/-! ### Appending -/

lemma content_append (h : tree.content names = some bytes) (added : ByteArray) :
    (tree.append names added).content names = some (bytes ++ added) := by
  have hn := ne_nil_of_content h
  rw [content] at h
  split at h
  · rename_i before hf
    obtain rfl := Option.some.inj h
    simp only [append, hf]
    exact content_put_file hn tree _
  · cases h

lemma content_append_of_ne (h : other ≠ names) (tree : FileTree) (bytes : ByteArray) :
    (tree.append names bytes).content other = tree.content other := by
  rw [append]
  split
  · exact content_put_of_ne h tree _
  · rfl

/-! ### The laws -/

/-- A file tree keeps the laws of file systems. -/
theorem lawful_system (workingDir : FileName) : (system workingDir).Lawful content where
  content_makeDirectories tree path name := content_makeSteps tree workingDir _ _ name
  content_of_opened {tree tree' path name} h := by
    simp only [system] at h
    split at h
    · rename_i names opened ho
      obtain ⟨hname, rfl⟩ := Prod.mk.inj h
      obtain rfl := Except.ok.inj hname
      exact content_of_openForAppend ho
    · cases h
  content_of_unopened {tree tree' path answer} h {name} hn := by
    simp only [system] at h
    split at h
    · rename_i names opened ho
      obtain ⟨rfl, rfl⟩ := Prod.mk.inj h
      exact content_of_openForAppend_of_ne ho fun heq => hn (congrArg _ heq.symm)
    · obtain ⟨-, rfl⟩ := Prod.mk.inj h
      rfl
  content_append h bytes := ⟨bytes, content_append h bytes, fun _ => rfl⟩
  content_append_of_ne h tree bytes := content_append_of_ne h tree bytes

/-- What can be read in a file tree is there. -/
theorem findsReadable_system (workingDir : FileName) : (system workingDir).FindsReadable := by
  intro tree path bytes h
  change tree.read workingDir path = .ok bytes at h
  change (tree.entryAt workingDir path).isOk = true
  obtain ⟨found, he, -⟩ := exists_of_bind_eq_ok h
  rw [he]
  rfl

/-- Every append to a file tree succeeds. -/
lemma takes_system (workingDir names : FileName) : (system workingDir).Takes names :=
  fun _ _ => rfl

end KeyedGraph.FileTree
