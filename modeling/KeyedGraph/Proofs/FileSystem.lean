import KeyedGraph.FileSystem
import Mathlib.Tactic.Common

/-!
# What a process may rely on

The laws of file systems that hold whatever files there are, whoever may touch them, and whatever
fails: only an opened file that was missing and an append change what files hold, and an append
puts something behind what the file held.
-/

namespace KeyedGraph.FileSystem

variable {φ : Type}

/-- The laws of changes, where `content` tells what a file holds, if it is there. -/
structure Lawful (system : FileSystem φ) (content : φ → FileName → Option ByteArray) : Prop where
  /-- To make directories changes no file. -/
  content_makeDirectories (files : φ) (path : String) (name : FileName) :
    content (system.makeDirectories files path).2 name = content files name
  /-- A file that is opened is there, with what it held before; a new one is empty. -/
  content_of_opened {files files' : φ} {path : String} {name : FileName}
    (h : system.openForAppend files path = (.ok name, files')) :
    content files' name = some ((content files name).getD ByteArray.empty)
  /-- To open a file changes no other file, and none if it fails. -/
  content_of_unopened {files files' : φ} {path : String} {answer : Except FileError FileName}
    (h : system.openForAppend files path = (answer, files')) {name : FileName}
    (hn : answer ≠ .ok name) : content files' name = content files name
  /-- An append puts something behind what the file holds, and all of its bytes unless it
  fails. -/
  content_append {files : φ} {name : FileName} {before : ByteArray}
    (h : content files name = some before) (bytes : ByteArray) :
    ∃ part, content (system.append files name bytes).2 name = some (before ++ part) ∧
      ((system.append files name bytes).1 = .ok () → part = bytes)
  /-- An append changes no other file. -/
  content_append_of_ne {name other : FileName} (h : other ≠ name) (files : φ)
    (bytes : ByteArray) :
    content (system.append files name bytes).2 other = content files other

/-- A path whose file can be read leads to something. -/
def FindsReadable (system : FileSystem φ) : Prop :=
  ∀ files path bytes, system.read files path = .ok bytes → system.pathExists files path = true

/-- Whatever is appended to a file, none of it fails. -/
def Takes (system : FileSystem φ) (name : FileName) : Prop :=
  ∀ files bytes, (system.append files name bytes).1 = .ok ()

/-- What stands in a file stays there. -/
def Keeps (content : φ → FileName → Option ByteArray) (files files' : φ) : Prop :=
  ∀ name bytes, content files name = some bytes → content files' name = some bytes

lemma Keeps.refl (content : φ → FileName → Option ByteArray) (files : φ) :
    Keeps content files files :=
  fun _ _ h => h

lemma Keeps.trans {content : φ → FileName → Option ByteArray} {files files' files'' : φ}
    (h : Keeps content files files') (h' : Keeps content files' files'') :
    Keeps content files files'' :=
  fun name bytes hc => h' name bytes (h name bytes hc)

namespace Lawful

variable {system : FileSystem φ} {content : φ → FileName → Option ByteArray}
  (hsystem : system.Lawful content)
include hsystem

lemma keeps_makeDirectories (files : φ) (path : String) :
    Keeps content files (system.makeDirectories files path).2 := by
  intro name bytes h
  rw [hsystem.content_makeDirectories, h]

lemma keeps_openForAppend (files : φ) (path : String) :
    Keeps content files (system.openForAppend files path).2 := by
  intro name bytes h
  generalize ho : system.openForAppend files path = opened
  obtain ⟨answer, files'⟩ := opened
  by_cases hn : answer = .ok name
  · subst hn
    rw [hsystem.content_of_opened ho, h, Option.getD_some]
  · rw [hsystem.content_of_unopened ho hn, h]

end Lawful

end KeyedGraph.FileSystem
