/-!
# File systems

What a process asks of the files of its system, and what it may be told. Which files there are,
who may touch them, where a relative path begins and what goes wrong on the way is the system's
own matter: an operation gets the state of all files and gives it back as it left it, also if it
failed.
-/

namespace KeyedGraph

/-- Why the system refuses to work on a file. -/
inductive FileError
  | missing
  | alreadyThere
  | notDirectory
  | isDirectory
  | denied
  | readOnly
  | full
  | nameTooLong
  | notText
  | zeroInPath
  | other (message : String)
deriving DecidableEq, Repr

/-- The system's wording of a refusal. -/
def FileError.message : FileError → String
  | .missing => "No such file or directory (os error 2)"
  | .alreadyThere => "File exists (os error 17)"
  | .notDirectory => "Not a directory (os error 20)"
  | .isDirectory => "Is a directory (os error 21)"
  | .denied => "Permission denied (os error 13)"
  | .readOnly => "Read-only file system (os error 30)"
  | .full => "No space left on device (os error 28)"
  | .nameTooLong => "File name too long (os error 36)"
  | .notText => "stream did not contain valid UTF-8"
  | .zeroInPath => "file name contained an unexpected NUL byte"
  | .other message => message

/-! ### Paths -/

/-- The names between the slashes of a path. -/
def pathSegments (path : String) : List String :=
  (path.toList.splitOn '/').map String.ofList

/-- Whether a path starts at the root. -/
def isAbsolutePath (path : String) : Bool :=
  path.startsWith "/"

/-- The path of `name` below `base`; an absolute `name` stands for itself. -/
def joinPath (base name : String) : String :=
  if isAbsolutePath name then name
  else if base.isEmpty || base.endsWith "/" then base ++ name
  else base ++ "/" ++ name

/-- The steps of a path: its names, without empty ones and `.`. -/
def pathSteps (path : String) : List String :=
  (pathSegments path).filter fun s => !s.isEmpty && s != "."

/-- The path with these steps. -/
def pathOfSteps (absolute : Bool) (steps : List String) : String :=
  (if absolute then "/" else "") ++ "/".intercalate steps

/-- The path to the directory that holds what a path names, if the path names anything. It is
empty for a name alone. -/
def parentPath? (path : String) : Option String :=
  match pathSteps path with
  | [] => if path.isEmpty || isAbsolutePath path then none else some ""
  | steps => some (pathOfSteps (isAbsolutePath path) steps.dropLast)

/-! ### Systems -/

/-- What the system knows a file by, such as its names from the root: the same whichever path
led to it. -/
abbrev FileName := List String

/-- What a process can do with files. -/
structure FileSystem (φ : Type) where
  /-- Whether a path leads to anything. -/
  pathExists : φ → String → Bool
  /-- Reads the bytes of the file that a path leads to. -/
  read : φ → String → Except FileError ByteArray
  /-- Makes the directory at the end of a path and those on the way that are missing; one that is
  there already will do, and an empty path asks for none. -/
  makeDirectories : φ → String → Except FileError Unit × φ
  /-- Opens the file that a path leads to for appending, and makes it if it is missing. -/
  openForAppend : φ → String → Except FileError FileName × φ
  /-- Puts bytes at the end of an open file. -/
  append : φ → FileName → ByteArray → Except FileError Unit × φ

/-- Reads the text of the file that a path leads to. -/
def FileSystem.readText {φ : Type} (system : FileSystem φ) (files : φ) (path : String) :
    Except FileError String := do
  let bytes ← system.read files path
  match String.fromUTF8? bytes with
  | some text => .ok text
  | none => .error .notText

end KeyedGraph
