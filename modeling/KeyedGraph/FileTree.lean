import KeyedGraph.FileSystem

/-!
# File trees

A file tree keeps files and directories in memory, by their names from the root, together with
what the system refuses at each place. Paths are read the way the system reads them: every name
on the way has to be a directory that may be entered, `.` and `..` are steps, and a path that
ends in a slash names a directory. There are no links.
-/

namespace KeyedGraph

/-- What stands at a place. -/
inductive FileTree.Entry
  | file (bytes : ByteArray)
  | directory

/-- What may be refused at a place: to go through a directory, to read a file, to append to it,
or to make anything new. -/
inductive FileAccess
  | enter
  | read
  | append
  | make
deriving DecidableEq, Repr

/-- Files and directories by their names from the root; the first entry of a place counts. -/
structure FileTree where
  entries : List (FileName × FileTree.Entry) := []
  refusal? : FileName → FileAccess → Option FileError := fun _ _ => none

/-- The largest length of a name, in bytes. -/
def maxNameLength : Nat := 255

/-- The largest length of a path, in bytes. -/
def maxPathLength : Nat := 4095

/-- Where a path leads: the names from the root, and whether only a directory will do. -/
structure FilePlace where
  names : FileName
  asDirectory : Bool

namespace FileTree

/-- The entry at the end of a list of names; the root is always a directory. -/
def find? (tree : FileTree) : FileName → Option Entry
  | [] => some .directory
  | names => tree.entries.lookup names

/-- Puts an entry at a place. -/
def put (tree : FileTree) (names : FileName) (entry : Entry) : FileTree :=
  { tree with entries := (names, entry) :: tree.entries }

/-- Whether an access is granted. -/
def ask (tree : FileTree) (names : FileName) (access : FileAccess) : Except FileError Unit :=
  match tree.refusal? names access with
  | some cause => .error cause
  | none => .ok ()

/-! ### Looking -/

/-- Walks from a directory along the segments of a path. -/
def walk (tree : FileTree) (here : FileName) : List String → Except FileError FilePlace
  | [] => .ok ⟨here, true⟩
  | s :: rest =>
    if s.isEmpty || s == "." then tree.walk here rest
    else if s == ".." then tree.walk here.dropLast rest
    else if maxNameLength < s.utf8ByteSize then .error .nameTooLong
    else
      let next := here ++ [s]
      if rest.all String.isEmpty then .ok ⟨next, !rest.isEmpty⟩
      else
        match tree.find? next with
        | some .directory => do
          tree.ask next .enter
          tree.walk next rest
        | some (.file _) => .error .notDirectory
        | none => .error .missing

/-- The place that a path leads to, seen from a working directory. -/
def resolve (tree : FileTree) (workingDir : FileName) (path : String) :
    Except FileError FilePlace :=
  if path.toList.contains '\x00' then .error .zeroInPath
  else if path.isEmpty then .error .missing
  else if maxPathLength < path.utf8ByteSize then .error .nameTooLong
  else tree.walk (if isAbsolutePath path then [] else workingDir) (pathSegments path)

/-- What a path leads to, and where. -/
def entryAt (tree : FileTree) (workingDir : FileName) (path : String) :
    Except FileError (FileName × Entry) := do
  let place ← tree.resolve workingDir path
  match tree.find? place.names with
  | none => .error .missing
  | some .directory => .ok (place.names, .directory)
  | some (.file bytes) =>
    if place.asDirectory then .error .notDirectory else .ok (place.names, .file bytes)

/-- Whether a path leads to anything. -/
def pathExists (tree : FileTree) (workingDir : FileName) (path : String) : Bool :=
  (tree.entryAt workingDir path).isOk

/-- Reads the bytes of the file that a path leads to. -/
def read (tree : FileTree) (workingDir : FileName) (path : String) :
    Except FileError ByteArray := do
  match ← tree.entryAt workingDir path with
  | (_, .directory) => .error .isDirectory
  | (names, .file bytes) =>
    tree.ask names .read
    .ok bytes

/-! ### Changing -/

/-- Makes one directory. -/
def makeDirectory (tree : FileTree) (workingDir : FileName) (path : String) :
    Except FileError FileTree := do
  let place ← tree.resolve workingDir path
  match tree.find? place.names with
  | some _ => .error .alreadyThere
  | none =>
    tree.ask place.names .make
    .ok (tree.put place.names .directory)

/-- Whether a path leads to a directory. -/
def isDirectoryAt (tree : FileTree) (workingDir : FileName) (path : String) : Bool :=
  match tree.entryAt workingDir path with
  | .ok (_, .directory) => true
  | _ => false

/-- Makes one directory; one that is there already will do. -/
def ensureDirectory (tree : FileTree) (workingDir : FileName) (path : String) :
    Except FileError Unit × FileTree :=
  match tree.makeDirectory workingDir path with
  | .ok tree => (.ok (), tree)
  | .error e => (if tree.isDirectoryAt workingDir path then .ok () else .error e, tree)

/-- Makes the directory at the end of the steps (last step first) and those on the way that are
missing; one that is there already will do. What was made before a failure stays. -/
def makeSteps (tree : FileTree) (workingDir : FileName) (absolute : Bool) :
    List String → Except FileError Unit × FileTree
  | [] => (.ok (), tree)
  | step :: before =>
    let path := pathOfSteps absolute (step :: before).reverse
    match tree.makeDirectory workingDir path with
    | .error .missing =>
      match tree.makeSteps workingDir absolute before with
      | (.ok (), tree) => tree.ensureDirectory workingDir path
      | failed => failed
    | _ => tree.ensureDirectory workingDir path

/-- Makes the directory at the end of a path and those on the way that are missing. -/
def makeDirectories (tree : FileTree) (workingDir : FileName) (path : String) :
    Except FileError Unit × FileTree :=
  tree.makeSteps workingDir (isAbsolutePath path) (pathSteps path).reverse

/-- Opens a file for appending, making it if it is missing. -/
def openForAppend (tree : FileTree) (workingDir : FileName) (path : String) :
    Except FileError (FileName × FileTree) := do
  let place ← tree.resolve workingDir path
  if place.asDirectory then .error .isDirectory
  else
    match tree.find? place.names with
    | some .directory => .error .isDirectory
    | some (.file _) =>
      tree.ask place.names .append
      .ok (place.names, tree)
    | none =>
      tree.ask place.names .make
      .ok (place.names, tree.put place.names (.file ByteArray.empty))

/-- Puts bytes at the end of an open file. One that was taken away meanwhile takes them with
it. -/
def append (tree : FileTree) (names : FileName) (bytes : ByteArray) : FileTree :=
  match tree.find? names with
  | some (.file before) => tree.put names (.file (before ++ bytes))
  | _ => tree

/-- The system whose files are a tree, for a process in a working directory. -/
def system (workingDir : FileName) : FileSystem FileTree where
  pathExists tree path := tree.pathExists workingDir path
  read tree path := tree.read workingDir path
  makeDirectories tree path := tree.makeDirectories workingDir path
  openForAppend tree path :=
    match tree.openForAppend workingDir path with
    | .ok (names, tree) => (.ok names, tree)
    | .error cause => (.error cause, tree)
  append tree names bytes := (.ok (), tree.append names bytes)

end FileTree

end KeyedGraph
