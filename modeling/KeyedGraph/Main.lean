import KeyedGraph.Bolt.Script
import KeyedGraph.CommandLine.Program
import KeyedGraph.Config.Document
import KeyedGraph.FileTree
import KeyedGraph.Logging.Plain

/-!
# The command

Collects what the program has to know of the process, runs it, and writes what it leaves behind.
The command carries no network, so every server is out of its reach. Its filters are plain
directives, and it writes plain lines.
-/

namespace KeyedGraph.Command

/-- The names from the root that a path passes on its way, the nearest to the root first. -/
def stations (here : FileName) : List String → List FileName
  | [] => []
  | step :: rest =>
    let next := if step == ".." then here.dropLast else here ++ [step]
    next :: stations next rest

/-- The tree in which one access to a place is refused. -/
def refuse (tree : FileTree) (names : FileName) (access : FileAccess) (cause : FileError) :
    FileTree :=
  { tree with
    refusal? := fun other otherAccess =>
      if other = names && otherAccess = access then some cause
      else tree.refusal? other otherAccess }

/-- Adds what stands at one place of the file system, and that it cannot be read if so it is. -/
def observePlace (tree : FileTree) (names : FileName) : IO FileTree := do
  let place := (← IO.currentDir) / pathOfSteps true names
  if ← place.isDir then return tree.put names .directory
  else if ← place.pathExists then
    try
      return tree.put names (.file (← IO.FS.readBinFile place))
    catch e =>
      return refuse (tree.put names (.file ByteArray.empty)) names .read (.other (toString e))
  else return tree

/-- Adds what stands on the way along a path. -/
def observe (tree : FileTree) (workingDir : FileName) (path : String) : IO FileTree :=
  let start := if isAbsolutePath path then [] else workingDir
  (stations [] start ++ stations start (pathSteps path)).foldlM observePlace tree

/-- The variables of the environment that the program looks at, besides those that a
configuration refers to. -/
def knownVariables : List String :=
  ["HOME", "XDG_CONFIG_HOME", "RUST_LOG", "GRAPHKV_CONFIG_PATH", "GRAPHKV_NEO4J_URL",
    "GRAPHKV_NEO4J_USER", "GRAPHKV_NEO4J_PASSWORD", "GRAPHKV_NEO4J_DATABASE", "GRAPHKV_LOG",
    "GRAPHKV_LOG_FORMAT"]

/-- The names that a text may refer to as variables. -/
def referredNames (s : String) : List String :=
  ((s.splitOn "$\x7b").drop 1).map fun part =>
    String.ofList (part.toList.takeWhile Text.continuesIdentifier)

/-- Looks variables of the environment up. -/
def readVariables (names : List String) : IO (List (String × String)) :=
  names.filterMapM fun name => do
    match ← IO.getEnv name with
    | some value => return some (name, value)
    | none => return none

/-- Collects what an invocation has to know. -/
def hostFor (invocation : CommandLine.Invocation) : IO (Host FileTree) := do
  let workingDir := pathSteps (← IO.currentDir).toString
  let values ← readVariables knownVariables
  let env : Text.Environment := fun name => values.lookup name
  let bare : Host FileTree :=
    { env
      files := {}
      system := FileTree.system workingDir
      configDir := userConfigDir? env none
      readDocument := ConfigFile.parse
      library := plainLibrary }
  let path := (invocation.config <|> bare.configPath?).getD ""
  let files ← observe {} workingDir path
  let text := (bare.system.readText files path).toOption.getD ""
  let values := values ++ (← readVariables (referredNames text))
  let host : Host FileTree := { bare with env := fun name => values.lookup name, files }
  let loaded := (host.loadConfig invocation.config (FieldSet.ofPairs invocation.properties)).1
  match loaded.toOption.bind fun config => config.logging.file with
  | some file => return { host with files := ← observe files workingDir file }
  | none => return host

/-- Writes lines to the end of a file, making the directories above it. -/
def appendLines (names : FileName) (lines : List LogLine) : IO Unit := do
  let root ← IO.currentDir
  IO.FS.createDirAll (root / pathOfSteps true names.dropLast)
  let file ← IO.FS.Handle.mk (root / pathOfSteps true names) .append
  lines.forM fun line => file.putStrLn line.plain.render

/-- Writes what a run leaves behind. -/
def publish {σ : Type} (r : CommandLine.ProgramRun σ FileTree) : IO UInt32 := do
  match r.log.log with
  | some ⟨_, _, .file names⟩ => appendLines names (r.log.linesAt (.file names))
  | _ => pure ()
  (r.log.linesAt .standardError).forM fun line => IO.eprintln line.plain.render
  r.output.forM fun text => IO.println text
  r.said.forM fun text => IO.eprintln text
  return r.exit.code.toUInt32

end KeyedGraph.Command

/-- Runs the program on the arguments of the process. -/
def main (arguments : List String) : IO UInt32 := do
  let links : KeyedGraph.Bolt.Links KeyedGraph.Bolt.Script :=
    { server := { reachable := false } }
  let backend := KeyedGraph.Bolt.backend KeyedGraph.Bolt.Script.server
  match KeyedGraph.CommandLine.parse arguments with
  | .ok invocation =>
    let host ← KeyedGraph.Command.hostFor invocation
    KeyedGraph.Command.publish (invocation.run host backend links)
  | .error stop =>
    let log : KeyedGraph.LogState KeyedGraph.FileTree := { files := {} }
    KeyedGraph.Command.publish (KeyedGraph.CommandLine.stopped stop log links)
