import KeyedGraph.FileSystem
import KeyedGraph.Text.Numeral

/-!
# Errors

Every failure is a value that names its cause; the wording of each is written by `Error.message`.
-/

namespace KeyedGraph

/-- The schemes of connection URLs, in the order in which messages list them. -/
def boltSchemes : List String :=
  ["bolt://", "bolt+s://", "bolt+ssc://", "neo4j://", "neo4j+s://", "neo4j+ssc://"]

/-- The largest length of a label, in bytes. -/
def maxLabelLength : Nat := 64

/-- What is wrong with an input. -/
inductive InputError
  | emptyTable
  | longTable (table : String)
  | malformedTable (table : String)
  | foreignScheme (url : String)
  | blankDatabase
  | zeroSize (property : String)
  | badSize (property value : String) (cause : Text.NumeralError)
  | other (message : String)
deriving DecidableEq, Repr

/-- The wording of an input fault. -/
def InputError.message : InputError → String
  | .emptyTable => "table name cannot be empty"
  | .longTable table =>
    "table name exceeds " ++ toString maxLabelLength ++ " characters: '" ++ table ++ "'"
  | .malformedTable table =>
    "table name '" ++ table ++ "' is not a valid label; use letters, digits and underscores, " ++
      "starting with a letter or underscore"
  | .foreignScheme url =>
    "connection URL must use a Bolt scheme (" ++ ", ".intercalate boltSchemes ++ "): " ++ url
  | .blankDatabase => "database name cannot be empty"
  | .zeroSize property => property ++ " must be at least 1"
  | .badSize property value cause =>
    property ++ " must be a positive integer, got '" ++ value ++ "': " ++ cause.message
  | .other message => message

/-- Why an operation failed. -/
inductive FailureCause
  | connectionClosed
  | lockPoisoned
  | duplicateNode (label key : String)
  | alreadyInitialized
  | malformedDocument (report : String)
  | fileAt (path : String) (cause : FileError)
  | file (cause : FileError)
  | columnNotNode (column : String)
  | columnNotInteger (column : String)
  | propertyNotText (name : String)
  | server (message : String)
  | other (message : String)
deriving DecidableEq, Repr

/-- The wording of a failure's cause. -/
def FailureCause.message : FailureCause → String
  | .connectionClosed => "connection closed"
  | .lockPoisoned => "Lock poisoned"
  | .duplicateNode label key =>
    "node with label '" ++ label ++ "' and property '_key' = '" ++ key ++ "' already exists"
  | .alreadyInitialized => "logging already initialized"
  | .malformedDocument report => report
  | .fileAt path cause => path ++ ": " ++ cause.message
  | .file cause => cause.message
  | .columnNotNode column => "column '" ++ column ++ "' holds no node"
  | .columnNotInteger column => "column '" ++ column ++ "' holds no integer"
  | .propertyNotText name => "property '" ++ name ++ "' is not a string: it holds another value"
  | .server message => message
  | .other message => message

/-- A failure, by its cause. -/
inductive Error
  | invalidInput (cause : InputError)
  | operationFailed (operation : String) (cause : FailureCause)
  | connection (url cause : String)
  | notInitialized
  | featureNotEnabled (feature : String)
deriving DecidableEq, Repr

/-- The wording of an error. -/
def Error.message : Error → String
  | .invalidInput cause => "invalid input: " ++ cause.message
  | .operationFailed operation cause =>
    "operation '" ++ operation ++ "' failed: " ++ cause.message
  | .connection url cause => "cannot connect to " ++ url ++ ": " ++ cause
  | .notInitialized => "client is not initialized"
  | .featureNotEnabled feature =>
    "feature not enabled: " ++ feature ++ " (compile with --features " ++ feature ++ ")"

end KeyedGraph
