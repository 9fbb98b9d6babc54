import KeyedGraph.Record
import KeyedGraph.Error
import KeyedGraph.Text.Reference
import KeyedGraph.Text.Quoted

/-!
# Connection settings

What is needed to open a connection, the checks it has to pass, and the properties that a
workload may set it by.
-/

namespace KeyedGraph

/-- Settings of a connection. -/
structure Settings where
  url : String := "bolt://localhost:7687"
  user : String := "neo4j"
  password : String := ""
  database : String := "neo4j"
  maxConnections : Option Nat := none
  fetchSize : Option Nat := none
deriving DecidableEq, Repr

/-- Properties of a workload by their names. -/
abbrev Properties := FieldSet

/-! ### Names of properties -/

/-- The property that holds the connection URL. -/
def urlProperty : String := "neo4j.url"

/-- The property that holds the user's name. -/
def userProperty : String := "neo4j.user"

/-- The property that holds the password. -/
def passwordProperty : String := "neo4j.passwd"

/-- The property that selects the database. -/
def databaseProperty : String := "neo4j.database"

/-- The property that bounds the pool of connections. -/
def maxConnectionsProperty : String := "neo4j.maxconnections"

/-- The property that sets how many rows are fetched at a time. -/
def fetchSizeProperty : String := "neo4j.fetchsize"

namespace Settings

/-- Whether a password is set. -/
def hasPassword (s : Settings) : Bool :=
  !s.password.isEmpty

/-- Whether the URL has a scheme that the connection can speak. -/
def hasBoltScheme (s : Settings) : Bool :=
  boltSchemes.any fun scheme => s.url.startsWith scheme

/-- Checks the URL's scheme, the database's name and the sizes, in this order. -/
def validate (s : Settings) : Except Error Unit :=
  if !s.hasBoltScheme then .error (.invalidInput (.foreignScheme s.url))
  else if Text.isBlankText s.database then .error (.invalidInput .blankDatabase)
  else if s.maxConnections = some 0 then
    .error (.invalidInput (.zeroSize maxConnectionsProperty))
  else if s.fetchSize = some 0 then .error (.invalidInput (.zeroSize fetchSizeProperty))
  else .ok ()

/-! ### Properties -/

/-- The size that a property gives, if it is there. -/
def sizeProperty (properties : Properties) (name : String) : Except Error (Option Nat) :=
  match properties[name]? with
  | none => .ok none
  | some text =>
    match Text.readSize text with
    | .ok size => .ok (some size)
    | .error cause => .error (.invalidInput (.badSize name text cause))

/-- Takes over the properties that are texts. -/
def applyTexts (s : Settings) (properties : Properties) : Settings :=
  { s with
    url := properties[urlProperty]?.getD s.url
    user := properties[userProperty]?.getD s.user
    password := properties[passwordProperty]?.getD s.password
    database := properties[databaseProperty]?.getD s.database }

/-- Takes over the properties that are there. The texts come first and then the two sizes; the
first bad size ends it, and what was taken over before stays. -/
def applyProperties (s : Settings) (properties : Properties) : Except Error Unit × Settings :=
  let s := s.applyTexts properties
  match sizeProperty properties maxConnectionsProperty with
  | .error e => (.error e, s)
  | .ok maxConnections =>
    let s := { s with maxConnections := maxConnections <|> s.maxConnections }
    match sizeProperty properties fetchSizeProperty with
    | .error e => (.error e, s)
    | .ok fetchSize => (.ok (), { s with fetchSize := fetchSize <|> s.fetchSize })

/-! ### Diagnostics -/

/-- The diagnostic form of an optional size. -/
def describeSize : Option Nat → String
  | none => "None"
  | some n => "Some(" ++ toString n ++ ")"

/-- The diagnostic form of settings. The password does not show, nor whether there is one. -/
def describe (s : Settings) : String :=
  "ConnectionSettings \x7b url: " ++ Text.quote s.url ++ ", user: " ++ Text.quote s.user ++
    ", password: SecretBox<str>([REDACTED]), database: " ++ Text.quote s.database ++
    ", max_connections: " ++ describeSize s.maxConnections ++
    ", fetch_size: " ++ describeSize s.fetchSize ++ " \x7d"

end Settings

end KeyedGraph
