import KeyedGraph.Bolt.Address
import KeyedGraph.Bolt.Value
import KeyedGraph.Store

/-!
# The store behind a Bolt server

A handle is a link to a server. Each call becomes one query; its rows are read whole before
anything is made of them, so that a call answers in full or fails. A link makes its first contact
with the server when it sends its first query.
-/

namespace KeyedGraph.Bolt

/-- A link to a server, with the settings that it was opened with. Links are numbered from
zero. -/
structure Link where
  id : Nat
  settings : Settings
deriving DecidableEq, Repr

/-- What a server does with queries: it answers with rows, or runs a query without an answer.
What it remembers is of the type `τ`. -/
structure Server (τ : Type) where
  fetch : Link → Query → τ → Except String Stream × τ
  run : Link → Query → τ → Except String Unit × τ

/-- A server's state, how many links to it were opened, and which of them are closed. -/
structure Links (τ : Type) where
  server : τ
  opened : Nat := 0
  closedLinks : List Nat := []

/-- How many rows are fetched at a time if the settings do not say. -/
def standardFetchSize : Nat := 200

/-- The name of a kind of call in errors. -/
def callName : CallKind → String
  | .verifyConnectivity => "neo4j_verify_connectivity"
  | .readNode => "neo4j_read"
  | .scanNodes => "neo4j_scan"
  | .replaceNode => "neo4j_update"
  | .createNode => "neo4j_insert"
  | .deleteNodes => "neo4j_delete"
  | .close => "neo4j_close"

/-- A link was opened. -/
def poolCreated (settings : Settings) : Event :=
  .log {
    level := .debug
    target := "graphkv::storage::neo4j::implementation"
    message := "Bolt pool created"
    fields := [("url", .message settings.url), ("database", .message settings.database)] }

variable {τ : Type}

namespace Links

/-- Whether a link is closed. -/
def isClosed (w : Links τ) (link : Link) : Bool :=
  w.closedLinks.contains link.id

/-- Closes a link. -/
def closeLink (w : Links τ) (link : Link) : Links τ :=
  if w.isClosed link then w else { w with closedLinks := link.id :: w.closedLinks }

end Links

/-- Opens a link. The settings have to be valid and their URL the address of a server. -/
def connect (settings : Settings) (w : Links τ) : Attempt (Links τ) Link :=
  match settings.validate with
  | .error cause => .failed cause w
  | .ok () =>
    if isServerUrl settings.url then
      { outcome := .ok ⟨w.opened, settings⟩
        world := { w with opened := w.opened + 1 }
        events := [poolCreated settings] }
    else .failed (.connection settings.url "the URL names no server") w

/-- Sends a query and makes something of its rows. -/
def fetchWith {α : Type} (server : Server τ) (link : Link) (kind : CallKind) (q : Query)
    (read : Stream → Except FailureCause α) (w : Links τ) : Attempt (Links τ) α :=
  match server.fetch link q w.server with
  | (.error message, inner) =>
    .failed (.operationFailed (callName kind) (.server message)) { w with server := inner }
  | (.ok stream, inner) =>
    match read stream with
    | .ok value => .done value { w with server := inner }
    | .error cause => .failed (.operationFailed (callName kind) cause) { w with server := inner }

/-- Sends a query whose rows do not matter. -/
def runWith (server : Server τ) (link : Link) (q : Query) (failure : String → Error)
    (w : Links τ) : Attempt (Links τ) Unit :=
  match server.run link q w.server with
  | (.error message, inner) => .failed (failure message) { w with server := inner }
  | (.ok (), inner) => .done () { w with server := inner }

/-- The answer to a call on a link that is open. -/
def answer (server : Server τ) (link : Link) :
    (c : StoreCall) → Links τ → Attempt (Links τ) c.Reply
  | .verifyConnectivity, w => runWith server link .probe (.connection link.settings.url) w
  | .readNode label key, w => fetchWith server link .readNode (.read label key) Stream.first w
  | .scanNodes label start limit, w =>
    fetchWith server link .scanNodes (.scan label start limit) Stream.nodes w
  | .replaceNode label key values, w =>
    fetchWith server link .replaceNode (.update label key values) (Stream.count matchedColumn) w
  | .createNode label key values, w =>
    runWith server link (.insert label key values)
      (fun message => .operationFailed (callName .createNode) (.server message)) w
  | .deleteNodes label key, w =>
    fetchWith server link .deleteNodes (.delete label key) (Stream.count deletedColumn) w
  | .close, w => .done () w

/-- Makes a call on a link. Closing always succeeds; every other call on a closed link fails. -/
def call (server : Server τ) (link : Link) :
    (c : StoreCall) → Links τ → Attempt (Links τ) c.Reply
  | .close, w => .done () (w.closeLink link)
  | c, w =>
    if w.isClosed link then .failed (.operationFailed (callName c.kind) .connectionClosed) w
    else answer server link c w

/-- The backend whose nodes a Bolt server keeps. -/
def backend (server : Server τ) : Backend (Links τ) Link :=
  { connect, call := call server }

end KeyedGraph.Bolt
