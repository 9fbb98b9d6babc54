import KeyedGraph.Bolt

/-!
# Scripted servers

A scripted server answers queries from a list of replies and keeps a log of what it was sent. It
serves to see what a store makes of a server's answers.
-/

namespace KeyedGraph.Bolt

/-- A reply to one query: its columns and rows, and which of the messages about it fails. -/
structure ScriptedReply where
  columns : List String := []
  rows : List (List Value) := []
  runFailure : Option String := none
  pullFailure : Option String := none
  discardFailure : Option String := none

/-- A message that a server was sent. -/
inductive WireMessage
  | hello (user password : String)
  | run (text : String) (params : List (String × Param)) (database : String)
  | pull (n : Nat)

/-- A scripted server: whether it can be reached, the replies that are left, the failure of the
probe, the links that have introduced themselves, and the log. -/
structure Script where
  reachable : Bool := true
  replies : List ScriptedReply := []
  probeFailure : Option String := none
  known : List Nat := []
  wire : List WireMessage := []

namespace Script

/-- What a link hears of a server that cannot be reached. -/
def refusal : String := "connection refused"

/-- The messages that a link sends with a query: it introduces itself first. -/
def sent (s : Script) (link : Link) (q : Query) : Script :=
  let hello :=
    if s.known.contains link.id then []
    else [WireMessage.hello link.settings.user link.settings.password]
  { s with
    known := if s.known.contains link.id then s.known else link.id :: s.known
    wire := s.wire ++ hello ++ [.run q.text q.params link.settings.database] }

/-- Takes the next reply; behind the last all replies are empty. -/
def nextReply (s : Script) : ScriptedReply × Script :=
  match s.replies with
  | [] => ({}, s)
  | reply :: rest => (reply, { s with replies := rest })

/-- How often rows are pulled: at least once, and on as long as rows are left. -/
def pullCount (rows size : Nat) : Nat :=
  max 1 ((rows + size - 1) / size)

/-- The rows of a reply by their columns. -/
def ScriptedReply.stream (reply : ScriptedReply) : Stream :=
  { rows := reply.rows.map fun values => reply.columns.zip values
    failure := reply.pullFailure }

/-- Answers a query with rows. -/
def fetch (link : Link) (q : Query) (s : Script) : Except String Stream × Script :=
  if !s.reachable then (.error refusal, s)
  else
    let (reply, s) := (s.sent link q).nextReply
    match reply.runFailure with
    | some message => (.error message, s)
    | none =>
      let size := link.settings.fetchSize.getD standardFetchSize
      let pulls := List.replicate (pullCount reply.rows.length size) (WireMessage.pull size)
      (.ok (ScriptedReply.stream reply), { s with wire := s.wire ++ pulls })

/-- The end of a query without an answer: the first message that fails decides. -/
def failureOf : Option String → Except String Unit
  | some message => .error message
  | none => .ok ()

/-- Runs a query without an answer. The probe takes no reply. -/
def run (link : Link) (q : Query) (s : Script) : Except String Unit × Script :=
  if !s.reachable then (.error refusal, s)
  else
    let s := s.sent link q
    match q.statement with
    | .probe => (failureOf s.probeFailure, s)
    | .on _ _ =>
      let (reply, s) := s.nextReply
      (failureOf (reply.runFailure <|> reply.discardFailure), s)

/-- The server that follows a script. -/
def server : Server Script :=
  { fetch, run }

end Script

end KeyedGraph.Bolt
