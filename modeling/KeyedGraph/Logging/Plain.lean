import KeyedGraph.JsonValue
import KeyedGraph.Logging.Directive
import KeyedGraph.Text.Quoted

/-!
# Plain lines

The lines that a process with one thread writes outside of all spans: a text with the fields
behind the message, or a JSON object. They have neither colours nor the time at which they are
written.
-/

namespace KeyedGraph

/-- The name of the thread that writes the log. -/
def logThread : String := "main"

/-- The identity of the thread that writes the log, as text lines show it. -/
def paddedThreadId : String := "ThreadId(01)"

/-- The identity of the thread that writes the log, as structured lines show it. -/
def plainThreadId : String := "ThreadId(1)"

/-- The parts of a plain line. -/
inductive PlainLine
  | text (level : LogLevel) (threads : List String) (target message : String)
  | json (record : LogRecord) (threadName threadId : String)
deriving DecidableEq, Repr

/-! ### Text lines -/

/-- The value of a field in a text line. -/
def FieldValue.shown : FieldValue → String
  | .message content => content
  | .text content => Text.quote content
  | .number n => toString n

/-- The message of a record in a text line, with its fields behind it. -/
def LogRecord.shown (r : LogRecord) : String :=
  r.fields.foldl (fun line (name, value) => line ++ " " ++ name ++ "=" ++ value.shown) r.message

/-- The threads that a text line names. -/
def Layout.threads (layout : Layout) : List String :=
  if layout.threadIds then [logThread, paddedThreadId] else [logThread]

/-! ### Structured lines -/

/-- The value of a field in a structured line. -/
def FieldValue.written : FieldValue → String
  | .message content => JsonValue.writeText content
  | .text content => JsonValue.writeText content
  | .number n => toString n

/-- An object on one line, from its names and the written forms of its values. -/
def compactObject (members : List (String × String)) : String :=
  "\x7b" ++ ",".intercalate (members.map fun (name, value) =>
    JsonValue.writeText name ++ ":" ++ value) ++ "\x7d"

/-! ### Lines -/

/-- The parts of a line that was written outside of all spans. -/
def LogLine.plain (line : LogLine) : PlainLine :=
  let r := line.emission.record
  match line.layout.format with
  | .pretty => .text r.level line.layout.threads r.target r.shown
  | .json => .json r logThread plainThreadId

/-- The text of a line. -/
def PlainLine.render : PlainLine → String
  | .text level threads target message =>
    " ".intercalate (level.name :: threads ++ [target ++ ": " ++ message])
  | .json r name id =>
    compactObject
      [("level", JsonValue.writeText r.level.name),
        ("fields", compactObject (("message", JsonValue.writeText r.message) ::
          r.fields.map fun (field, value) => (field, value.written))),
        ("target", JsonValue.writeText r.target), ("threadName", JsonValue.writeText name),
        ("threadId", JsonValue.writeText id)]

/-- The library that reads plain directives and writes plain lines. -/
def plainLibrary : LogLibrary where
  readFilter := Directives.read
  readFilterLeniently := Directives.readLeniently
  form _ line := (line.plain.render ++ "\n").toUTF8

end KeyedGraph
