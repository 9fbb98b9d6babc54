import KeyedGraph.Logging.Config
import KeyedGraph.Text.Alphanumeric
import KeyedGraph.Text.Numeral

/-!
# Plain directives

A filter may be described by plain directives, each of which says how verbose the records of a
target may be. The most specific directive that covers a record's target decides about it:
directives with longer targets come first, and a directive for all targets comes last. A
directive with brackets or braces, which is about spans or fields, is not plain and not read
here.
-/

namespace KeyedGraph

/-- How verbose the records of a target may be; without a level none passes. -/
structure Directive where
  target : Option String
  level : Option LogLevel
deriving DecidableEq, Repr

/-- Directives, the most specific first and at most one for each target. -/
abbrev Directives := List Directive

/-! ### Levels -/

/-- The name of a bound on levels. -/
def boundName : Option LogLevel → String
  | none => "off"
  | some .error => "error"
  | some .warn => "warn"
  | some .info => "info"
  | some .debug => "debug"
  | some .trace => "trace"

/-- The bounds on levels, by how much they let pass. -/
def bounds : List (Option LogLevel) :=
  [none, some .error, some .warn, some .info, some .debug, some .trace]

/-- Reads a bound on levels: its name in any case, or its rank. -/
def readBound (s : String) : Option (Option LogLevel) :=
  match bounds.find? fun b => boundName b == asciiLower s with
  | some b => some b
  | none =>
    match Text.readNumeral s.toList with
    | .ok rank => bounds[rank]?
    | .error _ => none

/-! ### Directives -/

namespace Directive

/-- Whether a plain directive may start with this character: a letter or digit, or one of three
marks. -/
def startsDirective (c : Char) : Bool :=
  Text.isAlphanumeric c || c == '-' || c == ':' || c == '_'

/-- Whether a character marks what a directive says about spans or fields. -/
def marksSpan (c : Char) : Bool :=
  c == '[' || c == ']' || c == '\x7b' || c == '\x7d'

/-- Reads a plain directive: a level, a target, or a target and its level. A target without a
level lets everything pass. Blanks belong to the target or the level that they stand at, so that
no level has any; in front of a target that a level follows there may be none. -/
def parse (s : String) : Option Directive :=
  match s.toList.dropWhile Text.isBlank with
  | [] => none
  | c :: _ =>
    if !startsDirective c || s.toList.any marksSpan then none
    else
      match s.toList.span (· != '=') with
      | (_, []) =>
        match readBound s with
        | some level => some ⟨none, level⟩
        | none => some ⟨some s, some .trace⟩
      | (target, _ :: level) =>
        if target.head? != some c then none
        else if level.isEmpty then some ⟨some (String.ofList target), some .trace⟩
        else (readBound (String.ofList level)).map fun level =>
          ⟨some (String.ofList target), level⟩

/-- The text of a directive. -/
def text (d : Directive) : String :=
  match d.target with
  | some target => target ++ "=" ++ boundName d.level
  | none => boundName d.level

/-- Whether a directive speaks of the records of a target. -/
def covers (d : Directive) (target : String) : Bool :=
  match d.target with
  | some start => target.startsWith start
  | none => true

/-- Whether a directive lets records of a level pass. -/
def lets (d : Directive) (level : LogLevel) : Bool :=
  match d.level with
  | some bound => level.rank ≤ bound.rank
  | none => false

/-- Whether one directive stands before another: the one with the longer target, and of two
targets of one length the greater. -/
def before (d e : Directive) : Bool :=
  match d.target, e.target with
  | some s, some t =>
    t.utf8ByteSize < s.utf8ByteSize || (s.utf8ByteSize == t.utf8ByteSize && decide (t < s))
  | some _, none => true
  | none, _ => false

end Directive

/-! ### Filters -/

namespace Directives

/-- Adds a directive at its place; one for the same target is replaced. -/
def add (d : Directive) : Directives → Directives
  | [] => [d]
  | e :: rest =>
    if d.target = e.target then d :: rest
    else if d.before e then d :: e :: rest
    else e :: add d rest

/-- The directives in their order, of which the later replaces the earlier for the same
target. -/
def arrange (directives : List Directive) : Directives :=
  directives.foldl (fun ds d => add d ds) []

/-- Whether a record of this level and target passes. -/
def passes (ds : Directives) (level : LogLevel) (target : String) : Bool :=
  match ds.find? fun d => d.covers target with
  | some d => d.lets level
  | none => false

/-- The filter of directives. Plain ones look at the level and the target of a record only. -/
def filter (ds : Directives) : Filter where
  text := ",".intercalate (ds.map Directive.text)
  passes emission := ds.passes emission.record.level emission.record.target

/-- The texts of the directives between commas. What is empty between two commas does not
count. -/
def parts (s : String) : List String :=
  ((s.toList.splitOn ',').filter (!·.isEmpty)).map String.ofList

/-- Reads a filter of plain directives. -/
def read (s : String) : Option Filter :=
  ((parts s).mapM Directive.parse).map fun ds => (arrange ds).filter

/-- Reads a filter of those directives that are plain. -/
def readLeniently (s : String) : Filter :=
  (arrange ((parts s).filterMap Directive.parse)).filter

end Directives

end KeyedGraph
