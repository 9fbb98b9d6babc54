import KeyedGraph.Text.Identifier

/-!
# The syntax of query texts

The texts of queries are written in a small part of Cypher: a pattern that matches or creates
nodes of one label, clauses that work on the nodes that were found, and a projection of what is
returned. The reader here knows nothing of the statements that the store sends: it splits a text
into tokens and reads the tokens.
-/

namespace KeyedGraph.Cypher

/-! ### Tokens -/

/-- The words that the language reserves. -/
inductive Keyword
  | MATCH
  | CREATE
  | WHERE
  | SET
  | DETACH
  | DELETE
  | RETURN
  | COUNT
  | AS
  | ORDER
  | BY
  | LIMIT
deriving DecidableEq

/-- How a reserved word is written. -/
def Keyword.chars : Keyword → List Char
  | .MATCH => ['M', 'A', 'T', 'C', 'H']
  | .CREATE => ['C', 'R', 'E', 'A', 'T', 'E']
  | .WHERE => ['W', 'H', 'E', 'R', 'E']
  | .SET => ['S', 'E', 'T']
  | .DETACH => ['D', 'E', 'T', 'A', 'C', 'H']
  | .DELETE => ['D', 'E', 'L', 'E', 'T', 'E']
  | .RETURN => ['R', 'E', 'T', 'U', 'R', 'N']
  | .COUNT => ['c', 'o', 'u', 'n', 't']
  | .AS => ['A', 'S']
  | .ORDER => ['O', 'R', 'D', 'E', 'R']
  | .BY => ['B', 'Y']
  | .LIMIT => ['L', 'I', 'M', 'I', 'T']

/-- The reserved word that is written so. -/
def keyword? (cs : List Char) : Option Keyword :=
  [.MATCH, .CREATE, .WHERE, .SET, .DETACH, .DELETE, .RETURN, .COUNT, .AS, .ORDER, .BY,
    .LIMIT].find? fun keyword => keyword.chars = cs

/-- A token of a query text: a reserved word, a numeral, a name, a parameter without its dollar
sign, a quoted name without its backticks, or a symbol. -/
inductive Token
  | keyword (k : Keyword)
  | number (n : Nat)
  | name (s : String)
  | parameter (s : String)
  | quoted (s : String)
  | symbol (c : Char)
  | atLeast
deriving DecidableEq

/-- A piece of a token, as characters are read from the right: words are still growing, and a gap
keeps two of them apart. -/
inductive Piece
  | word (cs : List Char)
  | parameter (cs : List Char)
  | quoted (cs : List Char)
  | symbol (c : Char)
  | atLeast
  | gap
deriving DecidableEq

/-- Puts a character of a word before the pieces that follow it. -/
def pushLetter (c : Char) : List Piece → List Piece
  | .word cs :: rest => .word (c :: cs) :: rest
  | pieces => .word [c] :: pieces

/-- Puts any other character before the pieces that follow it. -/
def pushMark (c : Char) (pieces : List Piece) : List Piece :=
  match c, pieces with
  | ' ', _ => .gap :: pieces
  | '$', .word cs :: rest => .parameter cs :: rest
  | '`', .word cs :: .symbol '`' :: rest => .quoted cs :: rest
  | '>', .symbol '=' :: rest => .atLeast :: rest
  | _, _ => .symbol c :: pieces

/-- Puts a character before the pieces that follow it. -/
def push (c : Char) (pieces : List Piece) : List Piece :=
  if Text.continuesIdentifier c then pushLetter c pieces else pushMark c pieces

/-- The number that digits stand for. -/
def number (digits : List Char) : Nat :=
  digits.foldl (fun n c => 10 * n + (c.toNat - '0'.toNat)) 0

/-- The token of a word. -/
def wordToken (cs : List Char) : Token :=
  match keyword? cs with
  | some keyword => .keyword keyword
  | none => if cs.all Char.isDigit then .number (number cs) else .name (String.ofList cs)

/-- The token of a piece. -/
def Piece.token? : Piece → Option Token
  | .word cs => some (wordToken cs)
  | .parameter cs => some (.parameter (String.ofList cs))
  | .quoted cs => some (.quoted (String.ofList cs))
  | .symbol c => some (.symbol c)
  | .atLeast => some .atLeast
  | .gap => none

/-- The pieces of a text. -/
def pieces (cs : List Char) : List Piece :=
  cs.foldr push []

/-- The tokens of a text. -/
def tokens (text : String) : List Token :=
  (pieces text.toList).filterMap Piece.token?

/-! ### Commands -/

/-- The pattern that a command opens with. It has a name for its nodes and their label; nodes are
matched all, or those with a property of which the value is a parameter. -/
inductive Opening
  | matchAll (name label : String)
  | matchProperty (name label property parameter : String)
  | create (name label : String)
deriving DecidableEq

/-- A clause about the nodes of the pattern. -/
inductive Clause
  | whereAtLeast (name property parameter : String)
  | set (name parameter : String)
  | detachDelete (name : String)
deriving DecidableEq

/-- What is returned: the nodes, or how many there are; rows are counted without a name. -/
inductive Item
  | node (name : String)
  | count (name : Option String) (column : String)
deriving DecidableEq

/-- A bound on how many rows are returned. -/
inductive Bound
  | number (n : Nat)
  | parameter (name : String)
deriving DecidableEq

/-- What is returned, by which property it is ordered, and how many rows there may be. -/
structure Projection where
  item : Item
  order : Option (String × String) := none
  limit : Option Bound := none
deriving DecidableEq

/-- A command: a number to return, or a pattern with what is done to its nodes. -/
inductive Command
  | number (n : Nat)
  | on (opening : Opening) (clauses : List Clause) (projection : Option Projection)
deriving DecidableEq

/-! ### Reading -/

/-- Reads the pattern that a command opens with. -/
def readOpening : List Token → Option (Opening × List Token)
  | .keyword .MATCH ::
    .symbol '(' :: .name v :: .symbol ':' :: .quoted l :: .symbol ')' :: rest =>
    some (.matchAll v l, rest)
  | .keyword .MATCH :: .symbol '(' :: .name v :: .symbol ':' :: .quoted l :: .symbol '\x7b' ::
      .name p :: .symbol ':' :: .parameter q :: .symbol '\x7d' :: .symbol ')' :: rest =>
    some (.matchProperty v l p q, rest)
  | .keyword .CREATE ::
    .symbol '(' :: .name v :: .symbol ':' :: .quoted l :: .symbol ')' :: rest =>
    some (.create v l, rest)
  | _ => none

/-- Reads the bound at the end of a projection. -/
def readLimit : List Token → Option (Option Bound)
  | [] => some none
  | [.keyword .LIMIT, .parameter q] => some (some (.parameter q))
  | [.keyword .LIMIT, .number n] => some (some (.number n))
  | _ => none

/-- Reads the order of a projection and then its bound. -/
def readOrder : List Token → Option (Option (String × String) × Option Bound)
  | .keyword .ORDER :: .keyword .BY :: .name v :: .symbol '.' :: .name p :: rest =>
    (readLimit rest).map fun limit => (some (v, p), limit)
  | rest => (readLimit rest).map fun limit => (none, limit)

/-- Reads what is projected. -/
def readItem : List Token → Option (Item × List Token)
  | .keyword .COUNT :: .symbol '(' :: .symbol '*' :: .symbol ')' :: .keyword .AS :: .name a ::
      rest => some (.count none a, rest)
  | .keyword .COUNT :: .symbol '(' :: .name v :: .symbol ')' :: .keyword .AS ::
    .name a :: rest =>
    some (.count (some v) a, rest)
  | .name v :: rest => some (.node v, rest)
  | _ => none

/-- Reads a projection, behind its first word. -/
def readProjection (tokens : List Token) : Option Projection :=
  match readItem tokens with
  | some (item, rest) => (readOrder rest).map fun (order, limit) => { item, order, limit }
  | none => none

/-- Reads the clauses of a command, and the projection if there is one. -/
def readClauses : List Token → Option (List Clause × Option Projection)
  | [] => some ([], none)
  | .keyword .WHERE :: .name v :: .symbol '.' :: .name p :: .atLeast :: .parameter q :: rest =>
    (readClauses rest).map fun (clauses, projection) =>
      (.whereAtLeast v p q :: clauses, projection)
  | .keyword .SET :: .name v :: .symbol '=' :: .parameter q :: rest =>
    (readClauses rest).map fun (clauses, projection) => (.set v q :: clauses, projection)
  | .keyword .DETACH :: .keyword .DELETE :: .name v :: rest =>
    (readClauses rest).map fun (clauses, projection) => (.detachDelete v :: clauses, projection)
  | .keyword .RETURN :: rest => (readProjection rest).map fun projection => ([], some projection)
  | _ => none

/-- Reads a command. -/
def readCommand (tokens : List Token) : Option Command :=
  match tokens with
  | [.keyword .RETURN, .number n] => some (.number n)
  | _ =>
    match readOpening tokens with
    | some (opening, rest) =>
      (readClauses rest).map fun (clauses, projection) => .on opening clauses projection
    | none => none

/-- The command that a query text stands for. -/
def parse (text : String) : Option Command :=
  readCommand (tokens text)

end KeyedGraph.Cypher
