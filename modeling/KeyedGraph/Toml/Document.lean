import KeyedGraph.Toml.Quoted

/-!
# Documents

Reads a TOML document (version 1.1) as the entries of its root table. A text that is not a
document has no reading; which of its faults comes first is of no interest here.
-/

namespace KeyedGraph.Toml

/-! ### Lines and fillers -/

/-- Passes over blanks, line breaks and comments. -/
def skipFiller (inComment : Bool) : List Char → Option (List Char)
  | [] => some []
  | '\n' :: cs => skipFiller false cs
  | '\r' :: '\n' :: cs => skipFiller false cs
  | c :: cs =>
    if inComment then (if isPlain c then skipFiller true cs else none)
    else if isLineBlank c then skipFiller false cs
    else if c == '#' then skipFiller true cs
    else some (c :: cs)

/-- Passes over the rest of a line, which may hold blanks and a comment. -/
def endLine (inComment : Bool) : List Char → Option (List Char)
  | [] => some []
  | '\n' :: cs => some cs
  | '\r' :: '\n' :: cs => some cs
  | c :: cs =>
    if inComment then (if isPlain c then endLine true cs else none)
    else if isLineBlank c then endLine false cs
    else if c == '#' then endLine true cs
    else none

/-! ### Values -/

/-- Reads the items of an array after its bracket or a comma; `n` bounds their number. -/
def arrayItems (value? : List Char → Option (Value × List Char)) :
    Nat → List Char → Option (List Value × List Char)
  | 0, _ => none
  | n + 1, cs => do
    match ← skipFiller false cs with
    | ']' :: cs => some ([], cs)
    | cs =>
      let (value, cs) ← value? cs
      match ← skipFiller false cs with
      | ',' :: cs => do
        let (values, cs) ← arrayItems value? n cs
        some (value :: values, cs)
      | ']' :: cs => some ([value], cs)
      | _ => none

/-- How many parts a key may have. -/
def maxKeyParts : Nat := 80

/-- Reads a key that does not have too many parts, and the blanks behind it. -/
def key? (cs : List Char) : Option (List String × List Char) := do
  let (keys, cs) ← dottedKey? cs
  if keys.length ≤ maxKeyParts then some (keys, cs) else none

/-- Reads a key, the equals sign and a value; `skip` passes over what may stand around the
sign. -/
def keyValue? (skip : List Char → Option (List Char))
    (value? : List Char → Option (Value × List Char)) (cs : List Char) :
    Option (List String × Value × List Char) := do
  let (keys, cs) ← key? cs
  match ← skip cs with
  | '=' :: cs => do
    let (value, cs) ← value? (← skip cs)
    some (keys, value, cs)
  | _ => none

/-- Reads the entries of an inline table after its brace or a comma. Line breaks and comments may
stand wherever blanks may, but not inside a key. -/
def inlineEntries (value? : List Char → Option (Value × List Char)) :
    Nat → Entries → List Char → Option (Entries × List Char)
  | 0, _, _ => none
  | n + 1, entries, cs => do
    match ← skipFiller false cs with
    | '\x7d' :: cs => some (entries, cs)
    | cs =>
      let (keys, value, cs) ← keyValue? (skipFiller false) value? cs
      let entries ← entries.assign value keys
      match ← skipFiller false cs with
      | ',' :: cs => inlineEntries value? n entries cs
      | '\x7d' :: cs => some (entries, cs)
      | _ => none

/-- How deep arrays and inline tables may be nested. -/
def maxNesting : Nat := 80

/-- Reads the value that a text starts with; `depth` more brackets may be opened. -/
def readValue (depth : Nat) (cs : List Char) : Option (Value × List Char) :=
  match cs, depth with
  | '[' :: cs, depth + 1 => do
    let (items, cs) ← arrayItems (readValue depth) (cs.length + 1) cs
    some (.array items, cs)
  | '\x7b' :: cs, depth + 1 => do
    let (entries, cs) ← inlineEntries (readValue depth) (cs.length + 1) [] cs
    some (.table .inline entries, cs)
  | '[' :: _, 0 => none
  | '\x7b' :: _, 0 => none
  | c :: rest, _ =>
    if c == '"' || c == '\'' then do
      let (s, cs) ← quotedText? (c :: rest)
      some (.text (String.ofList s), cs)
    else readScalar (c :: rest)
  | [], _ => none

/-! ### Sections -/

/-- Reads the lines that are left. The entries of a line go into the table that the last header
named; `n` bounds the number of lines. -/
def readLines : Nat → List String → Entries → List Char → Option Entries
  | 0, _, _, _ => none
  | n + 1, header, root, cs =>
    match skipBlanks cs with
    | [] => some root
    | '[' :: '[' :: cs => do
      let (path, cs) ← key? cs
      match cs with
      | ']' :: ']' :: cs => do
        let key ← path.getLast?
        let root ← Entries.changeAt (·.openElement key) path.dropLast root
        readLines n path root (← endLine false cs)
      | _ => none
    | '[' :: cs => do
      let (path, cs) ← key? cs
      match cs with
      | ']' :: cs => do
        let key ← path.getLast?
        let root ← Entries.changeAt (·.openTable key) path.dropLast root
        readLines n path root (← endLine false cs)
      | _ => none
    | c :: cs =>
      if c == '\n' || c == '\r' || c == '#' then do
        readLines n header root (← endLine false (c :: cs))
      else do
        let (keys, value, cs) ← keyValue? (some ∘ skipBlanks) (readValue maxNesting) (c :: cs)
        let root ← Entries.changeAt (·.assign value keys) header root
        readLines n header root (← endLine false cs)

/-- Reads a document; a byte order mark at its start is passed over. -/
def readDocument (s : String) : Option Entries :=
  let cs := match s.toList with
    | '\ufeff' :: cs => cs
    | cs => cs
  readLines (cs.length + 1) [] [] cs

end KeyedGraph.Toml
