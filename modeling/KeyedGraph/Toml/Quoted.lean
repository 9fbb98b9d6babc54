import KeyedGraph.Toml.Scalar

/-!
# Quoted text and keys

Basic strings with escapes, literal strings without, the multi-line form of both, and the keys
that are written bare or quoted.
-/

namespace KeyedGraph.Toml

/-- Whether a character may stand in a string or comment: no control character but the tab. -/
def isPlain (c : Char) : Bool :=
  c == '\t' || (0x20 ≤ c.toNat && c.toNat != 0x7F)

/-- Whether a character is a blank within a line. -/
def isLineBlank (c : Char) : Bool :=
  c == ' ' || c == '\t'

/-- Passes over blanks within a line. -/
def skipBlanks (cs : List Char) : List Char :=
  cs.dropWhile isLineBlank

/-! ### Escapes -/

/-- Reads exactly this many hexadecimal digits. -/
def fixedHex? : Nat → Nat → List Char → Option (Nat × List Char)
  | 0, value, cs => some (value, cs)
  | n + 1, value, c :: cs => do
    let d ← hexValue? c
    fixedHex? n (16 * value + d) cs
  | _ + 1, _, [] => none

/-- Reads the code point of a character, with this many hexadecimal digits. -/
def codePoint? (digits : Nat) (cs : List Char) : Option (Char × List Char) := do
  let (n, cs) ← fixedHex? digits 0 cs
  if n.isValidChar then some (Char.ofNat n, cs) else none

/-- Reads what follows the backslash of an escape. -/
def escape? : List Char → Option (Char × List Char)
  | 'b' :: cs => some ('\x08', cs)
  | 't' :: cs => some ('\t', cs)
  | 'n' :: cs => some ('\n', cs)
  | 'f' :: cs => some ('\x0c', cs)
  | 'r' :: cs => some ('\r', cs)
  | 'e' :: cs => some ('\x1b', cs)
  | '"' :: cs => some ('"', cs)
  | '\\' :: cs => some ('\\', cs)
  | 'x' :: cs => codePoint? 2 cs
  | 'u' :: cs => codePoint? 4 cs
  | 'U' :: cs => codePoint? 8 cs
  | _ => none

/-! ### Strings within a line -/

/-- Reads a basic string after its opening quote; `n` bounds the characters to go. -/
def basicTail : Nat → List Char → Option (List Char × List Char)
  | 0, _ => none
  | _ + 1, [] => none
  | _ + 1, '"' :: cs => some ([], cs)
  | n + 1, '\\' :: cs => do
    let (c, cs) ← escape? cs
    let (s, cs) ← basicTail n cs
    some (c :: s, cs)
  | n + 1, c :: cs =>
    if isPlain c then do
      let (s, cs) ← basicTail n cs
      some (c :: s, cs)
    else none

/-- Reads a literal string after its opening quote. -/
def literalTail : List Char → Option (List Char × List Char)
  | [] => none
  | '\'' :: cs => some ([], cs)
  | c :: cs =>
    if isPlain c then do
      let (s, cs) ← literalTail cs
      some (c :: s, cs)
    else none

/-! ### Strings over several lines -/

/-- Drops the line break right after the opening quotes. -/
def dropFirstBreak : List Char → List Char
  | '\n' :: cs => cs
  | '\r' :: '\n' :: cs => cs
  | cs => cs

/-- Whether what follows a backslash is the end of its line. -/
def endsLine (cs : List Char) : Bool :=
  match skipBlanks cs with
  | '\n' :: _ => true
  | '\r' :: '\n' :: _ => true
  | _ => false

/-- Passes over blanks and line breaks. -/
def skipBreaks : List Char → List Char
  | '\r' :: '\n' :: cs => skipBreaks cs
  | c :: cs => if isLineBlank c || c == '\n' then skipBreaks cs else c :: cs
  | [] => []

/-- Ends a string at three quotes; up to two more of them belong to the string. -/
def closeQuotes (quote : Char) (cs : List Char) : Option (List Char × List Char) :=
  let more := cs.takeWhile (· == quote)
  if more.length ≤ 2 then some (more, cs.dropWhile (· == quote)) else none

/-- Reads a basic string over several lines after its opening quotes. -/
def multiBasicTail : Nat → List Char → Option (List Char × List Char)
  | 0, _ => none
  | _ + 1, [] => none
  | _ + 1, '"' :: '"' :: '"' :: cs => closeQuotes '"' cs
  | n + 1, '\\' :: cs =>
    if endsLine cs then multiBasicTail n (skipBreaks cs)
    else do
      let (c, cs) ← escape? cs
      let (s, cs) ← multiBasicTail n cs
      some (c :: s, cs)
  | n + 1, '\r' :: '\n' :: cs => do
    let (s, cs) ← multiBasicTail n cs
    some ('\r' :: '\n' :: s, cs)
  | n + 1, c :: cs =>
    if isPlain c || c == '\n' then do
      let (s, cs) ← multiBasicTail n cs
      some (c :: s, cs)
    else none

/-- Reads a literal string over several lines after its opening quotes. -/
def multiLiteralTail : List Char → Option (List Char × List Char)
  | [] => none
  | '\'' :: '\'' :: '\'' :: cs => closeQuotes '\'' cs
  | '\r' :: '\n' :: cs => do
    let (s, cs) ← multiLiteralTail cs
    some ('\r' :: '\n' :: s, cs)
  | c :: cs =>
    if isPlain c || c == '\n' then do
      let (s, cs) ← multiLiteralTail cs
      some (c :: s, cs)
    else none

/-- Reads the quoted text that a text starts with. -/
def quotedText? : List Char → Option (List Char × List Char)
  | '"' :: '"' :: '"' :: cs => multiBasicTail (cs.length + 1) (dropFirstBreak cs)
  | '"' :: cs => basicTail (cs.length + 1) cs
  | '\'' :: '\'' :: '\'' :: cs => multiLiteralTail (dropFirstBreak cs)
  | '\'' :: cs => literalTail cs
  | _ => none

/-! ### Keys -/

/-- Whether a character may stand in a bare key. -/
def isBareKeyChar (c : Char) : Bool :=
  c.isAlphanum || c == '_' || c == '-'

/-- Reads one key: bare, or quoted within its line. -/
def simpleKey? : List Char → Option (String × List Char)
  | '"' :: cs => do
    let (s, cs) ← basicTail (cs.length + 1) cs
    some (String.ofList s, cs)
  | '\'' :: cs => do
    let (s, cs) ← literalTail cs
    some (String.ofList s, cs)
  | cs =>
    match cs.takeWhile isBareKeyChar with
    | [] => none
    | s => some (String.ofList s, cs.dropWhile isBareKeyChar)

/-- Reads keys with dots between them, and blanks around each; `n` bounds their number. -/
def dottedKeyUpTo : Nat → List Char → Option (List String × List Char)
  | 0, _ => none
  | n + 1, cs => do
    let (key, cs) ← simpleKey? (skipBlanks cs)
    match skipBlanks cs with
    | '.' :: cs => do
      let (keys, cs) ← dottedKeyUpTo n cs
      some (key :: keys, cs)
    | cs => some ([key], cs)

/-- Reads a dotted key and the blanks around it. -/
def dottedKey? (cs : List Char) : Option (List String × List Char) :=
  dottedKeyUpTo (cs.length + 1) cs

end KeyedGraph.Toml
