import KeyedGraph.Record

/-!
# JSON results

Results are written as JSON over several lines, each level indented by two blanks.
-/

namespace KeyedGraph

/-- The values that results are made of. The members of an object are written as they stand. -/
inductive JsonValue
  | text (s : String)
  | array (elements : List JsonValue)
  | object (members : List (String × JsonValue))

namespace JsonValue

/-- The object of a field set, its members in the order of their names. -/
def ofFields (fields : FieldSet) : JsonValue :=
  .object (fields.toList.map fun (name, value) => (name, .text value))

/-! ### Texts -/

/-- The written form of one character. -/
def writeChar (c : Char) : List Char :=
  if c = '"' then ['\\', '"']
  else if c = '\\' then ['\\', '\\']
  else if c = '\x08' then ['\\', 'b']
  else if c = '\x0c' then ['\\', 'f']
  else if c = '\n' then ['\\', 'n']
  else if c = '\r' then ['\\', 'r']
  else if c = '\t' then ['\\', 't']
  else if c.toNat < 0x20 then
    ['\\', 'u', '0', '0', Nat.digitChar (c.toNat / 16), Nat.digitChar (c.toNat % 16)]
  else [c]

/-- The written form of a text. -/
def writeText (s : String) : String :=
  String.ofList ('"' :: (s.toList.flatMap writeChar ++ ['"']))

/-! ### Values -/

/-- The blanks in front of a line. -/
def indentation (depth : Nat) : String :=
  String.ofList (List.replicate (2 * depth) ' ')

/-- Entries between brackets: one to a line, or none at all. -/
def writeBlock (opening closing : String) (depth : Nat) (entries : List String) : String :=
  if entries.isEmpty then opening ++ closing
  else
    opening ++ "\n" ++
      ",\n".intercalate (entries.map fun entry => indentation (depth + 1) ++ entry) ++
      "\n" ++ indentation depth ++ closing

mutual

/-- The written form of a value on a level. -/
def write (depth : Nat) : JsonValue → String
  | .text s => writeText s
  | .array elements => writeBlock "[" "]" depth (writeElements (depth + 1) elements)
  | .object members => writeBlock "\x7b" "\x7d" depth (writeMembers (depth + 1) members)

/-- The written forms of elements. -/
def writeElements (depth : Nat) : List JsonValue → List String
  | [] => []
  | v :: rest => write depth v :: writeElements depth rest

/-- The written forms of members. -/
def writeMembers (depth : Nat) : List (String × JsonValue) → List String
  | [] => []
  | (name, v) :: rest => (writeText name ++ ": " ++ write depth v) :: writeMembers depth rest

end

/-- The written form of a result. -/
def render (v : JsonValue) : String :=
  write 0 v

end JsonValue

end KeyedGraph
