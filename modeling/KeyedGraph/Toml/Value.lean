/-!
# Values and tables of a document

The values that a TOML document is made of, and the rules by which headers and dotted keys build
its tables: a table is defined once, a dotted key extends only tables that no header defined, and
an inline table or array is closed when it ends.
-/

namespace KeyedGraph.Toml

/-- A number with a fraction or an exponent, as it is written. -/
inductive FloatLiteral
  | decimal (negative : Bool) (coefficient : Nat) (exponent : Int)
  | infinity (negative : Bool)
  | notANumber
deriving DecidableEq, Repr

/-- The least number whose nearest binary64 value would be infinite. -/
def floatBound : Nat := Nat.pow 2 1024 - Nat.pow 2 970

/-- Whether a literal that is not infinity stays finite when it is rounded to binary64. -/
def FloatLiteral.fits : FloatLiteral → Bool
  | .decimal _ coefficient exponent =>
    let magnitude : Int := (Nat.toDigits 10 coefficient).length + exponent
    if coefficient = 0 || magnitude ≤ 308 then true
    else if 310 ≤ magnitude then false
    else if 0 ≤ exponent then coefficient * Nat.pow 10 exponent.toNat < floatBound
    else coefficient < floatBound * Nat.pow 10 (-exponent).toNat
  | _ => true

/-- How a table came about. -/
inductive Origin
  | header
  | implied
  | dotted
  | inline
deriving DecidableEq, Repr

/-- A value of a document. What day or time a moment is makes no difference to its readers. -/
inductive Value
  | text (content : String)
  | integer (n : Int)
  | float (literal : FloatLiteral)
  | boolean (b : Bool)
  | moment
  | array (items : List Value)
  | table (origin : Origin) (entries : List (String × Value))
  | tables (elements : List Value)

/-- The entries of a table in the order of their definition, with distinct keys. -/
abbrev Entries := List (String × Value)

/-- Puts a value in the place of the one that a key has. -/
def Entries.replace (entries : Entries) (key : String) (value : Value) : Entries :=
  entries.map fun (k, v) => if k == key then (k, value) else (k, v)

/-- Defines a new key. -/
def Entries.define (entries : Entries) (key : String) (value : Value) : Entries :=
  entries ++ [(key, value)]

/-- Assigns a value to a dotted key. Tables on the way are made or extended, and a table that was
only implied so far is defined by that; the elements of an array of tables get no values here. -/
def Entries.assign (entries : Entries) (value : Value) : List String → Option Entries
  | [] => none
  | [key] =>
    match entries.lookup key with
    | none => some (entries.define key value)
    | some _ => none
  | key :: rest =>
    match entries.lookup key with
    | none => do
      let child ← Entries.assign [] value rest
      some (entries.define key (.table .dotted child))
    | some (.table .dotted child) => do
      let child ← Entries.assign child value rest
      some (entries.replace key (.table .dotted child))
    | some (.table .implied child) => do
      let child ← Entries.assign child value rest
      some (entries.replace key (.table .dotted child))
    | some (.tables elements) =>
      if rest.length = 1 then none
      else
        match elements.getLast? with
        | some (.table origin child) => do
          let child ← Entries.assign child value rest
          some (entries.replace key (.tables (elements.dropLast ++ [.table origin child])))
        | _ => none
    | some _ => none

/-- Changes the table at the end of a header's path. Tables that are missing on the way are made,
and an array of tables stands for its last element. -/
def Entries.changeAt (change : Entries → Option Entries) : List String → Entries → Option Entries
  | [], entries => change entries
  | key :: rest, entries =>
    match entries.lookup key with
    | none => do
      let child ← Entries.changeAt change rest []
      some (entries.define key (.table .implied child))
    | some (.table .inline _) => none
    | some (.table origin child) => do
      let child ← Entries.changeAt change rest child
      some (entries.replace key (.table origin child))
    | some (.tables elements) =>
      match elements.getLast? with
      | some (.table origin child) => do
        let child ← Entries.changeAt change rest child
        some (entries.replace key (.tables (elements.dropLast ++ [.table origin child])))
      | _ => none
    | some _ => none

/-- Defines the table that a header names; one that was only implied so far becomes defined. -/
def Entries.openTable (entries : Entries) (key : String) : Option Entries :=
  match entries.lookup key with
  | none => some (entries.define key (.table .header []))
  | some (.table .implied child) => some (entries.replace key (.table .header child))
  | some _ => none

/-- Adds an element to the array of tables that a header names. -/
def Entries.openElement (entries : Entries) (key : String) : Option Entries :=
  match entries.lookup key with
  | none => some (entries.define key (.tables [.table .header []]))
  | some (.tables elements) =>
    some (entries.replace key (.tables (elements ++ [.table .header []])))
  | some _ => none

/-! ### Values that can be passed over -/

/-- The least integer that can be held: that of a signed word of 128 bits. -/
def leastInteger : Int := -Int.ofNat (Nat.pow 2 127)

/-- The greatest integer that can be held: that of an unsigned word of 128 bits. -/
def greatestInteger : Int := Int.ofNat (Nat.pow 2 128 - 1)

mutual

/-- Whether every number in a value can be held, so that the value can be passed over. -/
def Value.isHeld : Value → Bool
  | .integer n => leastInteger ≤ n && n ≤ greatestInteger
  | .float literal => literal.fits
  | .array items => allHeld items
  | .table _ entries => allEntriesHeld entries
  | .tables elements => allHeld elements
  | _ => true

/-- Whether every value of a list can be passed over. -/
def allHeld : List Value → Bool
  | [] => true
  | v :: vs => v.isHeld && allHeld vs

/-- Whether every value of a table can be passed over. -/
def allEntriesHeld : List (String × Value) → Bool
  | [] => true
  | (_, v) :: es => v.isHeld && allEntriesHeld es

end

end KeyedGraph.Toml
