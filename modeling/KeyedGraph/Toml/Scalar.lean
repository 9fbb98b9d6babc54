import KeyedGraph.Text.Numeral
import KeyedGraph.Toml.Value

/-!
# Unquoted scalars

Booleans, numbers and moments: the values that are written without quotes or brackets.
-/

namespace KeyedGraph.Toml

open Text (digitValue digitsValue)

/-! ### Runs of digits -/

/-- The value of a hexadecimal digit. -/
def hexValue? (c : Char) : Option Nat :=
  if c.isDigit then some (digitValue c)
  else if 'a' ≤ c && c ≤ 'f' then some (c.toNat - 87)
  else if 'A' ≤ c && c ≤ 'F' then some (c.toNat - 55)
  else none

/-- The digits of a run in which single underscores may stand between digits. -/
def digitRun (accepts : Char → Bool) : List Char → Option (List Char)
  | [] => none
  | [c] => if accepts c then some [c] else none
  | c :: '_' :: cs => if accepts c then (digitRun accepts cs).map (c :: ·) else none
  | c :: cs => if accepts c then (digitRun accepts cs).map (c :: ·) else none

/-- A decimal number without leading zeros. -/
def wholeNumber? (cs : List Char) : Option (List Char) :=
  match digitRun Char.isDigit cs with
  | some ['0'] => some ['0']
  | some ('0' :: _) => none
  | digits => digits

/-- Splits off a sign, and says whether it is negative. -/
def splitSign : List Char → Bool × List Char
  | '+' :: cs => (false, cs)
  | '-' :: cs => (true, cs)
  | cs => (false, cs)

/-! ### Integers -/

/-- The value of digits in a base, where the digits are known to be digits. -/
def valueInBase (base : Nat) (cs : List Char) : Nat :=
  cs.foldl (fun n c => base * n + (hexValue? c).getD 0) 0

/-- Whether a character is a digit of a base up to sixteen. -/
def isDigitOf (base : Nat) (c : Char) : Bool :=
  match hexValue? c with
  | some d => d < base
  | none => false

/-- Reads an integer: with a base mark and no sign, or decimal. -/
def integer? : List Char → Option Int
  | '0' :: 'x' :: cs => (digitRun (isDigitOf 16) cs).map fun ds => (valueInBase 16 ds : Int)
  | '0' :: 'o' :: cs => (digitRun (isDigitOf 8) cs).map fun ds => (valueInBase 8 ds : Int)
  | '0' :: 'b' :: cs => (digitRun (isDigitOf 2) cs).map fun ds => (valueInBase 2 ds : Int)
  | cs =>
    let (negative, digits) := splitSign cs
    (wholeNumber? digits).map fun ds =>
      if negative then -(digitsValue 0 ds : Int) else digitsValue 0 ds

/-! ### Floats -/

/-- Whether a character starts an exponent. -/
def isExponentMark (c : Char) : Bool :=
  c == 'e' || c == 'E'

/-- Reads what follows an exponent mark. -/
def exponent? (cs : List Char) : Option Int :=
  let (negative, digits) := splitSign cs
  (digitRun Char.isDigit digits).map fun ds =>
    if negative then -(digitsValue 0 ds : Int) else digitsValue 0 ds

/-- Reads a number with a fraction, an exponent or both. -/
def decimal? (negative : Bool) (cs : List Char) : Option FloatLiteral := do
  let mantissa := cs.takeWhile fun c => !isExponentMark c
  let exponent ← match cs.dropWhile fun c => !isExponentMark c with
    | [] => some none
    | _ :: rest => (exponent? rest).map some
  let whole ← wholeNumber? (mantissa.takeWhile (· != '.'))
  match mantissa.dropWhile (· != '.') with
  | [] => do
    let exponent ← exponent
    some (.decimal negative (digitsValue 0 whole) exponent)
  | _ :: rest => do
    let fraction ← digitRun Char.isDigit rest
    some (.decimal negative (digitsValue 0 (whole ++ fraction))
      (exponent.getD 0 - (fraction.length : Int)))

/-- Reads a float. -/
def float? (cs : List Char) : Option FloatLiteral :=
  let (negative, rest) := splitSign cs
  if rest = ['i', 'n', 'f'] then some (.infinity negative)
  else if rest = ['n', 'a', 'n'] then some .notANumber
  else decimal? negative rest

/-! ### Moments -/

/-- Reads exactly this many digits. -/
def fixedDigits? : Nat → Nat → List Char → Option (Nat × List Char)
  | 0, value, cs => some (value, cs)
  | n + 1, value, c :: cs =>
    if c.isDigit then fixedDigits? n (10 * value + digitValue c) cs else none
  | _ + 1, _, [] => none

/-- Reads one given character. -/
def expect? (c : Char) : List Char → Option (List Char)
  | d :: cs => if d == c then some cs else none
  | [] => none

/-- Whether a year has a leap day. -/
def isLeapYear (year : Nat) : Bool :=
  (year % 4 == 0 && year % 100 != 0) || year % 400 == 0

/-- The number of days of a month. -/
def daysOfMonth (year month : Nat) : Nat :=
  if month == 2 then (if isLeapYear year then 29 else 28)
  else if month == 4 || month == 6 || month == 9 || month == 11 then 30
  else 31

/-- Reads a date that the calendar has. -/
def date? (cs : List Char) : Option (List Char) := do
  let (year, cs) ← fixedDigits? 4 0 cs
  let cs ← expect? '-' cs
  let (month, cs) ← fixedDigits? 2 0 cs
  let cs ← expect? '-' cs
  let (day, cs) ← fixedDigits? 2 0 cs
  if 1 ≤ month && month ≤ 12 && 1 ≤ day && day ≤ daysOfMonth year month then some cs else none

/-- Passes over the fraction of a second, if there is one. -/
def fraction? : List Char → Option (List Char)
  | '.' :: cs =>
    match cs with
    | c :: _ => if c.isDigit then some (cs.dropWhile Char.isDigit) else none
    | [] => none
  | cs => some cs

/-- Reads a time of day; the seconds may be left out, and a leap second counts. -/
def time? (cs : List Char) : Option (List Char) := do
  let (hour, cs) ← fixedDigits? 2 0 cs
  let cs ← expect? ':' cs
  let (minute, cs) ← fixedDigits? 2 0 cs
  if 23 < hour || 59 < minute then none
  else
    match cs with
    | ':' :: cs => do
      let (second, cs) ← fixedDigits? 2 0 cs
      if 60 < second then none else fraction? cs
    | cs => some cs

/-- Passes over the offset of a moment, if there is one. -/
def offset? : List Char → Option (List Char)
  | 'Z' :: cs => some cs
  | 'z' :: cs => some cs
  | c :: cs =>
    if c == '+' || c == '-' then do
      let (hour, cs) ← fixedDigits? 2 0 cs
      let cs ← expect? ':' cs
      let (minute, cs) ← fixedDigits? 2 0 cs
      if 23 < hour || 59 < minute then none else some cs
    else some (c :: cs)
  | [] => some []

/-- Whether the characters are a date, a time, or both with an optional offset. -/
def isMoment (cs : List Char) : Bool :=
  match date? cs with
  | some [] => true
  | some (c :: rest) =>
    (c == 'T' || c == 't' || c == ' ') &&
      ((time? rest).bind offset?).any List.isEmpty
  | none => (time? cs).any List.isEmpty

/-! ### Scalars -/

/-- Reads a whole unquoted scalar. -/
def scalar? (cs : List Char) : Option Value :=
  if cs = ['t', 'r', 'u', 'e'] then some (.boolean true)
  else if cs = ['f', 'a', 'l', 's', 'e'] then some (.boolean false)
  else
    match integer? cs with
    | some n => some (.integer n)
    | none =>
      match float? cs with
      | some literal => some (.float literal)
      | none => if isMoment cs then some .moment else none

/-- Whether a character can be part of an unquoted scalar. -/
def continuesScalar (c : Char) : Bool :=
  !(c == ' ' || c == '\t' || c == '\n' || c == '\r' || c == ',' || c == ']' || c == '\x7d' ||
    c == '#')

/-- Reads the unquoted scalar that a text starts with. A single space may stand between a date
and a time. -/
def readScalar (cs : List Char) : Option (Value × List Char) :=
  let word := cs.takeWhile continuesScalar
  let rest := cs.dropWhile continuesScalar
  match date? word, rest with
  | some [], ' ' :: c :: tail =>
    if c.isDigit then
      (scalar? (word ++ ' ' :: (c :: tail).takeWhile continuesScalar)).map
        (·, (c :: tail).dropWhile continuesScalar)
    else (scalar? word).map (·, rest)
  | _, _ => (scalar? word).map (·, rest)

end KeyedGraph.Toml
