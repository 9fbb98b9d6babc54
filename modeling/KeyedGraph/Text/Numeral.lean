import KeyedGraph.Text.Blank

/-!
# Size numerals

Sizes, limits and counts are natural numbers below `2 ^ 64`. A size numeral is an optional `+`
and then one or more decimal digits; leading zeros are allowed. The reader names the first fault
it meets on the way from left to right.
-/

namespace KeyedGraph.Text

/-- The largest size that a numeral may denote. -/
def maxSize : Nat := Nat.pow 2 64 - 1

/-- Why a text is not a size numeral. -/
inductive NumeralError
  | empty
  | invalidDigit
  | tooLarge
deriving DecidableEq, Repr

/-- The wording of a numeral fault. -/
def NumeralError.message : NumeralError → String
  | .empty => "cannot parse integer from empty string"
  | .invalidDigit => "invalid digit found in string"
  | .tooLarge => "number too large to fit in target type"

/-- The value of a decimal digit. -/
@[irreducible] def digitValue (c : Char) : Nat :=
  c.toNat - 48

/-- Reads digits after the value `n` of the digits already read. -/
def readDigits (n : Nat) : List Char → Except NumeralError Nat
  | [] => .ok n
  | c :: cs =>
    if !c.isDigit then .error .invalidDigit
    else if maxSize < 10 * n + digitValue c then .error .tooLarge
    else readDigits (10 * n + digitValue c) cs

/-- Reads a size numeral that has no blanks around it. -/
def readNumeral : List Char → Except NumeralError Nat
  | [] => .error .empty
  | '+' :: [] => .error .invalidDigit
  | '+' :: cs => readDigits 0 cs
  | cs => readDigits 0 cs

/-- Reads a size numeral, with any blanks around it. -/
def readSize (s : String) : Except NumeralError Nat :=
  readNumeral (trimChars s.toList)

/-- What the digits add up to, most significant first, after the value `n`. -/
def digitsValue (n : Nat) : List Char → Nat
  | [] => n
  | c :: cs => digitsValue (10 * n + digitValue c) cs

@[simp] theorem digitsValue_nil (n : Nat) : digitsValue n [] = n := rfl

@[simp] theorem digitsValue_cons (n : Nat) (c : Char) (cs : List Char) :
    digitsValue n (c :: cs) = digitsValue (10 * n + digitValue c) cs := by rw [digitsValue]

theorem le_digitsValue (n : Nat) (cs : List Char) : n ≤ digitsValue n cs := by
  induction cs generalizing n with
  | nil => simp
  | cons c cs ih => exact Nat.le_trans (by omega) (ih (10 * n + digitValue c))

/-- Digits are read exactly when they are digits and their value is small enough. -/
theorem readDigits_eq_ok {n m : Nat} {cs : List Char} (hn : n ≤ maxSize) :
    readDigits n cs = .ok m ↔
      cs.all Char.isDigit = true ∧ digitsValue n cs ≤ maxSize ∧ m = digitsValue n cs := by
  induction cs generalizing n with
  | nil => simp [readDigits, hn, eq_comm]
  | cons c cs ih =>
    rw [readDigits]
    by_cases hc : c.isDigit
    · by_cases hl : maxSize < 10 * n + digitValue c
      · have := le_digitsValue (10 * n + digitValue c) cs
        simp only [hc, hl, Bool.not_true, Bool.false_eq_true, if_false, if_true, reduceCtorEq,
          digitsValue_cons, false_iff]
        omega
      · simp [hc, hl, ih (by omega : 10 * n + digitValue c ≤ maxSize)]
    · simp [hc]

end KeyedGraph.Text
