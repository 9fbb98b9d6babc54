/-!
# Blank characters

The characters of the Unicode property `White_Space`, and the trimming and blankness tests that
settings, numerals and log formats are read with.
-/

namespace KeyedGraph.Text

/-- Whether a character has the Unicode property `White_Space`. -/
def isBlank (c : Char) : Bool :=
  (0x09 ≤ c.toNat && c.toNat ≤ 0x0D) || c.toNat == 0x20 || c.toNat == 0x85 || c.toNat == 0xA0 ||
  c.toNat == 0x1680 || (0x2000 ≤ c.toNat && c.toNat ≤ 0x200A) || c.toNat == 0x2028 ||
  c.toNat == 0x2029 || c.toNat == 0x202F || c.toNat == 0x205F || c.toNat == 0x3000

/-- Removes the blanks at both ends. -/
def trimChars (cs : List Char) : List Char :=
  ((cs.dropWhile isBlank).reverse.dropWhile isBlank).reverse

/-- Removes the blanks at both ends of a text. -/
def trim (s : String) : String :=
  String.ofList (trimChars s.toList)

/-- Whether a text has no character that is not blank. -/
def isBlankText (s : String) : Bool :=
  s.toList.all isBlank

/-- Keeps a text that is given and not blank. -/
def unlessBlank : Option String → Option String
  | some s => if isBlankText s then none else some s
  | none => none

@[simp] theorem unlessBlank_none : unlessBlank none = none := rfl

theorem unlessBlank_eq_some {o : Option String} {s : String} :
    unlessBlank o = some s ↔ o = some s ∧ isBlankText s = false := by
  cases o with
  | none => simp
  | some t =>
    cases h : isBlankText t with
    | true => grind [unlessBlank]
    | false => grind [unlessBlank]

end KeyedGraph.Text
