import KeyedGraph.Text.Numeral
import Mathlib.Algebra.Group.Nat.Defs
import Mathlib.Data.List.Basic
import Mathlib.Data.List.TakeWhile
import Mathlib.Tactic.Common

/-!
# What size numerals denote

A text denotes a size if between blanks it is an optional plus sign and then decimal digits whose
value is the size. Sizes are read from exactly the texts that denote one, however many zeros come
first and wherever an overflow would show, and a size that is written in decimal denotes itself.
-/

namespace KeyedGraph.Text

/-! ### The grammar -/

/-- Digits, at least one, that a size is written with. -/
structure IsDecimal (digits : List Char) (n : Nat) : Prop where
  ne_nil : digits ≠ []
  isDigit : ∀ c ∈ digits, '0' ≤ c ∧ c ≤ '9'
  value : Nat.ofDigitChars 10 digits 0 = n
  le : n ≤ 2 ^ 64 - 1

/-- Digits, or a plus sign and digits. -/
inductive IsNumeral : List Char → Nat → Prop
  | unsigned {digits : List Char} {n : Nat} (h : IsDecimal digits n) : IsNumeral digits n
  | signed {digits : List Char} {n : Nat} (h : IsDecimal digits n) : IsNumeral ('+' :: digits) n

/-- A text is the numeral of a size, with any blanks around it. -/
def Denotes (s : String) (n : Nat) : Prop :=
  ∃ front body back, s.toList = front ++ body ++ back ∧ (∀ c ∈ front, isBlank c = true) ∧
    (∀ c ∈ back, isBlank c = true) ∧ IsNumeral body n

/-! ### Digits -/

lemma isDigit_iff {c : Char} : c.isDigit = true ↔ '0' ≤ c ∧ c ≤ '9' := by
  show (decide ('0' ≤ c) && decide (c ≤ '9')) = true ↔ _
  rw [Bool.and_eq_true, decide_eq_true_iff, decide_eq_true_iff]

lemma isBlank_of_digit {c : Char} (h : '0' ≤ c ∧ c ≤ '9') : isBlank c = false := by
  rw [Char.le_def, UInt32.le_iff_toNat_le, Char.le_def, UInt32.le_iff_toNat_le] at h
  have h0 : 48 ≤ c.toNat := h.1
  have h9 : c.toNat ≤ 57 := h.2
  simp [isBlank]
  omega

lemma digitsValue_eq_ofDigitChars (n : Nat) (cs : List Char) :
    digitsValue n cs = Nat.ofDigitChars 10 cs n := by
  induction cs generalizing n with
  | nil => rw [digitsValue_nil, Nat.ofDigitChars_nil]
  | cons c cs ih =>
    have hdigit : digitValue c = c.toNat - '0'.toNat := by unfold digitValue; rfl
    have hcons : Nat.ofDigitChars 10 (c :: cs) n =
        Nat.ofDigitChars 10 cs (10 * n + (c.toNat - '0'.toNat)) := Nat.ofDigitChars_cons
    rw [digitsValue_cons, hcons, ih, hdigit]

/-- Digits are read as the size that they are the decimal form of. -/
lemma readDigits_eq_ok_iff {cs : List Char} (hne : cs ≠ []) {n : Nat} :
    readDigits 0 cs = .ok n ↔ IsDecimal cs n := by
  have hmax : maxSize = 2 ^ 64 - 1 := rfl
  rw [readDigits_eq_ok (Nat.zero_le _), digitsValue_eq_ofDigitChars, List.all_eq_true, hmax]
  simp only [isDigit_iff]
  constructor
  · rintro ⟨hd, hle, rfl⟩
    exact ⟨hne, hd, rfl, hle⟩
  · rintro ⟨-, hd, rfl, hle⟩
    exact ⟨hd, hle, rfl⟩

/-- No digits begin with a plus sign. -/
lemma not_isDecimal_plus {cs : List Char} {n : Nat} : ¬ IsDecimal ('+' :: cs) n := by
  intro h
  exact absurd (h.isDigit '+' List.mem_cons_self) (by decide)

/-- Numerals are read as the sizes that they are of, and nothing else is read. -/
lemma readNumeral_eq_ok_iff {cs : List Char} {n : Nat} :
    readNumeral cs = .ok n ↔ IsNumeral cs n := by
  have hunsigned (hne : cs ≠ []) (hplus : cs.head? ≠ some '+') :
      IsNumeral cs n ↔ IsDecimal cs n := by
    constructor
    · rintro (h | h)
      · exact h
      · exact absurd rfl hplus
    · exact .unsigned
  unfold readNumeral
  split
  · simp only [reduceCtorEq, false_iff]
    rintro ⟨h⟩
    exact h.ne_nil rfl
  · simp only [reduceCtorEq, false_iff]
    rintro (h | h)
    · exact not_isDecimal_plus h
    · exact h.ne_nil rfl
  · rename_i cs hne
    rw [readDigits_eq_ok_iff hne]
    constructor
    · exact .signed
    · rintro (h | h)
      · exact absurd h not_isDecimal_plus
      · exact h
  · rename_i hnil hone hplus
    rw [readDigits_eq_ok_iff hnil, hunsigned hnil]
    intro hhead
    obtain ⟨cs', rfl⟩ := List.head?_eq_some_iff.mp hhead
    exact hplus cs' rfl

lemma IsNumeral.ne_nil {cs : List Char} {n : Nat} (h : IsNumeral cs n) : cs ≠ [] := by
  cases h with
  | unsigned h => exact h.ne_nil
  | signed => simp

/-- No character of a numeral is blank. -/
lemma IsNumeral.isBlank_eq_false {cs : List Char} {n : Nat} (h : IsNumeral cs n) :
    ∀ c ∈ cs, isBlank c = false := by
  have hdecimal {digits : List Char} (h : IsDecimal digits n) :
      ∀ c ∈ digits, isBlank c = false :=
    fun c hc => isBlank_of_digit (h.isDigit c hc)
  cases h with
  | unsigned h => exact hdecimal h
  | signed h =>
    intro c hc
    rcases List.mem_cons.mp hc with rfl | hc
    · decide
    · exact hdecimal h c hc

/-! ### Blanks around a numeral -/

lemma dropWhile_isBlank_append {front rest : List Char} (hfront : ∀ c ∈ front, isBlank c = true)
    (hrest : ∀ c ∈ rest.head?, isBlank c = false) :
    (front ++ rest).dropWhile isBlank = rest := by
  rw [List.dropWhile_append_of_pos hfront]
  cases rest with
  | nil => rfl
  | cons c rest => exact List.dropWhile_cons_of_neg (by simp [hrest c rfl])

/-- What has no blanks is what trimming leaves of it with blanks around it. -/
lemma trimChars_between {front body back : List Char} (hne : body ≠ [])
    (hfront : ∀ c ∈ front, isBlank c = true) (hbody : ∀ c ∈ body, isBlank c = false)
    (hback : ∀ c ∈ back, isBlank c = true) : trimChars (front ++ body ++ back) = body := by
  have hleft : (front ++ (body ++ back)).dropWhile isBlank = body ++ back := by
    refine dropWhile_isBlank_append hfront fun c hc => ?_
    rw [List.head?_append_of_ne_nil _ hne] at hc
    exact hbody c (List.mem_of_mem_head? hc)
  have hright : (back.reverse ++ body.reverse).dropWhile isBlank = body.reverse := by
    refine dropWhile_isBlank_append (fun c hc => hback c (List.mem_reverse.mp hc)) fun c hc => ?_
    exact hbody c (List.mem_reverse.mp (List.mem_of_mem_head? hc))
  rw [trimChars, List.append_assoc, hleft, List.reverse_append, hright, List.reverse_reverse]

/-- Trimming leaves out nothing but blanks. -/
lemma exists_trimChars (cs : List Char) :
    ∃ front back, cs = front ++ trimChars cs ++ back ∧ (∀ c ∈ front, isBlank c = true) ∧
      ∀ c ∈ back, isBlank c = true := by
  let rest := cs.dropWhile isBlank
  refine ⟨cs.takeWhile isBlank, (rest.reverse.takeWhile isBlank).reverse, ?_,
    fun c hc => List.mem_takeWhile_imp hc,
    fun c hc => List.mem_takeWhile_imp (List.mem_reverse.mp hc)⟩
  have hrest : trimChars cs ++ (rest.reverse.takeWhile isBlank).reverse = rest := by
    rw [trimChars, ← List.reverse_append, List.takeWhile_append_dropWhile, List.reverse_reverse]
  rw [List.append_assoc, hrest, List.takeWhile_append_dropWhile]

/-! ### Sizes -/

/-- A size is read from a text exactly if the text denotes it. -/
theorem readSize_eq_ok_iff {s : String} {n : Nat} : readSize s = .ok n ↔ Denotes s n := by
  rw [readSize, readNumeral_eq_ok_iff]
  constructor
  · intro h
    obtain ⟨front, back, hs, hfront, hback⟩ := exists_trimChars s.toList
    exact ⟨front, _, back, hs, hfront, hback, h⟩
  · rintro ⟨front, body, back, hs, hfront, hback, h⟩
    rwa [hs, trimChars_between h.ne_nil hfront h.isBlank_eq_false hback]

example : readSize "\u00a0+0018446744073709551615\n" = .ok (2 ^ 64 - 1) := by decide +kernel

example : readSize "18446744073709551616" = .error .tooLarge := by decide +kernel

/-- A text denotes one size at most. -/
lemma Denotes.unique {s : String} {m n : Nat} (hm : Denotes s m) (hn : Denotes s n) : m = n := by
  rw [← readSize_eq_ok_iff] at hm hn
  exact Except.ok.inj (hm.symm.trans hn)

/-- A size denotes itself, as it is written in decimal. -/
theorem denotes_toString {n : Nat} (h : n ≤ 2 ^ 64 - 1) : Denotes (toString n) n := by
  have hdecimal : IsDecimal (Nat.toDigits 10 n) n :=
    { ne_nil := Nat.toDigits_ne_nil
      isDigit := fun c hc =>
        isDigit_iff.mp (Nat.isDigit_of_mem_toDigits (by decide) (Nat.le_refl 10) hc)
      value := Nat.ofDigitChars_toDigits (by decide) (Nat.le_refl 10)
      le := h }
  refine ⟨[], Nat.toDigits 10 n, [], ?_, by simp, by simp, .unsigned hdecimal⟩
  rw [Nat.toString_eq_repr, Nat.toList_repr, List.nil_append, List.append_nil]

end KeyedGraph.Text
