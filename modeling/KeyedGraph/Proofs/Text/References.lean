import KeyedGraph.Text.Reference
import Mathlib.Tactic.Common

/-!
# One pass over references

Expansion puts the value of a variable in the place of each reference and leaves everything else
as it is. That determines it: a name has no dollar sign, so no reference reaches over the
beginning or the end of another one, and every text falls apart into references and pieces
without any.
-/

namespace KeyedGraph.Text

/-! ### Names and references -/

/-- A character that a name may start with. -/
def StartsName (c : Char) : Prop :=
  'A' ≤ c ∧ c ≤ 'Z' ∨ 'a' ≤ c ∧ c ≤ 'z' ∨ c = '_'

/-- A letter or an underscore, and then letters, digits and underscores, all of them ASCII. -/
def IsName (name : String) : Prop :=
  ∃ c cs, name.toList = c :: cs ∧ StartsName c ∧ ∀ d ∈ cs, StartsName d ∨ '0' ≤ d ∧ d ≤ '9'

/-- The reference to a variable. -/
def reference (name : String) : String :=
  "$\x7b" ++ name ++ "\x7d"

/-- No reference occurs in the text. -/
def IsPlain (s : String) : Prop :=
  ∀ front name back, IsName name → s ≠ front ++ reference name ++ back

lemma startsIdentifier_iff {c : Char} : startsIdentifier c = true ↔ StartsName c := by
  show (decide ('A' ≤ c ∧ c ≤ 'Z') || (decide ('a' ≤ c) && decide (c ≤ 'z')) || c == '_') =
    true ↔ _
  simp only [StartsName, Bool.or_eq_true, Bool.and_eq_true, decide_eq_true_eq,
    beq_iff_eq, or_assoc]

lemma continuesIdentifier_iff {c : Char} :
    continuesIdentifier c = true ↔ StartsName c ∨ '0' ≤ c ∧ c ≤ '9' := by
  rw [← startsIdentifier_iff]
  show (c.isAlpha || (decide ('0' ≤ c) && decide (c ≤ '9')) || c == '_') = true ↔ _
  simp only [startsIdentifier, Bool.or_eq_true, Bool.and_eq_true, decide_eq_true_eq]
  exact or_right_comm

lemma isName_iff {name : String} : IsName name ↔ isIdentifier name.toList = true := by
  rw [IsName]
  cases name.toList with
  | nil => simp [isIdentifier]
  | cons c cs => simp [isIdentifier, startsIdentifier_iff, continuesIdentifier_iff]

section Characters

variable {lookup : Environment} {name cs rest : List Char}

/-! ### The reference that a text starts with -/

/-- The characters of a reference. -/
def referenceChars (name : List Char) : List Char :=
  '$' :: '\x7b' :: (name ++ ['\x7d'])

lemma toList_reference (name : String) :
    (reference name).toList = referenceChars name.toList := by
  simp [reference, referenceChars]

/-- A reference has one dollar sign, and begins with it. -/
lemma dollar_notMem_tail (h : isIdentifier name = true) : '$' ∉ (referenceChars name).tail := by
  have hname : '$' ∉ name := by
    intro hm
    exact absurd (List.all_eq_true.mp (all_continuesIdentifier h) '$' hm) (by decide)
  simp [referenceChars, hname]

lemma leadingReference?_append (h : isIdentifier name = true) (rest : List Char) :
    leadingReference? (referenceChars name ++ rest) = some (name, rest) := by
  have hname : ∀ c ∈ name, continuesIdentifier c = true :=
    List.all_eq_true.mp (all_continuesIdentifier h)
  have hclose : continuesIdentifier '\x7d' = false := by decide
  simp [referenceChars, leadingReference?, List.dropWhile_append_of_pos hname,
    List.takeWhile_append_of_pos hname, hclose, h]

/-- What is split off is a reference to a name. -/
lemma leadingReference?_eq_some_iff :
    leadingReference? cs = some (name, rest) ↔
      isIdentifier name = true ∧ cs = referenceChars name ++ rest := by
  constructor
  · intro h
    unfold leadingReference? at h
    split at h
    · rename_i tail
      split at h
      · rename_i after hd
        split at h
        · rename_i hi
          obtain ⟨rfl, rfl⟩ : tail.takeWhile continuesIdentifier = name ∧ after = rest := by
            simpa using h
          refine ⟨hi, ?_⟩
          rw [referenceChars, List.cons_append, List.cons_append, List.append_assoc,
            List.singleton_append, ← hd, List.takeWhile_append_dropWhile]
        · simp at h
      · simp at h
    · simp at h
  · rintro ⟨h, rfl⟩
    exact leadingReference?_append h rest

/-- A text that starts with no reference starts with none either if a dollar sign is put behind
it, whatever follows. -/
lemma leadingReference?_append_dollar {c : Char} (h : leadingReference? (c :: cs) = none)
    (rest : List Char) : leadingReference? (c :: cs ++ '$' :: rest) = none := by
  rw [Option.eq_none_iff_forall_ne_some]
  rintro ⟨name, back⟩ hsome
  obtain ⟨hi, heq⟩ := leadingReference?_eq_some_iff.mp hsome
  rcases List.append_eq_append_iff.mp heq with ⟨mid, href, hmid⟩ | ⟨mid, hcs, -⟩
  · -- the reference ends behind the text: at its end, or with the dollar sign in it
    cases mid with
    | nil =>
      have hfull := leadingReference?_append hi []
      rw [List.append_nil, href, List.append_nil, h] at hfull
      cases hfull
    | cons d mid =>
      obtain ⟨rfl, -⟩ := List.cons.inj hmid
      refine dollar_notMem_tail hi ?_
      rw [href]
      simp
  · -- the reference ends in the text
    rw [hcs, leadingReference?_append hi] at h
    cases h

/-! ### Expansion piece by piece -/

/-- Expansion goes on at a dollar sign as if the text began there. -/
lemma expandChars_append_dollar (lookup : Environment) (cs rest : List Char) :
    expandChars lookup (cs ++ '$' :: rest) =
      expandChars lookup cs ++ expandChars lookup ('$' :: rest) := by
  fun_induction expandChars lookup cs with
  | case1 cs name back h hlt ih =>
    obtain ⟨hi, rfl⟩ := leadingReference?_eq_some_iff.mp h
    rw [List.append_assoc, expandChars_of_reference (leadingReference?_append hi _), ih,
      List.append_assoc]
  | case2 => rfl
  | case3 c cs h ih =>
    have hnone : leadingReference? (c :: (cs ++ '$' :: rest)) = none :=
      leadingReference?_append_dollar h rest
    rw [List.cons_append, expandChars_of_no_reference hnone, ih, List.cons_append]

/-- Whatever stands around a reference, its value takes its place as it is. -/
lemma expandChars_reference (lookup : Environment) (h : isIdentifier name = true)
    (front back : List Char) :
    expandChars lookup (front ++ (referenceChars name ++ back)) =
      expandChars lookup front ++
        (((lookup (String.ofList name)).getD "").toList ++ expandChars lookup back) := by
  rw [← expandChars_of_reference (leadingReference?_append h back)]
  exact expandChars_append_dollar lookup front _

/-- A text without references is left as it is. -/
lemma expandChars_of_plain (lookup : Environment)
    (h : ∀ front name back, isIdentifier name = true →
      cs ≠ front ++ (referenceChars name ++ back)) :
    expandChars lookup cs = cs := by
  induction cs with
  | nil => exact expandChars_nil lookup
  | cons c cs ih =>
    have hnone : leadingReference? (c :: cs) = none := by
      rw [Option.eq_none_iff_forall_ne_some]
      rintro ⟨name, back⟩ hsome
      obtain ⟨hi, heq⟩ := leadingReference?_eq_some_iff.mp hsome
      exact h [] name back hi heq
    rw [expandChars_of_no_reference hnone, ih]
    intro front name back hi heq
    exact h (c :: front) name back hi (congrArg (c :: ·) heq)

end Characters

/-! ### The laws of expansion -/

/-- What it means to expand a text in one pass. -/
structure ExpandsOnce (lookup : Environment) (f : String → String) : Prop where
  /-- The value of a variable takes the place of a reference, whatever stands around it and
  whatever the value is; it is empty if the variable is not set. -/
  reference (s t : String) {name : String} (h : IsName name) :
    f (s ++ reference name ++ t) = f s ++ (lookup name).getD "" ++ f t
  /-- A text without references stays as it is. -/
  plain {s : String} (h : IsPlain s) : f s = s

lemma expandsOnce_expand (lookup : Environment) : ExpandsOnce lookup (expand lookup) where
  reference s t {name} h := by
    have hchars := expandChars_reference lookup (isName_iff.mp h) s.toList t.toList
    rw [String.ofList_toList] at hchars
    apply String.toList_injective
    simp [expand, toList_reference, hchars]
  plain {s} h := by
    have hplain : ∀ front name back, isIdentifier name = true →
        s.toList ≠ front ++ (referenceChars name ++ back) := by
      intro front name back hi heq
      refine h (.ofList front) (.ofList name) (.ofList back)
        (isName_iff.mpr (by simpa using hi)) ?_
      apply String.toList_injective
      simp [toList_reference, heq]
    rw [expand, expandChars_of_plain lookup hplain, String.ofList_toList]

/-- What is around a reference is shorter than the whole. -/
lemma length_around_lt (front name back : String) :
    front.toList.length + back.toList.length <
      (front ++ reference name ++ back).toList.length := by
  simp [toList_reference, referenceChars]
  omega

/-- Two ways to expand texts in one pass are the same: a text that is not plain has a reference,
and what is around it is shorter. -/
lemma ExpandsOnce.eq {lookup : Environment} {f g : String → String} (hf : ExpandsOnce lookup f)
    (hg : ExpandsOnce lookup g) (s : String) : f s = g s := by
  by_cases hs : IsPlain s
  · rw [hf.plain hs, hg.plain hs]
  · simp only [IsPlain, not_forall, not_not] at hs
    obtain ⟨front, name, back, hn, heq⟩ := hs
    have hlength : front.toList.length + back.toList.length < s.toList.length := by
      rw [heq]
      exact length_around_lt front name back
    rw [heq, hf.reference front back hn, hg.reference front back hn, hf.eq hg front,
      hf.eq hg back]
termination_by s.toList.length
decreasing_by all_goals omega

/-- A reference to the variable occurs in the text. -/
def RefersTo (s name : String) : Prop :=
  ∃ front back, s = front ++ reference name ++ back

/-- Expansion looks at no variable but those that the text refers to. -/
lemma expand_congr {lookup lookup' : Environment} {s : String}
    (h : ∀ name, RefersTo s name → lookup name = lookup' name) :
    expand lookup s = expand lookup' s := by
  have hf := expandsOnce_expand lookup
  have hg := expandsOnce_expand lookup'
  by_cases hs : IsPlain s
  · rw [hf.plain hs, hg.plain hs]
  · simp only [IsPlain, not_forall, not_not] at hs
    obtain ⟨front, name, back, hn, heq⟩ := hs
    have hlength : front.toList.length + back.toList.length < s.toList.length := by
      rw [heq]
      exact length_around_lt front name back
    have hfront : expand lookup front = expand lookup' front := by
      refine expand_congr fun other ⟨t, u, ht⟩ => h other ⟨t, u ++ reference name ++ back, ?_⟩
      simp only [heq, ht, String.append_assoc]
    have hback : expand lookup back = expand lookup' back := by
      refine expand_congr fun other ⟨t, u, ht⟩ => h other ⟨front ++ reference name ++ t, u, ?_⟩
      simp only [heq, ht, String.append_assoc]
    rw [heq, hf.reference front back hn, hg.reference front back hn, hfront, hback,
      h name ⟨front, back, heq⟩]
termination_by s.toList.length
decreasing_by all_goals omega

/-- Expansion puts the value of a variable in the place of each reference to it, whatever stands
around the reference and whatever the value is, and leaves a text without references as it is.
Nothing else does that, so these two laws say what expansion makes of every text. -/
theorem expand_is_the_one_pass (lookup : Environment) :
    ExpandsOnce lookup (expand lookup) ∧ ∀ f, ExpandsOnce lookup f → f = expand lookup := by
  constructor
  · exact expandsOnce_expand lookup
  · intro f h
    funext s
    exact h.eq (expandsOnce_expand lookup) s

-- a reference in an unfinished one, its value again a reference, and a variable that is not set
example :
    expand (fun name => if name = "A" then some "$\x7bB\x7d" else none)
        "$\x7babc$\x7bA\x7d\x7d$\x7b1\x7d$\x7bB\x7d" =
      "$\x7babc$\x7bB\x7d\x7d$\x7b1\x7d" := by
  decide +kernel

end KeyedGraph.Text
