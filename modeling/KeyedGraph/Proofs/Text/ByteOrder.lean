import Mathlib.Data.String.Basic
import Mathlib.Tactic.Common

/-!
# The order of bytes

Texts are ordered by their characters. Encoded characters keep that order and none begins
another, so the order of texts is that of their bytes in UTF-8.
-/

namespace KeyedGraph.Text

/-- The bytes of a text in UTF-8. -/
def bytes (s : String) : List UInt8 :=
  s.toUTF8.data.toList

/-- Compares two texts by their bytes. -/
def compareBytes (s t : String) : Ordering :=
  compare (bytes s) (bytes t)

lemma bytes_eq_flatMap (s : String) : bytes s = s.toList.flatMap String.utf8EncodeChar := by
  rw [bytes, String.toUTF8, ← String.utf8Encode_toList, List.utf8Encode,
    List.toList_data_toByteArray]

/-! ### Lists of bytes -/

lemma compare_append_left (l m n : List UInt8) : compare (l ++ m) (l ++ n) = compare m n := by
  induction l with
  | nil => rfl
  | cons b l ih => simp [ih]

/-- The first byte decides, unless it is the same. -/
lemma compare_ofNat_cons {v w : Nat} {l m : List UInt8} (hv : v < 256) (hw : w < 256)
    (hle : v ≤ w) (h : v = w → compare l m = .lt) :
    compare (UInt8.ofNat v :: l) (UInt8.ofNat w :: m) = .lt := by
  rcases Nat.lt_or_eq_of_le hle with hlt | rfl
  · have hb : UInt8.ofNat v < UInt8.ofNat w := by
      rw [UInt8.lt_iff_toNat_lt, UInt8.toNat_ofNat_of_lt' hv, UInt8.toNat_ofNat_of_lt' hw]
      exact hlt
    have hc : compare (UInt8.ofNat v) (UInt8.ofNat w) = .lt := compareOfLessAndEq_eq_lt.mpr hb
    rw [List.compare_cons_cons, hc]
    rfl
  · rw [List.compare_cons_cons, h rfl]
    simp

/-- The bytes of a character that comes before another differ first in a byte that does, whatever
follows them. -/
lemma compare_utf8EncodeChar {c d : Char} (h : c < d) (l m : List UInt8) :
    compare (String.utf8EncodeChar c ++ l) (String.utf8EncodeChar d ++ m) = .lt := by
  have hlt : c.val.toNat < d.val.toNat := h
  have hd : d.val.toNat < 1114112 := by
    have := d.valid
    simp only [UInt32.isValidChar, Nat.isValidChar] at this
    omega
  simp only [String.utf8EncodeChar]
  generalize c.val.toNat = v at hlt ⊢
  generalize d.val.toNat = w at hlt hd ⊢
  split_ifs
  all_goals
    -- byte for byte, until two bytes that would have to be the same are not
    repeat first
      | omega
      | refine compare_ofNat_cons (by omega) (by omega) (by omega) fun _ => ?_

/-- The order of characters is that of their bytes. -/
lemma compare_flatMap_utf8EncodeChar (l m : List Char) :
    compare (l.flatMap String.utf8EncodeChar) (m.flatMap String.utf8EncodeChar) = .lt ↔
      l < m := by
  induction l generalizing m with
  | nil =>
    cases m with
    | nil => simp
    | cons d m =>
      obtain ⟨b, bs, hb⟩ := List.exists_cons_of_ne_nil (String.utf8EncodeChar_ne_nil (c := d))
      simp [hb]
  | cons c l ih =>
    cases m with
    | nil =>
      obtain ⟨b, bs, hb⟩ := List.exists_cons_of_ne_nil (String.utf8EncodeChar_ne_nil (c := c))
      simp [hb]
    | cons d m =>
      simp only [List.flatMap_cons, List.cons_lt_cons_iff]
      rcases lt_trichotomy c d with h | rfl | h
      · simp [compare_utf8EncodeChar h, h]
      · simp [compare_append_left, ih]
      · have hgt := Std.OrientedCmp.gt_of_lt (compare_utf8EncodeChar h
          (m.flatMap String.utf8EncodeChar) (l.flatMap String.utf8EncodeChar))
        simp [hgt, le_of_lt h, ne_of_gt h]

/-- The order of texts is that of their bytes. -/
theorem compareBytes_eq_lt_iff {s t : String} : compareBytes s t = .lt ↔ s < t := by
  rw [compareBytes, bytes_eq_flatMap, bytes_eq_flatMap, compare_flatMap_utf8EncodeChar,
    String.lt_iff]

theorem compareBytes_eq_compare : compareBytes = compare := by
  funext s t
  cases h : compare s t with
  | lt => exact compareBytes_eq_lt_iff.mpr (Std.LawfulLTCmp.eq_lt_iff_lt.mp h)
  | eq =>
    rw [Std.LawfulEqCmp.eq_of_compare h, compareBytes]
    exact Std.ReflCmp.compare_self
  | gt =>
    have hlt : t < s := Std.LawfulLTCmp.eq_lt_iff_lt.mp (Std.OrientedCmp.lt_of_gt h)
    have hb : compare (bytes t) (bytes s) = .lt := compareBytes_eq_lt_iff.mpr hlt
    rw [compareBytes]
    exact Std.OrientedCmp.gt_of_lt hb

lemma isLE_compareBytes (s t : String) : (compareBytes s t).isLE = decide (s ≤ t) := by
  have hgt : compare s t = .gt ↔ t < s :=
    Std.OrientedCmp.gt_iff_lt.trans Std.LawfulLTCmp.eq_lt_iff_lt
  rw [compareBytes_eq_compare, Bool.eq_iff_iff, decide_eq_true_iff, ← String.not_lt, ← hgt]
  cases compare s t <;> simp

instance : Std.TransCmp compareBytes := by
  rw [compareBytes_eq_compare]
  infer_instance

instance : Std.LawfulEqCmp compareBytes := by
  rw [compareBytes_eq_compare]
  infer_instance

end KeyedGraph.Text
