import KeyedGraph.Store.Memory
import Mathlib.Tactic.Common

/-!
# Lists of nodes

What the operations of a store in memory do to a list of nodes, told by the keys of the nodes.
-/

namespace KeyedGraph

variable {key start : String} {nodes : List FieldSet} {node : FieldSet}

lemma hasKey_iff : hasKey key node = true ↔ nodeKey? node = some key := by
  simp [hasKey]

lemma reaches_nodeProperties (start key : String) (values : FieldSet) :
    reaches start (nodeProperties key values) = decide (start ≤ key) := by
  simp [reaches]

lemma reaches_iff :
    reaches start node = true ↔ ∃ key, nodeKey? node = some key ∧ start ≤ key := by
  rw [reaches]
  cases nodeKey? node with
  | none => simp
  | some key => simp

lemma exists_key_of_reaches (h : reaches start node = true) :
    ∃ key, nodeKey? node = some key := by
  obtain ⟨key, hk, -⟩ := reaches_iff.mp h
  exact ⟨key, hk⟩

/-! ### The order of keys -/

lemma keyLe_nodeProperties (key key' : String) (values values' : FieldSet) :
    keyLe (nodeProperties key values) (nodeProperties key' values') = decide (key ≤ key') := by
  simp [keyLe]

lemma keyLe_trans (a b c : FieldSet) (hab : keyLe a b = true) (hbc : keyLe b c = true) :
    keyLe a c = true := by
  rw [keyLe] at hab hbc ⊢
  cases ha : nodeKey? a with
  | none => rfl
  | some k =>
    cases hb : nodeKey? b with
    | none => simp [ha, hb] at hab
    | some l =>
      cases hc : nodeKey? c with
      | none => simp [hb, hc] at hbc
      | some m =>
        simp only [ha, hb, decide_eq_true_eq] at hab
        simp only [hb, hc, decide_eq_true_eq] at hbc
        exact decide_eq_true (String.le_trans hab hbc)

lemma keyLe_total (a b : FieldSet) : (keyLe a b || keyLe b a) = true := by
  unfold keyLe
  cases nodeKey? a with
  | none => simp
  | some k =>
    cases nodeKey? b with
    | none => simp
    | some l => simpa using String.le_total k l

/-! ### Sorting -/

section Sorting

variable {α : Type*} {le : α → α → Bool}

/-- Sorting leaves those elements as they stand of which each is at or before the other. -/
lemma filter_mergeSort (trans : ∀ a b c, le a b = true → le b c = true → le a c = true)
    (total : ∀ a b, (le a b || le b a) = true) {p : α → Bool}
    (hp : ∀ a b, p a = true → p b = true → le a b = true) (l : List α) :
    (l.mergeSort le).filter p = l.filter p := by
  have hsorted : (l.filter p).Pairwise fun a b => le a b = true := by
    refine List.pairwise_iff_forall_sublist.mpr fun {a b} hab => ?_
    have ha : a ∈ l.filter p := hab.mem (by simp)
    have hb : b ∈ l.filter p := hab.mem (by simp)
    exact hp a b (List.mem_filter.mp ha).2 (List.mem_filter.mp hb).2
  have hsub : (l.filter p).Sublist ((l.mergeSort le).filter p) := by
    have h := List.sublist_mergeSort trans total hsorted List.filter_sublist
    simpa using h.filter p
  have hlength : ((l.mergeSort le).filter p).length = (l.filter p).length :=
    ((List.mergeSort_perm l le).filter p).length_eq
  exact (hsub.eq_of_length hlength.symm).symm

/-- Sorting is stable: two elements that may stand either way are related as any two are that
stand so before. -/
lemma pairwise_mergeSort_of_pairwise
    (trans : ∀ a b c, le a b = true → le b c = true → le a c = true)
    (total : ∀ a b, (le a b || le b a) = true) {r : α → α → Prop} {l : List α}
    (h : l.Pairwise r) :
    (l.mergeSort le).Pairwise fun a b => le a b = true ∧ (le b a = true → r a b) := by
  refine List.pairwise_iff_forall_sublist.mpr fun {a b} hab => ?_
  have hle : le a b = true :=
    List.pairwise_iff_forall_sublist.mp (List.pairwise_mergeSort trans total l) hab
  refine ⟨hle, fun hge => ?_⟩
  -- among the elements that may stand either way with `a`, the two stand as they did
  let p : α → Bool := fun x => le a x && le x a
  have hp : ∀ x y, p x = true → p y = true → le x y = true := by
    intro x y hx hy
    simp only [p, Bool.and_eq_true] at hx hy
    exact trans x a y hx.2 hy.1
  have haa : le a a = true := by simpa using total a a
  have hsub : [a, b].Sublist ((l.mergeSort le).filter p) := by
    simpa [p, haa, hle, hge] using hab.filter p
  rw [filter_mergeSort trans total hp] at hsub
  exact List.pairwise_iff_forall_sublist.mp h (hsub.trans List.filter_sublist)

end Sorting

/-! ### Scanning -/

/-- The nodes from a start key on, in the order in which a scan goes through them. -/
def ranked (start : String) (nodes : List FieldSet) : List FieldSet :=
  (nodes.filter (reaches start)).mergeSort keyLe

lemma scanList_eq_take (start : String) (limit : Nat) (nodes : List FieldSet) :
    scanList start limit nodes = (ranked start nodes).take limit := rfl

lemma perm_ranked (start : String) (nodes : List FieldSet) :
    (ranked start nodes).Perm (nodes.filter (reaches start)) :=
  List.mergeSort_perm _ keyLe

lemma mem_ranked :
    node ∈ ranked start nodes ↔
      node ∈ nodes ∧ ∃ key, nodeKey? node = some key ∧ start ≤ key := by
  rw [(perm_ranked start nodes).mem_iff, List.mem_filter, reaches_iff]

lemma length_ranked (start : String) (nodes : List FieldSet) :
    (ranked start nodes).length = nodes.countP (reaches start) := by
  rw [(perm_ranked start nodes).length_eq, List.countP_eq_length_filter]

/-- A scan's nodes stand in the order of their keys. -/
lemma pairwise_ranked (start : String) (nodes : List FieldSet) :
    (ranked start nodes).Pairwise fun a b => keyLe a b = true :=
  List.pairwise_mergeSort keyLe_trans keyLe_total _

/-! ### Replacing and removing -/

lemma mem_replaceKey {values : FieldSet} :
    node ∈ replaceKey key values nodes ↔
      (node ∈ nodes ∧ nodeKey? node ≠ some key) ∨
        node = nodeProperties key values ∧ ∃ old ∈ nodes, nodeKey? old = some key := by
  simp only [replaceKey, List.mem_map, hasKey_iff]
  constructor
  · rintro ⟨old, hm, rfl⟩
    by_cases hk : nodeKey? old = some key
    · rw [if_pos hk]
      exact .inr ⟨rfl, old, hm, hk⟩
    · rw [if_neg hk]
      exact .inl ⟨hm, hk⟩
  · rintro (⟨hm, hk⟩ | ⟨rfl, old, hm, hk⟩)
    · exact ⟨node, hm, if_neg hk⟩
    · exact ⟨old, hm, if_pos hk⟩

/-- Replacing changes no key. -/
lemma map_nodeKey?_replaceKey (key : String) (values : FieldSet) (nodes : List FieldSet) :
    (replaceKey key values nodes).map nodeKey? = nodes.map nodeKey? := by
  rw [replaceKey, List.map_map]
  refine List.map_congr_left fun node _ => ?_
  by_cases hk : hasKey key node = true
  · simp only [Function.comp_apply, if_pos hk, nodeKey?_nodeProperties]
    exact (hasKey_iff.mp hk).symm
  · simp only [Function.comp_apply, if_neg hk]

lemma mem_removeKey :
    node ∈ removeKey key nodes ↔ node ∈ nodes ∧ nodeKey? node ≠ some key := by
  simp [removeKey, hasKey]

end KeyedGraph
