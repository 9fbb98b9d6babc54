import KeyedGraph.Proofs.Store.Cells
import Mathlib.Data.String.Basic

/-!
# The order of a scan

A scan goes through the nodes from its start key on in the order of their keys, and stops at its
limit. Two scans of one list of nodes go through it in one order: the one that starts later takes
up where the other comes to its start key, and each begins with the nodes that have the start
key.
-/

namespace KeyedGraph

variable {start key : String} {node : FieldSet} {nodes : List FieldSet}

/-! ### Scans of one list -/

/-- A scan that starts later goes through what another one goes through from there on. -/
lemma filter_ranked (h : start ≤ key) (nodes : List FieldSet) :
    (ranked start nodes).filter (reaches key) = ranked key nodes := by
  have hreach : ∀ node, (reaches start node && reaches key node) = reaches key node := by
    intro node
    rw [Bool.and_eq_right_iff_imp, reaches_iff, reaches_iff]
    rintro ⟨k, hk, hle⟩
    exact ⟨k, hk, le_trans h hle⟩
  refine eq_of_cell_eq ((pairwise_ranked start nodes).filter _) (pairwise_ranked key nodes)
    fun k => ?_
  simp only [ranked, cell_filter, cell_mergeSort, List.filter_filter, Bool.and_comm, hreach]

/-- A scan that starts with the key of a node behind smaller ones goes on from that node. -/
lemma ranked_of_eq_append {front rest : List FieldSet}
    (h : ranked start nodes = front ++ node :: rest) (hk : nodeKey? node = some key)
    (hf : ∀ a ∈ front, reaches key a = false) : ranked key nodes = node :: rest := by
  have hm : node ∈ ranked start nodes := by simp [h]
  obtain ⟨-, k, hk', hle⟩ := mem_ranked.mp hm
  obtain rfl : key = k := Option.some.inj (hk.symm.trans hk')
  have hsorted := pairwise_ranked start nodes
  rw [h] at hsorted
  have hnode : reaches key node = true := reaches_iff.mpr ⟨key, hk, le_refl key⟩
  have hrest : ∀ a ∈ rest, reaches key a = true := by
    intro a ha
    obtain ⟨-, l, hl, -⟩ := mem_ranked.mp (show a ∈ ranked start nodes by simp [h, ha])
    have hle := keyLe_head (List.pairwise_append.mp hsorted).2.1 (List.mem_cons_of_mem _ ha)
    rw [keyLe, hk, hl] at hle
    exact reaches_iff.mpr ⟨l, hl, of_decide_eq_true hle⟩
  rw [← filter_ranked hle, h, List.filter_append, List.filter_eq_nil_iff.mpr (by simpa using hf),
    List.nil_append, List.filter_cons_of_pos hnode, List.filter_eq_self.mpr hrest]

/-! ### The nodes with the start key -/

/-- Elements with a property come first in a list if none stands behind one that lacks it. -/
lemma eq_filter_append_of_pairwise {α : Type*} {p : α → Bool} {l : List α}
    (h : l.Pairwise fun a b => p b = true → p a = true) :
    l = l.filter p ++ l.filter fun a => !p a := by
  induction l with
  | nil => rfl
  | cons a l ih =>
    obtain ⟨ha, hl⟩ := List.pairwise_cons.mp h
    cases hp : p a with
    | true => simpa [hp] using ih hl
    | false =>
      have hnone : ∀ b ∈ l, p b = false := by
        intro b hb
        by_contra hpb
        simp [ha b hb (by simpa using hpb)] at hp
      rw [List.filter_eq_nil_iff.mpr (by simpa [hp] using hnone), List.nil_append,
        List.filter_eq_self.mpr (by simpa [hp] using hnone)]

/-- A scan goes through each cell from its start key on, as it stands. -/
lemma cell_ranked (start key : String) (nodes : List FieldSet) :
    cell (some key) (ranked start nodes) =
      if start ≤ key then cell (some key) nodes else [] := by
  have hreach : ∀ node ∈ cell (some key) nodes, reaches start node = decide (start ≤ key) := by
    intro node hm
    rw [reaches, (mem_cell.mp hm).2]
  rw [ranked, cell_mergeSort, cell_filter]
  split
  · rename_i hs
    exact List.filter_eq_self.mpr fun node hm => (hreach node hm).trans (decide_eq_true hs)
  · rename_i hs
    exact List.filter_eq_nil_iff.mpr fun node hm => by simp [hreach node hm, hs]

lemma cell_none_ranked (start : String) (nodes : List FieldSet) :
    cell none (ranked start nodes) = [] := by
  refine List.eq_nil_iff_forall_not_mem.mpr fun node hm => ?_
  obtain ⟨hm, hn⟩ := mem_cell.mp hm
  obtain ⟨-, k, hk, -⟩ := mem_ranked.mp hm
  simp [hk] at hn

lemma cell_ranked_same (key : String) (nodes : List FieldSet) :
    cell (some key) (ranked key nodes) = cell (some key) nodes := by
  rw [cell_ranked, if_pos (le_refl key)]

/-- A scan goes through the nodes with its start key first, as they are kept, and then through
nodes with larger keys. -/
lemma ranked_eq_append (key : String) (nodes : List FieldSet) :
    ∃ rest, ranked key nodes = cell (some key) nodes ++ rest ∧
      ∀ node ∈ rest, ∃ k, nodeKey? node = some k ∧ key < k := by
  have hfirst : (ranked key nodes).Pairwise fun a b =>
      hasKey key b = true → hasKey key a = true := by
    refine (pairwise_ranked key nodes).imp_of_mem fun {a b} ha _ hab hb => ?_
    obtain ⟨-, k, hk, hle⟩ := mem_ranked.mp ha
    rw [hasKey_iff] at hb ⊢
    rw [keyLe, hk, hb] at hab
    rw [hk, le_antisymm (of_decide_eq_true hab) hle]
  refine ⟨(ranked key nodes).filter fun node => !hasKey key node, ?_, fun node hm => ?_⟩
  · rw [← cell_ranked_same]
    exact eq_filter_append_of_pairwise hfirst
  · obtain ⟨hm, hn⟩ := List.mem_filter.mp hm
    obtain ⟨-, k, hk, hle⟩ := mem_ranked.mp hm
    refine ⟨k, hk, lt_of_le_of_ne hle ?_⟩
    rintro rfl
    simp [hasKey, hk] at hn

end KeyedGraph
