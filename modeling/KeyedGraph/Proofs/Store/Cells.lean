import KeyedGraph.Proofs.Store.Handles
import KeyedGraph.Proofs.Store.Nodes

/-!
# Cells

The nodes of a label fall into cells: those that share a key, in the order of their creation. How
the cells are mixed in the list does not show in any answer. A scan puts its nodes in the order
of their keys and leaves those of one cell as they stand, and every other call has to do with one
cell only.
-/

namespace KeyedGraph

/-- The nodes with a key, or those without one. -/
def cell (key : Option String) (nodes : List FieldSet) : List FieldSet :=
  nodes.filter fun node => nodeKey? node == key

section Lists

variable {key : String} {k : Option String} {node : FieldSet} {nodes nodes' : List FieldSet}

/-! ### One cell -/

@[simp] lemma mem_cell : node ∈ cell k nodes ↔ node ∈ nodes ∧ nodeKey? node = k := by
  simp [cell]

@[simp] lemma cell_append (k : Option String) (nodes nodes' : List FieldSet) :
    cell k (nodes ++ nodes') = cell k nodes ++ cell k nodes' :=
  List.filter_append ..

lemma cell_cons_of_eq (h : nodeKey? node = k) : cell k (node :: nodes) = node :: cell k nodes :=
  List.filter_cons_of_pos (by simp [h])

lemma cell_cons_of_ne (h : nodeKey? node ≠ k) : cell k (node :: nodes) = cell k nodes :=
  List.filter_cons_of_neg (by simp [h])

lemma cell_filter (p : FieldSet → Bool) (k : Option String) (nodes : List FieldSet) :
    cell k (nodes.filter p) = (cell k nodes).filter p := by
  simp only [cell, List.filter_filter, Bool.and_comm]

/-- A look-up finds the head of a cell. -/
lemma findNode_eq_head? (key : String) (nodes : List FieldSet) :
    findNode key nodes = (cell (some key) nodes).head? :=
  List.head?_filter.symm

lemma countKey_eq_length (key : String) (nodes : List FieldSet) :
    countKey key nodes = (cell (some key) nodes).length :=
  List.countP_eq_length_filter

lemma any_hasKey_eq (key : String) (nodes : List FieldSet) :
    nodes.any (hasKey key) = !(cell (some key) nodes).isEmpty := by
  rw [Bool.eq_iff_iff]
  simp [List.eq_nil_iff_forall_not_mem, hasKey_iff]

/-! ### Changes of one cell -/

/-- Replacing puts the same node all over one cell. -/
lemma cell_replaceKey_same (key : String) (values : FieldSet) (nodes : List FieldSet) :
    cell (some key) (replaceKey key values nodes) =
      (cell (some key) nodes).map fun _ => nodeProperties key values := by
  induction nodes with
  | nil => rfl
  | cons node nodes ih =>
    by_cases h : nodeKey? node = some key
    · simpa [replaceKey, hasKey_iff, h, cell_cons_of_eq] using ih
    · simpa [replaceKey, hasKey_iff, h, cell_cons_of_ne] using ih

lemma cell_replaceKey_of_ne (h : k ≠ some key) (values : FieldSet) (nodes : List FieldSet) :
    cell k (replaceKey key values nodes) = cell k nodes := by
  induction nodes with
  | nil => rfl
  | cons node nodes ih =>
    change cell k
      ((if hasKey key node = true then _ else node) :: replaceKey key values nodes) = _
    by_cases hk : hasKey key node = true
    · have hnode : nodeKey? node ≠ k := by
        rw [hasKey_iff.mp hk]
        exact h.symm
      rw [if_pos hk, cell_cons_of_ne (by simpa using h.symm), cell_cons_of_ne hnode, ih]
    · rw [if_neg hk]
      by_cases hnode : nodeKey? node = k
      · rw [cell_cons_of_eq hnode, cell_cons_of_eq hnode, ih]
      · rw [cell_cons_of_ne hnode, cell_cons_of_ne hnode, ih]

lemma cell_removeKey_same (key : String) (nodes : List FieldSet) :
    cell (some key) (removeKey key nodes) = [] := by
  simp [List.eq_nil_iff_forall_not_mem, mem_removeKey]

lemma cell_removeKey_of_ne (h : k ≠ some key) (nodes : List FieldSet) :
    cell k (removeKey key nodes) = cell k nodes := by
  rw [removeKey, cell_filter, List.filter_eq_self]
  intro node hm
  have hk : nodeKey? node = k := (mem_cell.mp hm).2
  simp [hasKey, hk, h]

/-! ### All cells together -/

/-- Nodes of which each is at or before the other have one key. -/
lemma nodeKey?_eq_of_keyLe {a b : FieldSet} (hab : keyLe a b = true) (hba : keyLe b a = true) :
    nodeKey? a = nodeKey? b := by
  unfold keyLe at hab hba
  cases ha : nodeKey? a with
  | none =>
    cases hb : nodeKey? b with
    | none => rfl
    | some l => simp [ha, hb] at hba
  | some k =>
    cases hb : nodeKey? b with
    | none => simp [ha, hb] at hab
    | some l =>
      simp only [ha, hb, decide_eq_true_eq] at hab hba
      rw [String.le_antisymm hab hba]

lemma keyLe_of_nodeKey?_eq {a b : FieldSet} (h : nodeKey? a = nodeKey? b) :
    keyLe a b = true := by
  rw [keyLe, h]
  cases nodeKey? b with
  | none => rfl
  | some l => simp

/-- Sorting leaves each cell as it stands. -/
lemma cell_mergeSort (k : Option String) (nodes : List FieldSet) :
    cell k (nodes.mergeSort keyLe) = cell k nodes := by
  refine filter_mergeSort keyLe_trans keyLe_total (fun a b ha hb => ?_) nodes
  exact keyLe_of_nodeKey?_eq ((beq_iff_eq.mp ha).trans (beq_iff_eq.mp hb).symm)

/-- Lists with the same cells have the same nodes. -/
lemma mem_iff_of_cell_eq (h : ∀ k, cell k nodes = cell k nodes') :
    node ∈ nodes ↔ node ∈ nodes' := by
  have hk : node ∈ cell (nodeKey? node) nodes ↔ node ∈ cell (nodeKey? node) nodes' := by rw [h]
  simpa using hk

/-- The head of a sorted list is at or before all its nodes. -/
lemma keyLe_head {a : FieldSet} (hs : (a :: nodes).Pairwise fun a b => keyLe a b = true)
    (hm : node ∈ a :: nodes) : keyLe a node = true := by
  rcases List.mem_cons.mp hm with rfl | hm
  · exact keyLe_of_nodeKey?_eq rfl
  · exact List.rel_of_pairwise_cons hs hm

/-- Sorted lists with the same cells are the same. -/
lemma eq_of_cell_eq (hs : nodes.Pairwise fun a b => keyLe a b = true)
    (hs' : nodes'.Pairwise fun a b => keyLe a b = true)
    (h : ∀ k, cell k nodes = cell k nodes') : nodes = nodes' := by
  induction nodes generalizing nodes' with
  | nil =>
    refine (List.eq_nil_iff_forall_not_mem.mpr fun node hm => ?_).symm
    simpa using (mem_iff_of_cell_eq h).mpr hm
  | cons a nodes ih =>
    cases nodes' with
    | nil =>
      have hm : a ∈ ([] : List FieldSet) := (mem_iff_of_cell_eq h).mp List.mem_cons_self
      simp at hm
    | cons b nodes' =>
      -- each head is in the other list, so the two heads are of one cell and come first in it
      have hab : keyLe a b = true := keyLe_head hs ((mem_iff_of_cell_eq h).mpr (by simp))
      have hba : keyLe b a = true := keyLe_head hs' ((mem_iff_of_cell_eq h).mp (by simp))
      have hkey : nodeKey? a = nodeKey? b := nodeKey?_eq_of_keyLe hab hba
      have hhead := h (nodeKey? b)
      rw [cell_cons_of_eq hkey, cell_cons_of_eq rfl, List.cons.injEq] at hhead
      obtain ⟨rfl, htail⟩ := hhead
      have hcells (k : Option String) : cell k nodes = cell k nodes' := by
        by_cases hk : nodeKey? a = k
        · rw [← hk]
          exact htail
        · have := h k
          rwa [cell_cons_of_ne hk, cell_cons_of_ne hk] at this
      rw [ih hs.of_cons hs'.of_cons hcells]

/-- The order of the cells among each other does not show in a sorted list. -/
lemma mergeSort_congr (h : ∀ k, cell k nodes = cell k nodes') :
    nodes.mergeSort keyLe = nodes'.mergeSort keyLe := by
  refine eq_of_cell_eq (List.pairwise_mergeSort keyLe_trans keyLe_total _)
    (List.pairwise_mergeSort keyLe_trans keyLe_total _) fun k => ?_
  rw [cell_mergeSort, cell_mergeSort, h k]

/-- A scan sees the cells only. -/
lemma scanList_congr (h : ∀ k, cell k nodes = cell k nodes') (start : String) (limit : Nat) :
    scanList start limit nodes = scanList start limit nodes' := by
  rw [scanList, scanList, mergeSort_congr fun k => ?_]
  rw [cell_filter, cell_filter, h k]

lemma length_congr (h : ∀ k, cell k nodes = cell k nodes') : nodes.length = nodes'.length := by
  rw [← List.length_mergeSort nodes, mergeSort_congr h, List.length_mergeSort]

end Lists

/-! ### Calls and cells -/

/-- The answer to a call, and what the call changes, has to do with the chosen cells only. -/
def StoreCall.Within (P : Label → Option String → Prop) : StoreCall → Prop
  | .verifyConnectivity => True
  | .readNode label key => P label (some key)
  | .scanNodes label _ _ => ∀ k, P label k
  | .replaceNode label key _ => P label (some key)
  | .createNode label key _ => P label (some key)
  | .deleteNodes label key => P label (some key)
  | .close => True

/-- A call changes none of the chosen cells. -/
def StoreCall.Spares (P : Label → Option String → Prop) : StoreCall → Prop
  | .verifyConnectivity => True
  | .readNode _ _ => True
  | .scanNodes _ _ _ => True
  | .replaceNode label key _ => ¬ P label (some key)
  | .createNode label key _ => ¬ P label (some key)
  | .deleteNodes label key => ¬ P label (some key)
  | .close => True

namespace Memory

/-- Two stores with the same chosen cells, whose handles are open or closed alike. -/
structure AgreeOn (P : Label → Option String → Prop) (m m' : Memory) : Prop where
  cell_eq {label : Label} {k : Option String} (hP : P label k) :
    cell k (m.nodes label) = cell k (m'.nodes label)
  uniqueKeys_eq : m.uniqueKeys = m'.uniqueKeys
  unreachable_eq : m.unreachable = m'.unreachable
  opened_eq : m.opened = m'.opened
  closedHandles_eq : m.closedHandles = m'.closedHandles

/-- Two stores that differ at most in how the cells are mixed. -/
abbrev Alike : Memory → Memory → Prop :=
  AgreeOn fun _ _ => True

namespace AgreeOn

variable {P : Label → Option String → Prop} {m m' m'' : Memory}

lemma refl (P : Label → Option String → Prop) (m : Memory) : m.AgreeOn P m :=
  ⟨fun _ => rfl, rfl, rfl, rfl, rfl⟩

lemma symm (h : m.AgreeOn P m') : m'.AgreeOn P m :=
  ⟨fun hP => (h.cell_eq hP).symm, h.uniqueKeys_eq.symm, h.unreachable_eq.symm, h.opened_eq.symm,
    h.closedHandles_eq.symm⟩

lemma trans (h : m.AgreeOn P m') (h' : m'.AgreeOn P m'') : m.AgreeOn P m'' :=
  ⟨fun hP => (h.cell_eq hP).trans (h'.cell_eq hP), h.uniqueKeys_eq.trans h'.uniqueKeys_eq,
    h.unreachable_eq.trans h'.unreachable_eq, h.opened_eq.trans h'.opened_eq,
    h.closedHandles_eq.trans h'.closedHandles_eq⟩

lemma isClosed_eq (h : m.AgreeOn P m') (handle : Nat) :
    m.isClosed handle = m'.isClosed handle := by
  rw [isClosed, isClosed, h.closedHandles_eq]

/-- Putting nodes with the same chosen cells on both sides. -/
lemma setNodes (h : m.AgreeOn P m') {label : Label} {nodes nodes' : List FieldSet}
    (hc : ∀ k, P label k → cell k nodes = cell k nodes') :
    (m.setNodes label nodes).AgreeOn P (m'.setNodes label nodes') where
  cell_eq {l k} hP := by
    by_cases hl : l = label
    · subst hl
      rw [setNodes_same, setNodes_same]
      exact hc k hP
    · rw [setNodes_of_ne hl, setNodes_of_ne hl]
      exact h.cell_eq hP
  uniqueKeys_eq := h.uniqueKeys_eq
  unreachable_eq := h.unreachable_eq
  opened_eq := h.opened_eq
  closedHandles_eq := h.closedHandles_eq

lemma closeHandle (h : m.AgreeOn P m') (handle : Nat) :
    (m.closeHandle handle).AgreeOn P (m'.closeHandle handle) := by
  rw [Memory.closeHandle, Memory.closeHandle, h.isClosed_eq]
  split
  · exact h
  · exact ⟨h.cell_eq, h.uniqueKeys_eq, h.unreachable_eq, h.opened_eq,
      congrArg (handle :: ·) h.closedHandles_eq⟩

end AgreeOn

/-! ### Calls on stores that agree -/

variable {P : Label → Option String → Prop} {m m' : Memory}

/-- A call that has to do with cells on which two stores agree is answered alike, and they go on
agreeing. -/
lemma answer_agrees (h : m.AgreeOn P m') {c : StoreCall} (hc : c.Within P) :
    (answer c m).outcome = (answer c m').outcome ∧
      (answer c m).world.AgreeOn P (answer c m').world := by
  cases c with
  | verifyConnectivity | close => exact ⟨rfl, h⟩
  | readNode label key =>
    have hcell := h.cell_eq hc
    simp only [answer, findNode_eq_head?, hcell]
    exact ⟨rfl, h⟩
  | scanNodes label start limit =>
    simp only [answer, scanList_congr (fun k => h.cell_eq (hc k)) start limit]
    exact ⟨rfl, h⟩
  | replaceNode label key values =>
    have hcell := h.cell_eq hc
    simp only [answer, countKey_eq_length, hcell]
    refine ⟨rfl, h.setNodes fun k hP => ?_⟩
    by_cases hk : k = some key
    · subst hk
      rw [cell_replaceKey_same, cell_replaceKey_same, hcell]
    · rw [cell_replaceKey_of_ne hk, cell_replaceKey_of_ne hk, h.cell_eq hP]
  | deleteNodes label key =>
    have hcell := h.cell_eq hc
    simp only [answer, countKey_eq_length, hcell]
    refine ⟨rfl, h.setNodes fun k hP => ?_⟩
    by_cases hk : k = some key
    · subst hk
      rw [cell_removeKey_same, cell_removeKey_same]
    · rw [cell_removeKey_of_ne hk, cell_removeKey_of_ne hk, h.cell_eq hP]
  | createNode label key values =>
    have hcell := h.cell_eq hc
    simp only [answer, createNode, any_hasKey_eq, hcell, h.uniqueKeys_eq]
    split
    · exact ⟨rfl, h⟩
    · refine ⟨rfl, h.setNodes fun k hP => ?_⟩
      rw [cell_append, cell_append, h.cell_eq hP]

lemma call_agrees (h : m.AgreeOn P m') {c : StoreCall} (hc : c.Within P) (handle : Nat) :
    (call handle c m).outcome = (call handle c m').outcome ∧
      (call handle c m).world.AgreeOn P (call handle c m').world := by
  by_cases hclose : c = .close
  · subst hclose
    exact ⟨rfl, h.closeHandle handle⟩
  · rw [call_of_ne_close handle m hclose, call_of_ne_close handle m' hclose, h.isClosed_eq]
    split
    · exact ⟨rfl, h⟩
    · exact answer_agrees h hc

lemma within_true (c : StoreCall) : c.Within fun _ _ => True := by
  cases c <;> simp [StoreCall.Within]

/-- A call that spares the chosen cells leaves them as they are. -/
lemma answer_spares (m : Memory) {c : StoreCall} (hc : c.Spares P) :
    (answer c m).world.AgreeOn P m := by
  -- the cell that is changed is none of the chosen ones
  have hset {label : Label} {nodes : List FieldSet} {key : String} (hP : ¬ P label (some key))
      (hn : ∀ k, k ≠ some key → cell k nodes = cell k (m.nodes label)) :
      (m.setNodes label nodes).AgreeOn P m := by
    refine ⟨fun {l k} hl => ?_, rfl, rfl, rfl, rfl⟩
    by_cases heq : l = label
    · subst heq
      rw [setNodes_same]
      refine hn k ?_
      rintro rfl
      exact hP hl
    · rw [setNodes_of_ne heq]
  cases c with
  | verifyConnectivity | readNode | scanNodes | close => exact .refl P m
  | replaceNode label key values =>
    exact hset hc fun k hk => cell_replaceKey_of_ne hk values _
  | deleteNodes label key =>
    exact hset hc fun k hk => cell_removeKey_of_ne hk _
  | createNode label key values =>
    simp only [answer, createNode]
    split
    · exact .refl P m
    · refine hset hc fun k hk => ?_
      rw [cell_append, cell_cons_of_ne (by simpa using hk.symm)]
      exact List.append_nil _

lemma call_spares (m : Memory) {c : StoreCall} (hclose : c ≠ .close) (hc : c.Spares P)
    (handle : Nat) : (call handle c m).world.AgreeOn P m := by
  rw [call_of_ne_close handle m hclose]
  split
  · exact .refl P m
  · exact answer_spares m hc

end Memory

end KeyedGraph
