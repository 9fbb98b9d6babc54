import KeyedGraph.Proofs.Store.Keys
import KeyedGraph.Proofs.Text.ByteOrder

/-!
# Points and ranges

What a store tells of one key, a scan from that key tells as well. A look-up finds the first row
of the scan if that row has the key. A replacement and a deletion count the rows with the key,
and these are the first rows of a scan that is long enough. A scan from the empty key is one from
the very first, so no node is out of reach.
-/

namespace KeyedGraph

open Text

section Lists

variable {key : String} {limit : Nat} {nodes : List FieldSet}

/-- A look-up finds the first of the nodes that a scan from its key goes through, if that has the
key. -/
lemma findNode_eq_head?_ranked (key : String) (nodes : List FieldSet) :
    findNode key nodes = (ranked key nodes).head?.filter (hasKey key) := by
  obtain ⟨rest, hr, hlarger⟩ := ranked_eq_append key nodes
  rw [findNode_eq_head?, hr]
  cases hc : cell (some key) nodes with
  | cons node front =>
    have hm : node ∈ cell (some key) nodes := by simp [hc]
    have hk : hasKey key node = true := hasKey_iff.mpr (mem_cell.mp hm).2
    simp [Option.filter, hk]
  | nil =>
    cases rest with
    | nil => rfl
    | cons node rest =>
      obtain ⟨k, hk, hlt⟩ := hlarger node List.mem_cons_self
      have hne : hasKey key node = false := by
        rw [← Bool.not_eq_true, hasKey_iff, hk, Option.some.injEq]
        exact ne_of_gt hlt
      simp [Option.filter, hne]

lemma head?_scanList (hl : 1 ≤ limit) (start : String) (nodes : List FieldSet) :
    (scanList start limit nodes).head? = (ranked start nodes).head? := by
  rw [scanList_eq_take, List.head?_take, if_neg (by omega)]

/-- What a look-up finds, by the first row of a scan. -/
lemma findNode_eq_some_iff (hl : 1 ≤ limit) {node : FieldSet} :
    findNode key nodes = some node ↔
      (scanList key limit nodes).head? = some node ∧ nodeKey? node = some key := by
  rw [findNode_eq_head?_ranked, head?_scanList hl, Option.filter_eq_some_iff, hasKey_iff]

/-- When a look-up finds nothing, by the first row of a scan. -/
lemma findNode_eq_none_iff (hl : 1 ≤ limit) :
    findNode key nodes = none ↔
      scanList key limit nodes = [] ∨ ∃ node k, (scanList key limit nodes).head? = some node ∧
        nodeKey? node = some k ∧ key < k := by
  rw [findNode_eq_head?_ranked, ← List.head?_eq_none_iff, head?_scanList hl,
    Option.filter_eq_none_iff]
  constructor
  · intro h
    cases hh : (ranked key nodes).head? with
    | none => exact .inl rfl
    | some node =>
      obtain ⟨-, k, hk, hle⟩ := mem_ranked.mp (List.mem_of_mem_head? hh)
      refine .inr ⟨node, k, rfl, hk, lt_of_le_of_ne hle ?_⟩
      rintro rfl
      exact h node hh (hasKey_iff.mpr hk)
  · rintro (hh | ⟨node, k, hh, hk, hlt⟩) a ha
    · simp [hh] at ha
    · obtain rfl : node = a := Option.some.inj (hh.symm.trans ha)
      rw [hasKey_iff, hk, Option.some.injEq]
      exact ne_of_gt hlt

/-- A scan that is long enough stops at nothing. -/
lemma scanList_of_length_le (hl : nodes.length ≤ limit) (start : String) :
    scanList start limit nodes = ranked start nodes := by
  rw [scanList_eq_take, List.take_of_length_le]
  rw [length_ranked]
  exact List.countP_le_length.trans hl

/-- A scan that is long enough goes through all nodes with its start key. -/
lemma filter_scanList (hl : nodes.length ≤ limit) (key : String) :
    (scanList key limit nodes).filter (hasKey key) = cell (some key) nodes := by
  rw [scanList_of_length_le hl]
  exact cell_ranked_same key nodes

lemma countP_scanList (hl : nodes.length ≤ limit) (key : String) :
    (scanList key limit nodes).countP (hasKey key) = countKey key nodes := by
  rw [List.countP_eq_length_filter, filter_scanList hl, countKey_eq_length]

lemma filter_scanList_isPrefix (hl : nodes.length ≤ limit) (key : String) :
    (scanList key limit nodes).filter (hasKey key) <+: scanList key limit nodes := by
  obtain ⟨rest, hr, -⟩ := ranked_eq_append key nodes
  rw [filter_scanList hl, scanList_of_length_le hl, hr]
  exact List.prefix_append ..

/-- A scan from the empty key that is long enough goes through all nodes. -/
lemma perm_scanList_empty (hk : Keyed nodes) (hl : nodes.length ≤ limit) :
    (scanList "" limit nodes).Perm nodes := by
  have hreach : ∀ node ∈ nodes, reaches "" node = true := by
    intro node hm
    obtain ⟨k, hk⟩ := hk node hm
    refine reaches_iff.mpr ⟨k, hk, ?_⟩
    rw [← String.not_lt, String.lt_iff]
    simp
  rw [scanList_of_length_le hl]
  have hp := perm_ranked "" nodes
  rwa [List.filter_eq_self.mpr hreach] at hp

end Lists

namespace Memory

/-- After any steps on any handles of a store in memory, on a handle that is open: a look-up of a
key finds the first row of a scan from it if that row has the key, and nothing if there is no row
or the first has a larger key, however short the scan. A replacement and a deletion answer how
many rows with the key a scan has that is as long as the label has nodes; those rows come first
in it; and a scan from the empty key goes through all nodes of the label. -/
theorem points_agree_with_ranges (uniqueKeys unreachable : Bool) (steps : List (Step Nat))
    {handle : Nat} (ho : (Memory.run { uniqueKeys, unreachable } steps).IsOpen handle)
    (label : Label) (key : String) :
    let m := Memory.run { uniqueKeys, unreachable } steps
    (∀ limit ≥ 1, ∃ found rows,
      call handle (.readNode label key) m = .done found m ∧
      call handle (.scanNodes label key limit) m = .done rows m ∧
      (∀ node, found = some node ↔ rows.head? = some node ∧ nodeKey? node = some key) ∧
      (found = none ↔ rows = [] ∨ ∃ node k, rows.head? = some node ∧ nodeKey? node = some k ∧
        compareBytes key k = .lt)) ∧
    (∀ limit ≥ m.nodeCount label, ∃ rows all,
      call handle (.scanNodes label key limit) m = .done rows m ∧
      call handle (.scanNodes label "" limit) m = .done all m ∧
      (∀ values, (call handle (.replaceNode label key values) m).outcome =
        .ok (rows.countP (hasKey key))) ∧
      (call handle (.deleteNodes label key) m).outcome = .ok (rows.countP (hasKey key)) ∧
      rows.filter (hasKey key) <+: rows ∧
      all.length = m.nodeCount label ∧ all.Perm (m.nodes label)) := by
  intro m
  have hkeyed : Keyed (m.nodes label) :=
    keyed_run (fun _ _ hn => absurd hn List.not_mem_nil) steps label
  have hanswer (c : StoreCall) (hc : c ≠ .close) : call handle c m = answer c m :=
    call_of_isOpen ho hc
  constructor
  · intro limit hl
    refine ⟨_, _, hanswer _ (by simp), hanswer _ (by simp), ?_, ?_⟩
    · intro node
      exact findNode_eq_some_iff hl
    · simp only [compareBytes_eq_lt_iff]
      exact findNode_eq_none_iff hl
  · intro limit hl
    have hperm := perm_scanList_empty hkeyed hl
    refine ⟨_, _, hanswer _ (by simp), hanswer _ (by simp), ?_, ?_, ?_, hperm.length_eq, hperm⟩
    · intro values
      rw [hanswer _ (by simp), countP_scanList hl]
      rfl
    · rw [hanswer _ (by simp), countP_scanList hl]
      rfl
    · exact filter_scanList_isPrefix hl key

/-- Two nodes with one key around a node with a smaller one. -/
def namesakes : List (Step Nat) :=
  [.connect {}, .call 0 (.createNode crew "bob" ∅), .call 0 (.createNode crew "ada" ∅),
    .call 0 (.createNode crew "bob" (.ofPairs [("rank", "cook")]))]

/-- A scan has the rows that a deletion would count, and a look-up finds the first of them. -/
theorem namesakes_agree :
    let m := Memory.run {} namesakes
    m.IsOpen 0 ∧ m.nodeCount crew = 3 ∧
    (∃ node rows, call 0 (.readNode crew "bob") m = .done (some node) m ∧
      call 0 (.scanNodes crew "bob" 1) m = .done rows m ∧ rows.head? = some node) ∧
    (call 0 (.deleteNodes crew "bob") m).outcome = .ok 2 ∧
    ∃ rows all, call 0 (.scanNodes crew "bob" 3) m = .done rows m ∧
      rows.countP (hasKey "bob") = 2 ∧ call 0 (.scanNodes crew "" 3) m = .done all m ∧
      all.length = 3 := by
  intro m
  have ho : m.IsOpen 0 := ⟨by decide +kernel, by decide +kernel⟩
  have hn : m.nodeCount crew = 3 := by decide +kernel
  have hcount : countKey "bob" (m.nodes crew) = 2 := by decide +kernel
  have hdelete : (call 0 (.deleteNodes crew "bob") m).outcome = .ok 2 := by
    rw [call_of_isOpen ho (by simp), answer, hcount]
    rfl
  obtain ⟨hpoint, hrange⟩ := points_agree_with_ranges false false namesakes ho crew "bob"
  obtain ⟨found, rows, hread, hscan, hsome, -⟩ := hpoint 1 (le_refl 1)
  obtain ⟨rows', all, hscan', hall, -, hdelete', -, hlength, -⟩ := hrange 3 (ge_of_eq hn.symm)
  have hrows : rows'.countP (hasKey "bob") = 2 := by
    simpa using hdelete'.symm.trans hdelete
  have hfound : findNode "bob" (m.nodes crew) = found := by
    rw [call_of_isOpen ho (by simp)] at hread
    exact Outcome.ok.inj (congrArg Attempt.outcome hread)
  have hthere : (findNode "bob" (m.nodes crew)).isSome = true := by decide +kernel
  obtain ⟨node, hnode⟩ := Option.isSome_iff_exists.mp (hfound ▸ hthere)
  subst hnode
  exact ⟨ho, hn, ⟨node, rows, hread, hscan, ((hsome node).mp rfl).1⟩, hdelete, rows', all,
    hscan', hrows, hall, hlength.trans hn⟩

end Memory

end KeyedGraph
