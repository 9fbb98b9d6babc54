import KeyedGraph.Proofs.Store.Runs
import KeyedGraph.Proofs.Text.ByteOrder
import Mathlib.Data.List.Nodup

/-!
# What a scan picks

The history of a store tells which of its nodes is older: each was put there by one successful
creation, and the store keeps its nodes in the order of their creations. A scan picks the nodes
that come first by their keys and, where keys are the same, by their age. It picks as many as
there are, up to its limit, and none twice.
-/

namespace KeyedGraph

open Text

/-! ### The nodes that a history leaves -/

/-- A node in a store, the key that it was created with, and the number of the step that created
it. -/
structure Stored where
  node : FieldSet
  key : String
  birth : Nat

/-- What a successful step makes of the nodes of a label. A node that it creates gets its
number. -/
def Step.enlist {η : Type} (label : Label) (number : Nat) (stored : List Stored) :
    Step η → List Stored
  | .call _ (.createNode l key values) =>
    if l = label then stored ++ [⟨nodeProperties key values, key, number⟩] else stored
  | .call _ (.replaceNode l key values) =>
    if l = label then
      stored.map fun x => if x.key = key then { x with node := nodeProperties key values } else x
    else stored
  | .call _ (.deleteNodes l key) =>
    if l = label then stored.filter fun x => x.key ≠ key else stored
  | .call _ _ => stored
  | .connect _ => stored

/-- The nodes of a label that a sequence of successful steps leaves where there were none. The
steps are numbered from zero. -/
def inventory {η : Type} (label : Label) (done : List (Step η)) : List Stored :=
  done.zipIdx.foldl (fun stored s => s.1.enlist label s.2 stored) []

namespace Memory

/-- A list of a store's nodes of one label, in the order in which they are kept: each carries its
key, and was created by an earlier step than those behind it. -/
structure Lists (label : Label) (done : List (Step Nat)) (m : Memory) (stored : List Stored) :
    Prop where
  nodes : stored.map Stored.node = m.nodes label
  key {x : Stored} (hx : x ∈ stored) : nodeKey? x.node = some x.key
  created {x : Stored} (hx : x ∈ stored) :
    ∃ handle values, done[x.birth]? = some (.call handle (.createNode label x.key values))
  ordered : stored.Pairwise fun x y => x.birth < y.birth

namespace Lists

variable {label : Label} {done : List (Step Nat)} {m m' : Memory} {stored : List Stored}

lemma birth_lt (h : Lists label done m stored) {x : Stored} (hx : x ∈ stored) :
    x.birth < done.length := by
  obtain ⟨handle, values, hd⟩ := h.created hx
  exact (List.getElem?_eq_some_iff.mp hd).1

/-- A further step leaves the births of earlier nodes where they were. -/
lemma created_append (h : Lists label done m stored) {x : Stored} (hx : x ∈ stored)
    (later : List (Step Nat)) :
    ∃ handle values,
      (done ++ later)[x.birth]? = some (.call handle (.createNode label x.key values)) := by
  obtain ⟨handle, values, hd⟩ := h.created hx
  exact ⟨handle, values, by rw [List.getElem?_append_left (h.birth_lt hx), hd]⟩

/-- A step that leaves the nodes of the label alone. -/
lemma keep (h : Lists label done m stored) (s : Step Nat) (hn : m'.nodes label = m.nodes label) :
    Lists label (done ++ [s]) m' stored where
  nodes := h.nodes.trans hn.symm
  key := h.key
  created hx := h.created_append hx [s]
  ordered := h.ordered

lemma hasKey_iff (h : Lists label done m stored) {x : Stored} (hx : x ∈ stored) (key : String) :
    hasKey key x.node = true ↔ x.key = key := by
  rw [KeyedGraph.hasKey_iff, h.key hx, Option.some.injEq]

lemma create (h : Lists label done m stored) (handle : Nat) (key : String) (values : FieldSet)
    (hn : m'.nodes label = m.nodes label ++ [nodeProperties key values]) :
    Lists label (done ++ [.call handle (.createNode label key values)]) m'
      (stored ++ [⟨nodeProperties key values, key, done.length⟩]) where
  nodes := by rw [List.map_append, h.nodes, hn, List.map_singleton]
  key {x} hx := by
    rcases List.mem_append.mp hx with hx | hx
    · exact h.key hx
    · obtain rfl := List.mem_singleton.mp hx
      exact nodeKey?_nodeProperties key values
  created {x} hx := by
    rcases List.mem_append.mp hx with hx | hx
    · exact h.created_append hx _
    · obtain rfl := List.mem_singleton.mp hx
      exact ⟨handle, values, List.getElem?_concat_length⟩
  ordered := by
    rw [List.pairwise_append]
    refine ⟨h.ordered, List.pairwise_singleton .., fun x hx y hy => ?_⟩
    obtain rfl := List.mem_singleton.mp hy
    exact h.birth_lt hx

lemma replace (h : Lists label done m stored) (handle : Nat) (key : String) (values : FieldSet)
    (hn : m'.nodes label = replaceKey key values (m.nodes label)) :
    Lists label (done ++ [.call handle (.replaceNode label key values)]) m'
      (stored.map fun x =>
        if x.key = key then { x with node := nodeProperties key values } else x) where
  nodes := by
    rw [hn, ← h.nodes, replaceKey, List.map_map, List.map_map]
    refine List.map_congr_left fun x hx => ?_
    simp only [Function.comp_apply, h.hasKey_iff hx]
    split <;> rfl
  key {x} hx := by
    obtain ⟨y, hy, rfl⟩ := List.mem_map.mp hx
    split
    · rename_i hk
      rw [nodeKey?_nodeProperties, hk]
    · exact h.key hy
  created {x} hx := by
    obtain ⟨y, hy, rfl⟩ := List.mem_map.mp hx
    split <;> exact h.created_append hy _
  ordered := by
    refine List.pairwise_map.mpr (h.ordered.imp fun {x y} hlt => ?_)
    split <;> split <;> exact hlt

lemma delete (h : Lists label done m stored) (handle : Nat) (key : String)
    (hn : m'.nodes label = removeKey key (m.nodes label)) :
    Lists label (done ++ [.call handle (.deleteNodes label key)]) m'
      (stored.filter fun x => x.key ≠ key) where
  nodes := by
    rw [hn, ← h.nodes, removeKey, List.filter_map]
    refine congrArg (List.map Stored.node) (List.filter_congr fun x hx => ?_)
    rw [Bool.eq_iff_iff, Function.comp_apply, Bool.not_eq_true', decide_eq_true_iff,
      ← Bool.not_eq_true, h.hasKey_iff hx]
  key hx := h.key (List.mem_of_mem_filter hx)
  created hx := h.created_append (List.mem_of_mem_filter hx) _
  ordered := h.ordered.filter _

/-- A successful step is enlisted. -/
lemma enlist {s : Step Nat} (h : Lists label done m stored) (hs : Success m s m') :
    Lists label (done ++ [s]) m' (s.enlist label done.length stored) := by
  cases hs with
  | connected settings => exact h.keep _ rfl
  | closed handle hh => exact h.keep _ (by rw [nodes_closeHandle])
  | answered handle c hc hh ho =>
    cases c with
    | verifyConnectivity | readNode | scanNodes => exact h.keep _ rfl
    | close => exact absurd rfl hc
    | replaceNode l key values =>
      rw [Step.enlist]
      split
      · rename_i hl
        subst hl
        exact h.replace handle key values (setNodes_same ..)
      · rename_i hl
        exact h.keep _ (setNodes_of_ne (Ne.symm hl) _)
    | deleteNodes l key =>
      rw [Step.enlist]
      split
      · rename_i hl
        subst hl
        exact h.delete handle key (setNodes_same ..)
      · rename_i hl
        exact h.keep _ (setNodes_of_ne (Ne.symm hl) _)
    | createNode l key values =>
      simp only [answer, createNode] at ho ⊢
      split at ho
      · simp [Attempt.failed, Outcome.isOk] at ho
      · rename_i hu
        rw [if_neg hu, Step.enlist]
        split
        · rename_i hl
          subst hl
          exact h.create handle key values (setNodes_same ..)
        · rename_i hl
          exact h.keep _ (setNodes_of_ne (Ne.symm hl) _)

/-- Behind a history, the nodes are those that it leaves. -/
theorem succession {later : List (Step Nat)} (h : Lists label done m stored)
    (hs : Succession m later m') :
    Lists label (done ++ later) m' ((later.zipIdx done.length).foldl
      (fun stored s => s.1.enlist label s.2 stored) stored) := by
  induction hs generalizing done stored with
  | nil m => simpa using h
  | cons head tail ih =>
    have h' := ih (h.enlist head)
    rw [List.append_assoc, List.length_append] at h'
    exact h'

end Lists

lemma lists_run (fresh : Memory) (hf : ∀ label, fresh.nodes label = []) (steps : List (Step Nat))
    (label : Label) :
    Lists label (fresh.successes steps) (fresh.run steps)
      (inventory label (fresh.successes steps)) := by
  have hnone : Lists label [] fresh [] :=
    ⟨(hf label).symm, fun hx => absurd hx List.not_mem_nil, fun hx => absurd hx List.not_mem_nil,
      List.Pairwise.nil⟩
  exact hnone.succession (succession_run fresh steps)

end Memory

/-! ### What is picked of them -/

namespace Stored

/-- Whether a node's key is at or behind a start key in the order of their bytes. -/
def isFrom (start : String) (x : Stored) : Bool :=
  (compareBytes start x.key).isLE

/-- Whether the key of one node is at or before that of another in the order of their bytes. -/
def le (x y : Stored) : Bool :=
  (compareBytes x.key y.key).isLE

/-- A node comes before another if its bytes of the key do, or if the keys are the same and it is
older. -/
def Precedes (x y : Stored) : Prop :=
  compareBytes x.key y.key = .lt ∨ x.key = y.key ∧ x.birth < y.birth

/-- The nodes from a start key on by their keys, those with one key as they stand. -/
def ranked (start : String) (stored : List Stored) : List Stored :=
  (stored.filter (isFrom start)).mergeSort le

lemma le_trans (x y z : Stored) (hxy : x.le y = true) (hyz : y.le z = true) : x.le z = true :=
  Std.TransCmp.isLE_trans hxy hyz

lemma le_total (x y : Stored) : (x.le y || y.le x) = true := by
  rw [le, le, isLE_compareBytes, isLE_compareBytes, Bool.or_eq_true]
  simpa using String.le_total x.key y.key

lemma precedes_of_le {x y : Stored} (h : x.le y = true)
    (hb : y.le x = true → x.birth < y.birth) : x.Precedes y := by
  rw [le] at h
  cases hc : compareBytes x.key y.key with
  | lt => exact .inl hc
  | eq =>
    have hk : x.key = y.key := Std.LawfulEqCmp.eq_of_compare hc
    have hself : compareBytes y.key y.key = .eq := Std.ReflCmp.compare_self
    refine .inr ⟨hk, hb ?_⟩
    rw [le, hk, hself]
    rfl
  | gt => simp [hc] at h

lemma perm_ranked (start : String) (stored : List Stored) :
    (ranked start stored).Perm (stored.filter (isFrom start)) :=
  List.mergeSort_perm _ le

/-- Nodes that stand by their age are ranked by their keys and their age. -/
lemma pairwise_ranked {stored : List Stored} (h : stored.Pairwise fun x y => x.birth < y.birth)
    (start : String) : (ranked start stored).Pairwise Precedes := by
  have hsorted := pairwise_mergeSort_of_pairwise le_trans le_total (h.filter (isFrom start))
  refine hsorted.imp fun {x y} hxy => ?_
  exact precedes_of_le hxy.1 hxy.2

end Stored

/-- What a scan picks of the nodes of a label. -/
structure Picks (start : String) (limit : Nat) (stored picks : List Stored) : Prop where
  /-- It picks as many as there are from its start key on, up to its limit. -/
  length : picks.length = min limit (stored.countP (Stored.isFrom start))
  /-- It picks nodes that are stored, and none more often than it is. -/
  subperm : picks.Subperm stored
  isFrom {x : Stored} (hx : x ∈ picks) : x.isFrom start = true
  sorted : picks.Pairwise Stored.Precedes
  /-- It leaves out none that comes before one that it picks. -/
  least {x y : Stored} (hx : x ∈ stored) (hs : x.isFrom start = true) (hn : x ∉ picks)
    (hy : y ∈ picks) : y.Precedes x

namespace Memory.Lists

variable {label : Label} {done : List (Step Nat)} {m : Memory} {stored : List Stored}

lemma reaches_node (h : Lists label done m stored) {x : Stored} (hx : x ∈ stored)
    (start : String) : reaches start x.node = x.isFrom start := by
  rw [reaches, h.key hx, Stored.isFrom, isLE_compareBytes]

lemma keyLe_node (h : Lists label done m stored) {x y : Stored} (hx : x ∈ stored)
    (hy : y ∈ stored) : x.le y = keyLe x.node y.node := by
  rw [keyLe, h.key hx, h.key hy, Stored.le, isLE_compareBytes]

/-- A scan goes through the nodes as they are ranked by what is known of them. -/
lemma ranked_eq_map (h : Lists label done m stored) (start : String) :
    ranked start (m.nodes label) = (Stored.ranked start stored).map Stored.node := by
  have hle : ∀ x ∈ stored.filter (Stored.isFrom start),
      ∀ y ∈ stored.filter (Stored.isFrom start), x.le y = keyLe x.node y.node := by
    intro x hx y hy
    exact h.keyLe_node (List.mem_of_mem_filter hx) (List.mem_of_mem_filter hy)
  have hfilter :
      stored.filter (Stored.isFrom start) = stored.filter (reaches start ∘ Stored.node) :=
    List.filter_congr fun x hx => (h.reaches_node hx start).symm
  rw [Stored.ranked, List.map_mergeSort hle, ranked, ← h.nodes, List.filter_map, hfilter]

lemma picks_take (h : Lists label done m stored) (start : String) (limit : Nat) :
    Picks start limit stored ((Stored.ranked start stored).take limit) where
  length := by
    rw [List.length_take, (Stored.perm_ranked start stored).length_eq,
      List.countP_eq_length_filter]
  subperm := (List.take_sublist ..).subperm.trans
    ((Stored.perm_ranked start stored).subperm.trans List.filter_sublist.subperm)
  isFrom {x} hx :=
    (List.mem_filter.mp
      ((Stored.perm_ranked start stored).mem_iff.mp (List.mem_of_mem_take hx))).2
  sorted := (Stored.pairwise_ranked h.ordered start).take
  least {x y} hx hs hn hy := by
    have hm : x ∈ Stored.ranked start stored :=
      (Stored.perm_ranked start stored).mem_iff.mpr (List.mem_filter.mpr ⟨hx, hs⟩)
    rw [← List.take_append_drop limit (Stored.ranked start stored), List.mem_append] at hm
    exact (Stored.pairwise_ranked h.ordered start).rel_of_mem_take_of_mem_drop hy
      (hm.resolve_left hn)

end Memory.Lists

namespace Memory

/-- After any steps on any handles of a store in memory, the history of those that succeeded
tells which nodes a label has, how old each of them is, and that they are kept in the order of
their age. A scan on a handle that is open gives those from its start key on that come first by
their keys and their age: as many as there are, up to its limit, in that order, and each as it is
stored. -/
theorem scans_pick_the_first (uniqueKeys unreachable : Bool) (steps : List (Step Nat))
    {handle : Nat} (ho : (Memory.run { uniqueKeys, unreachable } steps).IsOpen handle)
    (label : Label) (start : String) (limit : Nat) :
    let m := Memory.run { uniqueKeys, unreachable } steps
    let done := Memory.successes { uniqueKeys, unreachable } steps
    Lists label done m (inventory label done) ∧
    ∃ picks, Picks start limit (inventory label done) picks ∧
      call handle (.scanNodes label start limit) m = .done (picks.map Stored.node) m := by
  intro m done
  have hl : Lists label done m (inventory label done) := lists_run _ (fun _ => rfl) steps label
  refine ⟨hl, _, hl.picks_take start limit, ?_⟩
  rw [call_of_isOpen ho (by simp), answer, scanList_eq_take, hl.ranked_eq_map, List.map_take]

/-- Nodes that are created in no order of their keys, two of them with one key. -/
def jumbled : List (Step Nat) :=
  [.connect {}, .call 0 (.createNode crew "zoe" ∅), .call 0 (.createNode crew "émile" ∅),
    .call 0 (.createNode crew "ada" ∅),
    .call 0 (.createNode crew "zoe" (.ofPairs [("rank", "cook")]))]

/-- A scan leaves out a key before its start key and one that starts with a letter of two
bytes. -/
theorem jumbled_nodes_are_picked :
    let m := Memory.run {} jumbled
    let stored := inventory crew (Memory.successes {} jumbled)
    m.IsOpen 0 ∧
    stored.map (fun x => (x.key, x.birth)) = [("zoe", 1), ("émile", 2), ("ada", 3), ("zoe", 4)] ∧
    stored.map Stored.node = m.nodes crew ∧
    ∃ picks, Picks "bob" 2 stored picks ∧ picks.length = 2 ∧
      call 0 (.scanNodes crew "bob" 2) m = .done (picks.map Stored.node) m := by
  intro m stored
  have ho : m.IsOpen 0 := ⟨by decide +kernel, by decide +kernel⟩
  obtain ⟨hl, picks, hp, hcall⟩ := scans_pick_the_first false false jumbled ho crew "bob" 2
  have hcount : stored.countP (Stored.isFrom "bob") = 3 := by decide +kernel
  refine ⟨ho, by decide +kernel, hl.nodes, picks, hp, ?_, hcall⟩
  rw [hp.length, hcount]
  rfl

end Memory

end KeyedGraph
