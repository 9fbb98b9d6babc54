import KeyedGraph.Proofs.Machine
import KeyedGraph.Proofs.Store.Runs
import Mathlib.Algebra.GroupWithZero.Nat

/-!
# Keys of stored nodes

Every node in memory has a key. The keys of a label, in the order in which its nodes are kept,
change in two ways only: the creation of a node puts its key at the end, and a deletion takes its
key out wherever it stands. Replacing the nodes with a key moves, renames, doubles and drops none
of them. So a label has as many nodes as were created in it, less those that were deleted.
-/

namespace KeyedGraph

/-! ### Keys of a list of nodes -/

/-- The keys of nodes, in the order of the nodes. -/
def nodeKeys (nodes : List FieldSet) : List String :=
  nodes.filterMap nodeKey?

/-- All of the nodes have keys. -/
def Keyed (nodes : List FieldSet) : Prop :=
  ∀ node ∈ nodes, ∃ key, nodeKey? node = some key

section Lists

variable {nodes : List FieldSet}

lemma Keyed.append_node (h : Keyed nodes) (key : String) (values : FieldSet) :
    Keyed (nodes ++ [nodeProperties key values]) := by
  intro node hm
  rcases List.mem_append.mp hm with hm | hm
  · exact h node hm
  · obtain rfl := List.mem_singleton.mp hm
    exact ⟨key, nodeKey?_nodeProperties key values⟩

lemma Keyed.replaceKey (h : Keyed nodes) (key : String) (values : FieldSet) :
    Keyed (replaceKey key values nodes) := by
  intro node hm
  rcases mem_replaceKey.mp hm with ⟨hm, -⟩ | ⟨rfl, -⟩
  · exact h node hm
  · exact ⟨key, nodeKey?_nodeProperties key values⟩

lemma Keyed.removeKey (h : Keyed nodes) (key : String) : Keyed (removeKey key nodes) := by
  intro node hm
  exact h node (mem_removeKey.mp hm).1

@[simp] lemma nodeKeys_append_node (nodes : List FieldSet) (key : String) (values : FieldSet) :
    nodeKeys (nodes ++ [nodeProperties key values]) = nodeKeys nodes ++ [key] := by
  simp [nodeKeys]

@[simp] lemma nodeKeys_replaceKey (key : String) (values : FieldSet) (nodes : List FieldSet) :
    nodeKeys (replaceKey key values nodes) = nodeKeys nodes := by
  have h (l : List FieldSet) : nodeKeys l = (l.map nodeKey?).filterMap id := by
    rw [List.filterMap_map]
    rfl
  rw [h, h, map_nodeKey?_replaceKey]

/-- Removing a key takes it out of the keys and leaves the order of the others. -/
@[simp] lemma nodeKeys_removeKey (key : String) (nodes : List FieldSet) :
    nodeKeys (removeKey key nodes) = (nodeKeys nodes).filter (· ≠ key) := by
  rw [nodeKeys, removeKey, List.filterMap_filter, nodeKeys, List.filter_filterMap]
  refine List.filterMap_congr fun node _ => ?_
  cases hk : nodeKey? node with
  | none => simp
  | some k =>
    by_cases h : k = key
    · simp [hasKey, hk, h, Option.filter]
    · simp [hasKey, hk, h, Option.filter]

lemma countKey_eq_count (key : String) (nodes : List FieldSet) :
    countKey key nodes = (nodeKeys nodes).count key := by
  rw [countKey, nodeKeys, List.count, List.countP_filterMap]
  refine List.countP_congr fun node _ => ?_
  cases hk : nodeKey? node with
  | none => simp [hasKey, hk]
  | some k => simp [hasKey, hk]

/-- What is removed and what is left make up the nodes. -/
lemma length_removeKey (key : String) (nodes : List FieldSet) :
    (removeKey key nodes).length + countKey key nodes = nodes.length := by
  have h := List.length_eq_countP_add_countP (hasKey key) (l := nodes)
  rw [removeKey, countKey, ← List.countP_eq_length_filter]
  simp only [Bool.not_eq_true, Bool.decide_eq_false] at h
  omega

end Lists

/-! ### What calls make of keys -/

/-- A call, with the outcome that it came to. -/
structure Served where
  call : StoreCall
  outcome : Outcome call.Reply

namespace Served

/-- What is left of the keys of a label behind a call: a node that was created puts its key at
the end, a deletion takes its key out wherever it stands, and nothing else changes them. -/
def rekey (label : Label) (keys : List String) : Served → List String
  | ⟨.createNode l key _, .ok _⟩ => if l = label then keys ++ [key] else keys
  | ⟨.deleteNodes l key, .ok _⟩ => if l = label then keys.filter (· ≠ key) else keys
  | _ => keys

/-- How many nodes of a label a call created. -/
def created (label : Label) : Served → Nat
  | ⟨.createNode l _ _, .ok _⟩ => if l = label then 1 else 0
  | _ => 0

/-- How many nodes of a label a call says that it deleted. -/
def deleted (label : Label) : Served → Nat
  | ⟨.deleteNodes l _, .ok n⟩ => if l = label then n else 0
  | _ => 0

end Served

namespace Memory

variable {m m' : Memory} {label : Label} {handle : Nat}

/-- The keys of a label's nodes, in the order in which the nodes are kept. -/
def keys (m : Memory) (label : Label) : List String :=
  nodeKeys (m.nodes label)

/-- Makes a call on a handle. -/
def serve (handle : Nat) (m : Memory) (c : StoreCall) : Served × Memory :=
  (⟨c, (call handle c m).outcome⟩, (call handle c m).world)

/-- What a call makes of a store: its nodes go on having keys, and the keys and the number of the
nodes of each label are accounted for. -/
structure Accounts (m : Memory) (s : Served) (m' : Memory) : Prop where
  keyed : (∀ label, Keyed (m.nodes label)) → ∀ label, Keyed (m'.nodes label)
  keys_eq (label : Label) : m'.keys label = s.rekey label (m.keys label)
  nodeCount_add (label : Label) :
    m'.nodeCount label + s.deleted label = m.nodeCount label + s.created label

/-- A call that leaves the nodes alone, and counts for nothing. -/
lemma Accounts.of_nodes_eq {s : Served} (h : m'.nodes = m.nodes)
    (hk : ∀ label keys, s.rekey label keys = keys) (hc : ∀ label, s.created label = 0)
    (hd : ∀ label, s.deleted label = 0) : Accounts m s m' where
  keyed hm := by rwa [h]
  keys_eq label := by rw [hk, keys, keys, h]
  nodeCount_add label := by rw [hc, hd, nodeCount, nodeCount, h]

/-- A call that puts the nodes of one label accounts for them if it does for that label. -/
lemma Accounts.setNodes {s : Served} {l : Label} {list : List FieldSet}
    (hl : Keyed (m.nodes l) → Keyed list) (hk : nodeKeys list = s.rekey l (m.keys l))
    (hn : list.length + s.deleted l = m.nodeCount l + s.created l)
    (ho : ∀ label, label ≠ l → (∀ keys, s.rekey label keys = keys) ∧
      s.created label = 0 ∧ s.deleted label = 0) :
    Accounts m s (m.setNodes l list) where
  keyed hm label := by
    by_cases h : label = l
    · subst h
      rw [setNodes_same]
      exact hl (hm label)
    · rw [setNodes_of_ne h]
      exact hm label
  keys_eq label := by
    by_cases h : label = l
    · subst h
      rw [keys, setNodes_same, hk]
    · rw [keys, setNodes_of_ne h, (ho label h).1, keys]
  nodeCount_add label := by
    by_cases h : label = l
    · subst h
      rw [nodeCount, setNodes_same, hn]
    · obtain ⟨-, hc, hd⟩ := ho label h
      rw [nodeCount, setNodes_of_ne h, hc, hd, nodeCount]

lemma accounts_answer (c : StoreCall) (m : Memory) :
    Accounts m ⟨c, (answer c m).outcome⟩ (answer c m).world := by
  cases c with
  | verifyConnectivity | readNode | scanNodes | close =>
    exact .of_nodes_eq rfl (fun _ _ => rfl) (fun _ => rfl) (fun _ => rfl)
  | replaceNode l key values =>
    refine .setNodes (fun h => h.replaceKey key values) (nodeKeys_replaceKey ..) ?_
      (fun _ _ => ⟨fun _ => rfl, rfl, rfl⟩)
    exact congrArg (· + 0) (List.length_map ..)
  | deleteNodes l key =>
    refine .setNodes (fun h => h.removeKey key) ?_ ?_ (fun label h => ⟨fun _ => ?_, rfl, ?_⟩)
    · rw [nodeKeys_removeKey]
      exact (if_pos rfl).symm
    · exact (congrArg (_ + ·) (if_pos rfl)).trans (length_removeKey key (m.nodes l))
    · exact if_neg h.symm
    · exact if_neg h.symm
  | createNode l key values =>
    simp only [answer, createNode]
    split
    · exact .of_nodes_eq rfl (fun _ _ => rfl) (fun _ => rfl) (fun _ => rfl)
    · refine .setNodes (fun h => h.append_node key values) ?_ ?_
        (fun label h => ⟨fun _ => ?_, ?_, rfl⟩)
      · rw [nodeKeys_append_node]
        exact (if_pos rfl).symm
      · exact List.length_append.trans (congrArg (_ + ·) (if_pos rfl).symm)
      · exact if_neg h.symm
      · exact if_neg h.symm

/-- Every call accounts for the nodes, also one on a handle that is closed. -/
theorem accounts_call (handle : Nat) (c : StoreCall) (m : Memory) :
    Accounts m ⟨c, (call handle c m).outcome⟩ (call handle c m).world := by
  by_cases hc : c = .close
  · subst hc
    exact .of_nodes_eq (nodes_closeHandle m handle) (fun _ _ => rfl) (fun _ => rfl)
      (fun _ => rfl)
  · rw [call_of_ne_close handle m hc]
    split
    · cases c with
      | close => exact absurd rfl hc
      | _ => exact .of_nodes_eq rfl (fun _ _ => rfl) (fun _ => rfl) (fun _ => rfl)
    · exact accounts_answer c m

/-! ### Runs -/

/-- Behind any steps on any handles, all nodes have keys. -/
theorem keyed_run (h : ∀ label, Keyed (m.nodes label)) (steps : List (Step Nat))
    (label : Label) : Keyed ((m.run steps).nodes label) := by
  induction steps generalizing m with
  | nil => exact h label
  | cons s steps ih =>
    refine ih (m := (m.attempt s).2) ?_
    cases s with
    | connect settings =>
      simp only [attempt, connect]
      split <;> exact h
    | call handle c =>
      rw [attempt]
      split
      · exact (accounts_call handle c m).keyed h
      · exact h

/-- A handle stays open while it serves calls that do not close it. -/
lemma IsOpen.transcript (h : m.IsOpen handle) {calls : List StoreCall}
    (hc : StoreCall.close ∉ calls) :
    (transcript (serve handle) calls m).2.IsOpen handle := by
  refine transcript_induction (P := fun m : Memory => m.IsOpen handle) (fun c hm m h => ?_) h
  have hne : c ≠ .close := fun he => hc (he ▸ hm)
  obtain ⟨ho, hh⟩ := handles_call hne handle m
  simpa only [IsOpen, isClosed, serve, ho, hh] using h

/-- Over a run of calls, the keys of a label are what each call in turn makes of them. -/
theorem keys_transcript (handle : Nat) (calls : List StoreCall) (m : Memory) (label : Label) :
    (transcript (serve handle) calls m).2.keys label =
      (transcript (serve handle) calls m).1.foldl (fun keys s => s.rekey label keys)
        (m.keys label) := by
  induction calls generalizing m with
  | nil => rfl
  | cons c calls ih =>
    rw [transcript_cons, List.foldl_cons, ih]
    congr 1
    exact (accounts_call handle c m).keys_eq label

/-- Over a run of calls, the nodes of a label are those that were there and those that were
created, less those that were deleted. -/
theorem nodeCount_transcript (handle : Nat) (calls : List StoreCall) (m : Memory)
    (label : Label) :
    (transcript (serve handle) calls m).2.nodeCount label +
        ((transcript (serve handle) calls m).1.map (Served.deleted label)).sum =
      m.nodeCount label +
        ((transcript (serve handle) calls m).1.map (Served.created label)).sum := by
  induction calls generalizing m with
  | nil => rfl
  | cons c calls ih =>
    have hc := (accounts_call handle c m).nodeCount_add label
    have hs := ih (call handle c m).world
    rw [transcript_cons, List.map_cons, List.map_cons, List.sum_cons, List.sum_cons]
    simp only [serve] at hs ⊢
    omega

/-! ### Single calls -/

/-- What comes of replacing the nodes of a label with a key. -/
structure Replaced (m : Memory) (label : Label) (key : String) (values : FieldSet)
    (a : Attempt Memory Nat) : Prop where
  /-- It answers how many nodes had the key. -/
  outcome : a.outcome = .ok ((m.keys label).count key)
  /-- Every key stays where it was. -/
  keys (l : Label) : a.world.keys l = m.keys l
  /-- All nodes with the key have the values, with the key in its field, and no more. -/
  exact {node : FieldSet} (hm : node ∈ a.world.nodes label) (hk : nodeKey? node = some key)
    (name : String) : node[name]? = if name = keyField then some key else values[name]?
  /-- All other nodes stay as they were. -/
  others {l : Label} {i : Nat} {node : FieldSet} (hi : (m.nodes l)[i]? = some node)
    (hn : ¬ (l = label ∧ nodeKey? node = some key)) : (a.world.nodes l)[i]? = some node

/-- What comes of deleting the nodes of a label with a key. -/
structure Deleted (m : Memory) (label : Label) (key : String)
    (a : Attempt Memory Nat) : Prop where
  /-- It answers how many nodes had the key. -/
  outcome : a.outcome = .ok ((m.keys label).count key)
  /-- All nodes with the key are gone, and the others stay in their order. -/
  nodes (l : Label) : a.world.nodes l =
    if l = label then (m.nodes l).filter (nodeKey? · ≠ some key) else m.nodes l

/-- What comes of creating a node: it stands behind all others, or it is rejected because keys
are unique and its key is taken, and nothing changes. -/
inductive Created (m : Memory) (label : Label) (key : String) (values : FieldSet) :
    Attempt Memory Unit → Prop
  | added (m' : Memory) (hk : m.uniqueKeys = true → key ∉ m.keys label)
      (hn : ∀ l, m'.nodes l =
        if l = label then m.nodes l ++ [nodeProperties key values] else m.nodes l) :
      Created m label key values (.done () m')
  | rejected (cause : Error) (hu : m.uniqueKeys = true) (hk : key ∈ m.keys label) :
      Created m label key values (.failed cause m)

lemma nodes_setNodes (m : Memory) (l label : Label) (list : List FieldSet) :
    (m.setNodes label list).nodes l = if l = label then list else m.nodes l := by
  split
  · rename_i h
    rw [h, setNodes_same]
  · rename_i h
    exact setNodes_of_ne h list

section Open

variable (ho : m.IsOpen handle)
include ho

lemma replaced (label : Label) (key : String) (values : FieldSet) :
    m.Replaced label key values (call handle (.replaceNode label key values) m) := by
  have hkeys := (accounts_call handle (.replaceNode label key values) m).keys_eq
  rw [call_of_isOpen ho (by simp)] at hkeys ⊢
  refine ⟨congrArg Outcome.ok (countKey_eq_count key _), hkeys, fun {node} hm hk name => ?_,
    fun {l i node} hi hn => ?_⟩
  · rw [answer, Attempt.done, setNodes_same] at hm
    rcases mem_replaceKey.mp hm with ⟨-, hne⟩ | ⟨rfl, -⟩
    · exact absurd hk hne
    · exact getElem?_nodeProperties key name values
  · rw [answer, Attempt.done, nodes_setNodes]
    split
    · rename_i hl
      subst hl
      have hne : ¬ hasKey key node = true := fun h => hn ⟨rfl, hasKey_iff.mp h⟩
      rw [replaceKey, List.getElem?_map, hi, Option.map_some, if_neg hne]
    · exact hi

lemma deleted (label : Label) (key : String) :
    m.Deleted label key (call handle (.deleteNodes label key) m) := by
  rw [call_of_isOpen ho (by simp)]
  refine ⟨congrArg Outcome.ok (countKey_eq_count key _), fun l => ?_⟩
  rw [answer, Attempt.done, nodes_setNodes]
  split
  · rename_i hl
    rw [hl, removeKey]
    refine List.filter_congr fun node _ => ?_
    rw [Bool.eq_iff_iff]
    simp [hasKey]
  · rfl

lemma created (label : Label) (key : String) (values : FieldSet) :
    m.Created label key values (call handle (.createNode label key values) m) := by
  have htaken : (m.nodes label).any (hasKey key) = true ↔ key ∈ m.keys label := by
    simp [keys, nodeKeys, hasKey_iff]
  rw [call_of_isOpen ho (by simp), answer, createNode]
  split
  · rename_i h
    obtain ⟨hu, hk⟩ := Bool.and_eq_true_iff.mp h
    exact .rejected _ hu (htaken.mp hk)
  · rename_i h
    refine .added _ (fun hu hk => h ?_) fun l => ?_
    · rw [hu, htaken.mpr hk]
      rfl
    · rw [nodes_setNodes]
      split
      · rename_i hl
        rw [hl]
      · rfl

lemma looked {c : StoreCall} (hc : c.kind = .readNode ∨ c.kind = .scanNodes) :
    (call handle c m).world = m := by
  cases c with
  | readNode | scanNodes => rw [call_of_isOpen ho (by simp)]; rfl
  | _ => simp [StoreCall.kind] at hc

end Open

/-- After any steps on any handles of a store in memory, let one that is open serve any calls but
closing. Then all nodes have keys. The keys of a label have changed as the creations and
deletions that succeeded change them, and the number of its nodes as well. The next replacement
gives all nodes with the key the values, the next deletion removes them, both answer how many
they were, and all other nodes are left alone; the next creation adds its node at the end or
changes nothing, and a look changes nothing. -/
theorem keys_follow_creations_and_deletions (uniqueKeys unreachable : Bool)
    (steps : List (Step Nat)) {handle : Nat} {calls : List StoreCall}
    (ho : (Memory.run { uniqueKeys, unreachable } steps).IsOpen handle)
    (hc : StoreCall.close ∉ calls) :
    let m₀ := Memory.run { uniqueKeys, unreachable } steps
    let served := (transcript (serve handle) calls m₀).1
    let m := (transcript (serve handle) calls m₀).2
    (∀ label, Keyed (m.nodes label)) ∧
    (∀ label, m.keys label = served.foldl (fun keys s => s.rekey label keys) (m₀.keys label)) ∧
    (∀ label, m.nodeCount label + (served.map (Served.deleted label)).sum =
      m₀.nodeCount label + (served.map (Served.created label)).sum) ∧
    (∀ label key values,
      m.Replaced label key values (call handle (.replaceNode label key values) m)) ∧
    (∀ label key, m.Deleted label key (call handle (.deleteNodes label key) m)) ∧
    (∀ label key values,
      m.Created label key values (call handle (.createNode label key values) m)) ∧
    (∀ c : StoreCall, c.kind = .readNode ∨ c.kind = .scanNodes →
      (call handle c m).world = m) := by
  intro m₀ served m
  have hm : m.IsOpen handle := ho.transcript hc
  have hkeyed (label : Label) : Keyed (m₀.nodes label) :=
    keyed_run (fun _ _ hn => absurd hn List.not_mem_nil) steps label
  have hkeyed' : ∀ label, Keyed (m.nodes label) :=
    transcript_induction (P := fun m => ∀ label, Keyed (m.nodes label))
      (fun c _ m h => (accounts_call handle c m).keyed h) hkeyed
  exact ⟨hkeyed', keys_transcript handle calls m₀, nodeCount_transcript handle calls m₀,
    replaced hm, deleted hm, created hm, fun c => looked hm⟩

/-- Two nodes with one key are replaced with values that name another key, and a third is
deleted. -/
def renames : List StoreCall :=
  [.createNode crew "ada" ∅, .createNode crew "bob" ∅, .createNode crew "ada" ∅,
    .replaceNode crew "ada" (.ofPairs [(keyField, "eve"), ("rank", "captain")]),
    .deleteNodes crew "bob"]

/-- Both nodes keep their key, and a deletion finds them by it. -/
theorem renaming_a_node_leaves_its_key :
    let m₀ := Memory.run {} [.connect {}]
    let m := (transcript (serve 0) renames m₀).2
    m₀.IsOpen 0 ∧ StoreCall.close ∉ renames ∧ m.keys crew = ["ada", "ada"] ∧
      m.nodeCount crew = 2 ∧
    (call 0 (.deleteNodes crew "eve") m).outcome = .ok 0 ∧
    (call 0 (.deleteNodes crew "ada") m).outcome = .ok 2 := by
  intro m₀ m
  have ho : m₀.IsOpen 0 := ⟨by decide +kernel, by decide +kernel⟩
  have hc : StoreCall.close ∉ renames := by simp [renames]
  obtain ⟨-, hkeys, hcount, -, hdeleted, -, -⟩ :=
    keys_follow_creations_and_deletions false false [.connect {}] ho hc
  have hada : m.keys crew = ["ada", "ada"] := (hkeys crew).trans (by decide +kernel)
  have hd : ((transcript (serve 0) renames m₀).1.map (Served.deleted crew)).sum = 1 := by
    decide +kernel
  have hn :
      m₀.nodeCount crew + ((transcript (serve 0) renames m₀).1.map (Served.created crew)).sum =
      3 := by
    decide +kernel
  refine ⟨ho, hc, hada, ?_, ?_, ?_⟩
  · exact Nat.add_right_cancel ((hcount crew).trans (hn.trans (congrArg (2 + ·) hd.symm)))
  · rw [(hdeleted crew "eve").outcome, hada]
    rfl
  · rw [(hdeleted crew "ada").outcome, hada]
    rfl

end Memory

end KeyedGraph
