import KeyedGraph.Proofs.Connection.Ledger
import KeyedGraph.Proofs.Store.Ranking
import Mathlib.Data.List.Perm.Subperm
import Mathlib.Data.List.Dedup

/-!
# Runs over many handles

The handles of a store in memory are opened, used and closed in any order. A run comes to what
its successful steps make of the store: each of them opens a handle, closes one, or is answered
on one that is open, and a step without success changes nothing. So the nodes with a key are what
the successful writes have left, whichever handles they were made through; a handle that is
closed is of no use any more and of no harm to the others; and the counters tell what was opened
and closed.
-/

namespace KeyedGraph

/-- A step on a backend: the opening of a store, or a call on one. -/
inductive Step (η : Type)
  | connect (settings : Settings)
  | call (store : η) (c : StoreCall)

/-- Whether a step opens a store. -/
def Step.isConnect {η : Type} : Step η → Bool
  | .connect _ => true
  | .call _ _ => false

/-- The store that a step closes. -/
def Step.closed? {η : Type} : Step η → Option η
  | .call store .close => some store
  | _ => none

/-- The stores that the steps of a sequence close, each as often as it is closed. -/
def closedBy {η : Type} (done : List (Step η)) : List η :=
  done.filterMap Step.closed?

namespace Memory

/-! ### Steps that succeed -/

/-- Tries a step: whether it succeeds, and the store behind it. A handle that was not given yet
is of no use. -/
def attempt (m : Memory) : Step Nat → Bool × Memory
  | .connect settings => ((connect settings m).outcome.isOk, (connect settings m).world)
  | .call handle c =>
    if handle < m.opened then ((call handle c m).outcome.isOk, (call handle c m).world)
    else (false, m)

/-- The store behind a sequence of steps. -/
def run (m : Memory) (steps : List (Step Nat)) : Memory :=
  steps.foldl (fun m s => (m.attempt s).2) m

/-- The steps of a sequence that succeed. -/
def successes : Memory → List (Step Nat) → List (Step Nat)
  | _, [] => []
  | m, s :: steps =>
    if (m.attempt s).1 then s :: successes (m.attempt s).2 steps
    else successes (m.attempt s).2 steps

/-- What a step does that succeeds. -/
inductive Success (m : Memory) : Step Nat → Memory → Prop
  | connected (settings : Settings) :
      Success m (.connect settings) { m with opened := m.opened + 1 }
  | closed (handle : Nat) (hh : handle < m.opened) :
      Success m (.call handle .close) (m.closeHandle handle)
  | answered (handle : Nat) (c : StoreCall) (hc : c ≠ .close) (hh : m.IsOpen handle)
      (ho : (answer c m).outcome.isOk = true) : Success m (.call handle c) (answer c m).world

/-- An answer that is no success leaves the store as it is. -/
lemma world_answer_of_not_ok {c : StoreCall} {m : Memory}
    (h : (answer c m).outcome.isOk = false) : (answer c m).world = m := by
  cases c with
  | createNode label key values =>
    simp only [answer, createNode] at h ⊢
    split at h
    · rename_i hu
      rw [if_pos hu]
      rfl
    · simp [Attempt.done, Outcome.isOk] at h
  | _ => simp [answer, Attempt.done, Outcome.isOk] at h

/-- A step either succeeds in one of these ways or changes nothing. -/
theorem attempt_cases (m : Memory) (s : Step Nat) :
    (∃ m', m.attempt s = (true, m') ∧ Success m s m') ∨ m.attempt s = (false, m) := by
  cases s with
  | connect settings =>
    simp only [attempt, connect]
    split
    · exact .inr rfl
    · exact .inl ⟨_, rfl, .connected settings⟩
  | call handle c =>
    rw [attempt]
    split
    · rename_i hh
      by_cases hc : c = .close
      · subst hc
        exact .inl ⟨_, rfl, .closed handle hh⟩
      · rw [call_of_ne_close handle m hc]
        split
        · exact .inr rfl
        · rename_i hx
          cases ho : (answer c m).outcome.isOk with
          | true => exact .inl ⟨_, rfl, .answered handle c hc ⟨hh, by simpa using hx⟩ ho⟩
          | false =>
            rw [world_answer_of_not_ok ho]
            exact .inr rfl
    · exact .inr rfl

/-- What a sequence of successful steps leads to. -/
inductive Succession : Memory → List (Step Nat) → Memory → Prop
  | nil (m : Memory) : Succession m [] m
  | cons {m m' m'' : Memory} {s : Step Nat} {done : List (Step Nat)} (head : Success m s m')
      (tail : Succession m' done m'') : Succession m (s :: done) m''

/-- A run comes to what its successes lead to. -/
theorem succession_run (m : Memory) (steps : List (Step Nat)) :
    Succession m (m.successes steps) (m.run steps) := by
  induction steps generalizing m with
  | nil => exact .nil m
  | cons s steps ih =>
    have ih := ih (m.attempt s).2
    rw [successes]
    change Succession m _ ((m.attempt s).2.run steps)
    rcases attempt_cases m s with ⟨m', hs, hm⟩ | hs
    · rw [hs] at ih ⊢
      exact .cons hm ih
    · rw [hs] at ih ⊢
      exact ih

/-! ### Data -/

end Memory

/-- What a call makes of the nodes with a key when it succeeds. -/
def StoreCall.rewrite (label : Label) (key : String) (nodes : List FieldSet) :
    StoreCall → List FieldSet
  | .replaceNode l k values =>
    if l = label ∧ k = key then nodes.map fun _ => nodeProperties k values else nodes
  | .createNode l k values =>
    if l = label ∧ k = key then nodes ++ [nodeProperties k values] else nodes
  | .deleteNodes l k => if l = label ∧ k = key then [] else nodes
  | .verifyConnectivity => nodes
  | .readNode _ _ => nodes
  | .scanNodes _ _ _ => nodes
  | .close => nodes

/-- What a step makes of the nodes with a key when it succeeds, whichever handle it is made
on. -/
def Step.rewrite {η : Type} (label : Label) (key : String) (nodes : List FieldSet) :
    Step η → List FieldSet
  | .connect _ => nodes
  | .call _ c => c.rewrite label key nodes

/-- The nodes with a key that a sequence of successful steps leaves where there were none. -/
def contents {η : Type} (label : Label) (key : String) (done : List (Step η)) : List FieldSet :=
  done.foldl (Step.rewrite label key) []

namespace Memory

variable {m m' : Memory} {s : Step Nat} {done : List (Step Nat)} {label : Label} {key : String}

/-- Changing the nodes of one label changes the cells of no other. -/
lemma cell_setNodes (k : Option String) (m : Memory) (l label : Label) (list : List FieldSet) :
    cell k ((m.setNodes l list).nodes label) =
      if l = label then cell k list else cell k (m.nodes label) := by
  by_cases hl : l = label
  · subst hl
    rw [setNodes_same, if_pos rfl]
  · rw [setNodes_of_ne (Ne.symm hl), if_neg hl]

lemma cell_replaceKey (k key : String) (values : FieldSet) (nodes : List FieldSet) :
    cell (some key) (replaceKey k values nodes) =
      if k = key then (cell (some key) nodes).map fun _ => nodeProperties k values
      else cell (some key) nodes := by
  split
  · rename_i hk
    rw [hk, cell_replaceKey_same]
  · rename_i hk
    exact cell_replaceKey_of_ne (by simpa using Ne.symm hk) values nodes

lemma cell_removeKey (k key : String) (nodes : List FieldSet) :
    cell (some key) (removeKey k nodes) = if k = key then [] else cell (some key) nodes := by
  split
  · rename_i hk
    rw [hk, cell_removeKey_same]
  · rename_i hk
    exact cell_removeKey_of_ne (by simpa using Ne.symm hk) nodes

lemma cell_concat (k key : String) (values : FieldSet) (nodes : List FieldSet) :
    cell (some key) (nodes ++ [nodeProperties k values]) =
      if k = key then cell (some key) nodes ++ [nodeProperties k values]
      else cell (some key) nodes := by
  rw [cell_append]
  split
  · rename_i hk
    rw [cell_cons_of_eq (by simpa using hk)]
    rfl
  · rename_i hk
    rw [cell_cons_of_ne (by simpa using hk)]
    exact List.append_nil _

lemma cell_answer {c : StoreCall} (h : (answer c m).outcome.isOk = true) (label : Label)
    (key : String) :
    cell (some key) ((answer c m).world.nodes label) =
      c.rewrite label key (cell (some key) (m.nodes label)) := by
  cases c with
  | verifyConnectivity | readNode | scanNodes | close => rfl
  | replaceNode l k values =>
    simp only [answer, Attempt.done, cell_setNodes, cell_replaceKey, StoreCall.rewrite, ite_and]
    split
    · rename_i hl
      rw [hl]
    · rfl
  | deleteNodes l k =>
    simp only [answer, Attempt.done, cell_setNodes, cell_removeKey, StoreCall.rewrite, ite_and]
    split
    · rename_i hl
      rw [hl]
    · rfl
  | createNode l k values =>
    simp only [answer, createNode] at h ⊢
    split at h
    · simp [Attempt.failed, Outcome.isOk] at h
    · rename_i hu
      rw [if_neg hu]
      simp only [Attempt.done, cell_setNodes, cell_concat, StoreCall.rewrite, ite_and]
      split
      · rename_i hl
        rw [hl]
      · rfl

lemma cell_success (h : Success m s m') (label : Label) (key : String) :
    cell (some key) (m'.nodes label) =
      s.rewrite label key (cell (some key) (m.nodes label)) := by
  cases h with
  | connected settings => rfl
  | closed handle hh => rw [nodes_closeHandle]; rfl
  | answered handle c hc hh ho => exact cell_answer ho label key

/-- The nodes with a key are what the successful steps make of those that were there. -/
theorem cell_succession (h : Succession m done m') (label : Label) (key : String) :
    cell (some key) (m'.nodes label) =
      done.foldl (Step.rewrite label key) (cell (some key) (m.nodes label)) := by
  induction h with
  | nil m => rfl
  | cons head tail ih => rw [ih, cell_success head, List.foldl_cons]

/-! ### Unique keys -/

lemma nodup_answer (hu : m.uniqueKeys = true)
    (h : ∀ label, ((m.nodes label).map nodeKey?).Nodup) (c : StoreCall) (label : Label) :
    (((answer c m).world.nodes label).map nodeKey?).Nodup := by
  -- only the nodes of one label change
  have hset {l : Label} {list : List FieldSet} (hl : (list.map nodeKey?).Nodup) :
      (((m.setNodes l list).nodes label).map nodeKey?).Nodup := by
    by_cases heq : label = l
    · subst heq
      rwa [setNodes_same]
    · rw [setNodes_of_ne heq]
      exact h label
  cases c with
  | verifyConnectivity | readNode | scanNodes | close => exact h label
  | replaceNode l key values =>
    refine hset ?_
    rw [map_nodeKey?_replaceKey]
    exact h l
  | deleteNodes l key => exact hset ((h l).sublist (List.filter_sublist.map nodeKey?))
  | createNode l key values =>
    simp only [answer, createNode, hu, Bool.true_and]
    split
    · exact h label
    · rename_i hk
      refine hset ?_
      rw [List.map_append, List.nodup_append]
      refine ⟨h l, by simp, ?_⟩
      rintro k hm k' hm' rfl
      obtain ⟨node, hn, rfl⟩ := List.mem_map.mp hm
      have hnode : nodeKey? node = some key := by simpa using hm'
      exact hk (List.any_eq_true.mpr ⟨node, hn, hasKey_iff.mpr hnode⟩)

theorem nodup_succession (hs : Succession m done m') (hu : m.uniqueKeys = true)
    (h : ∀ label, ((m.nodes label).map nodeKey?).Nodup) (label : Label) :
    ((m'.nodes label).map nodeKey?).Nodup := by
  induction hs with
  | nil m => exact h label
  | cons head tail ih =>
    cases head with
    | connected settings => exact ih hu h
    | closed handle hh =>
      refine ih ?_ fun label => ?_
      · rwa [(sameData_closeHandle handle _).uniqueKeys]
      · rw [nodes_closeHandle]
        exact h label
    | answered handle c hc hh ho =>
      exact ih ((settings_answer c _).1.trans hu) (nodup_answer hu h c)

/-! ### Handles -/

lemma opened_succession (h : Succession m done m') :
    m'.opened = m.opened + done.countP Step.isConnect := by
  induction h with
  | nil m => rfl
  | cons head tail ih =>
    cases head with
    | connected settings =>
      rw [ih, List.countP_cons_of_pos rfl]
      exact Nat.add_right_comm ..
    | closed handle hh =>
      rw [ih, opened_closeHandle, List.countP_cons_of_neg (by simp [Step.isConnect])]
    | answered handle c hc hh ho =>
      rw [ih, (handles_answer c _).1, List.countP_cons_of_neg (by simp [Step.isConnect])]

lemma mem_closedHandles_closeHandle {handle other : Nat} :
    other ∈ (m.closeHandle handle).closedHandles ↔ other = handle ∨ other ∈ m.closedHandles := by
  rw [closeHandle]
  split
  · rename_i hx
    have hm : handle ∈ m.closedHandles := by simpa [isClosed] using hx
    exact ⟨.inr, fun h => h.elim (fun he => he ▸ hm) id⟩
  · exact List.mem_cons

/-- The handles that are closed are those that were, and those that a successful step closed. -/
lemma mem_closedHandles_succession (h : Succession m done m') {handle : Nat} :
    handle ∈ m'.closedHandles ↔ handle ∈ m.closedHandles ∨ handle ∈ closedBy done := by
  induction h with
  | nil m => simp [closedBy]
  | cons head tail ih =>
    cases head with
    | connected settings => exact ih
    | closed other hh =>
      rw [ih, mem_closedHandles_closeHandle]
      change _ ↔ _ ∨ handle ∈ other :: closedBy _
      rw [List.mem_cons, or_assoc, or_left_comm]
    | answered other c hc hh ho =>
      rw [ih, (handles_answer c _).2, closedBy, closedBy, List.filterMap_cons_none]
      cases c with
      | close => exact absurd rfl hc
      | _ => rfl

/-- No handle is closed that was not given, and none is counted twice. -/
structure Tallied (m : Memory) : Prop where
  nodup : m.closedHandles.Nodup
  closesOpened : m.ClosesOpened

lemma Tallied.closeHandle (h : m.Tallied) {handle : Nat} (hh : handle < m.opened) :
    (m.closeHandle handle).Tallied where
  nodup := by
    rw [Memory.closeHandle]
    split
    · exact h.nodup
    · rename_i hx
      exact List.nodup_cons.mpr ⟨by simpa [isClosed] using hx, h.nodup⟩
  closesOpened other hm := by
    rw [opened_closeHandle]
    rcases mem_closedHandles_closeHandle.mp hm with rfl | hm
    · exact hh
    · exact h.closesOpened other hm

lemma Tallied.succession (h : m.Tallied) (hs : Succession m done m') : m'.Tallied := by
  induction hs with
  | nil m => exact h
  | cons head tail ih =>
    cases head with
    | connected settings =>
      exact ih ⟨h.nodup, fun handle hm => Nat.lt_succ_of_lt (h.closesOpened handle hm)⟩
    | closed handle hh => exact ih (h.closeHandle hh)
    | answered handle c hc hh ho =>
      obtain ⟨hopened, hclosed⟩ := handles_answer c _
      refine ih ⟨by rw [hclosed]; exact h.nodup, fun handle hm => ?_⟩
      rw [hclosed] at hm
      rw [hopened]
      exact h.closesOpened handle hm

/-- At most as many handles are closed as were given. -/
lemma Tallied.closed_le (h : m.Tallied) : m.closed ≤ m.opened := by
  have hsub : m.closedHandles ⊆ List.range m.opened :=
    fun handle hm => List.mem_range.mpr (h.closesOpened handle hm)
  simpa [closed] using h.nodup.length_le_of_subset hsub

/-- A handle that is closed stays closed. -/
lemma isClosed_run {handle : Nat} (h : handle ∈ m.closedHandles) (later : List (Step Nat)) :
    (m.run later).isClosed handle = true := by
  have hm := (mem_closedHandles_succession (succession_run m later)).mpr (.inl h)
  simpa [isClosed] using hm

/-! ### Closing -/

/-- To call one handle it is the same whether another one is closed. -/
lemma call_closeHandle {handle other : Nat} (hne : other ≠ handle) {c : StoreCall}
    (hc : c ≠ .close) (m : Memory) :
    call other c (m.closeHandle handle) =
      (call other c m).mapWorld fun m => m.closeHandle handle := by
  have hx : (m.closeHandle handle).isClosed other = m.isClosed other := by
    rw [Bool.eq_iff_iff]
    simp [isClosed, mem_closedHandles_closeHandle, hne]
  rw [call_of_ne_close other _ hc, call_of_ne_close other m hc, hx]
  split
  · rfl
  · -- the answer has to do with the nodes only
    by_cases hh : m.isClosed handle = true
    · have hsame (m' : Memory) (h : m'.closedHandles = m.closedHandles) :
          m'.closeHandle handle = m' := if_pos (by rwa [isClosed, h])
      rw [hsame m rfl, Attempt.mapWorld, hsame _ (handles_answer c m).2]
    · have hadd (m' : Memory) (h : m'.closedHandles = m.closedHandles) :
          m'.closeHandle handle =
            { m' with closedHandles := handle :: m.closedHandles } := by
        rw [Memory.closeHandle, if_neg (by rwa [isClosed, h]), h]
      rw [hadd m rfl, Attempt.mapWorld, hadd _ (handles_answer c m).2]
      cases c with
      | createNode label key values =>
        simp only [answer, createNode]
        split <;> rfl
      | _ => rfl

/-! ### Scans -/

/-- Nodes in the order of their keys: those with each key from `start` on, as they stand in
`content`. -/
structure Listing (start : String) (content : String → List FieldSet) (rows : List FieldSet) :
    Prop where
  sorted : rows.Pairwise fun a b => keyLe a b = true
  cell_eq (key : String) : cell (some key) rows = if start ≤ key then content key else []
  cell_none : cell none rows = []

/-- There is one such list. -/
lemma Listing.unique {start : String} {content : String → List FieldSet}
    {rows rows' : List FieldSet} (h : Listing start content rows)
    (h' : Listing start content rows') : rows = rows' := by
  refine eq_of_cell_eq h.sorted h'.sorted fun k => ?_
  cases k with
  | none => rw [h.cell_none, h'.cell_none]
  | some key => rw [h.cell_eq, h'.cell_eq]

/-- What a scan goes through. -/
lemma listing_nodes (start : String) (nodes : List FieldSet) :
    Listing start (fun key => cell (some key) nodes) (ranked start nodes) where
  sorted := pairwise_ranked start nodes
  cell_eq key := cell_ranked start key nodes
  cell_none := cell_none_ranked start nodes

/-! ### Runs -/

/-- A label. -/
def crew : Label :=
  ⟨"crew", by decide +kernel, by decide +kernel⟩

/-- Two handles with unique keys: a node is created through one, and through the other replaced,
but not created again; then the first is closed twice. -/
def twoHandles : List (Step Nat) :=
  [.connect {}, .call 0 (.createNode crew "ada" ∅), .connect {},
    .call 1 (.createNode crew "ada" ∅),
    .call 1 (.replaceNode crew "ada" (.ofPairs [("rank", "captain")])), .call 0 .close,
    .call 0 .close]

end Memory

end KeyedGraph
