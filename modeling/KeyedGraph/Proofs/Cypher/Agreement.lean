import KeyedGraph.Proofs.Connection.Ledger
import KeyedGraph.Proofs.Cypher.Queries
import KeyedGraph.Proofs.Store.Handles

/-!
# The two stores agree

A store behind the server of a graph and a store in memory that start with the same nodes succeed
and fail at the same calls, answer with the same values and keep the same nodes. They differ only
where an integer of the server cannot hold how many rows are asked for, and then only if there
are as many.
-/

namespace KeyedGraph

/-- Two outcomes with one value, or two errors. -/
def Outcome.Agrees {α : Type} : Outcome α → Outcome α → Prop
  | .ok a, .ok b => a = b
  | .error _, .error _ => True
  | _, _ => False

/-- The world behind a sequence of calls on one handle. -/
def Backend.after {σ η : Type} (b : Backend σ η) (handle : η) (calls : List StoreCall) (w : σ) :
    σ :=
  calls.foldl (fun w c => (b.call handle c w).world) w

namespace Cypher

open Bolt

/-! ### Single calls -/

/-- Closing a link is nothing to the server. -/
lemma server_closeLink {τ : Type} (w : Links τ) (link : Link) :
    (w.closeLink link).server = w.server := by
  rw [Links.closeLink]
  split <;> rfl

lemma isClosed_closeLink {τ : Type} (w : Links τ) (link : Link) :
    (w.closeLink link).isClosed link = true := by
  rw [Links.closeLink]
  split
  · assumption
  · simp [Links.isClosed]

/-- Any call but closing, on a link that may be closed. -/
lemma call_of_ne_close {τ : Type} (server : Server τ) (link : Link) (w : Links τ) {c : StoreCall}
    (hc : c ≠ .close) :
    Bolt.call server link c w =
      if w.isClosed link then
        .failed (.operationFailed (Bolt.callName c.kind) .connectionClosed) w
      else Bolt.answer server link c w := by
  cases c with
  | close => exact absurd rfl hc
  | _ => rfl

section Calls

variable {link : Link} {kind : CallKind} {q : Query} {w : Links Graph}
  {rows : List Row} {g : Graph}

lemma fetchWith_server {α : Type} {read : Stream → Except FailureCause α} {value : α}
    (h : execute q.text q.params w.server = some (rows, g)) (hr : read { rows } = .ok value) :
    fetchWith server link kind q read w = .done value { w with server := g } := by
  simp only [fetchWith, server, h, hr]

lemma runWith_server {failure : String → Error}
    (h : execute q.text q.params w.server = some (rows, g)) :
    runWith server link q failure w = .done () { w with server := g } := by
  simp only [runWith, server, h]

lemma runWith_server_of_none {failure : String → Error}
    (h : execute q.text q.params w.server = none) :
    runWith server link q failure w = .failed (failure refusal) w := by
  simp only [runWith, server, h]

end Calls

/-- A link and a handle that are open or closed alike, with the same nodes and the same
constraint. -/
structure Twins (link : Link) (handle : Nat) (w : Links Graph) (m : Memory) : Prop where
  nodes_eq (label : Label) : w.server.nodes label.name = m.nodes label
  uniqueKeys_eq : w.server.uniqueKeys = m.uniqueKeys
  isClosed_eq : w.isClosed link = m.isClosed handle

namespace Twins

variable {link : Link} {handle : Nat} {w : Links Graph} {m : Memory}

/-- Changing the nodes of one label on both sides keeps twins. -/
lemma set (h : Twins link handle w m) (label : Label) (list : List FieldSet) :
    Twins link handle { w with server := w.server.set label.name list }
      (m.setNodes label list) where
  nodes_eq l := by
    by_cases hl : l = label
    · subst hl
      simp [Graph.set]
    · have hn : l.name ≠ label.name := fun hn => hl (Label.ext hn)
      rw [Memory.setNodes_of_ne hl, ← h.nodes_eq l]
      simp [Graph.set, hn]
  uniqueKeys_eq := h.uniqueKeys_eq
  isClosed_eq := h.isClosed_eq

lemma close (h : Twins link handle w m) :
    Twins link handle (w.closeLink link) (m.closeHandle handle) where
  nodes_eq label := by
    rw [server_closeLink, Memory.nodes_closeHandle, h.nodes_eq]
  uniqueKeys_eq := by
    rw [server_closeLink, (Memory.sameData_closeHandle handle m).uniqueKeys, h.uniqueKeys_eq]
  isClosed_eq := by
    rw [isClosed_closeLink, Memory.isClosed_closeHandle_same]

end Twins

/-! ### Steps -/

/-- Two attempts on twins that succeed or fail alike, with one value where an integer can hold
how many nodes a label has, and that leave twins. -/
structure Matching {α : Type} (link : Link) (handle : Nat) (m : Memory)
    (a : Attempt (Links Graph) α) (b : Attempt Memory α) : Prop where
  isOk_eq : a.outcome.isOk = b.outcome.isOk
  agrees : (∀ label, m.nodeCount label ≤ maxInteger) → a.outcome.Agrees b.outcome
  twins : Twins link handle a.world b.world

section Steps

variable {α : Type} {link : Link} {handle : Nat} {m m' : Memory} {w w' : Links Graph}

lemma Matching.done (value : α) (h : Twins link handle w' m') :
    Matching link handle m (.done value w') (.done value m') :=
  ⟨rfl, fun _ => rfl, h⟩

lemma Matching.failed (cause cause' : Error) (h : Twins link handle w' m') :
    Matching (α := α) link handle m (.failed cause w') (.failed cause' m') :=
  ⟨rfl, fun _ => trivial, h⟩

/-- Where an integer can hold how many nodes there are, lowering a limit to the largest integer
cuts off no more of them. -/
lemma scanList_min (start : String) (limit : Nat) {nodes : List FieldSet}
    (h : nodes.length ≤ maxInteger) :
    scanList start (min limit maxInteger) nodes = scanList start limit nodes := by
  have hl : ((nodes.filter (reaches start)).mergeSort keyLe).length ≤ maxInteger := by
    rw [List.length_mergeSort]
    exact Nat.le_trans (List.length_filter_le _ _) h
  rw [scanList, ← List.take_take, List.take_of_length_le hl]
  rfl

variable (link handle) in
/-- A step on an open link and an open handle. -/
lemma matching_answer (h : Twins link handle w m) (c : StoreCall) :
    Matching link handle m (Bolt.answer server link c w) (Memory.answer c m) := by
  cases c with
  | verifyConnectivity =>
    have he : execute Query.probe.text Query.probe.params w.server = _ :=
      execute_query .probe w.server
    rw [Bolt.answer, runWith_server he]
    exact .done () h
  | readNode label key =>
    have hr : Stream.first { rows := _ } = .ok _ :=
      first_rows (((w.server.nodes label.name).filter (hasKey key)).take 1)
    rw [Bolt.answer, fetchWith_server (execute_read w.server label key) hr, Memory.answer]
    have hv : (((w.server.nodes label.name).filter (hasKey key)).take 1).head? =
        findNode key (m.nodes label) := by
      rw [List.head?_take, if_neg Nat.one_ne_zero, List.head?_filter, h.nodes_eq, findNode]
    rw [hv]
    exact .done _ h
  | scanNodes label start limit =>
    rw [Bolt.answer, fetchWith_server (execute_scan w.server label start limit) (nodes_rows _),
      Memory.answer, h.nodes_eq]
    refine ⟨rfl, fun hm => ?_, h⟩
    exact scanList_min start limit (hm label)
  | replaceNode label key values =>
    rw [Bolt.answer, fetchWith_server (execute_update w.server label key values) (count_row _ _),
      Memory.answer, h.nodes_eq]
    exact .done _ (h.set label _)
  | deleteNodes label key =>
    rw [Bolt.answer, fetchWith_server (execute_delete w.server label key) (count_row _ _),
      Memory.answer, h.nodes_eq]
    exact .done _ (h.set label _)
  | createNode label key values =>
    have he := execute_insert w.server label key values
    rw [h.uniqueKeys_eq, h.nodes_eq] at he
    rw [Bolt.answer, Memory.answer, Memory.createNode]
    by_cases hu : (m.uniqueKeys && (m.nodes label).any (hasKey key)) = true
    · rw [if_pos hu] at he ⊢
      rw [runWith_server_of_none he]
      exact .failed _ _ h
    · rw [if_neg hu] at he ⊢
      rw [runWith_server he]
      exact .done () (h.set label _)
  | close => exact .done () h

/-- A step: closing, or any other call while the link and the handle are open or closed. -/
lemma matching_call (h : Twins link handle w m) (c : StoreCall) :
    Matching link handle m (Bolt.call server link c w) (Memory.call handle c m) := by
  by_cases hc : c = .close
  · subst hc
    exact .done () h.close
  · rw [call_of_ne_close server link w hc, Memory.call_of_ne_close handle m hc, h.isClosed_eq]
    split
    · exact .failed _ _ h
    · exact matching_answer link handle h c

/-- Twins stay twins over a run of calls. -/
lemma Twins.after (h : Twins link handle w m) (calls : List StoreCall) :
    Twins link handle ((Bolt.backend server).after link calls w)
      (Memory.backend.after handle calls m) := by
  induction calls generalizing w m with
  | nil => exact h
  | cons c calls ih => exact ih (matching_call h c).twins

end Steps

/-! ### Runs -/

/-- A store behind the server of a graph and a store in memory, started with the same nodes under
the same constraint. Whatever calls they have served, they keep the same nodes, and the next call
succeeds on both or on neither, with the same value as long as an integer can hold how many nodes
a label has. -/
theorem backends_agree (settings : Settings) (g : Graph) (calls : List StoreCall) :
    let link : Link := ⟨0, settings⟩
    let w := (Bolt.backend server).after link calls { server := g, opened := 1 }
    let m := Memory.backend.after 0 calls
      { nodes := fun label => g.nodes label.name, uniqueKeys := g.uniqueKeys, opened := 1 }
    (∀ label : Label, w.server.nodes label.name = m.nodes label) ∧
      ∀ c : StoreCall,
        (Bolt.call server link c w).outcome.isOk = (Memory.call 0 c m).outcome.isOk ∧
        ((∀ label, m.nodeCount label ≤ maxInteger) →
          (Bolt.call server link c w).outcome.Agrees (Memory.call 0 c m).outcome) := by
  intro link w m
  have hs : Twins link 0 { server := g, opened := 1 }
      { nodes := fun label => g.nodes label.name, uniqueKeys := g.uniqueKeys, opened := 1 } :=
    ⟨fun _ => rfl, rfl, rfl⟩
  have h : Twins link 0 w m := hs.after calls
  refine ⟨h.nodes_eq, fun c => ?_⟩
  have hc := matching_call h c
  exact ⟨hc.isOk_eq, hc.agrees⟩

end Cypher

end KeyedGraph
