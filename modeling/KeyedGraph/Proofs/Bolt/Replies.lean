import KeyedGraph.Bolt.Script
import KeyedGraph.Proofs.Client.Lifetime
import KeyedGraph.Proofs.Cypher.Agreement
import KeyedGraph.Proofs.Store.Runs

/-!
# Replies from a server's rows

A call on a store behind a Bolt server is answered from rows that arrive one after the other and
may break off. `Demands` says which reply a server's answer demands of a call: none where the
rows break off, even behind the last of them, and none where a row that counts is not of the
right form. A call succeeds with the reply that is demanded and fails where none is; there are no
partial replies.
-/

namespace KeyedGraph.Bolt

/-! ### Rows -/

/-- The row holds a node all of whose properties are texts. -/
def HoldsTexts (row : Row) : Prop :=
  ∃ properties, column? row nodeColumn = some (.node properties) ∧
    ∀ p ∈ properties, ∃ s, p.2 = .text s

/-- The row holds a node all of whose properties are texts, and these are its properties. -/
def RowHolds (row : Row) (fields : FieldSet) : Prop :=
  ∃ properties, column? row nodeColumn = some (.node properties) ∧
    (∀ p ∈ properties, ∃ s, p.2 = .text s) ∧
    ∀ name, fields[name]?.map Value.text = column? properties name

/-- The first row counts this many in a column, where a negative number counts as zero; without a
row it is zero. -/
def RowsCount (column : String) : List Row → Nat → Prop
  | [], n => n = 0
  | row :: _, n => ∃ k : Int, column? row column = some (.integer k) ∧ (n : Int) = max k 0

/-- The first row holds the node; without a row there is none. -/
def RowsStart : List Row → Option FieldSet → Prop
  | [], reply => reply = none
  | row :: _, reply => ∃ fields, RowHolds row fields ∧ reply = some fields

lemma eq_map_of_textProperties {properties : List (String × Value)}
    {pairs : List (String × String)} (h : textProperties properties = .ok pairs) :
    properties = pairs.map fun (name, s) => (name, .text s) := by
  induction properties generalizing pairs with
  | nil =>
    obtain rfl := Except.ok.inj h
    rfl
  | cons property rest ih =>
    obtain ⟨name, value⟩ := property
    cases value with
    | text s =>
      rw [textProperties] at h
      split at h
      · rename_i pairs' hp
        obtain rfl := Except.ok.inj h
        rw [ih hp, List.map_cons]
      · cases h
    | _ => cases h

/-- Properties that are texts, and the same as pairs of texts. -/
lemma exists_pairs {properties : List (String × Value)}
    (h : ∀ p ∈ properties, ∃ s, p.2 = .text s) :
    ∃ pairs : List (String × String), properties = pairs.map fun (name, s) =>
      (name, .text s) := by
  induction properties with
  | nil => exact ⟨[], rfl⟩
  | cons property rest ih =>
    obtain ⟨⟨s, hs⟩, hrest⟩ := List.forall_mem_cons.mp h
    obtain ⟨pairs, rfl⟩ := ih hrest
    obtain ⟨name, value⟩ := property
    obtain rfl : value = .text s := hs
    exact ⟨(name, s) :: pairs, rfl⟩

lemma column?_map_text (pairs : List (String × String)) (name : String) :
    column? (pairs.map fun (name, s) => (name, Value.text s)) name =
      (FieldSet.ofPairs pairs)[name]?.map Value.text := by
  rw [FieldSet.getElem?_ofPairs, column?, ← List.map_reverse]
  induction pairs.reverse with
  | nil => rfl
  | cons pair rest ih =>
    rw [List.map_cons, List.lookup_cons, List.lookup_cons]
    cases name == pair.1 with
    | true => rfl
    | false => exact ih

theorem rowNode_eq_ok_iff {row : Row} {fields : FieldSet} :
    rowNode row = .ok fields ↔ RowHolds row fields := by
  rw [rowNode]
  constructor
  · intro h
    split at h
    · rename_i properties hc
      cases hp : textProperties properties with
      | error cause =>
        rw [hp] at h
        cases h
      | ok pairs =>
        rw [hp] at h
        obtain rfl : FieldSet.ofPairs pairs = fields := Except.ok.inj h
        obtain rfl := eq_map_of_textProperties hp
        refine ⟨_, hc, ?_, fun name => (column?_map_text pairs name).symm⟩
        intro p hp
        obtain ⟨⟨name, s⟩, -, rfl⟩ := List.mem_map.mp hp
        exact ⟨s, rfl⟩
    · cases h
  · rintro ⟨properties, hc, ht, hf⟩
    obtain ⟨pairs, rfl⟩ := exists_pairs ht
    simp only [hc, Cypher.textProperties_texts]
    refine congrArg Except.ok (Std.ExtTreeMap.ext_getElem? fun name => ?_)
    have hn := hf name
    rw [column?_map_text] at hn
    exact (Option.map_injective (fun _ _ => Value.text.inj) hn).symm

/-- All rows are read, or none. -/
theorem rowNodes_eq_ok_iff {rows : List Row} {nodes : List FieldSet} :
    rowNodes rows = .ok nodes ↔ List.Forall₂ RowHolds rows nodes := by
  induction rows generalizing nodes with
  | nil =>
    rw [List.forall₂_nil_left_iff, rowNodes, Except.ok.injEq]
    exact eq_comm
  | cons row rows ih =>
    rw [List.forall₂_cons_left_iff, rowNodes]
    cases hr : rowNode row with
    | error cause =>
      simp only [reduceCtorEq, false_iff]
      rintro ⟨node, rest, hn, -, -⟩
      rw [rowNode_eq_ok_iff.mpr hn] at hr
      cases hr
    | ok node =>
      cases hs : rowNodes rows with
      | error cause =>
        simp only [Except.map, reduceCtorEq, false_iff]
        rintro ⟨node', rest, -, hn, -⟩
        rw [ih.mpr hn] at hs
        cases hs
      | ok rest =>
        simp only [Except.map, Except.ok.injEq]
        constructor
        · rintro rfl
          exact ⟨node, rest, rowNode_eq_ok_iff.mp hr, ih.mp hs, rfl⟩
        · rintro ⟨node', rest', hn, hrest, rfl⟩
          rw [rowNode_eq_ok_iff.mpr hn] at hr
          rw [ih.mpr hrest] at hs
          rw [Except.ok.inj hr, Except.ok.inj hs]

theorem rowCount_eq_ok_iff {column : String} {row : Row} {n : Nat} :
    rowCount column row = .ok n ↔
      ∃ k : Int, column? row column = some (.integer k) ∧ (n : Int) = max k 0 := by
  rw [rowCount]
  constructor
  · intro h
    split at h
    · rename_i k hc
      obtain rfl := Except.ok.inj h
      exact ⟨k, hc, Int.toNat_eq_max k⟩
    · cases h
  · rintro ⟨k, hc, hn⟩
    simp only [hc]
    congr 1
    omega

/-- A node all of whose properties are texts has fields. -/
lemma exists_rowHolds {row : Row} (h : HoldsTexts row) : ∃ fields, RowHolds row fields := by
  obtain ⟨properties, hc, ht⟩ := h
  obtain ⟨pairs, rfl⟩ := exists_pairs ht
  exact ⟨.ofPairs pairs, _, hc, ht, fun name => (column?_map_text pairs name).symm⟩

/-- There are nodes to read from rows if each row holds one. -/
lemma exists_forall₂_rowHolds {rows : List Row} :
    (∃ nodes, List.Forall₂ RowHolds rows nodes) ↔ ∀ row ∈ rows, HoldsTexts row := by
  induction rows with
  | nil => exact ⟨fun _ _ hm => absurd hm List.not_mem_nil, fun _ => ⟨[], .nil⟩⟩
  | cons row rows ih =>
    rw [List.forall_mem_cons, ← ih]
    constructor
    · rintro ⟨nodes, hn⟩
      cases hn with
      | cons head tail =>
        obtain ⟨properties, hc, ht, -⟩ := head
        exact ⟨⟨properties, hc, ht⟩, _, tail⟩
    · rintro ⟨hrow, nodes, hn⟩
      obtain ⟨fields, hf⟩ := exists_rowHolds hrow
      exact ⟨fields :: nodes, .cons hf hn⟩

/-! ### Streams -/

section Streams

variable {s : Stream}

lemma all_eq_ok_iff {rows : List Row} : s.all = .ok rows ↔ s = { rows } := by
  obtain ⟨rows', failure⟩ := s
  cases failure with
  | none => simp [Stream.all]
  | some message => simp [Stream.all]

theorem nodes_eq_ok_iff {nodes : List FieldSet} :
    s.nodes = .ok nodes ↔ ∃ rows, s = { rows } ∧ List.Forall₂ RowHolds rows nodes := by
  simp only [Stream.nodes, ← all_eq_ok_iff, ← rowNodes_eq_ok_iff]
  cases s.all with
  | error | ok => simp

theorem first_eq_ok_iff {reply : Option FieldSet} :
    s.first = .ok reply ↔ ∃ rows, s = { rows } ∧ RowsStart rows reply := by
  simp only [Stream.first, ← all_eq_ok_iff]
  cases s.all with
  | error => simp
  | ok rows =>
    cases rows with
    | nil => simp [RowsStart, eq_comm]
    | cons row rows =>
      simp only [RowsStart, Except.ok.injEq, exists_eq_left', ← rowNode_eq_ok_iff]
      cases rowNode row with
      | error => simp [Except.map]
      | ok fields => simp [Except.map, eq_comm]

theorem count_eq_ok_iff {column : String} {n : Nat} :
    s.count column = .ok n ↔ ∃ rows, s = { rows } ∧ RowsCount column rows n := by
  simp only [Stream.count, ← all_eq_ok_iff]
  cases s.all with
  | error => simp
  | ok rows =>
    cases rows with
    | nil => simp [RowsCount, eq_comm]
    | cons row rows => simpa [RowsCount] using rowCount_eq_ok_iff

end Streams

/-! ### Calls -/

/-- The reply that a server's answer to a call demands. Rows demand one only if they end well. -/
def Demands {τ : Type} (server : Server τ) (link : Link) (t : τ) :
    (c : StoreCall) → c.Reply → Prop
  | .verifyConnectivity, _ => (server.run link .probe t).1 = .ok ()
  | .readNode label key, reply =>
    ∃ rows, (server.fetch link (.read label key) t).1 = .ok { rows } ∧ RowsStart rows reply
  | .scanNodes label start limit, nodes =>
    ∃ rows, (server.fetch link (.scan label start limit) t).1 = .ok { rows } ∧
      List.Forall₂ RowHolds rows nodes
  | .replaceNode label key values, n =>
    ∃ rows, (server.fetch link (.update label key values) t).1 = .ok { rows } ∧
      RowsCount matchedColumn rows n
  | .createNode label key values, _ => (server.run link (.insert label key values) t).1 = .ok ()
  | .deleteNodes label key, n =>
    ∃ rows, (server.fetch link (.delete label key) t).1 = .ok { rows } ∧
      RowsCount deletedColumn rows n
  | .close, _ => True

end KeyedGraph.Bolt

namespace KeyedGraph

/-- An attempt that gives the value that is demanded, and fails if there is none. -/
structure Attempt.Settles {σ α : Type} (a : Attempt σ α) (P : α → Prop) : Prop where
  ok_iff (value : α) : a.outcome = .ok value ↔ P value
  error (h : ∀ value, ¬ P value) : ∃ cause, a.outcome = .error cause

/-- An attempt that settles what is demanded does not crash. -/
lemma Attempt.Settles.ne_crash {σ α : Type} {a : Attempt σ α} {P : α → Prop} (h : a.Settles P) :
    a.outcome ≠ .crash := by
  intro hcrash
  have hnone (value : α) : ¬ P value := by
    intro hv
    rw [← h.ok_iff value, hcrash] at hv
    cases hv
  obtain ⟨cause, herror⟩ := h.error hnone
  rw [hcrash] at herror
  cases herror

/-- The world behind a sequence of steps on a backend. -/
def Backend.behind {σ η : Type} (b : Backend σ η) (steps : List (Step η)) (w : σ) : σ :=
  steps.foldl (fun w s =>
    match s with
    | .connect settings => (b.connect settings w).world
    | .call store c => (b.call store c w).world) w

namespace Bolt

variable {τ : Type} {server : Server τ} {link : Link} {w : Links τ}

lemma settles_fetchWith {α : Type} {kind : CallKind} {q : Query}
    {read : Stream → Except FailureCause α} {P : List Row → α → Prop}
    (h : ∀ s value, read s = .ok value ↔ ∃ rows, s = { rows } ∧ P rows value) :
    (fetchWith server link kind q read w).Settles fun value =>
      ∃ rows, (server.fetch link q w.server).1 = .ok { rows } ∧ P rows value := by
  rw [fetchWith]
  generalize server.fetch link q w.server = answer
  obtain ⟨delivered, t⟩ := answer
  cases delivered with
  | error message =>
    refine ⟨fun value => ?_, fun _ => ⟨_, rfl⟩⟩
    simp [Attempt.failed]
  | ok s =>
    have hs (value : α) : (∃ rows, Except.ok (ε := String) s = .ok { rows } ∧ P rows value) ↔
        read s = .ok value := by
      simp only [Except.ok.injEq, h]
    simp only [hs]
    cases hr : read s with
    | error cause =>
      refine ⟨fun value => ?_, fun _ => ⟨_, rfl⟩⟩
      simp [Attempt.failed]
    | ok value =>
      refine ⟨fun value' => ?_, fun hn => absurd rfl (hn value)⟩
      simp [Attempt.done]

lemma settles_runWith {q : Query} {failure : String → Error} :
    (runWith server link q failure w).Settles fun _ =>
      (server.run link q w.server).1 = .ok () := by
  rw [runWith]
  generalize server.run link q w.server = answer
  obtain ⟨delivered, t⟩ := answer
  cases delivered with
  | error message =>
    refine ⟨fun value => ?_, fun _ => ⟨_, rfl⟩⟩
    simp [Attempt.failed]
  | ok => exact ⟨fun _ => ⟨fun _ => rfl, fun _ => rfl⟩, fun h => absurd rfl (h ())⟩

/-- A call on an open link gives the reply that the server's answer demands, or fails. -/
theorem settles_call (h : w.isClosed link = false) (c : StoreCall) :
    (call server link c w).Settles (Demands server link w.server c) := by
  by_cases hc : c = .close
  · subst hc
    exact ⟨fun _ => ⟨fun _ => trivial, fun _ => rfl⟩, fun hn => absurd trivial (hn ())⟩
  · rw [Cypher.call_of_ne_close server link w hc, h, if_neg Bool.false_ne_true]
    cases c with
    | verifyConnectivity => exact settles_runWith
    | readNode label key => exact settles_fetchWith fun _ _ => first_eq_ok_iff
    | scanNodes label start limit => exact settles_fetchWith fun _ _ => nodes_eq_ok_iff
    | replaceNode label key values => exact settles_fetchWith fun _ _ => count_eq_ok_iff
    | createNode label key values => exact settles_runWith
    | deleteNodes label key => exact settles_fetchWith fun _ _ => count_eq_ok_iff
    | close => exact absurd rfl hc

/-- The backend of a server never crashes, whatever the server does. -/
lemma backend_calm (server : Server τ) : (backend server).Calm where
  connect settings w := by
    simp only [backend, connect]
    split
    · simp [Attempt.failed]
    · split <;> simp [Attempt.failed]
  call link c w := by
    change (call server link c w).outcome ≠ .crash
    cases hw : w.isClosed link with
    | false => exact (settles_call hw c).ne_crash
    | true =>
      by_cases hc : c = .close
      · subst hc
        simp [call, Attempt.done]
      · rw [Cypher.call_of_ne_close server link w hc, if_pos hw]
        simp [Attempt.failed]

/-! ### Closed links -/

lemma closedLinks_fetchWith {α : Type} (kind : CallKind) (q : Query)
    (read : Stream → Except FailureCause α) :
    (fetchWith server link kind q read w).world.closedLinks = w.closedLinks := by
  rw [fetchWith]
  split
  · rfl
  · split <;> rfl

lemma closedLinks_runWith (q : Query) (failure : String → Error) :
    (runWith server link q failure w).world.closedLinks = w.closedLinks := by
  rw [runWith]
  split <;> rfl

/-- No call but closing touches a link. -/
lemma closedLinks_answer (c : StoreCall) :
    (answer server link c w).world.closedLinks = w.closedLinks := by
  cases c with
  | verifyConnectivity | createNode => exact closedLinks_runWith _ _
  | readNode | scanNodes | replaceNode | deleteNodes => exact closedLinks_fetchWith _ _ _
  | close => rfl

lemma isClosed_closeLink_of_isClosed {other : Link} (h : w.isClosed link = true) :
    (w.closeLink other).isClosed link = true := by
  rw [Links.closeLink]
  split
  · exact h
  · rw [Links.isClosed, List.contains_cons]
    rw [Links.isClosed] at h
    rw [h, Bool.or_true]

lemma isClosed_call {other : Link} (h : w.isClosed link = true) (c : StoreCall) :
    (call server other c w).world.isClosed link = true := by
  by_cases hc : c = .close
  · subst hc
    exact isClosed_closeLink_of_isClosed h
  · rw [Cypher.call_of_ne_close server other w hc]
    split
    · exact h
    · rw [Links.isClosed, closedLinks_answer]
      exact h

lemma isClosed_connect (h : w.isClosed link = true) (settings : Settings) :
    (connect settings w).world.isClosed link = true := by
  rw [connect]
  split
  · exact h
  · split
    · exact h
    · exact h

/-- A link that is closed stays closed. -/
theorem isClosed_behind (h : w.isClosed link = true) (steps : List (Step Link)) :
    ((backend server).behind steps w).isClosed link = true := by
  induction steps generalizing w with
  | nil => exact h
  | cons s steps ih =>
    cases s with
    | connect settings => exact ih (isClosed_connect h settings)
    | call other c => exact ih (isClosed_call h c)

/-! ### Replies -/

/-- Whatever a server delivers to an open link: a call gives the reply that it demands, or fails.
A scan succeeds just if all rows came and each holds a node whose properties are texts. Through a
client, a call without a reply is an error that leaves the caller's collection alone. On a link
that was closed, every further call fails and sends nothing, whatever else is done. -/
theorem replies_all_or_nothing (server : Server τ) (link : Link) (w : Links τ) :
    (w.isClosed link = false →
      (∀ c, (call server link c w).Settles (Demands server link w.server c)) ∧
      (∀ label start limit,
        (∃ nodes, (call server link (.scanNodes label start limit) w).outcome = .ok nodes) ↔
          ∃ rows, (server.fetch link (.scan label start limit) w.server).1 = .ok { rows } ∧
            ∀ row ∈ rows, HoldsTexts row) ∧
      (∀ (client : Client Link) (r : Request) label, client.store = some link →
        Label.parse r.table = .ok label → r.isIdle = false →
        (∀ reply, ¬ Demands server link w.server (r.call label) reply) →
        (r.run (backend server) client w).outcome = .ok (.error, r.untouched))) ∧
    (∀ steps c, c ≠ .close →
      let w' := (backend server).behind steps (w.closeLink link)
      call server link c w' =
        .failed (.operationFailed (callName c.kind) .connectionClosed) w') := by
  refine ⟨fun h => ⟨settles_call h, fun label start limit => ?_,
    fun client r label hs hp hi hn => ?_⟩, fun steps c hc => ?_⟩
  · simp only [(settles_call h _).ok_iff, Demands]
    rw [exists_comm]
    simp only [exists_and_left, exists_forall₂_rowHolds]
  · obtain ⟨cause, hcause⟩ := (settles_call h (r.call label)).error hn
    rw [Request.run_of_ready (backend server) hp hs hi]
    change (r.finish label (call server link (r.call label) w)).outcome = _
    generalize call server link (r.call label) w = a at hcause ⊢
    obtain ⟨o, w', es⟩ := a
    obtain rfl : o = .error cause := hcause
    rfl
  · have hx : ((backend server).behind steps (w.closeLink link)).isClosed link = true :=
      isClosed_behind (Cypher.isClosed_closeLink w link) steps
    dsimp only
    rw [Cypher.call_of_ne_close server link _ hc, if_pos hx]

/-- The label of a table of staff. -/
def staff : Label :=
  ⟨"staff", by decide +kernel, by decide +kernel⟩

/-- A server that breaks off behind two nodes, and then counts below zero. -/
def faltering : Script where
  replies :=
    [{ columns := ["n"]
       rows := [[.node [("name", .text "Ada")]], [.node [("name", .text "Bob")]]]
       pullFailure := some "gone" },
     { columns := ["deleted"], rows := [[.integer (-3)]] }]

/-- The two nodes are not scanned, neither by the store nor through a client. The server's second
answer counts as zero. -/
theorem replies_all_or_nothing_of_faltering :
    let link : Link := ⟨0, {}⟩
    let w : Links Script := { server := faltering, opened := 1 }
    let w' := (call Script.server link (.readNode staff "ada") w).world
    w.isClosed link = false ∧ w'.isClosed link = false ∧
    (∃ cause, (call Script.server link (.scanNodes staff "" 9) w).outcome = .error cause) ∧
    ((Request.scan "staff" "" 9 none [∅]).run (backend Script.server) ⟨some link⟩ w).outcome =
      .ok (.error, [∅]) ∧
    (call Script.server link (.deleteNodes staff "ada") w').outcome = .ok (0 : Nat) := by
  intro link w w'
  have hopen : w.isClosed link = false := rfl
  have hopen' : w'.isClosed link = false := rfl
  obtain ⟨hsettles, -, hclient⟩ := (replies_all_or_nothing Script.server link w).1 hopen
  obtain ⟨hsettles', -, -⟩ := (replies_all_or_nothing Script.server link w').1 hopen'
  have hnone : ∀ nodes, ¬ Demands Script.server link w.server (.scanNodes staff "" 9) nodes := by
    rintro nodes ⟨rows, hd, -⟩
    cases congrArg (Except.map Stream.failure) hd
  refine ⟨hopen, hopen', (hsettles _).error hnone, ?_, ?_⟩
  · exact hclient ⟨some link⟩ (.scan "staff" "" 9 none [∅]) staff rfl
      (Label.parse_name staff) rfl
      hnone
  · refine ((hsettles' (.deleteNodes staff "ada")).ok_iff (0 : Nat)).mpr ⟨_, rfl, -3, ?_, rfl⟩
    rfl

end Bolt

end KeyedGraph
