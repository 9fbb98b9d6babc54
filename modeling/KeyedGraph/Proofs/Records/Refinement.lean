import KeyedGraph.Proofs.Client.AllOrNothing
import KeyedGraph.Proofs.Records.Directory
import KeyedGraph.Proofs.Store.Handles

/-!
# A fleet over a store in memory is a directory

Over a store in memory with unique keys, a fleet answers every call as its directory does, and
the nodes of each label hold the table of the label. The data outlive every close and every
reconnect.
-/

namespace KeyedGraph

open Memory

/-! ### Requests -/

/-- An attempt at a request ends with the status and with what its caller sees. -/
def Request.Shows (r : Request) (o : Outcome (Status × r.Collected))
    (answer : Status × r.Sight) : Prop :=
  ∃ collected, o = .ok (answer.1, collected) ∧ r.see collected = answer.2

lemma Request.Shows.seen {r : Request} {o : Outcome (Status × r.Collected)}
    {answer : Status × r.Sight} (h : r.Shows o answer) :
    (Reply.ofAnswer r o).seen = .answer r answer.1 answer.2 := by
  obtain ⟨collected, rfl, hs⟩ := h
  rw [← hs]
  rfl

/-- A request that leaves the caller's collection alone shows what was seen before. -/
lemma Request.shows_untouched (r : Request) (status : Status) :
    r.Shows (.ok (status, r.untouched)) (status, r.seenBefore) := by
  cases r <;> exact ⟨_, rfl, rfl⟩

namespace Tables

variable {m : Memory} {handle : Nat} {tables : Tables} {label : Label} {table key : String}

/-- The nodes of each label hold its table. -/
def HeldBy (tables : Tables) (nodes : Nodes) : Prop :=
  ∀ label, Holds (nodes label) (tables label)

lemma heldBy_set (h : tables.HeldBy m.nodes) (label : Label) {nodes : List FieldSet} {t : Table}
    (hn : Holds nodes t) : (tables.set label t).HeldBy (m.setNodes label nodes).nodes := by
  intro l
  by_cases hl : l = label
  · subst hl
    rw [setNodes_same, set, if_pos rfl]
    exact hn
  · rw [setNodes_of_ne hl, set, if_neg hl]
    exact h l

lemma set_self (tables : Tables) (label : Label) : tables.set label (tables label) = tables := by
  funext l
  rw [set]
  split
  · rename_i h
    rw [h]
  · rfl

/-- On an open handle, a request finishes with the answer to its call. -/
lemma run_of_isOpen (ho : m.IsOpen handle) {r : Request} (hp : Label.parse r.table = .ok label)
    (hi : r.isIdle = false) :
    r.run backend ⟨some handle⟩ m = r.finish label (answer (r.call label) m) := by
  rw [Request.run_of_ready backend hp rfl hi]
  exact congrArg (r.finish label) (call_of_isOpen ho (r.call_ne_close label))

variable (ho : m.IsOpen handle) (hh : tables.HeldBy m.nodes) (hp : Label.parse table = .ok label)
include ho hh hp

lemma serve_read (selection : Selection) (into : FieldSet) :
    let r := Request.read table key selection into
    r.Shows (r.run backend ⟨some handle⟩ m).outcome (tables.serve label r).1 ∧
      (tables.serve label r).2.HeldBy (r.run backend ⟨some handle⟩ m).world.nodes := by
  intro r
  rw [run_of_isOpen (r := r) ho hp rfl]
  simp only [r, Request.call, answer, (hh label).findNode_eq, serve]
  cases (tables label)[key]? with
  | none => exact ⟨r.shows_untouched .notFound, hh⟩
  | some record =>
    refine ⟨⟨into.extend (projectFields (record.node key) selection), rfl, ?_⟩, hh⟩
    funext name
    change (into.extend (projectFields (record.node key) selection))[name]? = _
    rw [FieldSet.getElem?_extend, Record.getElem?_projectFields_node]

lemma serve_scan (start : String) (count : Nat) (selection : Selection) (into : List FieldSet) :
    let r := Request.scan table start count selection into
    r.Shows (r.run backend ⟨some handle⟩ m).outcome (tables.serve label r).1 ∧
      (tables.serve label r).2.HeldBy (r.run backend ⟨some handle⟩ m).world.nodes := by
  intro r
  by_cases hz : count = 0
  · rw [Request.run_of_idle backend (r := r) hp rfl (decide_eq_true hz)]
    subst hz
    simp only [r, serve, Table.page, List.take_zero, List.map_nil, List.append_nil]
    exact ⟨r.shows_untouched .ok, hh⟩
  · rw [run_of_isOpen (r := r) ho hp (decide_eq_false hz)]
    simp only [r, Request.call, answer, (hh label).scanList_eq, serve]
    refine ⟨⟨_, rfl, ?_⟩, hh⟩
    rw [List.map_map, Request.see, List.map_append, List.map_map]
    congr 2
    funext binding name
    exact binding.2.getElem?_projectFields_node binding.1 selection name

lemma serve_update (values : FieldSet) :
    let r := Request.update table key values
    r.Shows (r.run backend ⟨some handle⟩ m).outcome (tables.serve label r).1 ∧
      (tables.serve label r).2.HeldBy (r.run backend ⟨some handle⟩ m).world.nodes := by
  intro r
  have hn := heldBy_set hh label ((hh label).replaceKey key values)
  rw [run_of_isOpen (r := r) ho hp rfl]
  simp only [r, Request.call, answer, serve]
  split at hn
  · rename_i hk
    rw [if_pos hk]
    exact ⟨⟨(), rfl, rfl⟩, hn⟩
  · rename_i hk
    rw [if_neg hk]
    rw [set_self] at hn
    exact ⟨⟨(), rfl, rfl⟩, hn⟩

lemma serve_insert (hu : m.uniqueKeys = true) (values : FieldSet) :
    let r := Request.insert table key values
    r.Shows (r.run backend ⟨some handle⟩ m).outcome (tables.serve label r).1 ∧
      (tables.serve label r).2.HeldBy (r.run backend ⟨some handle⟩ m).world.nodes := by
  intro r
  rw [run_of_isOpen (r := r) ho hp rfl]
  simp only [r, Request.call, answer, createNode, hu, Bool.true_and,
    (hh label).any_hasKey, serve]
  by_cases hk : key ∈ tables label
  · simp only [if_pos hk]
    exact ⟨⟨(), rfl, rfl⟩, hh⟩
  · simp only [if_neg hk]
    exact ⟨⟨(), rfl, rfl⟩, heldBy_set hh label ((hh label).append hk values)⟩

lemma serve_delete :
    let r := Request.delete table key
    r.Shows (r.run backend ⟨some handle⟩ m).outcome (tables.serve label r).1 ∧
      (tables.serve label r).2.HeldBy (r.run backend ⟨some handle⟩ m).world.nodes := by
  intro r
  rw [run_of_isOpen (r := r) ho hp rfl]
  exact ⟨⟨(), rfl, rfl⟩, heldBy_set hh label ((hh label).removeKey key)⟩

end Tables

/-- On an open handle of a store with unique keys, a request is answered from the tables. -/
theorem serve_run {m : Memory} {handle : Nat} {tables : Tables} {label : Label}
    (ho : m.IsOpen handle) (hu : m.uniqueKeys = true) (hh : tables.HeldBy m.nodes) {r : Request}
    (hp : Label.parse r.table = .ok label) :
    r.Shows (r.run backend ⟨some handle⟩ m).outcome (tables.serve label r).1 ∧
      (tables.serve label r).2.HeldBy (r.run backend ⟨some handle⟩ m).world.nodes := by
  cases r with
  | read table key selection into => exact Tables.serve_read ho hh hp selection into
  | scan table start count selection into =>
    exact Tables.serve_scan ho hh hp start count selection into
  | update table key values => exact Tables.serve_update ho hh hp values
  | insert table key values => exact Tables.serve_insert ho hh hp hu values
  | delete table key => exact Tables.serve_delete ho hh hp

/-- A request changes nothing about how nodes are kept. -/
lemma settings_run (c : Client Nat) (r : Request) (m : Memory) :
    (r.run backend c m).world.uniqueKeys = m.uniqueKeys ∧
      (r.run backend c m).world.unreachable = m.unreachable := by
  rcases r.world_run backend c m with hw | ⟨handle, call, -, -, hw⟩
  · rw [hw]
    exact ⟨rfl, rfl⟩
  · rw [hw]
    exact settings_call handle call m

/-! ### The life of clients -/

section Life

variable (settings : Settings) {s : ContextState Memory Nat}

/-- Where connections are not refused, every client can be initialized. -/
lemma init_succeeds (c : Client Nat) (hp : s.shared.poisoned = false)
    (hm : s.world.ClosesOpened) (hr : s.world.unreachable = false) :
    let a := c.init (context settings) s
    a.outcome = .ok () ∧ a.world.1.isInitialized = true ∧
      a.world.2.shared.poisoned = false ∧ s.world.SameData a.world.2.world := by
  obtain ⟨store⟩ := c
  cases store with
  | some handle => exact ⟨rfl, rfl, hp, .refl _⟩
  | none =>
    obtain ⟨⟨handle, ho⟩, hp', hd⟩ := acquire_succeeds settings hp hm hr
    simp only [Client.init]
    generalize (context settings).acquire s = a at ho hp' hd ⊢
    obtain ⟨o, s', es⟩ := a
    obtain rfl : o = .ok handle := ho
    exact ⟨rfl, rfl, hp', hd⟩

lemma cleanup_succeeds (c : Client Nat) (hp : s.shared.poisoned = false) :
    let a := c.cleanup (context settings) s
    a.outcome = .ok () ∧ a.world.1 = {} ∧
      a.world.2.shared.poisoned = false ∧ s.world.SameData a.world.2.world := by
  obtain ⟨store⟩ := c
  cases store with
  | none => exact ⟨rfl, rfl, hp, .refl _⟩
  | some handle =>
    obtain ⟨ho, hp', hd⟩ := release_succeeds settings hp
    exact ⟨ho, rfl, hp', hd⟩

end Life

/-! ### Fleets -/

/-- Where the workload sees a client that is between two calls. -/
def Phase.standing {η : Type} : Phase η → Standing
  | .resting c => if c.isInitialized then .initialized else .uninitialized
  | .gone => .dropped
  | _ => .uninitialized

/-- A fleet over a store in memory that does as a directory does. -/
structure Mirrors (f : Fleet Memory Nat) (d : Directory) : Prop where
  consistent : f.Consistent ClosesOpened IsOpen
  settled : f.Settled
  unpoisoned : f.context.shared.poisoned = false
  uniqueKeys : f.context.world.uniqueKeys = true
  reachable : f.context.world.unreachable = false
  clients_eq : d.clients = f.clients.map Phase.standing
  held : d.tables.HeldBy f.context.world.nodes

namespace Mirrors

variable (settings : Settings) {f : Fleet Memory Nat} {d : Directory} {i : Nat}

lemma getElem?_clients (h : Mirrors f d) (i : Nat) :
    d.clients[i]? = f.clients[i]?.map Phase.standing := by
  rw [h.clients_eq, List.getElem?_map]

/-- A client that rests is there for the workload. -/
lemma of_resting (h : Mirrors f d) {c : Client Nat} (hi : f.clients[i]? = some (.resting c)) :
    d.isPresent i = true ∧ d.isInitialized i = c.isInitialized := by
  have hd := h.getElem?_clients i
  rw [hi, Option.map_some] at hd
  rw [Directory.isPresent, Directory.isInitialized, hd]
  cases hc : c.isInitialized <;> simp [Phase.standing, hc]

/-- Between calls, a client that does not rest is gone. -/
lemma of_not_resting (h : Mirrors f d) (hi : ∀ c, f.clients[i]? ≠ some (.resting c)) :
    d.isPresent i = false ∧ d.clients.set i .dropped = d.clients := by
  have hd := h.getElem?_clients i
  cases hf : f.clients[i]? with
  | none =>
    rw [hf, Option.map_none] at hd
    refine ⟨by rw [Directory.isPresent, hd]; rfl, ?_⟩
    exact List.set_eq_of_length_le (List.getElem?_eq_none_iff.mp hd)
  | some p =>
    have hp := h.settled p (List.mem_of_getElem? hf)
    cases p with
    | resting c => exact absurd hf (hi c)
    | joining | leaving => simp [Phase.isSettled] at hp
    | gone =>
      rw [hf, Option.map_some] at hd
      refine ⟨by rw [Directory.isPresent, hd]; rfl, ?_⟩
      obtain ⟨hlt, hget⟩ := List.getElem?_eq_some_iff.mp hd
      conv_rhs => rw [← List.set_getElem_self hlt, hget]
      rfl

/-- A client may move on to another phase while the connection leaves the data alone. -/
lemma put (h : Mirrors f d) {s : ContextState Memory Nat} {p : Phase Nat}
    (hc : (({ f with context := s } : Fleet Memory Nat).put i p).Consistent ClosesOpened IsOpen)
    (hs : (({ f with context := s } : Fleet Memory Nat).put i p).Settled)
    (hp : s.shared.poisoned = false) (hd : f.context.world.SameData s.world)
    {standing : Standing} (hst : p.standing = standing) :
    Mirrors (({ f with context := s } : Fleet Memory Nat).put i p)
      { d with clients := d.clients.set i standing } where
  consistent := hc
  settled := hs
  unpoisoned := hp
  uniqueKeys := hd.uniqueKeys.trans h.uniqueKeys
  reachable := hd.unreachable.trans h.reachable
  clients_eq := by simp [Fleet.put, List.map_set, h.clients_eq, hst]
  held := by
    change d.tables.HeldBy s.world.nodes
    rw [hd.nodes]
    exact h.held

/-- What a client is asked is answered from the tables. -/
lemma ask (h : Mirrors f d) {c : Client Nat} (hi : f.clients[i]? = some (.resting c))
    (r : Request) :
    let a := r.run backend c f.context.world
    r.Shows a.outcome (d.ask c.isInitialized r).1 ∧
      (d.ask c.isInitialized r).2.HeldBy a.world.nodes := by
  obtain ⟨store⟩ := c
  cases hp : Label.parse r.table with
  | error cause =>
    simp only [Request.run_of_no_label backend hp, Directory.ask, hp]
    exact ⟨r.shows_untouched .badRequest, h.held⟩
  | ok label =>
    cases store with
    | none =>
      simp only [Request.run_of_none backend hp, Directory.ask, hp, Client.isInitialized,
        Option.isSome_none]
      exact ⟨r.shows_untouched .error, h.held⟩
    | some handle =>
      have hs : f.context.shared.store = some handle :=
        h.consistent.store_eq (List.mem_of_getElem? hi) rfl
      have ho := h.consistent.tended.live hs
      simp only [Directory.ask, hp, Client.isInitialized, Option.isSome_some]
      exact serve_run ho h.uniqueKeys h.held hp

/-! ### Calls -/

lemma consistent_call (h : Mirrors f d) (c : Call) :
    (f.call (context settings) c).2.Consistent ClosesOpened IsOpen :=
  h.consistent.call upholds_isOpen h.settled c

lemma call_create (h : Mirrors f d) :
    (f.call (context settings) .create).1.seen = (d.call .create).1 ∧
      Mirrors (f.call (context settings) .create).2 (d.call .create).2 := by
  refine ⟨rfl, ?_⟩
  exact
    { consistent := h.consistent_call settings .create
      settled := Fleet.settled_call _ h.settled .create
      unpoisoned := h.unpoisoned
      uniqueKeys := h.uniqueKeys
      reachable := h.reachable
      clients_eq := by
        simp [Fleet.call, Directory.call, h.clients_eq, Phase.standing, Client.isInitialized]
      held := h.held }

/-- A call on a client that is not there does nothing. -/
lemma call_of_not_resting (h : Mirrors f d) {c : Call} (hc : c.client? = some i)
    (hi : ∀ client, f.clients[i]? ≠ some (.resting client)) :
    f.call (context settings) c = (.nothing, f) ∧ d.call c = (.nothing, d) := by
  refine ⟨Fleet.call_of_not_resting hc hi, ?_⟩
  obtain ⟨hp, hset⟩ := h.of_not_resting hi
  cases c with
  | create => cases hc
  | init j | cleanup j | drop j | ask j request =>
    obtain rfl : j = i := Option.some.inj hc
    simp [Directory.call, hp, hset]

section Resting

variable {client : Client Nat}

lemma call_init (h : Mirrors f d) (hi : f.clients[i]? = some (.resting client)) :
    (f.call (context settings) (.init i)).1.seen = (d.call (.init i)).1 ∧
      Mirrors (f.call (context settings) (.init i)).2 (d.call (.init i)).2 := by
  have hc := h.consistent_call settings (.init i)
  have hs := Fleet.settled_call (context settings) h.settled (.init i)
  obtain ⟨ho, hinit, hp, hd⟩ :=
    init_succeeds settings client h.unpoisoned h.consistent.tended.good h.reachable
  rw [Fleet.call_init _ hi] at hc hs ⊢
  simp only [Directory.call, (h.of_resting hi).1, if_true]
  exact ⟨by rw [ho]; rfl, h.put hc hs hp hd (by simp [Phase.standing, hinit])⟩

lemma call_cleanup (h : Mirrors f d) (hi : f.clients[i]? = some (.resting client)) :
    (f.call (context settings) (.cleanup i)).1.seen = (d.call (.cleanup i)).1 ∧
      Mirrors (f.call (context settings) (.cleanup i)).2 (d.call (.cleanup i)).2 := by
  have hc := h.consistent_call settings (.cleanup i)
  have hs := Fleet.settled_call (context settings) h.settled (.cleanup i)
  obtain ⟨ho, hclient, hp, hd⟩ := cleanup_succeeds settings client h.unpoisoned
  rw [Fleet.call_cleanup _ hi] at hc hs ⊢
  simp only [Directory.call, (h.of_resting hi).1, if_true]
  exact ⟨by rw [ho]; rfl, h.put hc hs hp hd (by rw [hclient]; rfl)⟩

lemma call_drop (h : Mirrors f d) (hi : f.clients[i]? = some (.resting client)) :
    (f.call (context settings) (.drop i)).1.seen = (d.call (.drop i)).1 ∧
      Mirrors (f.call (context settings) (.drop i)).2 (d.call (.drop i)).2 := by
  have hc := h.consistent_call settings (.drop i)
  have hs := Fleet.settled_call (context settings) h.settled (.drop i)
  obtain ⟨-, -, hp, hd⟩ := cleanup_succeeds settings client h.unpoisoned
  rw [← Client.world_drop] at hp hd
  rw [Fleet.call_drop _ hi] at hc hs ⊢
  exact ⟨rfl, h.put hc hs hp hd rfl⟩

lemma call_ask (h : Mirrors f d) (hi : f.clients[i]? = some (.resting client))
    (request : Request) :
    (f.call (context settings) (.ask i request)).1.seen = (d.call (.ask i request)).1 ∧
      Mirrors (f.call (context settings) (.ask i request)).2 (d.call (.ask i request)).2 := by
  have hc := h.consistent_call settings (.ask i request)
  have hs := Fleet.settled_call (context settings) h.settled (.ask i request)
  obtain ⟨ho, hh⟩ := h.ask hi request
  obtain ⟨hu, hx⟩ := settings_run client request f.context.world
  obtain ⟨hpresent, hinit⟩ := h.of_resting hi
  rw [Fleet.call_ask _ hi] at hc hs ⊢
  simp only [Directory.call, hpresent, hinit, if_true]
  refine ⟨?_, hc, hs, h.unpoisoned, hu.trans h.uniqueKeys, hx.trans h.reachable,
    h.clients_eq, hh⟩
  exact ho.seen

end Resting

/-- Every call is answered as the directory answers it, and the fleet goes on doing as it
does. -/
theorem call (h : Mirrors f d) (c : Call) :
    (f.call (context settings) c).1.seen = (d.call c).1 ∧
      Mirrors (f.call (context settings) c).2 (d.call c).2 := by
  cases hi : c.client? with
  | none =>
    cases c with
    | create => exact h.call_create settings
    | _ => cases hi
  | some i =>
    by_cases hr : ∀ client, f.clients[i]? ≠ some (.resting client)
    · obtain ⟨hf, hd⟩ := h.call_of_not_resting settings hi hr
      rw [hf, hd]
      exact ⟨rfl, h⟩
    · obtain ⟨client, hr⟩ := not_forall_not.mp hr
      cases c with
      | create => cases hi
      | init j =>
        obtain rfl : j = i := Option.some.inj hi
        exact h.call_init settings hr
      | cleanup j =>
        obtain rfl : j = i := Option.some.inj hi
        exact h.call_cleanup settings hr
      | drop j =>
        obtain rfl : j = i := Option.some.inj hi
        exact h.call_drop settings hr
      | ask j request =>
        obtain rfl : j = i := Option.some.inj hi
        exact h.call_ask settings hr request

end Mirrors

/-- Over a store in memory with unique keys, a fleet answers every sequence of calls so that its
callers see what a directory shows them, and no other answers look like that. In the end the
nodes of each label hold the table of the label. -/
theorem fleet_is_directory (settings : Settings) (calls : List Call) :
    let fleet := transcript (Fleet.call (context settings)) calls (.new { uniqueKeys := true })
    let directory := transcript Directory.call calls {}
    (∀ replies : List Reply, replies.map Reply.seen = directory.1 ↔ replies = fleet.1) ∧
      ∀ label, Holds (fleet.2.context.world.nodes label) (directory.2.tables label) := by
  have h : Mirrors (.new { uniqueKeys := true }) {} :=
    { consistent := .new (fun _ h => by simp at h)
      settled := fun _ h => by simp [Fleet.new] at h
      unpoisoned := rfl
      uniqueKeys := rfl
      reachable := rfl
      clients_eq := rfl
      held := fun _ => .nil }
  obtain ⟨hr, hm⟩ := transcript_view Reply.seen (fun _ _ c h => h.call settings c) calls h
  refine ⟨fun replies => ?_, hm.held⟩
  rw [← hr]
  exact (List.map_injective_iff.mpr Reply.seen_injective).eq_iff

end KeyedGraph
