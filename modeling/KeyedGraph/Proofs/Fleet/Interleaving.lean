import KeyedGraph.Proofs.Fleet.Bisimulation
import KeyedGraph.Proofs.Store.Cells

/-!
# Workers on disjoint records

Workers take turns on a fleet over a store in memory, each with its own client. If no two of them
use one key of one table, each is answered as if it worked alone. How their turns are mixed may
show in the order in which the store keeps nodes of different keys, and in nothing that can be
asked for.
-/

namespace KeyedGraph

open Memory

/-! ### Schedules -/

/-- What belongs to one worker. -/
def ofWorker {α : Type} (i : Nat) (l : List (Nat × α)) : List α :=
  (l.filter fun t => t.1 = i).map Prod.snd

lemma ofWorker_cons_self {α : Type} (i : Nat) (a : α) (l : List (Nat × α)) :
    ofWorker i ((i, a) :: l) = a :: ofWorker i l := by
  simp [ofWorker]

lemma ofWorker_cons_of_ne {α : Type} {i j : Nat} (h : j ≠ i) (a : α) (l : List (Nat × α)) :
    ofWorker i ((j, a) :: l) = ofWorker i l := by
  simp [ofWorker, h]

lemma mem_ofWorker {α : Type} {i : Nat} {a : α} {l : List (Nat × α)} :
    a ∈ ofWorker i l ↔ (i, a) ∈ l := by
  simp [ofWorker]

/-- A schedule mixes the programs of the workers and keeps the order of each. -/
def Interleaves (programs : Nat → List Request) (schedule : List (Nat × Request)) : Prop :=
  ∀ i, ofWorker i schedule = programs i

/-- Whether a request is a scan. -/
def Request.isScan : Request → Bool
  | .scan _ _ _ _ _ => true
  | _ => false

/-- Programs without scans, of which no two use one key of one table. -/
structure KeepApart (programs : Nat → List Request) : Prop where
  isScan_eq {i : Nat} {r : Request} (hr : r ∈ programs i) : r.isScan = false
  disjoint {i j : Nat} (hij : i ≠ j) {r r' : Request} (hr : r ∈ programs i)
    (hr' : r' ∈ programs j) :
    ¬ (r.table = r'.table ∧ r.key = r'.key)

/-- A turn of a worker: the request that is next goes to the worker's client. -/
def Fleet.turn {σ η : Type} (ctx : Context σ η) (f : Fleet σ η) (t : Nat × Request) :
    (Nat × Reply) × Fleet σ η :=
  ((t.1, (f.call ctx (.ask t.1 t.2)).1), (f.call ctx (.ask t.1 t.2)).2)

/-! ### The cells of a worker -/

/-- No worker but this one uses the cell. -/
def FreeFor (programs : Nat → List Request) (i : Nat) (label : Label)
    (k : Option String) : Prop :=
  ∀ j, j ≠ i → ∀ r ∈ programs j, Label.parse r.table = .ok label → k ≠ some r.key

section Cells

variable {programs : Nat → List Request} {i : Nat} {r : Request} {label : Label}

/-- What a worker asks for has to do with its own cells only. -/
lemma KeepApart.within (h : KeepApart programs) (hr : r ∈ programs i)
    (hp : Label.parse r.table = .ok label) : (r.call label).Within (FreeFor programs i) := by
  have hfree : FreeFor programs i label (some r.key) := by
    intro j hj r' hr' hp' hk
    refine h.disjoint hj hr' hr ⟨?_, (Option.some.inj hk).symm⟩
    rw [← Label.name_of_parse hp', Label.name_of_parse hp]
  cases r with
  | scan => simpa [Request.isScan] using h.isScan_eq hr
  | read | update | insert | delete => exact hfree

/-- What another worker asks for spares them. -/
lemma spares_of_ne {j : Nat} (hj : j ≠ i) (hr : r ∈ programs j)
    (hp : Label.parse r.table = .ok label) : (r.call label).Spares (FreeFor programs i) := by
  have hfree : ¬ FreeFor programs i label (some r.key) := fun hf => hf j hj r hr hp rfl
  cases r with
  | read | scan => trivial
  | update | insert | delete => exact hfree

/-- Every cell is free for some worker. -/
lemma KeepApart.exists_freeFor (h : KeepApart programs) (label : Label) (k : Option String) :
    ∃ i, FreeFor programs i label k := by
  by_cases hused : ∃ i, ∃ r ∈ programs i, Label.parse r.table = .ok label ∧ k = some r.key
  · obtain ⟨i, r, hr, hp, rfl⟩ := hused
    refine ⟨i, fun j hj r' hr' hp' hk => h.disjoint hj hr' hr ⟨?_, (Option.some.inj hk).symm⟩⟩
    rw [← Label.name_of_parse hp', Label.name_of_parse hp]
  · refine ⟨0, fun j _ r hr hp hk => hused ⟨j, r, hr, hp, hk⟩⟩

end Cells

/-! ### Calls on stores that agree -/

section Calls

variable {P : Label → Option String → Prop} {m m' : Memory}

lemma Memory.call_alike (h : m.AgreeOn P m') {c : StoreCall} (hc : c.Within P) (handle : Nat) :
    (Memory.call handle c m).Alike (AgreeOn P) (Memory.call handle c m') := by
  obtain ⟨ho, hw⟩ := call_agrees h hc handle
  exact .of_eq ho (by rw [events_call, events_call]) hw

/-- Stores that differ at most in how the cells are mixed cannot be told apart. -/
theorem Memory.bisimilar_alike (settings : Settings) :
    (context settings).Bisimilar Memory.Alike (context settings) where
  url_eq := rfl
  database_eq := rfl
  connect {m m'} h := by
    simp only [context, backend, connect, h.unreachable_eq, h.opened_eq]
    split
    · exact .mk _ _ h
    · exact .mk _ _ ⟨h.cell_eq, h.uniqueKeys_eq, rfl, rfl, h.closedHandles_eq⟩
  call handle c _ _ h := call_alike h (within_true c) handle

/-- A request that spares the chosen cells leaves them as they are. -/
lemma Request.run_spares (c : Client Nat) {r : Request}
    (h : ∀ label, Label.parse r.table = .ok label → (r.call label).Spares P) (m : Memory) :
    (r.run backend c m).world.AgreeOn P m := by
  have hc := run_cases backend c r m
  generalize r.run backend c m = a at hc ⊢
  cases hc with
  | rejected | unready | idle => exact .refl P m
  | asked label handle hp hs hi =>
    rw [world_finish]
    exact call_spares m (r.call_ne_close label) (h label hp) handle

end Calls

/-! ### Turns of workers -/

section Turns

variable {programs : Nat → List Request} {f f' : Fleet Memory Nat}

/-- A turn of another worker does not touch what a worker uses. -/
lemma Fleet.ask_spares (settings : Settings) {P : Label → Option String → Prop} {r : Request}
    (h : ∀ label, Label.parse r.table = .ok label → (r.call label).Spares P) (j : Nat)
    (f : Fleet Memory Nat) :
    (f.call (Memory.context settings) (.ask j r)).2.Alike (AgreeOn P) f := by
  simp only [call]
  split
  · rename_i c hj
    exact .of_eq rfl rfl (r.run_spares c h _)
  · exact .of_eq rfl rfl (.refl P _)

/-- Each worker is answered as if it worked alone, and leaves its cells as if it had. -/
theorem answered_alone (settings : Settings) (h : KeepApart programs) (i : Nat)
    {schedule : List (Nat × Request)} (hs : ∀ t ∈ schedule, t.2 ∈ programs t.1)
    (hf : f.Alike (AgreeOn (FreeFor programs i)) f') :
    ofWorker i (transcript (Fleet.turn (context settings)) schedule f).1 =
        (transcript (Fleet.call (context settings)) ((ofWorker i schedule).map (.ask i)) f').1 ∧
      (transcript (Fleet.turn (context settings)) schedule f).2.Alike
        (AgreeOn (FreeFor programs i))
        (transcript (Fleet.call (context settings))
          ((ofWorker i schedule).map (.ask i)) f').2 := by
  induction schedule generalizing f f' with
  | nil => exact ⟨rfl, hf⟩
  | cons t schedule ih =>
    obtain ⟨j, r⟩ := t
    obtain ⟨hr, hs⟩ := List.forall_mem_cons.mp hs
    rw [transcript_cons]
    by_cases hj : j = i
    · -- a turn of the worker itself: the same answer, and what it uses stays the same
      subst hj
      obtain ⟨hreply, halike⟩ := Fleet.ask_alike (context settings) (context settings) hf j r
        fun label handle hp => Memory.call_alike hf.world (h.within hr hp) handle
      obtain ⟨hreplies, hend⟩ := ih hs halike
      rw [ofWorker_cons_self, List.map_cons, transcript_cons]
      refine ⟨?_, hend⟩
      simp only [Fleet.turn] at hreplies ⊢
      rw [ofWorker_cons_self, hreplies, hreply]
    · -- a turn of another worker: what this one uses is not touched
      have hspared := Fleet.ask_spares settings (fun label hp => spares_of_ne hj hr hp) j f
      have halike : (f.call (context settings) (.ask j r)).2.Alike
          (AgreeOn (FreeFor programs i)) f' :=
        .of_eq (hspared.clients_eq.trans hf.clients_eq) (hspared.shared_eq.trans hf.shared_eq)
          (hspared.world.trans hf.world)
      obtain ⟨hreplies, hend⟩ := ih hs halike
      rw [ofWorker_cons_of_ne hj]
      refine ⟨?_, hend⟩
      simp only [Fleet.turn] at hreplies ⊢
      rw [ofWorker_cons_of_ne hj, hreplies]

end Turns

/-- Workers that keep apart do not notice how their turns are mixed: in any two schedules of
their programs each is answered the same. Behind them, no sequence of calls on the clients, no
call on a handle of the store and no count of nodes tells which schedule it was. -/
theorem workers_do_not_interfere (settings : Settings) (f : Fleet Memory Nat)
    {programs : Nat → List Request} (h : KeepApart programs)
    {schedule schedule' : List (Nat × Request)} (hs : Interleaves programs schedule)
    (hs' : Interleaves programs schedule') :
    let ctx := context settings
    let run := transcript (Fleet.turn ctx) schedule f
    let run' := transcript (Fleet.turn ctx) schedule' f
    (∀ i, ofWorker i run.1 = ofWorker i run'.1) ∧
    (∀ calls, (transcript (Fleet.call ctx) calls run.2).1 =
      (transcript (Fleet.call ctx) calls run'.2).1) ∧
    (∀ handle c, (Memory.call handle c run.2.context.world).outcome =
      (Memory.call handle c run'.2.context.world).outcome) ∧
    (∀ label, run.2.context.world.nodeCount label = run'.2.context.world.nodeCount label) := by
  intro ctx run run'
  have hmem {s : List (Nat × Request)} (hs : Interleaves programs s) :
      ∀ t ∈ s, t.2 ∈ programs t.1 := by
    intro t ht
    rw [← hs t.1]
    exact mem_ofWorker.mpr ht
  have hrefl (i : Nat) : f.Alike (AgreeOn (FreeFor programs i)) f := .of_eq rfl rfl (.refl _ _)
  have halone (i : Nat) := answered_alone settings h i (hmem hs) (hrefl i)
  have halone' (i : Nat) := answered_alone settings h i (hmem hs') (hrefl i)
  have hagree (i : Nat) : run.2.Alike (AgreeOn (FreeFor programs i)) run'.2 := by
    obtain ⟨-, ha⟩ := halone i
    obtain ⟨-, ha'⟩ := halone' i
    rw [hs i] at ha
    rw [hs' i] at ha'
    exact .of_eq (ha.clients_eq.trans ha'.clients_eq.symm)
      (ha.shared_eq.trans ha'.shared_eq.symm)
      (ha.world.trans ha'.world.symm)
  -- each cell is in the hands of one worker at most, so all of them are the same
  have hworld : Memory.Alike run.2.context.world run'.2.context.world := by
    have h0 := (hagree 0).world
    refine ⟨fun {label k} _ => ?_, h0.uniqueKeys_eq, h0.unreachable_eq, h0.opened_eq,
      h0.closedHandles_eq⟩
    obtain ⟨i, hi⟩ := h.exists_freeFor label k
    exact (hagree i).world.cell_eq hi
  have hfleets : run.2.Alike Memory.Alike run'.2 :=
    .of_eq (hagree 0).clients_eq (hagree 0).shared_eq hworld
  refine ⟨fun i => ?_, fun calls => ?_, fun handle c => ?_, fun label => ?_⟩
  · rw [(halone i).1, (halone' i).1, hs i, hs' i]
  · exact Fleet.transcript_alike (bisimilar_alike settings) hfleets calls
  · exact (call_agrees hworld (within_true c) handle).1
  · exact length_congr fun k => hworld.cell_eq trivial

/-- Two workers on one table: one inserts a record and reads it, the other inserts another. -/
def twoWorkers : Nat → List Request
  | 0 => [.insert "people" "ada" ∅, .read "people" "ada" none ∅]
  | 1 => [.insert "people" "bob" ∅]
  | _ => []

/-- The keys of the table's nodes, in the order in which the store keeps them. -/
def keysOf (table : String) (m : Memory) : List (Option String) :=
  match Label.parse table with
  | .ok label => (m.nodes label).map nodeKey?
  | .error _ => []

lemma keepApart_twoWorkers : KeepApart twoWorkers where
  isScan_eq {i r} hr := by
    match i with
    | 0 =>
      simp only [twoWorkers, List.mem_cons, List.not_mem_nil, or_false] at hr
      rcases hr with rfl | rfl <;> rfl
    | 1 =>
      obtain rfl := List.mem_singleton.mp hr
      rfl
    | _ + 2 => simp [twoWorkers] at hr
  disjoint {i j} hij r r' hr hr' := by
    have hkey {i : Nat} {r : Request} (hr : r ∈ twoWorkers i) :
        i = 0 ∧ r.key = "ada" ∨ i = 1 ∧ r.key = "bob" := by
      match i with
      | 0 =>
        simp only [twoWorkers, List.mem_cons, List.not_mem_nil, or_false] at hr
        rcases hr with rfl | rfl <;> exact .inl ⟨rfl, rfl⟩
      | 1 =>
        obtain rfl := List.mem_singleton.mp hr
        exact .inr ⟨rfl, rfl⟩
      | _ + 2 => simp [twoWorkers] at hr
    rintro ⟨-, hk⟩
    rcases hkey hr with ⟨rfl, h⟩ | ⟨rfl, h⟩ <;> rcases hkey hr' with ⟨rfl, h'⟩ | ⟨rfl, h'⟩
    · exact hij rfl
    · simp [h, h'] at hk
    · simp [h, h'] at hk
    · exact hij rfl

/-- The two workers do not notice who comes first, although the store keeps the nodes in the
order of their creation. -/
theorem two_workers_do_not_interfere :
    let ctx := context {}
    let f : Fleet Memory Nat :=
      { context := ⟨{ users := 2, store := some 0 }, .standalone⟩
        clients := [.resting ⟨some 0⟩, .resting ⟨some 0⟩] }
    let schedule : List (Nat × Request) :=
      [(0, .insert "people" "ada" ∅), (1, .insert "people" "bob" ∅),
        (0, .read "people" "ada" none ∅)]
    let schedule' : List (Nat × Request) :=
      [(1, .insert "people" "bob" ∅), (0, .insert "people" "ada" ∅),
        (0, .read "people" "ada" none ∅)]
    let run := transcript (Fleet.turn ctx) schedule f
    let run' := transcript (Fleet.turn ctx) schedule' f
    KeepApart twoWorkers ∧ Interleaves twoWorkers schedule ∧ Interleaves twoWorkers schedule' ∧
    keysOf "people" run.2.context.world = [some "ada", some "bob"] ∧
    keysOf "people" run'.2.context.world = [some "bob", some "ada"] ∧
    (∀ i, ofWorker i run.1 = ofWorker i run'.1) ∧
    (∀ calls, (transcript (Fleet.call ctx) calls run.2).1 =
      (transcript (Fleet.call ctx) calls run'.2).1) := by
  intro ctx f schedule schedule' run run'
  have hs : Interleaves twoWorkers schedule := by
    intro i
    match i with
    | 0 | 1 | _ + 2 => rfl
  have hs' : Interleaves twoWorkers schedule' := by
    intro i
    match i with
    | 0 | 1 | _ + 2 => rfl
  obtain ⟨hreplies, hcalls, -⟩ := workers_do_not_interfere {} f keepApart_twoWorkers hs hs'
  refine ⟨keepApart_twoWorkers, hs, hs', ?_, ?_, hreplies, hcalls⟩
  · decide +kernel
  · decide +kernel

end KeyedGraph
