import KeyedGraph.Proofs.Fleet.Failures
import KeyedGraph.Store.Faulty
import KeyedGraph.Store.Memory

/-!
# Crashes in a fleet

A crash under the lock poisons it. The lock is held across an attempt on the backend only where
the context has no users, or has just lost the last of them; so behind a poisoned lock no client
has a share, and none ever gets one. Such a fleet is sealed: no client has a store, an `init`
fails at the lock, a `cleanup` or a `drop` has nothing to do, and nothing reaches the backend any
more. A crash of a request happens outside of the lock and changes nothing but the backend's own
world.
-/

namespace KeyedGraph

variable {σ η : Type}

/-! ### Sealed fleets -/

/-- A fleet whose lock is poisoned, with all that its clients can still see of it. -/
structure Fleet.Sealed (ctx : Context σ η) (f : Fleet σ η) : Prop where
  poisoned : f.context.shared.poisoned = true
  users : f.context.shared.users = 0
  store : f.context.shared.store = none
  /-- No client has a share, not even in the middle of a call. -/
  holders : f.holders = 0
  /-- Nobody is known to be there, and no store to be open. -/
  views : f.context.shared.activeUsers = 0 ∧ f.context.shared.isConnected = false
  uninitialized {i : Nat} {c : Client η} (hi : f.clients[i]? = some (.resting c)) :
    c.isInitialized = false
  /-- An `init` fails at the lock. -/
  init {i : Nat} {c : Client η} (hi : f.clients[i]? = some (.resting c)) :
    c.init ctx f.context =
      { outcome := .error (.operationFailed "context_acquire" .lockPoisoned)
        world := (c, f.context)
        events := [KeyedGraph.initFailed (.operationFailed "context_acquire" .lockPoisoned)] }
  /-- A `cleanup` or a `drop` succeeds and does nothing. -/
  cleanup {i : Nat} {c : Client η} (hi : f.clients[i]? = some (.resting c)) :
    c.cleanup ctx f.context = .done () (c, f.context)
  drop {i : Nat} {c : Client η} (hi : f.clients[i]? = some (.resting c)) :
    c.drop ctx f.context = .done () f.context

namespace Fleet

variable {ctx : Context σ η} {f : Fleet σ η} {Good : σ → Prop} {Live : σ → η → Prop}

/-- A fleet whose context has no users has no holders. -/
lemma Consistent.holds_eq_false (h : f.Consistent Good Live) (hu : f.context.shared.users = 0)
    {p : Phase η} (hp : p ∈ f.clients) : p.holds = false := by
  have hn := List.countP_eq_zero.mp (h.users_eq.symm.trans hu) p hp
  simpa using hn

/-- A consistent fleet with a poisoned lock is sealed. -/
lemma Consistent.sealed (h : f.Consistent Good Live) (hp : f.context.shared.poisoned = true) :
    f.Sealed ctx := by
  have hu : f.context.shared.users = 0 := h.sound.users_of_poisoned hp
  have hs : f.context.shared.store = none := by
    have := h.sound.store_isSome_iff
    simpa [hu] using this
  have hnone {i : Nat} {c : Client η} (hi : f.clients[i]? = some (.resting c)) :
      c = { store := none } := by
    have hc : c.isInitialized = false := h.holds_eq_false hu (List.mem_of_getElem? hi)
    obtain ⟨store⟩ := c
    cases store with
    | none => rfl
    | some store => simp [Client.isInitialized] at hc
  refine ⟨hp, hu, hs, h.users_eq.symm.trans hu, ?_, fun hi => ?_, fun hi => ?_, fun hi => ?_,
    fun hi => ?_⟩
  · simp [SharedConnection.activeUsers, SharedConnection.isConnected, hp]
  · rw [hnone hi]
    rfl
  · rw [hnone hi]
    simp only [Client.init, ctx.acquire_of_poisoned hp]
    rfl
  · rw [hnone hi]
    rfl
  · rw [hnone hi]
    rfl

/-- Behind a poisoned lock, no move changes the context or reaches the backend. -/
lemma Consistent.context_move_of_poisoned (h : f.Consistent Good Live)
    (hp : f.context.shared.poisoned = true) (m : Move) :
    (f.move ctx m).context = f.context := by
  cases m with
  | acquire i =>
    simp only [Fleet.move, Fleet.acquire]
    split
    · rw [ctx.acquire_of_poisoned hp]
      rfl
    · rfl
  | create | keep | letGo | release | operate =>
    exact h.context_move (h.sound.users_of_poisoned hp) (by simp)

/-- A sealed fleet stays sealed, and its context stays as it is. -/
theorem Consistent.sealed_after (hb : ctx.backend.Upholds Good Live) (h : f.Consistent Good Live)
    (hp : f.context.shared.poisoned = true) (later : List Move) :
    (Fleet.after ctx later f).Sealed ctx ∧ (Fleet.after ctx later f).context = f.context := by
  induction later generalizing f with
  | nil => exact ⟨h.sealed hp, rfl⟩
  | cons m later ih =>
    have hc : (f.move ctx m).context = f.context := h.context_move_of_poisoned hp m
    obtain ⟨hs, hl⟩ := ih (h.move hb m) (by rw [hc]; exact hp)
    exact ⟨hs, hl.trans hc⟩

end Fleet

/-! ### Requests that crash -/

/-- A request crashes because its call does, and then shows what the store showed and no more. -/
lemma Request.run_crash {b : Backend σ η} {c : Client η} {r : Request} {w : σ}
    (h : (r.run b c w).outcome = .crash) :
    ∃ label store, Label.parse r.table = .ok label ∧ c.store = some store ∧
      (b.call store (r.call label) w).outcome = .crash ∧
      r.run b c w =
        { outcome := .crash
          world := (b.call store (r.call label) w).world
          events := (b.call store (r.call label) w).events } := by
  have hc := run_cases b c r w
  generalize r.run b c w = a at hc h ⊢
  cases hc with
  | rejected | unready | idle => cases h
  | asked label store hp hs hi =>
    refine ⟨label, store, hp, hs, ?_⟩
    generalize b.call store (r.call label) w = a at h ⊢
    obtain ⟨o, w, es⟩ := a
    cases o with
    | ok | error => cases h
    | crash => exact ⟨rfl, rfl⟩

/-- What a request comes to whose call crashes. -/
structure Fleet.RequestCrashed (ctx : Context σ η) (f : Fleet (Ledger σ) (Numbered η)) (i : Nat)
    (c : Client (Numbered η)) (r : Request) : Prop where
  /-- What is shared and all clients are as they were. -/
  shared : (f.move ctx.recorded (.operate i r)).context.shared = f.context.shared
  clients : (f.move ctx.recorded (.operate i r)).clients = f.clients
  /-- Nothing is shown but what the client's store shows itself: no sample and no record. -/
  shown : ∃ label store, Label.parse r.table = .ok label ∧ c.store = some store ∧
    (r.run ctx.recorded.backend c f.context.world).events =
      (ctx.backend.call store.handle (r.call label) f.context.world.inner).events
  /-- If the backend does not tell its world from the one before, no later calls tell whether
  this one was made: they are answered alike and leave the same clients and the same shared
  state. -/
  later {R : σ → σ → Prop} (hR : ctx.Bisimilar R ctx)
    (hw : R (r.run ctx.recorded.backend c f.context.world).world.inner f.context.world.inner)
    (calls : List Call) :
    (transcript (Fleet.call ctx) calls (f.call ctx.recorded (.ask i r)).2.plain).1 =
        (transcript (Fleet.call ctx) calls f.plain).1 ∧
      (transcript (Fleet.call ctx) calls (f.call ctx.recorded (.ask i r)).2.plain).2.Alike R
        (transcript (Fleet.call ctx) calls f.plain).2

/-- A request that crashes leaves no trace but in the backend's own world. -/
lemma Fleet.requestCrashed {ctx : Context σ η} {f : Fleet (Ledger σ) (Numbered η)} {i : Nat}
    {c : Client (Numbered η)} {r : Request} (hi : f.clients[i]? = some (.resting c))
    (ho : (r.run ctx.recorded.backend c f.context.world).outcome = .crash) :
    f.RequestCrashed ctx i c r := by
  have hmove : f.move ctx.recorded (.operate i r) =
      { f with
        context :=
          { f.context with
            world := (r.run ctx.recorded.backend c f.context.world).world } } := by
    simp only [move, operate, hi]
  obtain ⟨label, store, hp, hs, -, hrun⟩ := Request.run_crash ho
  refine ⟨by rw [hmove], by rw [hmove], ⟨label, store, hp, hs, by rw [hrun]; rfl⟩,
    fun {R} hR hw calls => ?_⟩
  have hsame : (f.call ctx.recorded (.ask i r)).2.plain.Alike R f.plain := by
    rw [call_ask ctx.recorded hi]
    exact .of_eq rfl rfl hw
  exact transcript_agree (R := Alike R) (fun _ _ call hg => call_alike hR hg call) calls hsame

/-! ### Crashes -/

/-- In every reachable fleet, whatever fails or crashes: the lock is poisoned only if the count
is zero and no client has a share. Then the fleet is sealed for good, and the backend is left
alone. A request whose call crashes changes neither what is shared nor any client, and shows no
sample. -/
theorem crashes_are_contained (ctx : Context σ η) (w : σ) (moves : List Move) :
    let f := Fleet.after ctx.recorded moves (.newRecorded w)
    f.plain = Fleet.after ctx moves (.new w) ∧
    (f.context.shared.poisoned = true → f.context.shared.users = 0 ∧ f.holders = 0 ∧
      ∀ later, (Fleet.after ctx.recorded later f).Sealed ctx.recorded ∧
        (Fleet.after ctx.recorded later f).context = f.context) ∧
    (∀ i c r, f.clients[i]? = some (.resting c) →
      (r.run ctx.recorded.backend c f.context.world).outcome = .crash →
      f.RequestCrashed ctx i c r) := by
  intro f
  have h : f.Consistent (fun l => Orderly l.contacts) Ledger.IsOpen :=
    (Fleet.Consistent.new .nil).after ctx.backend.upholds_orderly moves
  refine ⟨Fleet.plain_after ctx moves _, fun hp => ?_, fun _ _ _ => Fleet.requestCrashed⟩
  have hs : f.Sealed ctx.recorded := h.sealed hp
  exact ⟨hs.users, hs.holders, h.sealed_after ctx.backend.upholds_orderly hp⟩

/-- A store in memory that crashes when it is closed and when a node is created. -/
def fragile : Faulty Memory where
  inner := {}
  faults
    | .call .close => some .crash
    | .call .createNode => some .crash
    | _ => none

/-- Over that store, a `cleanup` seals the fleet, and an insertion leaves no trace. -/
theorem crashes_are_contained_in_memory :
    let ctx : Context (Faulty Memory) Nat :=
      { settings := {}, backend := Memory.backend.withFaults }
    let f := Fleet.after ctx.recorded [.create, .acquire 0, .keep 0] (.newRecorded fragile)
    let g := Fleet.after ctx.recorded
      [.create, .create, .acquire 0, .keep 0, .letGo 0 false, .release 0] (.newRecorded fragile)
    f.RequestCrashed ctx 0 ⟨some ⟨0, 0⟩⟩ (.insert "people" "ada" ∅) ∧
    g.context.shared.poisoned = true ∧
    ∀ later, (Fleet.after ctx.recorded later g).Sealed ctx.recorded ∧
      (Fleet.after ctx.recorded later g).context = g.context := by
  intro ctx f g
  obtain ⟨-, -, hcrash⟩ := crashes_are_contained ctx fragile [.create, .acquire 0, .keep 0]
  obtain ⟨-, hsealed, -⟩ := crashes_are_contained ctx fragile
    [.create, .create, .acquire 0, .keep 0, .letGo 0 false, .release 0]
  have hi : f.clients[0]? = some (.resting ⟨some ⟨0, 0⟩⟩) := by rfl
  have ho : ((Request.insert "people" "ada" ∅).run ctx.recorded.backend ⟨some ⟨0, 0⟩⟩
      f.context.world).outcome = .crash := by
    rfl
  have hp : g.context.shared.poisoned = true := by rfl
  exact ⟨hcrash 0 _ _ hi ho, hp, (hsealed hp).2.2⟩

end KeyedGraph
