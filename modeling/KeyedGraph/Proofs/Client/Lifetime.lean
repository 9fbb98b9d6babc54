import KeyedGraph.Proofs.Client.Request
import KeyedGraph.Proofs.Connection.Accounting

/-!
# The life of one client

A client is initialized, makes its requests, is cleaned up and goes away. Each of these steps is
described over a backend that never crashes: how it ends, and what it adds to the ledger. A
client that has its context to itself opens a store when it is initialized and closes it when it
is cleaned up, well or badly; behind that it has no store left to close.
-/

namespace KeyedGraph

variable {σ η : Type}

/-- A backend that never crashes. -/
structure Backend.Calm (b : Backend σ η) : Prop where
  connect (settings : Settings) (w : σ) : (b.connect settings w).outcome ≠ .crash
  call (store : η) (c : StoreCall) (w : σ) : (b.call store c w).outcome ≠ .crash

namespace Backend.Calm

variable {b : Backend σ η}

lemma steady (h : b.Calm) : b.Steady where
  connect := h.connect
  verify store := h.call store .verifyConnectivity
  close store := h.call store .close

lemma recorded (h : b.Calm) : b.recorded.Calm where
  connect := h.steady.recorded.connect
  call store c l := h.call store.handle c l.inner

end Backend.Calm

lemma Context.acquire_ne_crash {ctx : Context σ η} (hb : ctx.backend.Steady)
    (s : ContextState σ η) : (ctx.acquire s).outcome ≠ .crash := by
  have hc := acquire_cases ctx s
  generalize ctx.acquire s = a at hc ⊢
  cases hc with
  | connectCrashed w es hp hs hc => exact absurd (congrArg Attempt.outcome hc) (hb.connect _ _)
  | probeCrashed store w w' es es' hp hs hc hv =>
    exact absurd (congrArg Attempt.outcome hv) (hb.verify _ _)
  | abandonCrashed store cause w w' w'' es es' es'' hp hs hc hv hx =>
    exact absurd (congrArg Attempt.outcome hx) (hb.close _ _)
  | _ => simp [Attempt.failed]

lemma Context.release_ne_crash {ctx : Context σ η} (hb : ctx.backend.Steady)
    (s : ContextState σ η) : (ctx.release s).outcome ≠ .crash := by
  have hc := release_cases ctx s
  generalize ctx.release s = a at hc ⊢
  cases hc with
  | closeCrashed store w es hp hu hs hx =>
    exact absurd (congrArg Attempt.outcome hx) (hb.close _ _)
  | _ => simp [Attempt.failed]

/-! ### Requests -/

/-- Every request ends with a status. -/
lemma Request.run_ends {b : Backend σ η} (hb : b.Calm) (c : Client η) (r : Request) (w : σ) :
    ∃ status collected w' es, r.run b c w = ⟨.ok (status, collected), w', es⟩ := by
  have hc := run_cases b c r w
  generalize r.run b c w = a at hc ⊢
  cases hc with
  | rejected | unready | idle => exact ⟨_, _, _, _, rfl⟩
  | asked label store hp hs hi =>
    have hne := hb.call store (r.call label) w
    generalize b.call store (r.call label) w = a at hne ⊢
    obtain ⟨o, w', es⟩ := a
    cases o with
    | ok reply => exact ⟨_, _, _, _, rfl⟩
    | error cause => exact ⟨_, _, _, _, rfl⟩
    | crash => exact absurd rfl hne

/-- A request adds at most one call to the ledger, and does not close. -/
lemma Request.contacts_run (b : Backend σ η) (c : Client (Numbered η)) (r : Request)
    (l : Ledger σ) :
    (r.run b.recorded c l).world.contacts = l.contacts ∨
      ∃ store kind succeeded, c.store = some store ∧ kind ≠ .close ∧
        (r.run b.recorded c l).world.contacts =
          l.contacts ++ [.call store.number kind succeeded] := by
  rcases world_run b.recorded c r l with h | ⟨store, call, hs, hne, h⟩
  · exact .inl (congrArg Ledger.contacts h)
  · refine .inr ⟨store, call.kind, (b.call store.handle call l.inner).outcome.isOk, hs, ?_, ?_⟩
    · cases call with
      | close => exact absurd rfl hne
      | _ => simp [StoreCall.kind]
    · rw [h]
      rfl

namespace Client

variable {ctx : Context σ η}

/-! ### Initialization -/

lemma init_ne_crash (ctx : Context σ η) (hb : ctx.backend.Steady) (c : Client η)
    (s : ContextState σ η) : (c.init ctx s).outcome ≠ .crash := by
  obtain ⟨store⟩ := c
  cases store with
  | some store => simp [init, Attempt.done]
  | none =>
    have hne := Context.acquire_ne_crash hb s
    simp only [init]
    generalize ctx.acquire s = a at hne ⊢
    obtain ⟨o, s, es⟩ := a
    cases o with
    | ok | error => simp
    | crash => exact absurd rfl hne

/-- A new client that is initialized has the store that was acquired for it. -/
lemma acquire_of_init_ok {c : Client η} {s s' : ContextState σ η} {es : List Event}
    (h : Client.init ctx {} s = ⟨.ok (), (c, s'), es⟩) :
    ∃ store, c = ⟨some store⟩ ∧ ctx.acquire s = ⟨.ok store, s', es⟩ := by
  simp only [init] at h
  generalize ctx.acquire s = a at h ⊢
  obtain ⟨o, s'', es'⟩ := a
  cases o with
  | ok store =>
    obtain ⟨⟨rfl, rfl⟩, rfl⟩ : (⟨some store⟩ = c ∧ s'' = s') ∧ es' = es := by simpa using h
    exact ⟨store, rfl, rfl⟩
  | error | crash => simp at h

/-- A new client that cannot be initialized has no store. -/
lemma acquire_of_init_error {c : Client η} {s s' : ContextState σ η} {cause : Error}
    {es : List Event} (h : Client.init ctx {} s = ⟨.error cause, (c, s'), es⟩) :
    c = {} ∧ ∃ es, ctx.acquire s = ⟨.error cause, s', es⟩ := by
  simp only [init] at h
  generalize ctx.acquire s = a at h ⊢
  obtain ⟨o, s'', es'⟩ := a
  cases o with
  | error cause' =>
    obtain ⟨rfl, ⟨rfl, rfl⟩, -⟩ :
        cause' = cause ∧ (({} : Client η) = c ∧ s'' = s') ∧ es' ++ [initFailed cause'] = es := by
      simpa using h
    exact ⟨rfl, es', rfl⟩
  | ok | crash => simp at h

/-- What the ledger of a new context has behind the initialization of a client: the store was
opened and stood its first check. -/
lemma contacts_of_init_ok (ctx : Context σ η) (hb : ctx.backend.Steady) {w : σ}
    {c : Client (Numbered η)} {s : ContextState (Ledger σ) (Numbered η)} {es : List Event}
    (h : Client.init ctx.recorded {} (.newRecorded w) = ⟨.ok (), (c, s), es⟩) :
    ∃ store, c.store = some store ∧ store.number = 0 ∧
      s.shared = { users := 1, store := some store } ∧
      s.world.contacts = [.connect true, .call 0 .verifyConnectivity true] := by
  obtain ⟨store, rfl, ha⟩ := acquire_of_init_ok h
  obtain ⟨added, hc, he⟩ := Context.entry_acquire (s := .newRecorded w) hb rfl
  have hs := Context.shared_acquire_of_ok ctx.recorded (s := .newRecorded w) .new
    (congrArg Attempt.outcome ha)
  rw [ha] at hc he hs
  change s.shared = { users := 1, store := some store } at hs
  change s.world.contacts = added at hc
  change Entry _ _ _ _ s.shared at he
  refine ⟨store, rfl, ?_⟩
  rw [hc]
  clear ha
  generalize s.shared = shared at he hs ⊢
  cases he with
  | joined _ hj => cases hj
  | refused => cases hs
  | abandoned => cases hs
  | opened store' _ hn =>
    obtain rfl : store' = store := by simpa using congrArg SharedConnection.store hs
    have h0 : store'.number = 0 := hn
    exact ⟨h0, hs, by rw [h0]⟩

/-- What the ledger of a new context has behind an initialization that failed: no store was
opened, or it was closed again behind its first check. -/
lemma contacts_of_init_error (ctx : Context σ η) (hb : ctx.backend.Steady) {w : σ}
    {c : Client (Numbered η)} {s : ContextState (Ledger σ) (Numbered η)} {cause : Error}
    {es : List Event}
    (h : Client.init ctx.recorded {} (.newRecorded w) = ⟨.error cause, (c, s), es⟩) :
    s.world.contacts = [.connect false] ∨
      ∃ closedWell, s.world.contacts =
        [.connect true, .call 0 .verifyConnectivity false, .call 0 .close closedWell] := by
  obtain ⟨-, es', ha⟩ := acquire_of_init_error h
  obtain ⟨added, hc, he⟩ := Context.entry_acquire (s := .newRecorded w) hb rfl
  have hs := (Context.shared_acquire_of_not_ok ctx.recorded (s := .newRecorded w)
    (by simp [ha])).2
  rw [ha] at hc he hs
  change s.shared.store = none at hs
  change s.world.contacts = added at hc
  change Entry _ _ _ _ s.shared at he
  generalize s.shared = shared at he hs
  rw [hc]
  cases he with
  | joined _ hj => cases hj
  | refused => exact .inl rfl
  | opened => cases hs
  | abandoned n closedWell _ hn =>
    obtain rfl : n = 0 := hn
    exact .inr ⟨closedWell, rfl⟩

/-! ### Cleanup -/

lemma cleanup_ne_crash (ctx : Context σ η) (hb : ctx.backend.Steady) (c : Client η)
    (s : ContextState σ η) : (c.cleanup ctx s).outcome ≠ .crash := by
  obtain ⟨store⟩ := c
  cases store with
  | none => simp [cleanup, Attempt.done]
  | some store => exact Context.release_ne_crash hb s

/-- A client that was cleaned up has no store, whatever happened. -/
lemma client_cleanup (ctx : Context σ η) (c : Client η) (s : ContextState σ η) :
    (c.cleanup ctx s).world.1 = {} := by
  obtain ⟨store⟩ := c
  cases store <;> rfl

/-- The only user of a context closes its store when it is cleaned up. -/
lemma contacts_cleanup (ctx : Context σ η) (hb : ctx.backend.Steady) {store : Numbered η}
    {s : ContextState (Ledger σ) (Numbered η)} {c : Client (Numbered η)}
    (hc : c.store = some store) (hs : s.shared = { users := 1, store := some store }) :
    ∃ closedWell, (c.cleanup ctx.recorded s).world.2.world.contacts =
      s.world.contacts ++ [.call store.number .close closedWell] := by
  obtain ⟨added, hadded, he⟩ := Context.entry_release (s := s) hb
    (by rw [hs]; exact ⟨by simp, by simp⟩) (by rw [hs])
  have hcleanup :
      c.cleanup ctx.recorded s = (ctx.recorded.release s).mapWorld fun s => ({}, s) := by
    simp only [cleanup, hc]
  rw [hcleanup]
  change ∃ closedWell, (ctx.recorded.release s).world.world.contacts = _
  rw [hadded]
  rw [hs] at he
  generalize (ctx.recorded.release s).world.shared = shared at he
  cases he with
  | surplus hu => cases hu
  | left hu => simp at hu
  | closed store' closedWell _ hs' =>
    obtain rfl : store = store' := by simpa using hs'
    exact ⟨closedWell, rfl⟩

/-! ### Going away -/

/-- A client without a store goes away unnoticed. -/
lemma drop_of_none {c : Client η} (hc : c.store = none) (s : ContextState σ η) :
    c.drop ctx s = .done () s := by
  obtain ⟨store⟩ := c
  obtain rfl : store = none := hc
  rfl

/-! ### Recording is invisible -/

/-- A client and its context, without the ledger. -/
def plainPair (p : Client (Numbered η) × ContextState (Ledger σ) (Numbered η)) :
    Client η × ContextState σ η :=
  (p.1.plain, p.2.plain)

theorem plain_init (ctx : Context σ η) (c : Client (Numbered η))
    (s : ContextState (Ledger σ) (Numbered η)) :
    (c.init ctx.recorded s).mapWorld plainPair = c.plain.init ctx s.plain := by
  obtain ⟨store⟩ := c
  cases store with
  | some store => rfl
  | none =>
    simp only [init, plain, Option.map_none, ← plain_acquire]
    generalize ctx.recorded.acquire s = a
    obtain ⟨o, s, es⟩ := a
    cases o <;> rfl

theorem plain_cleanup (ctx : Context σ η) (c : Client (Numbered η))
    (s : ContextState (Ledger σ) (Numbered η)) :
    (c.cleanup ctx.recorded s).mapWorld plainPair = c.plain.cleanup ctx s.plain := by
  obtain ⟨store⟩ := c
  cases store with
  | none => rfl
  | some store =>
    simp only [cleanup, plain, Option.map_some, ← plain_release]
    generalize ctx.recorded.release s = a
    obtain ⟨o, s, es⟩ := a
    cases o <;> rfl

theorem plain_drop (ctx : Context σ η) (c : Client (Numbered η))
    (s : ContextState (Ledger σ) (Numbered η)) :
    (c.drop ctx.recorded s).mapWorld ContextState.plain = c.plain.drop ctx s.plain := by
  simp only [drop, ← plain_cleanup]
  generalize c.cleanup ctx.recorded s = a
  obtain ⟨o, ⟨c, s⟩, es⟩ := a
  cases o <;> rfl

end Client

end KeyedGraph
