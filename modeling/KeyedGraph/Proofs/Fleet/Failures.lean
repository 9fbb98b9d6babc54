import KeyedGraph.Proofs.Connection.Accounting
import KeyedGraph.Proofs.Connection.Failures
import KeyedGraph.Proofs.Fleet.Bisimulation

/-!
# Failures in a fleet

An `init` that fails leaves its client, the other clients and what they share as they were: only
the ledger is longer. A `cleanup` or a `drop` whose close fails leaves a context without users
and without a store, as one that is new. Nothing but a further `init` makes an attempt on the
backend then, and that one begins with a connect.
-/

namespace KeyedGraph

variable {σ η : Type}

/-! ### Failed `init`s -/

/-- What an `init` comes to that fails. -/
structure Fleet.InitFailed (ctx : Context σ η) (f : Fleet (Ledger σ) (Numbered η)) (i : Nat)
    (c : Client (Numbered η)) (cause : Error) : Prop where
  /-- The client had no store, and it has none. -/
  client : c.isInitialized = false ∧ (c.init ctx.recorded f.context).world.1 = c
  /-- The count of users, the store and the lock are the same. -/
  shared : (c.init ctx.recorded f.context).world.2.shared = f.context.shared
  /-- Behind the call, and behind its acquisition, the fleet is the same but for its context. -/
  call : (f.call ctx.recorded (.init i)).2 =
    { f with context := (c.init ctx.recorded f.context).world.2 }
  move : f.move ctx.recorded (.acquire i) =
    { f with context := (c.init ctx.recorded f.context).world.2 }
  /-- If the backend does not tell its world from the one before, no later calls tell whether
  this one was made. -/
  later {R : σ → σ → Prop} (hR : ctx.Bisimilar R ctx)
    (hw : R (c.init ctx.recorded f.context).world.2.world.inner f.context.world.inner)
    (calls : List Call) :
    (transcript (Fleet.call ctx) calls (f.call ctx.recorded (.init i)).2.plain).1 =
      (transcript (Fleet.call ctx) calls f.plain).1
  /-- The opening of a store failed with this error, unless it was not even tried, and no count
  was published but by the backend itself. -/
  opening : f.context.shared.poisoned = false →
    ∃ shown, FailedOpening ctx f.context.world cause shown
        (c.init ctx.recorded f.context).world.2.world ∧
      publishedUsers (c.init ctx.recorded f.context).events = publishedUsers shown
  /-- A store that was opened meanwhile was closed once, and is never closed again. -/
  closed {n : Nat} (hn : openings f.context.world.contacts ≤ n)
    (hn' : n < openings (c.init ctx.recorded f.context).world.2.world.contacts)
    (later : List Move) :
    closingsOf n (after ctx.recorded later
      (f.move ctx.recorded (.acquire i))).context.world.contacts = 1

/-- An `init` that fails is an acquisition that fails. -/
lemma Client.init_error {ctx : Context σ η} {c : Client η} {s : ContextState σ η} {cause : Error}
    (ho : (c.init ctx s).outcome = .error cause) :
    c.store = none ∧ (ctx.acquire s).outcome = .error cause ∧
      c.init ctx s =
        { outcome := .error cause
          world := (c, (ctx.acquire s).world)
          events := (ctx.acquire s).events ++ [initFailed cause] } := by
  obtain ⟨store⟩ := c
  cases store with
  | some store => cases ho
  | none =>
    refine ⟨rfl, ?_⟩
    simp only [init] at ho ⊢
    generalize ctx.acquire s = a at ho ⊢
    obtain ⟨o, s', es⟩ := a
    cases o with
    | ok | crash => cases ho
    | error cause' =>
      obtain rfl : cause' = cause := by simpa using ho
      exact ⟨rfl, rfl⟩

namespace Fleet

variable {ctx : Context σ η} {f : Fleet (Ledger σ) (Numbered η)} {i : Nat}

lemma acquire_of_error {ctx : Context σ η} {f : Fleet σ η} {cause : Error}
    (ho : (ctx.acquire f.context).outcome = .error cause) (i : Nat)
    (hi : f.clients[i]? = some (.resting ⟨none⟩)) :
    f.acquire ctx i = { f with context := (ctx.acquire f.context).world } := by
  simp only [acquire, hi]
  generalize ctx.acquire f.context = a at ho ⊢
  obtain ⟨o, s, es⟩ := a
  cases ho
  rfl

/-- In a consistent fleet, a store that was closed once is never closed again. -/
lemma Consistent.closingsOf_after
    (h : f.Consistent (fun l => Orderly l.contacts) Ledger.IsOpen) {n : Nat}
    (hn : closingsOf n f.context.world.contacts = 1) (moves : List Move) :
    closingsOf n (Fleet.after ctx.recorded moves f).context.world.contacts = 1 := by
  have hclosed : f.Consistent (fun l => Orderly l.contacts ∧ closingsOf n l.contacts = 1)
      Ledger.IsOpen :=
    ⟨h.sound, ⟨⟨h.tended.good, hn⟩, h.tended.live⟩, h.users_eq, h.store_eq⟩
  exact (hclosed.after (ctx.backend.upholds_closed n) moves).tended.good.2

/-- In a consistent fleet, an `init` that fails leaves no trace but in the ledger. -/
lemma initFailed (h : f.Consistent (fun l => Orderly l.contacts) Ledger.IsOpen)
    {c : Client (Numbered η)} {cause : Error} (hi : f.clients[i]? = some (.resting c))
    (ho : (c.init ctx.recorded f.context).outcome = .error cause) :
    f.InitFailed ctx i c cause := by
  obtain ⟨hc, ha, he⟩ := Client.init_error ho
  have hshared : (ctx.recorded.acquire f.context).world.shared = f.context.shared := by
    cases hp : f.context.shared.poisoned with
    | true =>
      rw [Context.acquire_of_poisoned _ hp]
      rfl
    | false => exact (Context.acquire_error hp ha).1
  have hcall : (f.call ctx.recorded (.init i)).2 =
      { f with context := (ctx.recorded.acquire f.context).world } := by
    rw [call_init ctx.recorded hi, he]
    exact put_self (f := { f with context := _ }) hi
  obtain ⟨store⟩ := c
  obtain rfl : store = none := hc
  have hmove : f.move ctx.recorded (.acquire i) =
      { f with context := (ctx.recorded.acquire f.context).world } :=
    acquire_of_error ha i hi
  refine ⟨⟨rfl, by rw [he]⟩, ?_, ?_, ?_, fun {R} hR hw calls => ?_, fun hp => ?_,
    fun {n} hn hn' later => ?_⟩
  · rw [he]
    exact hshared
  · rw [he]
    exact hcall
  · rw [he]
    exact hmove
  · rw [he] at hw
    rw [hcall]
    have hsame : (plain { f with context := (ctx.recorded.acquire f.context).world }).Alike R
        f.plain :=
      .of_eq rfl (congrArg SharedConnection.plain hshared) hw
    exact transcript_alike hR hsame calls
  · obtain ⟨-, shown, hf, hs⟩ := Context.acquire_error hp ha
    rw [he]
    refine ⟨shown, hf, ?_⟩
    rw [publishedUsers_append, hs]
    exact List.append_nil _
  · -- behind a poisoned lock nothing is opened, so there is nothing to close
    rw [he] at hn'
    cases hp : f.context.shared.poisoned with
    | true =>
      rw [Context.acquire_of_poisoned _ hp] at hn'
      exact absurd hn' (Nat.not_lt.mpr hn)
    | false =>
      obtain ⟨-, shown, hf, -⟩ := Context.acquire_error hp ha
      refine (h.move ctx.backend.upholds_orderly (.acquire i)).closingsOf_after ?_ later
      rw [hmove]
      exact hf.closingsOf_eq_one h.tended.good hn hn'

/-! ### Failed closes -/

/-- What the release of a client comes to whose close fails. -/
structure CloseFailed (ctx : Context σ η) (f : Fleet (Ledger σ) (Numbered η)) (i : Nat)
    (dropped : Bool) (cause : Error) : Prop where
  /-- What is shared is as new. The store that was held was closed, and is never closed again. -/
  context : ∃ store w, f.context.shared.store = some store ∧
    (f.move ctx.recorded (.release i)).context =
      .new ⟨w, f.context.world.contacts ++ [.call store.number .close false]⟩ ∧
    ∀ later, closingsOf store.number (after ctx.recorded later
      (f.move ctx.recorded (.release i))).context.world.contacts = 1
  /-- The client is gone, or rests without a store. -/
  client : (f.move ctx.recorded (.release i)).clients[i]? = some (.left dropped)
  /-- A `cleanup` tells of the error, a `drop` does not; both end in this state. -/
  cleanup (store : Numbered η) :
    (Client.cleanup ctx.recorded ⟨some store⟩ f.context).outcome = .error cause ∧
    (Client.cleanup ctx.recorded ⟨some store⟩ f.context).world =
      ({}, (f.move ctx.recorded (.release i)).context)
  drop (store : Numbered η) :
    (Client.drop ctx.recorded ⟨some store⟩ f.context).outcome = .ok () ∧
    (Client.drop ctx.recorded ⟨some store⟩ f.context).world =
      (f.move ctx.recorded (.release i)).context
  /-- A further `cleanup` of the client succeeds and does nothing. -/
  again (s : ContextState (Ledger σ) (Numbered η)) :
    ({} : Client (Numbered η)).cleanup ctx.recorded s = .done () ({}, s)
  /-- No client makes an attempt on the backend until one asks for a store again. -/
  quiet {later : List Move} (hl : ∀ m ∈ later, ∀ j, m ≠ .acquire j) :
    (after ctx.recorded later (f.move ctx.recorded (.release i))).context =
      (f.move ctx.recorded (.release i)).context
  /-- The first that asks for a store opens one; it is not one that was there before. -/
  afresh :
    (∃ succeeded more,
      (({} : Client (Numbered η)).init ctx.recorded
          (f.move ctx.recorded (.release i)).context).world.2.world.contacts =
        (f.move ctx.recorded (.release i)).context.world.contacts ++
          .connect succeeded :: more) ∧
    ∀ store, (({} : Client (Numbered η)).init ctx.recorded
        (f.move ctx.recorded (.release i)).context).world.1.store = some store →
      store.number = openings (f.move ctx.recorded (.release i)).context.world.contacts

/-- Where no client has a share, only an acquisition has to do with the context. -/
lemma Consistent.context_move {ctx : Context σ η} {f : Fleet σ η} {Good : σ → Prop}
    {Live : σ → η → Prop} (h : f.Consistent Good Live) (hu : f.context.shared.users = 0)
    {m : Move} (hm : ∀ j, m ≠ .acquire j) : (f.move ctx m).context = f.context := by
  have hidle {p : Phase η} (hp : p ∈ f.clients) : p.holds = false := by
    have := List.countP_eq_zero.mp (h.users_eq.symm.trans hu) p hp
    simpa using this
  cases m with
  | create => rfl
  | acquire j => exact absurd rfl (hm j)
  | keep j =>
    simp only [Fleet.move, Fleet.keep]
    split <;> rfl
  | letGo j dropped =>
    simp only [Fleet.move, Fleet.letGo]
    split <;> rfl
  | release j =>
    simp only [Fleet.move, Fleet.release]
    split
    · rename_i dropped hj
      have := hidle (List.mem_of_getElem? hj)
      simp [Phase.holds] at this
    · rfl
  | operate j request =>
    simp only [Fleet.move, Fleet.operate]
    split
    · rename_i client hj
      have hc := hidle (List.mem_of_getElem? hj)
      rcases request.world_run ctx.backend client f.context.world with hw | ⟨store, _, hs, -⟩
      · rw [hw]
      · simp [Phase.holds, Client.isInitialized, hs] at hc
    · rfl

/-- As long as no client asks for a store, a context that has no users stays as it is. -/
lemma Consistent.context_after {ctx : Context σ η} {Good : σ → Prop} {Live : σ → η → Prop}
    (hb : ctx.backend.Upholds Good Live) (later : List Move) {f : Fleet σ η}
    (h : f.Consistent Good Live) (hu : f.context.shared.users = 0)
    (hl : ∀ m ∈ later, ∀ j, m ≠ .acquire j) : (Fleet.after ctx later f).context = f.context := by
  induction later generalizing f with
  | nil => rfl
  | cons m later ih =>
    obtain ⟨hm, hl⟩ := List.forall_mem_cons.mp hl
    have hc : (f.move ctx m).context = f.context := h.context_move hu hm
    rw [after_cons, ih (h.move hb m) (by rw [hc]; exact hu) hl, hc]

/-- In a consistent fleet, a client whose close fails leaves a context that is as new. -/
lemma closeFailed
    (h : f.Consistent (fun l => Orderly l.contacts) Ledger.IsOpen) {dropped : Bool}
    {cause : Error} (hi : f.clients[i]? = some (.leaving dropped))
    (hx : ctx.ClosesBadly f.context cause) : f.CloseFailed ctx i dropped cause := by
  have hp : f.context.shared.poisoned = false :=
    h.sound.poisoned_of_users (by rw [hx.last]; exact Nat.one_ne_zero)
  have ho := hx.outcome_release hp
  obtain ⟨-, store, w, hs, hw⟩ := Context.release_error hp ho
  have hmove : f.move ctx.recorded (.release i) =
      { f with context := (ctx.recorded.release f.context).world }.put i (.left dropped) :=
    release_of_leaving ctx.recorded hi
  have hcontext : (f.move ctx.recorded (.release i)).context =
      .new ⟨w, f.context.world.contacts ++ [.call store.number .close false]⟩ := by
    rw [hmove]
    exact hw
  have hclosed (later : List Move) : closingsOf store.number (Fleet.after ctx.recorded later
      (f.move ctx.recorded (.release i))).context.world.contacts = 1 := by
    refine (h.move ctx.backend.upholds_orderly (.release i)).closingsOf_after ?_ later
    rw [hcontext]
    simp [ContextState.new, (h.tended.live hs).2]
  refine ⟨⟨store, w, hs, hcontext, hclosed⟩, ?_, fun store' => ?_, fun store' => ?_,
    fun _ => rfl, fun {later} hl => ?_, ?_⟩
  · rw [hmove]
    exact getElem?_put (lt_length hi)
  · rw [hmove]
    exact ⟨ho, rfl⟩
  · rw [hmove]
    simp only [Client.drop, Client.cleanup, Attempt.mapWorld]
    generalize ctx.recorded.release f.context = a at ho ⊢
    obtain ⟨o, s, es⟩ := a
    cases ho
    exact ⟨rfl, rfl⟩
  · -- the last share is gone, so only an acquisition could change the context
    refine (h.move ctx.backend.upholds_orderly (.release i)).context_after
      ctx.backend.upholds_orderly later ?_ hl
    rw [hcontext]
    rfl
  · generalize f.move ctx.recorded (.release i) = g at hcontext ⊢
    have hp : g.context.shared.poisoned = false := by rw [hcontext]; rfl
    have hn : g.context.shared.store = none := by rw [hcontext]; rfl
    obtain ⟨hconnect, hnumber⟩ := ctx.acquire_connects hp hn
    simp only [Client.init]
    generalize ctx.recorded.acquire g.context = a at hconnect hnumber ⊢
    obtain ⟨o, s, es⟩ := a
    cases o with
    | ok store =>
      refine ⟨hconnect, fun store' hs => ?_⟩
      obtain rfl : store = store' := by simpa using hs
      exact hnumber store rfl
    | error cause | crash => exact ⟨hconnect, by simp⟩

end Fleet

/-- In every reachable fleet, with any failures of the backend: an `init` that fails changes
nothing but the ledger and publishes no count; the store that it opened, if any, is closed once,
and its error is not that of the close. A release whose close fails leaves a context that is as
new. -/
theorem failures_leave_no_trace (ctx : Context σ η) (w : σ) (moves : List Move) :
    let f := Fleet.after ctx.recorded moves (.newRecorded w)
    f.plain = Fleet.after ctx moves (.new w) ∧
    (∀ i c cause, f.clients[i]? = some (.resting c) →
      (c.init ctx.recorded f.context).outcome = .error cause → f.InitFailed ctx i c cause) ∧
    (∀ i dropped cause, f.clients[i]? = some (.leaving dropped) →
      ctx.ClosesBadly f.context cause → f.CloseFailed ctx i dropped cause) := by
  intro f
  have h : f.Consistent (fun l => Orderly l.contacts) Ledger.IsOpen :=
    (Fleet.Consistent.new .nil).after ctx.backend.upholds_orderly moves
  exact ⟨Fleet.plain_after ctx moves _,
    fun _ _ _ hi ho => Fleet.initFailed h hi ho,
    fun _ _ _ hi hx => Fleet.closeFailed h hi hx⟩

/-- A store that fails its first check and closes badly, and one that closes badly behind its
user. -/
theorem failures_leave_no_trace_in_outage :
    let ctx : Context (List Bool) Unit := { settings := {}, backend := .scripted }
    let f := Fleet.after ctx.recorded [.create] (.newRecorded [true, false, false])
    let g := Fleet.after ctx.recorded [.create, .acquire 0, .keep 0, .letGo 0 false]
      (.newRecorded [true, true, false])
    f.InitFailed ctx 0 {} .notInitialized ∧ g.CloseFailed ctx 0 false .notInitialized := by
  intro ctx f g
  have hf := failures_leave_no_trace ctx [true, false, false] [.create]
  have hg := failures_leave_no_trace ctx [true, true, false]
    [.create, .acquire 0, .keep 0, .letGo 0 false]
  exact ⟨hf.2.1 0 {} .notInitialized rfl rfl, hg.2.2 0 false .notInitialized rfl
    ⟨rfl, ⟨0, ()⟩, [], [], rfl, rfl⟩⟩

end KeyedGraph
