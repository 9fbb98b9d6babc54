import KeyedGraph.Client
import KeyedGraph.Proofs.Connection.Ledger

/-!
# Acquisitions and releases that fail

An acquisition fails because no store is opened, or because the store fails its first check and
is closed at once. Either way the count and the store that are shared stay as they are. A release
fails only because the store behind the last user is closed badly; the context is then as new,
and the next acquisition opens another store.
-/

namespace KeyedGraph

variable {σ η : Type}

/-! ### Published counts -/

/-- The count of users that an event publishes. -/
def Event.users? : Event → Option Nat
  | .activeClients n => some n
  | _ => none

/-- The counts of users that were published. -/
def publishedUsers (events : List Event) : List Nat :=
  events.filterMap Event.users?

@[simp] lemma publishedUsers_append (es es' : List Event) :
    publishedUsers (es ++ es') = publishedUsers es ++ publishedUsers es' :=
  List.filterMap_append

/-! ### What a recorded attempt was -/

lemma Backend.plain_connect (b : Backend σ η) (settings : Settings) (l : Ledger σ) :
    (b.recorded.connect settings l).map Numbered.handle Ledger.inner =
      b.connect settings l.inner := by
  rw [recorded_connect]
  generalize b.connect settings l.inner = a
  obtain ⟨o, w, es⟩ := a
  cases o <;> rfl

lemma Backend.connect_of_recorded {b : Backend σ η} {settings : Settings} {l l' : Ledger σ}
    {o : Outcome (Numbered η)} {es : List Event}
    (h : b.recorded.connect settings l = ⟨o, l', es⟩) :
    b.connect settings l.inner = ⟨o.map Numbered.handle, l'.inner, es⟩ := by
  rw [← plain_connect, h]
  rfl

lemma Backend.call_of_recorded {b : Backend σ η} {store : Numbered η} {c : StoreCall}
    {l l' : Ledger σ} {o : Outcome c.Reply} {es : List Event}
    (h : b.recorded.call store c l = ⟨o, l', es⟩) :
    b.call store.handle c l.inner = ⟨o, l'.inner, es⟩ := by
  rw [← plain_call, h]
  rfl

/-! ### Acquisitions -/

/-- How the opening of a store fails: with which error, what the backend showed meanwhile, and
the ledger behind it. A store that fails its first check is closed once, well or badly, and the
error is that of the check. -/
inductive FailedOpening (ctx : Context σ η) (l : Ledger σ) :
    Error → List Event → Ledger σ → Prop
  | refused (cause : Error) (w : σ) (es : List Event)
      (hc : ctx.backend.connect ctx.settings l.inner = ⟨.error cause, w, es⟩) :
      FailedOpening ctx l cause es ⟨w, l.contacts ++ [.connect false]⟩
  | abandoned (store : η) (cause : Error) (closing : Outcome Unit) (w w' w'' : σ)
      (es es' es'' : List Event)
      (hc : ctx.backend.connect ctx.settings l.inner = ⟨.ok store, w, es⟩)
      (hv : ctx.backend.call store .verifyConnectivity w = ⟨.error cause, w', es'⟩)
      (hx : ctx.backend.call store .close w' = ⟨closing, w'', es''⟩) (hk : closing ≠ .crash) :
      FailedOpening ctx l cause (es ++ es' ++ es'')
        ⟨w'', l.contacts ++
          [.connect true, .call (openings l.contacts) .verifyConnectivity false,
            .call (openings l.contacts) .close closing.isOk]⟩

/-- In an orderly ledger, a store whose opening fails is closed once. -/
lemma FailedOpening.closingsOf_eq_one {ctx : Context σ η} {l l' : Ledger σ} {cause : Error}
    {es : List Event} (h : FailedOpening ctx l cause es l') (ho : Orderly l.contacts) {n : Nat}
    (hn : openings l.contacts ≤ n) (hn' : n < openings l'.contacts) :
    closingsOf n l'.contacts = 1 := by
  cases h with
  | refused =>
    simp only [openings_append, openings_connect, openings_nil] at hn'
    simp at hn'
    omega
  | abandoned =>
    simp only [openings_append, openings_connect, openings_call, openings_nil, if_true] at hn'
    obtain rfl : n = openings l.contacts := by omega
    simp [ho.closingsOf_of_le (Nat.le_refl _)]

namespace Context

variable {ctx : Context σ η} {s : ContextState (Ledger σ) (Numbered η)}

/-- An acquisition that fails leaves what is shared as it is and publishes no count. -/
theorem acquire_error (hp : s.shared.poisoned = false) {cause : Error}
    (ho : (ctx.recorded.acquire s).outcome = .error cause) :
    (ctx.recorded.acquire s).world.shared = s.shared ∧
      ∃ shown, FailedOpening ctx s.world cause shown (ctx.recorded.acquire s).world.world ∧
        publishedUsers (ctx.recorded.acquire s).events = publishedUsers shown := by
  have hc := acquire_cases ctx.recorded s
  generalize ctx.recorded.acquire s = a at hc ho ⊢
  cases hc with
  | locked hp' => simp [hp] at hp'
  | joined | opened => cases ho
  | connectCrashed | probeCrashed | abandonCrashed => cases ho
  | refused cause' l es _ hs hc =>
    obtain rfl : cause' = cause := by simpa using ho
    have hl := (Backend.contacts_connect hc).1
    have hc' := Backend.connect_of_recorded hc
    obtain ⟨w, contacts⟩ := l
    obtain rfl : contacts = _ := hl
    exact ⟨rfl, es, .refused cause' w es hc', rfl⟩
  | abandoned store cause' closing l l' l'' es es' es'' _ hs hc hv hx hk =>
    obtain rfl : cause' = cause := by simpa using ho
    obtain ⟨hl, hn⟩ := Backend.contacts_connect hc
    have hl' := Backend.contacts_call hv
    have hl'' := Backend.contacts_call hx
    have hc' := Backend.connect_of_recorded hc
    have hv' := Backend.call_of_recorded hv
    have hx' := Backend.call_of_recorded hx
    have hf :=
      FailedOpening.abandoned store.handle cause' closing _ _ _ es es' es'' hc' hv' hx' hk
    have hend : l'' = ⟨l''.inner, s.world.contacts ++
        [.connect true, .call (openings s.world.contacts) .verifyConnectivity false,
          .call (openings s.world.contacts) .close closing.isOk]⟩ := by
      rw [hl', hl, hn store rfl] at hl''
      cases l''
      simpa [Outcome.isOk, StoreCall.kind] using hl''
    refine ⟨rfl, es ++ es' ++ es'', ?_, ?_⟩
    · change FailedOpening ctx s.world cause' _ l''
      rw [hend]
      exact hf
    · cases closing <;> simp [publishedUsers, Event.users?, closeAfterProbeFailed]

/-- An acquisition that finds no store begins with the opening of one, and gives no other. -/
theorem acquire_connects (ctx : Context σ η) {s : ContextState (Ledger σ) (Numbered η)}
    (hp : s.shared.poisoned = false) (hs : s.shared.store = none) :
    (∃ succeeded more, (ctx.recorded.acquire s).world.world.contacts =
      s.world.contacts ++ .connect succeeded :: more) ∧
    ∀ store, (ctx.recorded.acquire s).outcome = .ok store →
      store.number = openings s.world.contacts := by
  have hc := acquire_cases ctx.recorded s
  generalize ctx.recorded.acquire s = a at hc ⊢
  cases hc with
  | locked hp' => simp [hp] at hp'
  | joined store _ hs' => simp [hs] at hs'
  | refused cause l es _ _ hc =>
    exact ⟨⟨_, [], (Backend.contacts_connect hc).1⟩, by simp⟩
  | connectCrashed l es _ _ hc =>
    exact ⟨⟨_, [], (Backend.contacts_connect hc).1⟩, by simp [crashed]⟩
  | opened store l l' es es' _ _ hc hv =>
    obtain ⟨hl, hn⟩ := Backend.contacts_connect hc
    have hl' := Backend.contacts_call hv
    refine ⟨⟨_, _, by rw [hl', hl, List.append_assoc]; rfl⟩, fun store' ho => ?_⟩
    obtain rfl : store = store' := by simpa using ho
    exact hn store rfl
  | probeCrashed store l l' es es' _ _ hc hv =>
    have hl := (Backend.contacts_connect hc).1
    have hl' := Backend.contacts_call hv
    exact ⟨⟨_, _, by rw [crashed, hl', hl, List.append_assoc]; rfl⟩, by simp [crashed]⟩
  | abandoned store cause closing l l' l'' es es' es'' _ _ hc hv hx =>
    have hl := (Backend.contacts_connect hc).1
    have hl' := Backend.contacts_call hv
    have hl'' := Backend.contacts_call hx
    exact ⟨⟨_, _, by rw [hl'', hl', hl, List.append_assoc, List.append_assoc]; rfl⟩, by simp⟩
  | abandonCrashed store cause l l' l'' es es' es'' _ _ hc hv hx =>
    have hl := (Backend.contacts_connect hc).1
    have hl' := Backend.contacts_call hv
    have hl'' := Backend.contacts_call hx
    exact ⟨⟨_, _, by rw [crashed, hl'', hl', hl, List.append_assoc, List.append_assoc]; rfl⟩,
      by simp [crashed]⟩

/-! ### Releases -/

/-- A release closes the store that is held, and the close fails with this error. -/
structure ClosesBadly (ctx : Context σ η) (s : ContextState (Ledger σ) (Numbered η))
    (cause : Error) : Prop where
  last : s.shared.users = 1
  close : ∃ store w es, s.shared.store = some store ∧
    ctx.backend.call store.handle .close s.world.inner = ⟨.error cause, w, es⟩

/-- A release fails only if the close does. The context is as new then. -/
theorem release_error (hp : s.shared.poisoned = false) {cause : Error}
    (ho : (ctx.recorded.release s).outcome = .error cause) :
    ctx.ClosesBadly s cause ∧
      ∃ store w, s.shared.store = some store ∧
        (ctx.recorded.release s).world =
          .new ⟨w, s.world.contacts ++ [.call store.number .close false]⟩ := by
  have hc := release_cases ctx.recorded s
  generalize ctx.recorded.release s = a at hc ho ⊢
  cases hc with
  | locked hp' => simp [hp] at hp'
  | surplus | left | closed | closeCrashed => cases ho
  | closeFailed store cause' l es _ hu hs hx =>
    obtain rfl : cause' = cause := by simpa using ho
    have hl := Backend.contacts_call hx
    have hx' := Backend.call_of_recorded hx
    obtain ⟨w, contacts⟩ := l
    obtain rfl : contacts = _ := hl
    exact ⟨⟨hu, store, w, es, hs, hx'⟩, store, w, hs, rfl⟩

/-- A close that fails makes the release fail. -/
lemma ClosesBadly.outcome_release {cause : Error} (h : ctx.ClosesBadly s cause)
    (hp : s.shared.poisoned = false) : (ctx.recorded.release s).outcome = .error cause := by
  obtain ⟨hu, store, w, es, hs, hx⟩ := h
  have hc := release_cases ctx.recorded s
  generalize ctx.recorded.release s = a at hc ⊢
  cases hc with
  | locked hp' => simp [hp] at hp'
  | surplus _ hu' => simp [hu] at hu'
  | left _ _ hl => simp [hu, hs] at hl
  | closed store' l es' _ _ hs' hx' | closeCrashed store' l es' _ _ hs' hx' =>
    obtain rfl : store = store' := by simpa [hs] using hs'
    cases hx.symm.trans (Backend.call_of_recorded hx')
  | closeFailed store' cause' l es' _ _ hs' hx' =>
    obtain rfl : store = store' := by simpa [hs] using hs'
    cases hx.symm.trans (Backend.call_of_recorded hx')
    rfl

end Context

end KeyedGraph
