import KeyedGraph.Proofs.Connection.Invariant
import KeyedGraph.Store.Memory

/-!
# Handles of a store in memory

A store in memory numbers its handles, so a handle is open from the connect that gave it until it
is closed: no other call ends it, and no handle is given twice.
-/

namespace KeyedGraph.Memory

/-- Only handles that were given are closed. -/
def ClosesOpened (m : Memory) : Prop :=
  ∀ handle ∈ m.closedHandles, handle < m.opened

/-- A handle that was given and is not closed. -/
def IsOpen (m : Memory) (handle : Nat) : Prop :=
  handle < m.opened ∧ m.isClosed handle = false

lemma isClosed_eq_false_iff {m : Memory} {handle : Nat} :
    m.isClosed handle = false ↔ handle ∉ m.closedHandles := by
  simp [isClosed]

@[simp] lemma opened_closeHandle (m : Memory) (handle : Nat) :
    (m.closeHandle handle).opened = m.opened := by
  rw [closeHandle]
  split <;> rfl

lemma closedHandles_closeHandle_of_isOpen {m : Memory} {handle : Nat} (h : m.IsOpen handle) :
    (m.closeHandle handle).closedHandles = handle :: m.closedHandles := by
  simp [closeHandle, h.2]

/-- Any call but closing, on a handle that may be closed. -/
lemma call_of_ne_close (handle : Nat) (m : Memory) {c : StoreCall} (hc : c ≠ .close) :
    call handle c m =
      if m.isClosed handle then .failed (.operationFailed (callName c.kind) .connectionClosed) m
      else answer c m := by
  cases c with
  | close => exact absurd rfl hc
  | _ => rfl

/-- A call on an open handle is answered. -/
lemma call_of_isOpen {m : Memory} {handle : Nat} (h : m.IsOpen handle) {c : StoreCall}
    (hc : c ≠ .close) : call handle c m = answer c m := by
  rw [call_of_ne_close handle m hc, h.2]
  exact if_neg Bool.false_ne_true

lemma handles_answer (c : StoreCall) (m : Memory) :
    (answer c m).world.opened = m.opened ∧
      (answer c m).world.closedHandles = m.closedHandles := by
  cases c with
  | createNode label key values =>
    simp only [answer, createNode]
    split <;> exact ⟨rfl, rfl⟩
  | _ => exact ⟨rfl, rfl⟩

/-- No call but closing touches a handle. -/
lemma handles_call {c : StoreCall} (hc : c ≠ .close) (handle : Nat) (m : Memory) :
    (call handle c m).world.opened = m.opened ∧
      (call handle c m).world.closedHandles = m.closedHandles := by
  rw [call_of_ne_close handle m hc]
  split
  · exact ⟨rfl, rfl⟩
  · exact handles_answer c m

lemma events_connect (settings : Settings) (m : Memory) : (connect settings m).events = [] := by
  rw [connect]
  split <;> rfl

/-- A store in memory shows nothing. -/
lemma events_call (handle : Nat) (c : StoreCall) (m : Memory) :
    (call handle c m).events = [] := by
  by_cases hc : c = .close
  · subst hc
    rfl
  · rw [call_of_ne_close handle m hc]
    split
    · rfl
    · cases c with
      | createNode label key values =>
        simp only [answer, createNode]
        split <;> rfl
      | _ => rfl

/-- The handle that a connect gives is open behind it. -/
lemma isOpen_next {m : Memory} (hm : m.ClosesOpened) :
    ({ m with opened := m.opened + 1 } : Memory).IsOpen m.opened :=
  ⟨Nat.lt_succ_self _, isClosed_eq_false_iff.mpr fun hh => Nat.lt_irrefl _ (hm _ hh)⟩

theorem upholds_isOpen : backend.Upholds ClosesOpened IsOpen where
  connect settings m hm := by
    simp only [backend, connect]
    split
    · exact hm
    · exact fun handle hh => Nat.lt_succ_of_lt (hm handle hh)
  opened {settings m store} hm ho := by
    simp only [backend, connect] at ho ⊢
    split at ho
    · simp [Attempt.failed] at ho
    · rename_i hr
      obtain rfl : m.opened = store := by simpa [Attempt.done] using ho
      rw [if_neg hr]
      exact isOpen_next hm
  call {handle} c m hm hl := by
    by_cases hc : c = .close
    · subst hc
      intro handle' hh
      change handle' ∈ (m.closeHandle handle).closedHandles at hh
      change handle' < (m.closeHandle handle).opened
      rw [closedHandles_closeHandle_of_isOpen hl, List.mem_cons] at hh
      rw [opened_closeHandle]
      rcases hh with rfl | hh
      · exact hl.1
      · exact hm _ hh
    · obtain ⟨ho, hh⟩ := handles_call hc handle m
      simpa only [ClosesOpened, backend, ho, hh] using hm
  kept {handle c} hc m hm hl := by
    obtain ⟨ho, hh⟩ := handles_call hc handle m
    simpa only [IsOpen, isClosed, backend, ho, hh] using hl

/-! ### A context that works on a store in memory -/

/-- The context of a store in memory. -/
def context (settings : Settings) : Context Memory Nat :=
  { settings, backend }

variable {settings : Settings} {s : ContextState Memory Nat}

/-- The first acquisition opens a handle, unless connections are refused. -/
lemma acquire_of_none (hp : s.shared.poisoned = false) (hs : s.shared.store = none)
    (hm : s.world.ClosesOpened) :
    (context settings).acquire s =
      if s.world.unreachable then .failed (.connection settings.url "connection refused") s
      else
        { outcome := .ok s.world.opened
          world :=
            ⟨{ s.shared with users := 1, store := some s.world.opened },
              { s.world with opened := s.world.opened + 1 }⟩
          events := [connectionCreated settings, .activeClients 1] } := by
  obtain ⟨⟨users, store, poisoned⟩, m⟩ := s
  obtain rfl : store = none := hs
  obtain rfl : poisoned = false := hp
  change m.ClosesOpened at hm
  dsimp only [Context.acquire, Context.openStore, context, backend, connect]
  by_cases hr : m.unreachable = true
  · simp [hr, Attempt.failed]
  · have hv := call_of_isOpen (isOpen_next hm) (c := .verifyConnectivity) (by simp)
    rw [if_neg Bool.false_ne_true, if_neg hr, if_neg hr]
    dsimp only [Attempt.done]
    rw [hv]
    rfl

/-- The release of the only user closes the handle. -/
lemma release_of_one {handle : Nat} (hp : s.shared.poisoned = false) (hu : s.shared.users = 1)
    (hs : s.shared.store = some handle) :
    (context settings).release s =
      { outcome := .ok ()
        world := ⟨{}, s.world.closeHandle handle⟩
        events := [.activeClients 0, connectionClosed settings] } := by
  obtain ⟨⟨users, store, poisoned⟩, m⟩ := s
  obtain rfl : store = some handle := hs
  obtain rfl : poisoned = false := hp
  obtain rfl : users = 1 := hu
  rfl

/-! ### What the life of a connection leaves alone -/

/-- The same nodes, kept in the same way. -/
structure SameData (m m' : Memory) : Prop where
  nodes : m'.nodes = m.nodes
  uniqueKeys : m'.uniqueKeys = m.uniqueKeys
  unreachable : m'.unreachable = m.unreachable

lemma SameData.refl (m : Memory) : m.SameData m :=
  ⟨rfl, rfl, rfl⟩

lemma sameData_closeHandle (handle : Nat) (m : Memory) : m.SameData (m.closeHandle handle) := by
  rw [closeHandle]
  split
  · exact .refl m
  · exact ⟨rfl, rfl, rfl⟩

lemma settings_answer (c : StoreCall) (m : Memory) :
    (answer c m).world.uniqueKeys = m.uniqueKeys ∧
      (answer c m).world.unreachable = m.unreachable := by
  cases c with
  | createNode label key values =>
    simp only [answer, createNode]
    split <;> exact ⟨rfl, rfl⟩
  | _ => exact ⟨rfl, rfl⟩

/-- No call changes how nodes are kept. -/
lemma settings_call (handle : Nat) (c : StoreCall) (m : Memory) :
    (call handle c m).world.uniqueKeys = m.uniqueKeys ∧
      (call handle c m).world.unreachable = m.unreachable := by
  by_cases hc : c = .close
  · subst hc
    have h := sameData_closeHandle handle m
    exact ⟨h.uniqueKeys, h.unreachable⟩
  · rw [call_of_ne_close handle m hc]
    split
    · exact ⟨rfl, rfl⟩
    · exact settings_answer c m

/-- Where connections are not refused, an acquisition succeeds and leaves the data alone. -/
lemma acquire_succeeds (settings : Settings) (hp : s.shared.poisoned = false)
    (hm : s.world.ClosesOpened) (hr : s.world.unreachable = false) :
    (∃ handle, ((context settings).acquire s).outcome = .ok handle) ∧
      ((context settings).acquire s).world.shared.poisoned = false ∧
      s.world.SameData ((context settings).acquire s).world.world := by
  cases hs : s.shared.store with
  | some handle =>
    rw [Context.acquire_of_some _ hp hs]
    exact ⟨⟨handle, rfl⟩, hp, .refl _⟩
  | none =>
    rw [acquire_of_none hp hs hm, if_neg (by simp [hr])]
    exact ⟨⟨_, rfl⟩, hp, ⟨rfl, rfl, rfl⟩⟩

/-- A release succeeds and leaves the data alone. -/
lemma release_succeeds (settings : Settings) (hp : s.shared.poisoned = false) :
    ((context settings).release s).outcome = .ok () ∧
      ((context settings).release s).world.shared.poisoned = false ∧
      s.world.SameData ((context settings).release s).world.world := by
  have hc := Context.release_cases (context settings) s
  generalize (context settings).release s = a at hc ⊢
  cases hc with
  | locked hp' => simp [hp] at hp'
  | surplus | left => exact ⟨rfl, hp, .refl _⟩
  | closed handle m es _ hu hs hx =>
    obtain rfl : s.world.closeHandle handle = m := congrArg Attempt.world hx
    exact ⟨rfl, rfl, sameData_closeHandle handle s.world⟩
  | closeFailed handle cause m es _ hu hs hx => cases congrArg Attempt.outcome hx
  | closeCrashed handle m es _ hu hs hx => cases congrArg Attempt.outcome hx

end KeyedGraph.Memory
