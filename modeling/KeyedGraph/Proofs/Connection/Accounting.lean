import KeyedGraph.Proofs.Connection.Ledger
import KeyedGraph.Proofs.Store.Handles

/-!
# Accounting for stores

A context opens a store for the first of its users and closes it behind the last. Over any
sequence of acquisitions and releases, with any failures of the backend, the ledger balances:
each store that was opened is closed exactly once, except for the one that is held, which is not
closed. What a single turn adds to the ledger is listed by `Entry`.
-/

namespace KeyedGraph

variable {σ η : Type}

/-! ### Turns -/

/-- A call on a context. -/
inductive Turn
  | acquire
  | release
deriving DecidableEq

namespace Context

/-- The state behind a turn. -/
def turn (ctx : Context σ η) (s : ContextState σ η) : Turn → ContextState σ η
  | .acquire => (ctx.acquire s).world
  | .release => (ctx.release s).world

/-- The state behind a sequence of turns. -/
def after (ctx : Context σ η) (turns : List Turn) (s : ContextState σ η) : ContextState σ η :=
  turns.foldl ctx.turn s

@[simp] lemma after_nil (ctx : Context σ η) (s : ContextState σ η) : ctx.after [] s = s := rfl

@[simp] lemma after_cons (ctx : Context σ η) (t : Turn) (turns : List Turn)
    (s : ContextState σ η) : ctx.after (t :: turns) s = ctx.after turns (ctx.turn s t) := rfl

lemma after_append (ctx : Context σ η) (turns turns' : List Turn) (s : ContextState σ η) :
    ctx.after (turns ++ turns') s = ctx.after turns' (ctx.after turns s) :=
  List.foldl_append

/-- What each turn preserves is true behind every sequence of turns. -/
lemma after_induction {ctx : Context σ η} {P : ContextState σ η → Prop}
    (step : ∀ s t, P s → P (ctx.turn s t)) (turns : List Turn) {s : ContextState σ η} (h : P s) :
    P (ctx.after turns s) := by
  induction turns generalizing s with
  | nil => exact h
  | cons t turns ih => exact ih (step s t h)

lemma plain_turn (ctx : Context σ η) (s : ContextState (Ledger σ) (Numbered η)) (t : Turn) :
    (ctx.recorded.turn s t).plain = ctx.turn s.plain t := by
  cases t with
  | acquire => exact congrArg Attempt.world (plain_acquire ctx s)
  | release => exact congrArg Attempt.world (plain_release ctx s)

lemma plain_after (ctx : Context σ η) (turns : List Turn)
    (s : ContextState (Ledger σ) (Numbered η)) :
    (ctx.recorded.after turns s).plain = ctx.after turns s.plain := by
  induction turns generalizing s with
  | nil => rfl
  | cons t turns ih => rw [after_cons, after_cons, ih, plain_turn]

end Context

/-! ### What a turn does -/

/-- What a turn adds to the ledger and what is shared behind it. A store is asked for only by an
acquisition that finds none; it is closed right after it fails its first check, or by the release
of the only user. -/
inductive Entry (c : SharedConnection (Numbered η)) (contacts : List Contact) :
    Turn → List Contact → SharedConnection (Numbered η) → Prop
  | joined (store : Numbered η) (hs : c.store = some store) :
      Entry c contacts .acquire [] { c with users := c.users + 1 }
  | refused (hs : c.store = none) : Entry c contacts .acquire [.connect false] c
  | opened (store : Numbered η) (hs : c.store = none) (hn : store.number = openings contacts) :
      Entry c contacts .acquire [.connect true, .call store.number .verifyConnectivity true]
        { c with users := 1, store := some store }
  | abandoned (n : Nat) (closedWell : Bool) (hs : c.store = none) (hn : n = openings contacts) :
      Entry c contacts .acquire
        [.connect true, .call n .verifyConnectivity false, .call n .close closedWell] c
  | surplus (hu : c.users = 0) : Entry c contacts .release [] c
  | left (hu : 1 < c.users) : Entry c contacts .release [] { c with users := c.users - 1 }
  | closed (store : Numbered η) (closedWell : Bool) (hu : c.users = 1)
      (hs : c.store = some store) :
      Entry c contacts .release [.call store.number .close closedWell] {}

/-- A backend whose stores are opened, checked and closed well or badly, but never with a
crash. -/
structure Backend.Steady (b : Backend σ η) : Prop where
  connect (settings : Settings) (w : σ) : (b.connect settings w).outcome ≠ .crash
  verify (store : η) (w : σ) : (b.call store .verifyConnectivity w).outcome ≠ .crash
  close (store : η) (w : σ) : (b.call store .close w).outcome ≠ .crash

lemma Backend.Steady.recorded {b : Backend σ η} (h : b.Steady) : b.recorded.Steady where
  connect settings l := by
    have := h.connect settings l.inner
    cases ho : (b.connect settings l.inner).outcome <;> simp_all [Outcome.map]
  verify store l := h.verify store.handle l.inner
  close store l := h.close store.handle l.inner

/-- The contacts that were made account for what is shared. -/
structure SharedConnection.Balanced (c : SharedConnection (Numbered η))
    (contacts : List Contact) : Prop where
  sound : c.Sound
  unpoisoned : c.poisoned = false
  held_lt {store : Numbered η} (hs : c.store = some store) : store.number < openings contacts
  closingsOf_eq (n : Nat) :
    closingsOf n contacts =
      if n < openings contacts ∧ c.store.map Numbered.number ≠ some n then 1 else 0
  openings_eq : openings contacts = closings contacts + if c.isConnected then 1 else 0

namespace Context

variable {ctx : Context σ η} {s : ContextState (Ledger σ) (Numbered η)}

lemma entry_acquire (hctx : ctx.backend.Steady) (hp : s.shared.poisoned = false) :
    ∃ added, (ctx.recorded.acquire s).world.world.contacts = s.world.contacts ++ added ∧
      Entry s.shared s.world.contacts .acquire added (ctx.recorded.acquire s).world.shared := by
  have hb := hctx.recorded
  have hc := acquire_cases ctx.recorded s
  generalize ctx.recorded.acquire s = a at hc ⊢
  cases hc with
  | locked hp' => simp [hp] at hp'
  | joined store hp hs => exact ⟨[], by simp, .joined store hs⟩
  | refused cause l es hp hs hc =>
    exact ⟨[.connect false], (Backend.contacts_connect hc).1, .refused hs⟩
  | connectCrashed l es hp hs hc =>
    exact absurd (congrArg Attempt.outcome hc) (hb.connect ctx.settings s.world)
  | opened store l l' es es' hp hs hc hv =>
    obtain ⟨h, hn⟩ := Backend.contacts_connect hc
    have h' := Backend.contacts_call hv
    exact ⟨_, by rw [h', h, List.append_assoc]; rfl, .opened store hs (hn store rfl)⟩
  | probeCrashed store l l' es es' hp hs hc hv =>
    exact absurd (congrArg Attempt.outcome hv) (hb.verify store l)
  | abandoned store cause closing l l' l'' es es' es'' hp hs hc hv hx =>
    obtain ⟨h, hn⟩ := Backend.contacts_connect hc
    have h' := Backend.contacts_call hv
    have h'' := Backend.contacts_call hx
    refine ⟨_, ?_, .abandoned store.number closing.isOk hs (hn store rfl)⟩
    rw [h'', h', h, List.append_assoc, List.append_assoc]
    rfl
  | abandonCrashed store cause l l' l'' es es' es'' hp hs hc hv hx =>
    exact absurd (congrArg Attempt.outcome hx) (hb.close store l')

lemma entry_release (hctx : ctx.backend.Steady) (hs : s.shared.Sound)
    (hp : s.shared.poisoned = false) :
    ∃ added, (ctx.recorded.release s).world.world.contacts = s.world.contacts ++ added ∧
      Entry s.shared s.world.contacts .release added (ctx.recorded.release s).world.shared := by
  have hb := hctx.recorded
  have hc := release_cases ctx.recorded s
  generalize ctx.recorded.release s = a at hc ⊢
  cases hc with
  | locked hp' => simp [hp] at hp'
  | surplus _ hu => exact ⟨[], by simp, .surplus hu⟩
  | left _ hu hl =>
    obtain ⟨store, hs⟩ := hs.exists_store hu
    have h1 : s.shared.users ≠ 1 := hl.resolve_right (by simp [hs])
    exact ⟨[], by simp, .left (by omega)⟩
  | closed store l es _ hu hs hx =>
    exact ⟨_, Backend.contacts_call hx, .closed store true hu hs⟩
  | closeFailed store cause l es _ hu hs hx =>
    exact ⟨_, Backend.contacts_call hx, .closed store false hu hs⟩
  | closeCrashed store l es _ hu hs hx =>
    exact absurd (congrArg Attempt.outcome hx) (hb.close store s.world)

/-- Every turn makes one of the entries. -/
lemma entry_turn (hctx : ctx.backend.Steady) (hs : s.shared.Sound)
    (hp : s.shared.poisoned = false) (t : Turn) :
    ∃ added, (ctx.recorded.turn s t).world.contacts = s.world.contacts ++ added ∧
      Entry s.shared s.world.contacts t added (ctx.recorded.turn s t).shared := by
  cases t with
  | acquire => exact entry_acquire hctx hp
  | release => exact entry_release hctx hs hp

lemma sound_turn (h : s.shared.Sound) (t : Turn) : (ctx.recorded.turn s t).shared.Sound := by
  cases t with
  | acquire => exact sound_acquire _ h
  | release => exact sound_release _ h

end Context

/-! ### The balance -/

namespace SharedConnection.Balanced

variable {c c' : SharedConnection (Numbered η)} {contacts added : List Contact} {t : Turn}

lemma new : ({} : SharedConnection (Numbered η)).Balanced [] where
  sound := .new
  unpoisoned := rfl
  held_lt hs := by simp at hs
  closingsOf_eq n := by simp [closingsOf, openings]
  openings_eq := rfl

/-- A turn that adds nothing and leaves the store alone keeps the balance. -/
lemma of_store_eq (h : c.Balanced contacts) (hs' : c'.Sound) (hp : c'.poisoned = c.poisoned)
    (hs : c'.store = c.store) : c'.Balanced (contacts ++ []) := by
  rw [List.append_nil]
  refine ⟨hs', hp.trans h.unpoisoned, fun h' => h.held_lt (hs ▸ h'), ?_, ?_⟩
  · rw [hs]
    exact h.closingsOf_eq
  · have hc : c'.isConnected = c.isConnected := by rw [isConnected, hs, hp, isConnected]
    rw [hc]
    exact h.openings_eq

/-- An entry keeps the balance. -/
lemma of_entry (h : c.Balanced contacts) (hs' : c'.Sound) (he : Entry c contacts t added c') :
    c'.Balanced (contacts ++ added) := by
  have hp := h.unpoisoned
  have ho := h.openings_eq
  have hn := h.closingsOf_eq
  cases he with
  | joined | surplus | left => exact h.of_store_eq hs' rfl rfl
  | refused hs =>
    refine ⟨hs', hp, by simp [hs], fun n => ?_, ?_⟩
    · simp [hn]
    · simp [ho]
  | opened store hs hk =>
    refine ⟨hs', hp, ?_, fun n => ?_, ?_⟩
    · simp [hk]
    · have hn' := hn n
      simp only [closingsOf_append, closingsOf_connect, closingsOf_call, closingsOf_nil,
        openings_append, openings_connect, openings_call, openings_nil, hs, hk,
        Option.map_none, Option.map_some] at hn' ⊢
      grind
    · simp_all [isConnected]
  | abandoned k closedWell hs hk =>
    refine ⟨hs', hp, by simp [hs], fun n => ?_, ?_⟩
    · have hn' := hn n
      simp only [closingsOf_append, closingsOf_connect, closingsOf_call, closingsOf_nil,
        openings_append, openings_connect, openings_call, openings_nil, hs, hk,
        Option.map_none] at hn' ⊢
      grind
    · simp_all [isConnected]
  | closed store closedWell hu hs =>
    refine ⟨hs', rfl, by simp, fun n => ?_, ?_⟩
    · have hlt := h.held_lt hs
      have hn' := hn n
      simp only [closingsOf_append, closingsOf_call, closingsOf_nil, openings_append,
        openings_call, openings_nil, hs, Option.map_none, Option.map_some] at hn' ⊢
      grind
    · simp_all [isConnected]

end SharedConnection.Balanced

/-- The ledger of a context balances behind every sequence of turns. -/
theorem balanced_after {ctx : Context σ η} (hctx : ctx.backend.Steady) (w : σ)
    (turns : List Turn) :
    (ctx.recorded.after turns (.newRecorded w)).shared.Balanced
      (ctx.recorded.after turns (.newRecorded w)).world.contacts := by
  refine Context.after_induction
    (P := fun s : ContextState (Ledger σ) (Numbered η) => s.shared.Balanced s.world.contacts)
    (fun s t h => ?_) turns .new
  obtain ⟨added, hc, he⟩ := Context.entry_turn hctx h.sound h.unpoisoned t
  rw [hc]
  exact h.of_entry (Context.sound_turn h.sound t) he

/-! ### Counters of a store in memory -/

namespace Memory

/-- The counters of a store in memory tell whether a context that works on it holds a store. -/
structure Counted (s : ContextState Memory Nat) : Prop where
  sound : s.shared.Sound
  unpoisoned : s.shared.poisoned = false
  tended : s.Tended ClosesOpened IsOpen
  opened_eq : s.world.opened = s.world.closed + if s.shared.store.isSome then 1 else 0

namespace Counted

variable {settings : Settings} {s : ContextState Memory Nat}

lemma new {m : Memory} (ho : m.opened = 0) (hh : m.closedHandles = []) :
    Counted (.new m) where
  sound := .new
  unpoisoned := rfl
  tended := .of_none (by simp [ContextState.new, ClosesOpened, hh]) rfl
  opened_eq := by simp [ContextState.new, closed, ho, hh]

/-- Closing an open handle counts it. -/
lemma closed_closeHandle {m : Memory} {handle : Nat} (h : m.IsOpen handle) :
    (m.closeHandle handle).closed = m.closed + 1 := by
  rw [closed, closedHandles_closeHandle_of_isOpen h, List.length_cons, closed]

lemma acquire (h : Counted s) : Counted ((context settings).acquire s).world := by
  have hs' := Context.sound_acquire (context settings) h.sound
  have ht : (((context settings).acquire s).world).Tended ClosesOpened IsOpen :=
    h.tended.acquire upholds_isOpen
  have ho := h.opened_eq
  cases hs : s.shared.store with
  | some handle =>
    rw [Context.acquire_of_some _ h.unpoisoned hs] at hs' ht ⊢
    exact ⟨hs', h.unpoisoned, ht, ho⟩
  | none =>
    rw [acquire_of_none h.unpoisoned hs h.tended.good] at hs' ht ⊢
    by_cases hr : s.world.unreachable = true
    · rw [if_pos hr]
      exact h
    · rw [if_neg hr] at hs' ht ⊢
      refine ⟨hs', h.unpoisoned, ht, ?_⟩
      simpa [hs, closed] using ho

lemma release (h : Counted s) : Counted ((context settings).release s).world := by
  have hs' := Context.sound_release (context settings) h.sound
  have ht : (((context settings).release s).world).Tended ClosesOpened IsOpen :=
    h.tended.release upholds_isOpen
  have ho := h.opened_eq
  rcases Nat.lt_trichotomy s.shared.users 1 with hu | hu | hu
  · rw [Context.release_of_zero _ h.unpoisoned (by omega)]
    exact h
  · obtain ⟨handle, hs⟩ := h.sound.exists_store (by omega)
    rw [release_of_one h.unpoisoned hu hs] at hs' ht ⊢
    refine ⟨hs', rfl, ht, ?_⟩
    simpa [hs, closed_closeHandle (h.tended.live hs)] using ho
  · rw [Context.release_of_two_le _ h.unpoisoned hu] at hs' ht ⊢
    exact ⟨hs', h.unpoisoned, ht, ho⟩

lemma turn (h : Counted s) (t : Turn) : Counted ((context settings).turn s t) := by
  cases t with
  | acquire => exact h.acquire
  | release => exact h.release

end Counted

/-- Further users share the handle of the first. -/
lemma after_acquires (settings : Settings) (n users handle : Nat) (m : Memory) :
    (context settings).after (.replicate n .acquire)
      ⟨{ users := users, store := some handle }, m⟩ =
      ⟨{ users := users + n, store := some handle }, m⟩ := by
  induction n generalizing users with
  | zero => rfl
  | succ n ih =>
    rw [List.replicate_succ, Context.after_cons]
    change (context settings).after _ ⟨{ users := users + 1, store := some handle }, m⟩ = _
    rw [ih, Nat.add_assoc, Nat.add_comm 1]

/-- As many releases as there are users close the handle. -/
lemma after_releases (settings : Settings) (n handle : Nat) (m : Memory) :
    (context settings).after (.replicate (n + 1) .release)
        ⟨{ users := n + 1, store := some handle }, m⟩ =
      ⟨{}, m.closeHandle handle⟩ := by
  induction n with
  | zero => exact congrArg Attempt.world (release_of_one rfl rfl rfl)
  | succ n ih =>
    rw [List.replicate_succ, Context.after_cons]
    exact ih

/-- Some users and as many releases open one handle, the next one, and close it. -/
lemma after_acquires_releases (settings : Settings) {m : Memory} (hm : m.ClosesOpened)
    (hr : m.unreachable = false) (n : Nat) :
    (context settings).after
      (.replicate (n + 1) .acquire ++ .replicate (n + 1) .release) (.new m) =
      .new ({ m with opened := m.opened + 1 }.closeHandle m.opened) := by
  have hfirst : (context settings).turn (.new m) .acquire =
      ⟨{ users := 1, store := some m.opened }, { m with opened := m.opened + 1 }⟩ := by
    change ((context settings).acquire (.new m)).world = _
    rw [acquire_of_none rfl rfl hm, if_neg (by simp [ContextState.new, hr])]
    rfl
  have hacquired : (context settings).after (.replicate (n + 1) .acquire) (.new m) =
      ⟨{ users := n + 1, store := some m.opened }, { m with opened := m.opened + 1 }⟩ := by
    rw [List.replicate_succ, Context.after_cons, hfirst, after_acquires, Nat.add_comm 1 n]
  rw [Context.after_append, hacquired, after_releases]
  rfl

end Memory

/-! ### Scripted backends -/

/-- What a call answers that finds nothing. -/
def StoreCall.emptyReply : (c : StoreCall) → c.Reply
  | .verifyConnectivity => ()
  | .readNode _ _ => none
  | .scanNodes _ _ _ => []
  | .replaceNode _ _ _ => (0 : Nat)
  | .createNode _ _ _ => ()
  | .deleteNodes _ _ => (0 : Nat)
  | .close => ()

/-- Succeeds or fails as the script says next; behind its end, every attempt succeeds. -/
def followScript {α : Type} (value : α) : List Bool → Attempt (List Bool) α
  | [] => .done value []
  | true :: script => .done value script
  | false :: script => .failed .notInitialized script

/-- The backend whose attempts go as a script says. -/
def Backend.scripted : Backend (List Bool) Unit :=
  { connect := fun _ => followScript ()
    call := fun _ c => followScript c.emptyReply }

lemma followScript_ne_crash {α : Type} (value : α) (script : List Bool) :
    (followScript value script).outcome ≠ .crash := by
  unfold followScript
  split <;> simp [Attempt.done, Attempt.failed]

lemma Backend.steady_scripted : Backend.scripted.Steady where
  connect _ := followScript_ne_crash _
  verify _ := followScript_ne_crash _
  close _ := followScript_ne_crash _

/-! ### The account of a context -/

/-- Over every sequence of turns, with any failures, a context holds a store exactly while it has
users, every turn makes an `Entry`, each store that was opened is closed once unless it is held,
and a surplus release changes nothing. -/
theorem stores_accounted_for (ctx : Context σ η) (hctx : ctx.backend.Steady) (w : σ)
    (turns : List Turn) :
    let s := ctx.recorded.after turns (.newRecorded w)
    s.plain = ctx.after turns (.new w) ∧
    (s.shared.store.isSome ↔ 0 < s.shared.users) ∧
    (∀ t, ∃ added, (ctx.recorded.turn s t).world.contacts = s.world.contacts ++ added ∧
      Entry s.shared s.world.contacts t added (ctx.recorded.turn s t).shared) ∧
    (∀ n < openings s.world.contacts, closingsOf n s.world.contacts =
      if s.shared.store.map Numbered.number = some n then 0 else 1) ∧
    openings s.world.contacts =
      closings s.world.contacts + (if s.shared.isConnected then 1 else 0) ∧
    (s.shared.users = 0 →
      ctx.recorded.release s = { outcome := .ok (), world := s, events := [surplusRelease] }) ∧
    (∀ (settings : Settings) (nodes : Nodes) (uniqueKeys unreachable : Bool),
      let r := (Memory.context settings).after turns (.new { nodes, uniqueKeys, unreachable })
      r.world.opened = r.world.closed + if r.shared.isConnected then 1 else 0) ∧
    (∀ (settings : Settings) (nodes : Nodes) (uniqueKeys : Bool) (n : Nat),
      let r := (Memory.context settings).after
        (.replicate (n + 1) .acquire ++ .replicate (n + 1) .release) (.new { nodes, uniqueKeys })
      r.world.opened = 1 ∧ r.world.closed = 1) := by
  intro s
  have hs : s.shared.Balanced s.world.contacts := balanced_after hctx w turns
  refine ⟨Context.plain_after ctx turns _, hs.sound.store_isSome_iff,
    Context.entry_turn hctx hs.sound hs.unpoisoned, fun n hn => ?_, hs.openings_eq,
    Context.release_of_zero _ hs.unpoisoned, fun settings nodes uniqueKeys unreachable => ?_,
    fun settings nodes uniqueKeys n => ?_⟩
  · rw [hs.closingsOf_eq]
    by_cases hk : s.shared.store.map Numbered.number = some n
    · rw [if_neg (fun h => h.2 hk), if_pos hk]
    · rw [if_pos ⟨hn, hk⟩, if_neg hk]
  · intro r
    have hm : Memory.Counted r := Context.after_induction (fun _ t h => h.turn t) turns
      (Memory.Counted.new (m := { nodes, uniqueKeys, unreachable }) rfl rfl)
    rw [hm.opened_eq, SharedConnection.isConnected, hm.unpoisoned]
    rfl
  · rw [Memory.after_acquires_releases settings (fun _ h => by simp at h) rfl]
    exact ⟨rfl, rfl⟩

/-- An outage: a refused connect, a store that fails its check and closes badly, and one that
closes badly behind its user. -/
def outage : List Bool :=
  [false, true, false, false, true, true, false]

/-- In the outage, three acquisitions, a release, a surplus one and a further acquisition open
three stores and close two of them. -/
theorem stores_accounted_for_in_outage :
    let ctx : Context (List Bool) Unit := { settings := {}, backend := .scripted }
    let s := ctx.recorded.after [.acquire, .acquire, .acquire, .release, .release, .acquire]
      (.newRecorded outage)
    ctx.backend.Steady ∧ openings s.world.contacts = 3 ∧ closings s.world.contacts = 2 ∧
      openings s.world.contacts =
        closings s.world.contacts + (if s.shared.isConnected then 1 else 0) ∧
      ∀ n < openings s.world.contacts, closingsOf n s.world.contacts =
        if s.shared.store.map Numbered.number = some n then 0 else 1 := by
  intro ctx
  have h := stores_accounted_for ctx Backend.steady_scripted outage
    [.acquire, .acquire, .acquire, .release, .release, .acquire]
  -- what holds of every run is taken over before this one is evaluated
  generalize hs : Context.after _ _ (.newRecorded outage) = s at h ⊢
  obtain ⟨-, -, -, hclosed, hopen, -⟩ := h
  refine ⟨Backend.steady_scripted, ?_, ?_, hopen, hclosed⟩
  · rw [← hs]
    decide +kernel
  · rw [← hs]
    decide +kernel

end KeyedGraph
