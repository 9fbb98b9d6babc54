import KeyedGraph.Proofs.Connection.Cases

/-!
# What a context upholds

A context holds a store exactly while it has users, and its lock is poisoned only while it has
none. Both survive every acquisition and every release, whatever fails or crashes on the way.
What is more, a condition on handles that only closing can end is true of the store that the
context holds.
-/

namespace KeyedGraph

variable {σ η : Type}

/-- The count, the store and the lock of a context agree. -/
structure SharedConnection.Sound (c : SharedConnection η) : Prop where
  store_isSome_iff : c.store.isSome ↔ 0 < c.users
  users_of_poisoned : c.poisoned = true → c.users = 0

namespace SharedConnection.Sound

variable {c : SharedConnection η}

lemma new : ({} : SharedConnection η).Sound :=
  ⟨by simp, by simp⟩

lemma users_of_none (h : c.Sound) (hs : c.store = none) : c.users = 0 := by
  have := h.store_isSome_iff
  simpa [hs] using this

lemma users_pos (h : c.Sound) {store : η} (hs : c.store = some store) : 0 < c.users :=
  h.store_isSome_iff.mp (by simp [hs])

lemma exists_store (h : c.Sound) (hu : c.users ≠ 0) : ∃ store, c.store = some store :=
  Option.isSome_iff_exists.mp (h.store_isSome_iff.mpr (Nat.pos_of_ne_zero hu))

lemma poisoned_of_users (h : c.Sound) (hu : c.users ≠ 0) : c.poisoned = false := by
  cases hp : c.poisoned with
  | false => rfl
  | true => exact absurd (h.users_of_poisoned hp) hu

/-- Without a store, a context may be poisoned. -/
lemma poison (h : c.Sound) (hs : c.store = none) : { c with poisoned := true }.Sound :=
  ⟨h.store_isSome_iff, fun _ => h.users_of_none hs⟩

end SharedConnection.Sound

/-! ### Counts and stores -/

namespace Context

variable (ctx : Context σ η) {s : ContextState σ η}

/-- A successful acquisition counts one more user and hands out the store that is held then. -/
lemma shared_acquire_of_ok {store : η} (h : s.shared.Sound)
    (ho : (ctx.acquire s).outcome = .ok store) :
    (ctx.acquire s).world.shared =
      { users := s.shared.users + 1, store := some store, poisoned := false } := by
  have hc := acquire_cases ctx s
  generalize ctx.acquire s = a at hc ho ⊢
  cases hc with
  | joined store' hp hs =>
    obtain rfl : store' = store := by simpa using ho
    simp [hp, hs]
  | opened store' w w' es es' hp hs hc hv =>
    obtain rfl : store' = store := by simpa using ho
    simp [hp, h.users_of_none hs]
  | _ => simp [Attempt.failed, crashed] at ho

/-- An acquisition that fails or crashes changes neither the count nor the store. -/
lemma shared_acquire_of_not_ok (ho : ∀ store, (ctx.acquire s).outcome ≠ .ok store) :
    (ctx.acquire s).world.shared.users = s.shared.users ∧
      (ctx.acquire s).world.shared.store = s.shared.store := by
  have hc := acquire_cases ctx s
  generalize ctx.acquire s = a at hc ho ⊢
  cases hc with
  | joined store | opened store => exact absurd rfl (ho store)
  | _ => exact ⟨rfl, rfl⟩

lemma sound_acquire (h : s.shared.Sound) : (ctx.acquire s).world.shared.Sound := by
  have hc := acquire_cases ctx s
  generalize ctx.acquire s = a at hc ⊢
  cases hc with
  | locked | refused | abandoned => exact h
  | joined store hp hs =>
    exact ⟨by simp [hs], by simp [hp]⟩
  | opened store w w' es es' hp => exact ⟨by simp, by simp [hp]⟩
  | connectCrashed w es hp hs => exact h.poison hs
  | probeCrashed store w w' es es' hp hs => exact h.poison hs
  | abandonCrashed store cause w w' w'' es es' es'' hp hs => exact h.poison hs

/-- A release counts one user less, and behind the last one there is no store. -/
lemma shared_release (h : s.shared.Sound) (hu : s.shared.users ≠ 0) :
    (ctx.release s).world.shared.users = s.shared.users - 1 ∧
      (ctx.release s).world.shared.store =
        if s.shared.users = 1 then none else s.shared.store := by
  have hc := release_cases ctx s
  generalize ctx.release s = a at hc ⊢
  cases hc with
  | locked hp => exact absurd (h.users_of_poisoned hp) hu
  | surplus hp hz => exact absurd hz hu
  | left hp _ hl =>
    refine ⟨rfl, ?_⟩
    rcases hl with h1 | hs
    · simp [h1]
    · exact absurd (h.users_of_none hs) hu
  | closed | closeFailed | closeCrashed => simp_all [crashed]

lemma sound_release (h : s.shared.Sound) : (ctx.release s).world.shared.Sound := by
  have hc := release_cases ctx s
  generalize ctx.release s = a at hc ⊢
  cases hc with
  | locked | surplus => exact h
  | left hp hu hl =>
    obtain ⟨store, hs⟩ := h.exists_store hu
    have h1 : s.shared.users ≠ 1 := hl.resolve_right (by simp [hs])
    refine ⟨?_, by simp [hp]⟩
    simp only [hs, Option.isSome_some, true_iff]
    omega
  | closed | closeFailed => exact .new
  | closeCrashed => exact .poison .new rfl

end Context

/-! ### Live handles -/

/-- A condition on worlds, and one on the handles of a world. Both are kept by every call on a
live handle, but for the one that closes the handle; a handle is live when it is opened. -/
structure Backend.Upholds (b : Backend σ η) (Good : σ → Prop) (Live : σ → η → Prop) : Prop where
  connect (settings : Settings) {w : σ} (hw : Good w) : Good (b.connect settings w).world
  opened {settings : Settings} {w : σ} {store : η} (hw : Good w)
    (ho : (b.connect settings w).outcome = .ok store) : Live (b.connect settings w).world store
  call {store : η} (c : StoreCall) {w : σ} (hw : Good w) (hl : Live w store) :
    Good (b.call store c w).world
  kept {store : η} {c : StoreCall} (hc : c ≠ .close) {w : σ} (hw : Good w) (hl : Live w store) :
    Live (b.call store c w).world store

/-- A call on a live handle keeps the world good, and the handle live unless it is closed. -/
lemma Backend.Upholds.step {b : Backend σ η} {Good : σ → Prop} {Live : σ → η → Prop}
    (hb : b.Upholds Good Live) {store : η} {c : StoreCall} {w w' : σ} {o : Outcome c.Reply}
    {es : List Event} (hx : b.call store c w = ⟨o, w', es⟩) (hw : Good w) (hl : Live w store) :
    Good w' ∧ (c ≠ .close → Live w' store) := by
  have hg := hb.call c hw hl
  have hk := fun hne : c ≠ .close => hb.kept hne hw hl
  rw [hx] at hg hk
  exact ⟨hg, hk⟩

/-- The world of a context is good and the store that it holds is live. -/
structure ContextState.Tended (Good : σ → Prop) (Live : σ → η → Prop) (s : ContextState σ η) :
    Prop where
  good : Good s.world
  live {store : η} (hs : s.shared.store = some store) : Live s.world store

namespace ContextState.Tended

variable {ctx : Context σ η} {s : ContextState σ η} {Good : σ → Prop} {Live : σ → η → Prop}

lemma of_none (hw : Good s.world) (hs : s.shared.store = none) : s.Tended Good Live :=
  ⟨hw, fun h => by simp [hs] at h⟩

/-- Opening a store keeps the world good, and the store is live. -/
lemma connect (hb : ctx.backend.Upholds Good Live) (h : s.Tended Good Live) {o : Outcome η}
    {w : σ} {es : List Event} (hc : ctx.backend.connect ctx.settings s.world = ⟨o, w, es⟩) :
    Good w ∧ ∀ store, o = .ok store → Live w store := by
  have hg := hb.connect ctx.settings h.good
  have ho : ∀ store, (ctx.backend.connect ctx.settings s.world).outcome = .ok store →
      Live _ store :=
    fun _ => hb.opened h.good
  rw [hc] at hg ho
  exact ⟨hg, ho⟩

lemma acquire (hb : ctx.backend.Upholds Good Live) (h : s.Tended Good Live) :
    (ctx.acquire s).world.Tended Good Live := by
  have hc := Context.acquire_cases ctx s
  generalize ctx.acquire s = a at hc ⊢
  cases hc with
  | locked => exact h
  | joined => exact ⟨h.good, h.live⟩
  | refused cause w es hp hs hc => exact .of_none (h.connect hb hc).1 hs
  | connectCrashed w es hp hs hc => exact .of_none (h.connect hb hc).1 hs
  | opened store w w' es es' hp hs hc hv =>
    obtain ⟨hw, hl⟩ := h.connect hb hc
    obtain ⟨hw', hl'⟩ := hb.step hv hw (hl store rfl)
    refine ⟨hw', fun {store'} hs' => ?_⟩
    obtain rfl : store = store' := by simpa using hs'
    exact hl' (by simp)
  | probeCrashed store w w' es es' hp hs hc hv =>
    obtain ⟨hw, hl⟩ := h.connect hb hc
    exact .of_none (hb.step hv hw (hl store rfl)).1 hs
  | abandoned store cause closing w w' w'' es es' es'' hp hs hc hv hx =>
    obtain ⟨hw, hl⟩ := h.connect hb hc
    obtain ⟨hw', hl'⟩ := hb.step hv hw (hl store rfl)
    exact .of_none (hb.step hx hw' (hl' (by simp))).1 hs
  | abandonCrashed store cause w w' w'' es es' es'' hp hs hc hv hx =>
    obtain ⟨hw, hl⟩ := h.connect hb hc
    obtain ⟨hw', hl'⟩ := hb.step hv hw (hl store rfl)
    exact .of_none (hb.step hx hw' (hl' (by simp))).1 hs

lemma release (hb : ctx.backend.Upholds Good Live) (h : s.Tended Good Live) :
    (ctx.release s).world.Tended Good Live := by
  have hc := Context.release_cases ctx s
  generalize ctx.release s = a at hc ⊢
  cases hc with
  | locked | surplus => exact h
  | left => exact ⟨h.good, h.live⟩
  | closed store w es hp hu hs hx => exact .of_none (hb.step hx h.good (h.live hs)).1 rfl
  | closeFailed store cause w es hp hu hs hx =>
    exact .of_none (hb.step hx h.good (h.live hs)).1 rfl
  | closeCrashed store w es hp hu hs hx => exact .of_none (hb.step hx h.good (h.live hs)).1 rfl

/-- A call on the store that is held, other than closing it, goes on tending it. -/
lemma call (hb : ctx.backend.Upholds Good Live) (h : s.Tended Good Live) {store : η}
    (hs : s.shared.store = some store) {c : StoreCall} (hc : c ≠ .close) :
    ({ s with world := (ctx.backend.call store c s.world).world } : ContextState σ η).Tended
      Good Live := by
  refine ⟨hb.call c h.good (h.live hs), fun {store'} hs' => ?_⟩
  obtain rfl : store = store' := by simpa [hs] using hs'
  exact hb.kept hc h.good (h.live hs)

end ContextState.Tended

end KeyedGraph
