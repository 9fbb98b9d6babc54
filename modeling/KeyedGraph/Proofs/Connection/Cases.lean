import KeyedGraph.Connection
import Mathlib.Tactic.Common

/-!
# How acquisitions and releases go

An acquisition of the shared store goes in one of eight ways and a release in one of six. Each
way is a rule: it names the attempts on the backend that it rests on and says what the whole
comes to. What is proved about the two steps elsewhere is proved rule by rule.
-/

namespace KeyedGraph

namespace Context

variable {σ η : Type}

/-! ### Acquisitions -/

/-- The ways in which an acquisition goes. -/
inductive Acquisition (ctx : Context σ η) (s : ContextState σ η) :
    Attempt (ContextState σ η) η → Prop
  | locked (hp : s.shared.poisoned = true) :
      Acquisition ctx s (.failed (.operationFailed "context_acquire" .lockPoisoned) s)
  | joined (store : η) (hp : s.shared.poisoned = false) (hs : s.shared.store = some store) :
      Acquisition ctx s
        { outcome := .ok store
          world := { s with shared := { s.shared with users := s.shared.users + 1 } }
          events := [.activeClients (s.shared.users + 1)] }
  | refused (cause : Error) (w : σ) (es : List Event) (hp : s.shared.poisoned = false)
      (hs : s.shared.store = none)
      (hc : ctx.backend.connect ctx.settings s.world = ⟨.error cause, w, es⟩) :
      Acquisition ctx s { outcome := .error cause, world := ⟨s.shared, w⟩, events := es }
  | connectCrashed (w : σ) (es : List Event) (hp : s.shared.poisoned = false)
      (hs : s.shared.store = none)
      (hc : ctx.backend.connect ctx.settings s.world = ⟨.crash, w, es⟩) :
      Acquisition ctx s (crashed s.shared w es)
  | opened (store : η) (w w' : σ) (es es' : List Event) (hp : s.shared.poisoned = false)
      (hs : s.shared.store = none)
      (hc : ctx.backend.connect ctx.settings s.world = ⟨.ok store, w, es⟩)
      (hv : ctx.backend.call store .verifyConnectivity w = ⟨.ok (), w', es'⟩) :
      Acquisition ctx s
        { outcome := .ok store
          world := ⟨{ s.shared with users := 1, store := some store }, w'⟩
          events := es ++ es' ++ [connectionCreated ctx.settings, .activeClients 1] }
  | probeCrashed (store : η) (w w' : σ) (es es' : List Event) (hp : s.shared.poisoned = false)
      (hs : s.shared.store = none)
      (hc : ctx.backend.connect ctx.settings s.world = ⟨.ok store, w, es⟩)
      (hv : ctx.backend.call store .verifyConnectivity w = ⟨.crash, w', es'⟩) :
      Acquisition ctx s (crashed s.shared w' (es ++ es'))
  | abandoned (store : η) (cause : Error) (closing : Outcome Unit) (w w' w'' : σ)
      (es es' es'' : List Event) (hp : s.shared.poisoned = false) (hs : s.shared.store = none)
      (hc : ctx.backend.connect ctx.settings s.world = ⟨.ok store, w, es⟩)
      (hv : ctx.backend.call store .verifyConnectivity w = ⟨.error cause, w', es'⟩)
      (hx : ctx.backend.call store .close w' = ⟨closing, w'', es''⟩) (hk : closing ≠ .crash) :
      Acquisition ctx s
        { outcome := .error cause
          world := ⟨s.shared, w''⟩
          events := es ++ es' ++ es'' ++
            match closing with
            | .error more => [closeAfterProbeFailed more]
            | _ => [] }
  | abandonCrashed (store : η) (cause : Error) (w w' w'' : σ) (es es' es'' : List Event)
      (hp : s.shared.poisoned = false) (hs : s.shared.store = none)
      (hc : ctx.backend.connect ctx.settings s.world = ⟨.ok store, w, es⟩)
      (hv : ctx.backend.call store .verifyConnectivity w = ⟨.error cause, w', es'⟩)
      (hx : ctx.backend.call store .close w' = ⟨.crash, w'', es''⟩) :
      Acquisition ctx s (crashed s.shared w'' (es ++ es' ++ es''))

lemma acquisition_abandon (ctx : Context σ η) {s : ContextState σ η} {store : η} {cause : Error}
    {w w' : σ} {es es' : List Event} (hp : s.shared.poisoned = false)
    (hs : s.shared.store = none)
    (hc : ctx.backend.connect ctx.settings s.world = ⟨.ok store, w, es⟩)
    (hv : ctx.backend.call store .verifyConnectivity w = ⟨.error cause, w', es'⟩) :
    Acquisition ctx s (ctx.abandon s.shared store cause w' (es ++ es')) := by
  rw [abandon]
  split
  · rename_i w'' es'' hx
    simpa using Acquisition.abandoned store cause (.ok ()) w w' w'' es es' es'' hp hs hc hv hx
      (by simp)
  · rename_i more w'' es'' hx
    exact .abandoned store cause (.error more) w w' w'' es es' es'' hp hs hc hv hx (by simp)
  · rename_i w'' es'' hx
    exact .abandonCrashed store cause w w' w'' es es' es'' hp hs hc hv hx

/-- Every acquisition goes in one of the ways. -/
theorem acquire_cases (ctx : Context σ η) (s : ContextState σ η) :
    Acquisition ctx s (ctx.acquire s) := by
  rw [acquire]
  split
  · rename_i hp
    exact .locked hp
  · rename_i hp
    rw [Bool.not_eq_true] at hp
    split
    · rename_i store hs
      exact .joined store hp hs
    · rename_i hs
      rw [openStore]
      split
      · rename_i cause w es hc
        exact .refused cause w es hp hs hc
      · rename_i w es hc
        exact .connectCrashed w es hp hs hc
      · rename_i store w es hc
        split
        · rename_i cause w' es' hv
          exact acquisition_abandon ctx hp hs hc hv
        · rename_i w' es' hv
          exact .probeCrashed store w w' es es' hp hs hc hv
        · rename_i w' es' hv
          exact .opened store w w' es es' hp hs hc hv

/-- A store that is held is shared. -/
lemma acquire_of_some (ctx : Context σ η) {s : ContextState σ η} {store : η}
    (hp : s.shared.poisoned = false) (hs : s.shared.store = some store) :
    ctx.acquire s =
      { outcome := .ok store
        world := { s with shared := { s.shared with users := s.shared.users + 1 } }
        events := [.activeClients (s.shared.users + 1)] } := by
  simp [acquire, hp, hs]

/-- A poisoned lock is not acquired. -/
lemma acquire_of_poisoned (ctx : Context σ η) {s : ContextState σ η}
    (hp : s.shared.poisoned = true) :
    ctx.acquire s = .failed (.operationFailed "context_acquire" .lockPoisoned) s := by
  simp [acquire, hp]

/-! ### Releases -/

/-- The ways in which a release goes. -/
inductive Release (ctx : Context σ η) (s : ContextState σ η) :
    Attempt (ContextState σ η) Unit → Prop
  | locked (hp : s.shared.poisoned = true) :
      Release ctx s (.failed (.operationFailed "context_release" .lockPoisoned) s)
  | surplus (hp : s.shared.poisoned = false) (hu : s.shared.users = 0) :
      Release ctx s { outcome := .ok (), world := s, events := [surplusRelease] }
  | left (hp : s.shared.poisoned = false) (hu : s.shared.users ≠ 0)
      (hl : s.shared.users ≠ 1 ∨ s.shared.store = none) :
      Release ctx s
        { outcome := .ok ()
          world := { s with shared := { s.shared with users := s.shared.users - 1 } }
          events := [.activeClients (s.shared.users - 1)] }
  | closed (store : η) (w : σ) (es : List Event) (hp : s.shared.poisoned = false)
      (hu : s.shared.users = 1) (hs : s.shared.store = some store)
      (hx : ctx.backend.call store .close s.world = ⟨.ok (), w, es⟩) :
      Release ctx s
        { outcome := .ok ()
          world := ⟨{}, w⟩
          events := [.activeClients 0] ++ es ++ [connectionClosed ctx.settings] }
  | closeFailed (store : η) (cause : Error) (w : σ) (es : List Event)
      (hp : s.shared.poisoned = false) (hu : s.shared.users = 1)
      (hs : s.shared.store = some store)
      (hx : ctx.backend.call store .close s.world = ⟨.error cause, w, es⟩) :
      Release ctx s
        { outcome := .error cause, world := ⟨{}, w⟩, events := [.activeClients 0] ++ es }
  | closeCrashed (store : η) (w : σ) (es : List Event) (hp : s.shared.poisoned = false)
      (hu : s.shared.users = 1) (hs : s.shared.store = some store)
      (hx : ctx.backend.call store .close s.world = ⟨.crash, w, es⟩) :
      Release ctx s (crashed {} w ([.activeClients 0] ++ es))

lemma release_closeStore (ctx : Context σ η) {s : ContextState σ η} {store : η}
    (hp : s.shared.poisoned = false) (hu : s.shared.users = 1)
    (hs : s.shared.store = some store) :
    Release ctx s (ctx.closeStore store s.world [.activeClients 0]) := by
  rw [closeStore]
  split
  · rename_i w es hx
    exact .closed store w es hp hu hs hx
  · rename_i cause w es hx
    exact .closeFailed store cause w es hp hu hs hx
  · rename_i w es hx
    exact .closeCrashed store w es hp hu hs hx

/-- Every release goes in one of the ways. -/
theorem release_cases (ctx : Context σ η) (s : ContextState σ η) :
    Release ctx s (ctx.release s) := by
  rw [release]
  split
  · rename_i hp
    exact .locked hp
  · rename_i hp
    rw [Bool.not_eq_true] at hp
    split
    · rename_i hu
      exact .surplus hp hu
    · rename_i hu
      dsimp only
      split
      · rename_i store hl hs
        have hu : s.shared.users = 1 := by omega
        rw [hl]
        exact release_closeStore ctx hp hu hs
      · rename_i hne
        refine .left hp hu ?_
        rw [or_iff_not_imp_left, not_not]
        intro h1
        by_contra hs
        obtain ⟨store, hs⟩ := Option.ne_none_iff_exists'.mp hs
        exact hne store (by omega) hs

/-- Releasing without users only leaves a record. -/
lemma release_of_zero (ctx : Context σ η) {s : ContextState σ η}
    (hp : s.shared.poisoned = false) (hu : s.shared.users = 0) :
    ctx.release s = { outcome := .ok (), world := s, events := [surplusRelease] } := by
  simp [release, hp, hu]

/-- A user that is not the last only leaves the count. -/
lemma release_of_two_le (ctx : Context σ η) {s : ContextState σ η}
    (hp : s.shared.poisoned = false) (hu : 2 ≤ s.shared.users) :
    ctx.release s =
      { outcome := .ok ()
        world := { s with shared := { s.shared with users := s.shared.users - 1 } }
        events := [.activeClients (s.shared.users - 1)] } := by
  obtain ⟨n, hn⟩ := Nat.exists_eq_add_of_le' hu
  simp [release, hp, hn]

end Context

end KeyedGraph
