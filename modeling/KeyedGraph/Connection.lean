import KeyedGraph.Store

/-!
# The shared connection

The clients of one context share one store. The store is opened for the first user and closed
behind the last. Both happen under a lock, so each is one step; a crash in the middle of one
poisons the lock, and from then on no step succeeds.
-/

namespace KeyedGraph

/-- What the users of a context share: how many they are, the store that is open for them, and
whether the lock on both is poisoned. -/
structure SharedConnection (η : Type) where
  users : Nat := 0
  store : Option η := none
  poisoned : Bool := false

/-- What a context works with: the settings and the backend of its stores. -/
structure Context (σ η : Type) where
  settings : Settings
  backend : Backend σ η

/-- The state that a context works on. -/
structure ContextState (σ η : Type) where
  shared : SharedConnection η := {}
  world : σ

/-! ### Views -/

/-- How many users there are, as far as can be told. -/
def SharedConnection.activeUsers {η : Type} (c : SharedConnection η) : Nat :=
  if c.poisoned then 0 else c.users

/-- Whether a store is known to be open. -/
def SharedConnection.isConnected {η : Type} (c : SharedConnection η) : Bool :=
  !c.poisoned && c.store.isSome

/-- The diagnostic form of a context: where it connects to and how many users it has. -/
def describeContext {η : Type} (settings : Settings) (c : SharedConnection η) : String :=
  "GraphContext \x7b url: " ++ Text.quote settings.url ++ ", active_users: " ++
    toString c.activeUsers ++ ", .. \x7d"

/-! ### Records -/

/-- The source of the connection's records. -/
def connectionTarget : String := "graphkv::context"

/-- A store was opened for the first user. -/
def connectionCreated (settings : Settings) : Event :=
  .log {
    level := .info
    target := connectionTarget
    message := "Graph connection created"
    fields := [("url", .message settings.url), ("database", .message settings.database)] }

/-- The store was closed behind the last user. -/
def connectionClosed (settings : Settings) : Event :=
  .log {
    level := .info
    target := connectionTarget
    message := "Graph connection closed"
    fields := [("url", .message settings.url)] }

/-- A store that failed its first check could not even be closed. -/
def closeAfterProbeFailed (cause : Error) : Event :=
  .log {
    level := .warn
    target := connectionTarget
    message := "Failed to close store after connectivity failure"
    fields := [("error", .message cause.message)] }

/-- A user left who was not there. -/
def surplusRelease : Event :=
  .log {
    level := .warn
    target := connectionTarget
    message := "Graph context released more times than acquired" }

/-! ### Steps -/

namespace Context

variable {σ η : Type}

/-- The end of a step that crashed under the lock. -/
def crashed {α : Type} (shared : SharedConnection η) (w : σ) (events : List Event) :
    Attempt (ContextState σ η) α :=
  { outcome := .crash, world := ⟨{ shared with poisoned := true }, w⟩, events }

/-- Gives up a store that failed its first check; the error of the check is the one that
counts. -/
def abandon (ctx : Context σ η) (shared : SharedConnection η) (store : η) (cause : Error) (w : σ)
    (events : List Event) : Attempt (ContextState σ η) η :=
  match ctx.backend.call store .close w with
  | ⟨.ok (), w, more⟩ =>
    { outcome := .error cause, world := ⟨shared, w⟩, events := events ++ more }
  | ⟨.error closing, w, more⟩ =>
    { outcome := .error cause
      world := ⟨shared, w⟩
      events := events ++ more ++ [closeAfterProbeFailed closing] }
  | ⟨.crash, w, more⟩ => crashed shared w (events ++ more)

/-- Opens a store and checks it. -/
def openStore (ctx : Context σ η) (shared : SharedConnection η) (w : σ) :
    Attempt (ContextState σ η) η :=
  match ctx.backend.connect ctx.settings w with
  | ⟨.error cause, w, events⟩ => { outcome := .error cause, world := ⟨shared, w⟩, events }
  | ⟨.crash, w, events⟩ => crashed shared w events
  | ⟨.ok store, w, events⟩ =>
    match ctx.backend.call store .verifyConnectivity w with
    | ⟨.error cause, w, more⟩ => ctx.abandon shared store cause w (events ++ more)
    | ⟨.crash, w, more⟩ => crashed shared w (events ++ more)
    | ⟨.ok (), w, more⟩ =>
      { outcome := .ok store
        world := ⟨{ shared with users := 1, store := some store }, w⟩
        events := events ++ more ++ [connectionCreated ctx.settings, .activeClients 1] }

/-- Counts one more user and gives it the shared store, which is opened for the first. -/
def acquire (ctx : Context σ η) (s : ContextState σ η) : Attempt (ContextState σ η) η :=
  if s.shared.poisoned then .failed (.operationFailed "context_acquire" .lockPoisoned) s
  else
    match s.shared.store with
    | some store =>
      let users := s.shared.users + 1
      { outcome := .ok store
        world := { s with shared := { s.shared with users } }
        events := [.activeClients users] }
    | none => ctx.openStore s.shared s.world

/-- Closes the store behind the last user. -/
def closeStore (ctx : Context σ η) (store : η) (w : σ) (events : List Event) :
    Attempt (ContextState σ η) Unit :=
  match ctx.backend.call store .close w with
  | ⟨.ok (), w, more⟩ =>
    { outcome := .ok ()
      world := ⟨{}, w⟩
      events := events ++ more ++ [connectionClosed ctx.settings] }
  | ⟨.error cause, w, more⟩ =>
    { outcome := .error cause, world := ⟨{}, w⟩, events := events ++ more }
  | ⟨.crash, w, more⟩ => crashed {} w (events ++ more)

/-- Counts one user less and closes the store behind the last. -/
def release (ctx : Context σ η) (s : ContextState σ η) : Attempt (ContextState σ η) Unit :=
  if s.shared.poisoned then .failed (.operationFailed "context_release" .lockPoisoned) s
  else if s.shared.users = 0 then
    { outcome := .ok (), world := s, events := [surplusRelease] }
  else
    let users := s.shared.users - 1
    let events := [Event.activeClients users]
    match users, s.shared.store with
    | 0, some store => ctx.closeStore store s.world events
    | _, _ =>
      { outcome := .ok (), world := { s with shared := { s.shared with users } }, events }

end Context

end KeyedGraph
