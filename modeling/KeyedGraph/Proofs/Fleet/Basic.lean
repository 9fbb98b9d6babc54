import KeyedGraph.Proofs.Client.Request

/-!
# Fleets

A fleet is a context with the clients that were made from it. Its moves are as small as the lock
of the context lets them be: an `init` is an acquisition and then the keeping of the store that
it gave; a `cleanup` or a `drop` first lets the store go and then releases the share. Between the
two moves of one client, all the others may move. A move that a client is not ready for changes
nothing.
-/

namespace KeyedGraph

variable {σ η : Type}

/-- Taking a client away does to the connection what its cleanup does. -/
lemma Client.world_drop (ctx : Context σ η) (c : Client η) (s : ContextState σ η) :
    (c.drop ctx s).world = (c.cleanup ctx s).world.2 := by
  rw [drop]
  generalize c.cleanup ctx s = a
  obtain ⟨o, ⟨c', s'⟩, es⟩ := a
  cases o <;> rfl

/-! ### Moves -/

/-- Where a client stands: between two calls, in an `init` that acquired a store, in a `cleanup`
or a `drop` that has yet to release the client's share, or taken away. -/
inductive Phase (η : Type)
  | resting (client : Client η)
  | joining (store : η)
  | leaving (dropped : Bool)
  | gone

namespace Phase

/-- Whether a client has a share of the connection: it has one from its acquisition on until its
release. -/
def holds : Phase η → Bool
  | .resting client => client.isInitialized
  | .joining _ => true
  | .leaving _ => true
  | .gone => false

/-- The store that a client has at hand. -/
def store? : Phase η → Option η
  | .resting client => client.store
  | .joining store => some store
  | .leaving _ => none
  | .gone => none

/-- Where a client stands that releases its share: it goes, or it may be initialized again. -/
def left (dropped : Bool) : Phase η :=
  if dropped then .gone else .resting {}

@[simp] lemma holds_left (dropped : Bool) : (left dropped : Phase η).holds = false := by
  cases dropped <;> rfl

@[simp] lemma store?_left (dropped : Bool) : (left dropped : Phase η).store? = none := by
  cases dropped <;> rfl

lemma holds_of_store? {p : Phase η} {store : η} (h : p.store? = some store) :
    p.holds = true := by
  cases p with
  | resting client => simp [holds, Client.isInitialized, show client.store = some store from h]
  | joining => rfl
  | leaving | gone => simp [store?] at h

end Phase

/-- A context and the clients that were made from it. -/
structure Fleet (σ η : Type) where
  context : ContextState σ η
  clients : List (Phase η) := []

/-- A move of a fleet. Clients are numbered in the order of their creation. -/
inductive Move
  | create
  | acquire (i : Nat)
  | keep (i : Nat)
  | letGo (i : Nat) (dropped : Bool)
  | release (i : Nat)
  | operate (i : Nat) (request : Request)

namespace Fleet

/-- Puts a client where it stands now. -/
def put (f : Fleet σ η) (i : Nat) (p : Phase η) : Fleet σ η :=
  { f with clients := f.clients.set i p }

/-- A client that has no store asks for one. -/
def acquire (ctx : Context σ η) (f : Fleet σ η) (i : Nat) : Fleet σ η :=
  match f.clients[i]? with
  | some (.resting ⟨none⟩) =>
    match ctx.acquire f.context with
    | ⟨.ok store, s, _⟩ => { f with context := s }.put i (.joining store)
    | ⟨_, s, _⟩ => { f with context := s }
  | _ => f

/-- A client keeps the store that it was given. -/
def keep (f : Fleet σ η) (i : Nat) : Fleet σ η :=
  match f.clients[i]? with
  | some (.joining store) => f.put i (.resting ⟨some store⟩)
  | _ => f

/-- A client lets its store go; one that has none has nothing to release. -/
def letGo (f : Fleet σ η) (i : Nat) (dropped : Bool) : Fleet σ η :=
  match f.clients[i]? with
  | some (.resting ⟨some _⟩) => f.put i (.leaving dropped)
  | some (.resting ⟨none⟩) => f.put i (.left dropped)
  | _ => f

/-- A client releases its share. -/
def release (ctx : Context σ η) (f : Fleet σ η) (i : Nat) : Fleet σ η :=
  match f.clients[i]? with
  | some (.leaving dropped) =>
    { f with context := (ctx.release f.context).world }.put i (.left dropped)
  | _ => f

/-- A client runs an operation. -/
def operate (ctx : Context σ η) (f : Fleet σ η) (i : Nat) (request : Request) : Fleet σ η :=
  match f.clients[i]? with
  | some (.resting client) =>
    let w := (request.run ctx.backend client f.context.world).world
    { f with context := { f.context with world := w } }
  | _ => f

/-- The fleet behind a move. -/
def move (ctx : Context σ η) (f : Fleet σ η) : Move → Fleet σ η
  | .create => { f with clients := f.clients ++ [.resting {}] }
  | .acquire i => f.acquire ctx i
  | .keep i => f.keep i
  | .letGo i dropped => f.letGo i dropped
  | .release i => f.release ctx i
  | .operate i request => f.operate ctx i request

/-- The fleet behind a sequence of moves. -/
def after (ctx : Context σ η) (moves : List Move) (f : Fleet σ η) : Fleet σ η :=
  moves.foldl (move ctx) f

/-- A fleet without clients, whose context nothing was asked of yet. -/
def new (w : σ) : Fleet σ η :=
  { context := .new w }

@[simp] lemma after_nil (ctx : Context σ η) (f : Fleet σ η) : after ctx [] f = f := rfl

@[simp] lemma after_cons (ctx : Context σ η) (m : Move) (moves : List Move) (f : Fleet σ η) :
    after ctx (m :: moves) f = after ctx moves (f.move ctx m) := rfl

/-- What each move preserves is true behind every sequence of moves. -/
lemma after_induction {ctx : Context σ η} {P : Fleet σ η → Prop}
    (step : ∀ f m, P f → P (f.move ctx m)) (moves : List Move) {f : Fleet σ η} (h : P f) :
    P (after ctx moves f) := by
  induction moves generalizing f with
  | nil => exact h
  | cons m moves ih => exact ih (step f m h)

/-! ### Whole calls -/

variable (ctx : Context σ η) {f : Fleet σ η} {i : Nat} {c : Client η}

lemma lt_length {p : Phase η} (h : f.clients[i]? = some p) : i < f.clients.length := by
  obtain ⟨hi, -⟩ := List.getElem?_eq_some_iff.mp h
  exact hi

lemma getElem?_put {p : Phase η} (hi : i < f.clients.length) :
    (f.put i p).clients[i]? = some p := by
  simp [put, hi]

lemma put_self {p : Phase η} (h : f.clients[i]? = some p) : f.put i p = f := by
  obtain ⟨hi, hp⟩ := List.getElem?_eq_some_iff.mp h
  subst hp
  simp [put]

lemma letGo_of_some {store : η} (h : f.clients[i]? = some (.resting ⟨some store⟩))
    (dropped : Bool) : f.letGo i dropped = f.put i (.leaving dropped) := by
  simp only [letGo, h]

lemma letGo_of_none (h : f.clients[i]? = some (.resting ⟨none⟩)) (dropped : Bool) :
    f.letGo i dropped = f.put i (.left dropped) := by
  simp only [letGo, h]

lemma release_of_leaving {dropped : Bool} (h : f.clients[i]? = some (.leaving dropped)) :
    f.release ctx i =
      { f with context := (ctx.release f.context).world }.put i (.left dropped) := by
  simp only [release, h]

lemma release_of_left {dropped : Bool} (h : f.clients[i]? = some (.left dropped)) :
    f.release ctx i = f := by
  cases dropped <;> simp only [release, h, Phase.left, if_true, if_false, Bool.false_eq_true]

/-- A client that has a share lets the store go and releases the share. -/
lemma release_letGo_of_some {store : η} (h : f.clients[i]? = some (.resting ⟨some store⟩))
    (dropped : Bool) :
    (f.letGo i dropped).release ctx i =
      { f with context := (ctx.release f.context).world }.put i (.left dropped) := by
  rw [letGo_of_some h, release_of_leaving ctx (getElem?_put (lt_length h))]
  simp [put]

/-- A client that has no share has nothing to release. -/
lemma release_letGo_of_none (h : f.clients[i]? = some (.resting ⟨none⟩)) (dropped : Bool) :
    (f.letGo i dropped).release ctx i = f.put i (.left dropped) := by
  rw [letGo_of_none h, release_of_left ctx (getElem?_put (lt_length h))]

/-- An `init` is an acquisition and the keeping of the store. -/
theorem after_init (h : f.clients[i]? = some (.resting c)) :
    after ctx [.acquire i, .keep i] f =
      { f with context := (c.init ctx f.context).world.2 }.put i
        (.resting (c.init ctx f.context).world.1) := by
  have hi := lt_length h
  obtain ⟨store⟩ := c
  simp only [after_cons, after_nil, move]
  cases store with
  | some store => simp [acquire, keep, h, Client.init, Attempt.done, put_self h]
  | none =>
    simp only [acquire, h, Client.init]
    generalize ctx.acquire f.context = a
    obtain ⟨o, s, es⟩ := a
    cases o with
    | ok store => simp [keep, put, hi]
    | error | crash =>
      simp only [keep, h]
      exact (put_self (f := { f with context := s }) h).symm

/-- A `cleanup` lets the store go and releases the share. -/
theorem after_cleanup (h : f.clients[i]? = some (.resting c)) :
    after ctx [.letGo i false, .release i] f =
      { f with context := (c.cleanup ctx f.context).world.2 }.put i
        (.resting (c.cleanup ctx f.context).world.1) := by
  obtain ⟨store⟩ := c
  cases store with
  | some store => exact release_letGo_of_some ctx h false
  | none => exact release_letGo_of_none ctx h false

/-- A `drop` lets the store go for good and releases the share. -/
theorem after_drop (h : f.clients[i]? = some (.resting c)) :
    after ctx [.letGo i true, .release i] f =
      { f with context := (c.drop ctx f.context).world }.put i .gone := by
  obtain ⟨store⟩ := c
  cases store with
  | none => exact release_letGo_of_none ctx h true
  | some store =>
    rw [Client.world_drop]
    exact release_letGo_of_some ctx h true

end Fleet

end KeyedGraph
