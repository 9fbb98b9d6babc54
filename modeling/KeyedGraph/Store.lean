import KeyedGraph.Error
import KeyedGraph.Event
import KeyedGraph.Label
import KeyedGraph.Record
import KeyedGraph.Settings

/-!
# Stores

A store keeps nodes under labels and is reached through handles. A backend opens handles and
answers calls on them; what it remembers between calls, and what may make a call fail, is its
world. Every attempt ends with a value, with an error, or with a crash that unwinds the caller,
and leaves a world behind in each case.
-/

namespace KeyedGraph

/-- How an attempt ends. -/
inductive Outcome (α : Type)
  | ok (value : α)
  | error (cause : Error)
  | crash

/-- The end of an attempt, the world that it leaves and the events that it showed. -/
structure Attempt (σ α : Type) where
  outcome : Outcome α
  world : σ
  events : List Event := []

/-- Gives an outcome's value another form. -/
def Outcome.map {α β : Type} (f : α → β) : Outcome α → Outcome β
  | .ok value => .ok (f value)
  | .error cause => .error cause
  | .crash => .crash

/-- Carries an attempt on a part of a world over to the whole. -/
def Attempt.mapWorld {σ τ α : Type} (f : σ → τ) (a : Attempt σ α) : Attempt τ α :=
  { outcome := a.outcome, world := f a.world, events := a.events }

/-! ### Calls -/

/-- A call on a store. -/
inductive StoreCall
  | verifyConnectivity
  | readNode (label : Label) (key : String)
  | scanNodes (label : Label) (start : String) (limit : Nat)
  | replaceNode (label : Label) (key : String) (values : FieldSet)
  | createNode (label : Label) (key : String) (values : FieldSet)
  | deleteNodes (label : Label) (key : String)
  | close

/-- What a call answers: one node or none, nodes, or how many nodes it touched. -/
@[reducible] def StoreCall.Reply : StoreCall → Type
  | .verifyConnectivity => Unit
  | .readNode _ _ => Option FieldSet
  | .scanNodes _ _ _ => List FieldSet
  | .replaceNode _ _ _ => Nat
  | .createNode _ _ _ => Unit
  | .deleteNodes _ _ => Nat
  | .close => Unit

/-- The kinds of calls. -/
inductive CallKind
  | verifyConnectivity
  | readNode
  | scanNodes
  | replaceNode
  | createNode
  | deleteNodes
  | close
deriving DecidableEq, Repr

/-- The kind of a call. -/
def StoreCall.kind : StoreCall → CallKind
  | .verifyConnectivity => .verifyConnectivity
  | .readNode _ _ => .readNode
  | .scanNodes _ _ _ => .scanNodes
  | .replaceNode _ _ _ => .replaceNode
  | .createNode _ _ _ => .createNode
  | .deleteNodes _ _ => .deleteNodes
  | .close => .close

/-! ### Backends -/

/-- A way to open handles and to make calls on them. -/
structure Backend (σ η : Type) where
  connect : Settings → σ → Attempt σ η
  call : η → (c : StoreCall) → σ → Attempt σ c.Reply

/-- A call that fails and leaves the world as it is. -/
def Attempt.failed {σ α : Type} (cause : Error) (w : σ) : Attempt σ α :=
  { outcome := .error cause, world := w }

/-- A call that gives a value and leaves the world as it is. -/
def Attempt.done {σ α : Type} (value : α) (w : σ) : Attempt σ α :=
  { outcome := .ok value, world := w }

end KeyedGraph
