import KeyedGraph.Store

/-!
# Injected faults

A backend can be wrapped so that chosen attempts end before they reach it: with an error, or with
a crash. The chosen faults are part of the wrapped backend's world and may change between
attempts.
-/

namespace KeyedGraph

/-- What an injected fault does. -/
inductive Fault
  | error (cause : Error)
  | crash

/-- Where a fault can be injected. -/
inductive FaultPoint
  | connect
  | call (kind : CallKind)
deriving DecidableEq, Repr

/-- A world with the faults that are in force. -/
structure Faulty (σ : Type) where
  inner : σ
  faults : FaultPoint → Option Fault := fun _ => none

/-- How an attempt ends that a fault stops. -/
def Fault.outcome {α : Type} : Fault → Outcome α
  | .error cause => .error cause
  | .crash => .crash

namespace Faulty

/-- Puts a fault at a point, or takes it away. -/
def setFault {σ : Type} (w : Faulty σ) (point : FaultPoint) (fault : Option Fault) : Faulty σ :=
  { w with faults := fun p => if p = point then fault else w.faults p }

/-- Makes an attempt, unless a fault at its point stops it. -/
def guarded {σ α : Type} (point : FaultPoint) (attempt : σ → Attempt σ α) (w : Faulty σ) :
    Attempt (Faulty σ) α :=
  match w.faults point with
  | some fault => { outcome := fault.outcome, world := w }
  | none => (attempt w.inner).mapWorld fun inner => { w with inner }

end Faulty

/-- A backend whose attempts injected faults can stop. -/
def Backend.withFaults {σ η : Type} (b : Backend σ η) : Backend (Faulty σ) η :=
  { connect := fun settings => Faulty.guarded .connect (b.connect settings)
    call := fun handle c => Faulty.guarded (.call c.kind) (b.call handle c) }

end KeyedGraph
