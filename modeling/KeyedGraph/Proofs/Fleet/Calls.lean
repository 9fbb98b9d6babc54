import KeyedGraph.Proofs.Fleet.Sharing
import KeyedGraph.Proofs.Machine

/-!
# Calls of a fleet

Here the clients of a fleet are called one after the other, and each call is made whole. A call
is a run of moves, so what is true of every reachable fleet is true between calls.
-/

namespace KeyedGraph

variable {σ η : Type}

/-- A call on a client of a fleet, or the making of a new client. -/
inductive Call
  | create
  | init (i : Nat)
  | cleanup (i : Nat)
  | drop (i : Nat)
  | ask (i : Nat) (request : Request)

/-- What comes of a call: whether an `init` or a `cleanup` succeeded, or what a request was
answered. There is nothing to tell of the other calls, or where there is no client. -/
inductive Reply
  | nothing
  | finished (succeeded : Bool)
  | answer (request : Request) (status : Status) (collected : request.Collected)
  | crashed

/-- The reply that ends an `init` or a `cleanup`. -/
def Reply.ofFinish : Outcome Unit → Reply
  | .ok () => .finished true
  | .error _ => .finished false
  | .crash => .crashed

/-- The reply that answers a request. -/
def Reply.ofAnswer (request : Request) : Outcome (Status × request.Collected) → Reply
  | .ok (status, collected) => .answer request status collected
  | .error _ => .crashed
  | .crash => .crashed

/-- The moves of a call. -/
def Call.moves : Call → List Move
  | .create => [.create]
  | .init i => [.acquire i, .keep i]
  | .cleanup i => [.letGo i false, .release i]
  | .drop i => [.letGo i true, .release i]
  | .ask i request => [.operate i request]

/-- The client that a call is made on. -/
def Call.client? : Call → Option Nat
  | .create => none
  | .init i => some i
  | .cleanup i => some i
  | .drop i => some i
  | .ask i _ => some i

namespace Fleet

/-- Makes a call. -/
def call (ctx : Context σ η) (f : Fleet σ η) : Call → Reply × Fleet σ η
  | .create => (.nothing, { f with clients := f.clients ++ [.resting {}] })
  | .init i =>
    match f.clients[i]? with
    | some (.resting c) =>
      let a := c.init ctx f.context
      (.ofFinish a.outcome, { f with context := a.world.2 }.put i (.resting a.world.1))
    | _ => (.nothing, f)
  | .cleanup i =>
    match f.clients[i]? with
    | some (.resting c) =>
      let a := c.cleanup ctx f.context
      (.ofFinish a.outcome, { f with context := a.world.2 }.put i (.resting a.world.1))
    | _ => (.nothing, f)
  | .drop i =>
    match f.clients[i]? with
    | some (.resting c) =>
      (.nothing, { f with context := (c.drop ctx f.context).world }.put i .gone)
    | _ => (.nothing, f)
  | .ask i request =>
    match f.clients[i]? with
    | some (.resting c) =>
      let a := request.run ctx.backend c f.context.world
      (.ofAnswer request a.outcome, { f with context := { f.context with world := a.world } })
    | _ => (.nothing, f)

/-- Whether all clients are between two calls. -/
def Settled (f : Fleet σ η) : Prop :=
  ∀ p ∈ f.clients, p.isSettled = true

variable {ctx : Context σ η} {f : Fleet σ η}

/-! ### Calls on a client that rests -/

section Resting

variable (ctx) {i : Nat} {c : Client η} (h : f.clients[i]? = some (.resting c))
include h

lemma call_init :
    f.call ctx (.init i) =
      (.ofFinish (c.init ctx f.context).outcome,
        { f with context := (c.init ctx f.context).world.2 }.put i
          (.resting (c.init ctx f.context).world.1)) := by
  simp only [call, h]

lemma call_cleanup :
    f.call ctx (.cleanup i) =
      (.ofFinish (c.cleanup ctx f.context).outcome,
        { f with context := (c.cleanup ctx f.context).world.2 }.put i
          (.resting (c.cleanup ctx f.context).world.1)) := by
  simp only [call, h]

lemma call_drop :
    f.call ctx (.drop i) =
      (.nothing, { f with context := (c.drop ctx f.context).world }.put i .gone) := by
  simp only [call, h]

lemma call_ask (request : Request) :
    f.call ctx (.ask i request) =
      (.ofAnswer request (request.run ctx.backend c f.context.world).outcome,
        { f with
          context :=
            { f.context with world :=
              (request.run ctx.backend c f.context.world).world } }) := by
  simp only [call, h]

end Resting

/-- A call on a client that does not rest does nothing. -/
lemma call_of_not_resting {c : Call} {i : Nat} (hc : c.client? = some i)
    (hi : ∀ client, f.clients[i]? ≠ some (.resting client)) : f.call ctx c = (.nothing, f) := by
  cases c with
  | create => cases hc
  | init j | cleanup j | drop j | ask j request =>
    obtain rfl : j = i := Option.some.inj hc
    simp only [call]

/-! ### Calls and moves -/

lemma settled_put (h : f.Settled) {p : Phase η} (hp : p.isSettled = true) (i : Nat) :
    (f.put i p).Settled := by
  intro q hq
  rcases mem_put hq with hm | rfl
  · exact h q hm
  · exact hp

/-- In a settled fleet, a client that does not rest has nothing to acquire or to release. -/
lemma after_of_not_resting (h : f.Settled) {i : Nat}
    (hi : ∀ c, f.clients[i]? ≠ some (.resting c)) (dropped : Bool) :
    after ctx [.acquire i, .keep i] f = f ∧ after ctx [.letGo i dropped, .release i] f = f := by
  cases hc : f.clients[i]? with
  | none => simp [move, acquire, keep, letGo, release, hc]
  | some p =>
    cases p with
    | resting c => exact absurd hc (hi c)
    | gone => simp [move, acquire, keep, letGo, release, hc]
    | joining store => simpa [Phase.isSettled] using h _ (List.mem_of_getElem? hc)
    | leaving dropped => simpa [Phase.isSettled] using h _ (List.mem_of_getElem? hc)

/-- A call is the run of its moves. -/
theorem call_eq_after (ctx : Context σ η) (h : f.Settled) (c : Call) :
    (f.call ctx c).2 = after ctx c.moves f := by
  cases c with
  | create => rfl
  | init i =>
    simp only [call, Call.moves]
    split
    · rename_i hi
      exact (after_init ctx hi).symm
    · rename_i hi
      exact (after_of_not_resting h hi false).1.symm
  | cleanup i =>
    simp only [call, Call.moves]
    split
    · rename_i hi
      exact (after_cleanup ctx hi).symm
    · rename_i hi
      exact (after_of_not_resting h hi false).2.symm
  | drop i =>
    simp only [call, Call.moves]
    split
    · rename_i hi
      exact (after_drop ctx hi).symm
    · rename_i hi
      exact (after_of_not_resting h hi true).2.symm
  | ask i request =>
    simp only [call, Call.moves, after_cons, after_nil, move, operate]
    cases f.clients[i]? with
    | none => rfl
    | some p => cases p <;> rfl

lemma settled_call (ctx : Context σ η) (h : f.Settled) (c : Call) :
    (f.call ctx c).2.Settled := by
  cases c with
  | create =>
    intro p hp
    rcases List.mem_append.mp hp with hm | hm
    · exact h p hm
    · obtain rfl := List.mem_singleton.mp hm
      rfl
  | init i | cleanup i | drop i =>
    simp only [call]
    split
    · exact settled_put (f := { f with context := _ }) h rfl i
    · exact h
  | ask i request =>
    simp only [call]
    split
    · exact h
    · exact h

/-- Between calls, a fleet stays consistent. -/
lemma Consistent.call {Good : σ → Prop} {Live : σ → η → Prop}
    (hb : ctx.backend.Upholds Good Live) (h : f.Consistent Good Live) (hs : f.Settled)
    (c : Call) :
    (f.call ctx c).2.Consistent Good Live := by
  rw [call_eq_after ctx hs]
  exact h.after hb c.moves

end Fleet

end KeyedGraph
