import KeyedGraph.Proofs.Client.Request
import KeyedGraph.Proofs.Fleet.Calls

/-!
# Contexts that cannot be told apart

Two attempts are alike if they come to the same outcome, show the same events and leave related
worlds. Contexts whose attempts on related worlds are alike are bisimilar: the acquisitions and
the releases of one are like those of the other, and so are the calls of their clients. No
sequence of calls tells their fleets apart.
-/

namespace KeyedGraph

variable {σ τ η α : Type} {R : σ → τ → Prop}

/-! ### Bisimilar contexts -/

/-- Two attempts with one outcome and the same events, which leave related worlds. -/
inductive Attempt.Alike (R : σ → τ → Prop) : Attempt σ α → Attempt τ α → Prop
  | mk (o : Outcome α) (es : List Event) {w : σ} {w' : τ} (hw : R w w') :
      Alike R ⟨o, w, es⟩ ⟨o, w', es⟩

/-- Two states of a context that share the same in related worlds. -/
inductive ContextState.Alike (R : σ → τ → Prop) : ContextState σ η → ContextState τ η → Prop
  | mk (shared : SharedConnection η) {w : σ} {w' : τ} (hw : R w w') :
      Alike R ⟨shared, w⟩ ⟨shared, w'⟩

/-- Two contexts that connect to one place, whose attempts on related worlds are alike. -/
structure Context.Bisimilar (R : σ → τ → Prop) (ctx : Context σ η)
    (ctx' : Context τ η) : Prop where
  url_eq : ctx.settings.url = ctx'.settings.url
  database_eq : ctx.settings.database = ctx'.settings.database
  connect {w : σ} {w' : τ} (hw : R w w') :
    (ctx.backend.connect ctx.settings w).Alike R (ctx'.backend.connect ctx'.settings w')
  call (store : η) (c : StoreCall) {w : σ} {w' : τ} (hw : R w w') :
    (ctx.backend.call store c w).Alike R (ctx'.backend.call store c w')

namespace Attempt.Alike

lemma of_eq {a : Attempt σ α} {a' : Attempt τ α} (ho : a.outcome = a'.outcome)
    (he : a.events = a'.events) (hw : R a.world a'.world) : a.Alike R a' := by
  obtain ⟨o, w, es⟩ := a
  obtain ⟨o', w', es'⟩ := a'
  obtain rfl : o = o' := ho
  obtain rfl : es = es' := he
  exact .mk o es hw

lemma outcome_eq {a : Attempt σ α} {a' : Attempt τ α} (h : a.Alike R a') :
    a.outcome = a'.outcome := by
  cases h
  rfl

lemma world {a : Attempt σ α} {a' : Attempt τ α} (h : a.Alike R a') : R a.world a'.world := by
  cases h with
  | mk o es hw => exact hw

end Attempt.Alike

namespace Context.Bisimilar

variable {ctx : Context σ η} {ctx' : Context τ η}

/-! ### Acquisitions and releases -/

lemma abandon (h : ctx.Bisimilar R ctx') (shared : SharedConnection η) (store : η)
    (cause : Error) {w : σ} {w' : τ} (hw : R w w') (es : List Event) :
    (ctx.abandon shared store cause w es).Alike (ContextState.Alike R)
      (ctx'.abandon shared store cause w' es) := by
  have hx := h.call store .close hw
  rw [Context.abandon, Context.abandon]
  generalize ctx.backend.call store .close w = a at hx ⊢
  generalize ctx'.backend.call store .close w' = a' at hx ⊢
  cases hx with
  | mk o more hw => cases o <;> exact .mk _ _ (.mk _ hw)

lemma openStore (h : ctx.Bisimilar R ctx') (shared : SharedConnection η) {w : σ} {w' : τ}
    (hw : R w w') :
    (ctx.openStore shared w).Alike (ContextState.Alike R) (ctx'.openStore shared w') := by
  have hc := h.connect hw
  rw [Context.openStore, Context.openStore]
  generalize ctx.backend.connect ctx.settings w = a at hc ⊢
  generalize ctx'.backend.connect ctx'.settings w' = a' at hc ⊢
  cases hc with
  | mk o es hw =>
    cases o with
    | error | crash => exact .mk _ _ (.mk _ hw)
    | ok store =>
      have hv := h.call store .verifyConnectivity hw
      dsimp only
      generalize ctx.backend.call store .verifyConnectivity _ = a at hv ⊢
      generalize ctx'.backend.call store .verifyConnectivity _ = a' at hv ⊢
      cases hv with
      | mk o more hw =>
        cases o with
        | error cause => exact h.abandon shared store cause hw (es ++ more)
        | crash => exact .mk _ _ (.mk _ hw)
        | ok =>
          have hcreated : connectionCreated ctx.settings = connectionCreated ctx'.settings := by
            rw [connectionCreated, connectionCreated, h.url_eq, h.database_eq]
          dsimp only
          rw [hcreated]
          exact .mk _ _ (.mk _ hw)

theorem acquire (h : ctx.Bisimilar R ctx') {s : ContextState σ η} {s' : ContextState τ η}
    (hs : s.Alike R s') : (ctx.acquire s).Alike (ContextState.Alike R) (ctx'.acquire s') := by
  cases hs with
  | mk shared hw =>
    obtain ⟨users, store, poisoned⟩ := shared
    cases poisoned with
    | true => exact .mk _ _ (.mk _ hw)
    | false =>
      cases store with
      | some store => exact .mk _ _ (.mk _ hw)
      | none => exact h.openStore _ hw

lemma closeStore (h : ctx.Bisimilar R ctx') (store : η) {w : σ} {w' : τ} (hw : R w w')
    (es : List Event) :
    (ctx.closeStore store w es).Alike (ContextState.Alike R) (ctx'.closeStore store w' es) := by
  have hx := h.call store .close hw
  have hclosed : connectionClosed ctx.settings = connectionClosed ctx'.settings := by
    rw [connectionClosed, connectionClosed, h.url_eq]
  rw [Context.closeStore, Context.closeStore, hclosed]
  generalize ctx.backend.call store .close w = a at hx ⊢
  generalize ctx'.backend.call store .close w' = a' at hx ⊢
  cases hx with
  | mk o more hw => cases o <;> exact .mk _ _ (.mk _ hw)

theorem release (h : ctx.Bisimilar R ctx') {s : ContextState σ η} {s' : ContextState τ η}
    (hs : s.Alike R s') : (ctx.release s).Alike (ContextState.Alike R) (ctx'.release s') := by
  cases hs with
  | mk shared hw =>
    obtain ⟨users, store, poisoned⟩ := shared
    cases poisoned with
    | true => exact .mk _ _ (.mk _ hw)
    | false =>
      match users, store with
      | 0, _ | 1, none | _ + 2, none | _ + 2, some _ => exact .mk _ _ (.mk _ hw)
      | 1, some store => exact h.closeStore store hw _

/-! ### Clients -/

lemma init (h : ctx.Bisimilar R ctx') (c : Client η) {s : ContextState σ η}
    {s' : ContextState τ η} (hs : s.Alike R s') :
    (c.init ctx s).Alike (fun p p' => p.1 = p'.1 ∧ p.2.Alike R p'.2) (c.init ctx' s') := by
  obtain ⟨store⟩ := c
  cases store with
  | some store => exact .mk _ _ ⟨rfl, hs⟩
  | none =>
    have ha := h.acquire hs
    simp only [Client.init]
    generalize ctx.acquire s = a at ha ⊢
    generalize ctx'.acquire s' = a' at ha ⊢
    cases ha with
    | mk o es hs => cases o <;> exact .mk _ _ ⟨rfl, hs⟩

lemma cleanup (h : ctx.Bisimilar R ctx') (c : Client η) {s : ContextState σ η}
    {s' : ContextState τ η} (hs : s.Alike R s') :
    (c.cleanup ctx s).Alike (fun p p' => p.1 = p'.1 ∧ p.2.Alike R p'.2) (c.cleanup ctx' s') := by
  obtain ⟨store⟩ := c
  cases store with
  | none => exact .mk _ _ ⟨rfl, hs⟩
  | some store =>
    have ha := h.release hs
    simp only [Client.cleanup, Attempt.mapWorld]
    generalize ctx.release s = a at ha ⊢
    generalize ctx'.release s' = a' at ha ⊢
    cases ha with
    | mk o es hs => exact .mk _ _ ⟨rfl, hs⟩

lemma drop (h : ctx.Bisimilar R ctx') (c : Client η) {s : ContextState σ η}
    {s' : ContextState τ η} (hs : s.Alike R s') :
    (c.drop ctx s).Alike (ContextState.Alike R) (c.drop ctx' s') := by
  have ha := h.cleanup c hs
  rw [Client.drop, Client.drop]
  generalize c.cleanup ctx s = a at ha ⊢
  generalize c.cleanup ctx' s' = a' at ha ⊢
  cases ha with
  | mk o es hp => cases o <;> exact .mk _ _ hp.2

end Context.Bisimilar

/-- A request is answered alike in related worlds, where the call that it makes is. -/
theorem Request.run_alike {b : Backend σ η} {b' : Backend τ η} (c : Client η) (r : Request)
    {w : σ} {w' : τ} (hw : R w w')
    (h : ∀ label store, Label.parse r.table = .ok label → c.store = some store →
      (b.call store (r.call label) w).Alike R (b'.call store (r.call label) w')) :
    (r.run b c w).Alike R (r.run b' c w') := by
  have hc := run_cases b c r w
  generalize r.run b c w = a at hc ⊢
  cases hc with
  | rejected cause hp =>
    rw [run_of_no_label b' hp]
    exact .mk _ _ hw
  | unready label hp hs =>
    rw [run_of_none b' hp hs]
    exact .mk _ _ hw
  | idle label store hp hs hi =>
    rw [run_of_idle b' hp hs hi]
    exact .mk _ _ hw
  | asked label store hp hs hi =>
    have ha := h label store hp hs
    rw [run_of_ready b' hp hs hi]
    generalize b.call store (r.call label) w = a at ha ⊢
    generalize b'.call store (r.call label) w' = a' at ha ⊢
    cases ha with
    | mk o es hw => cases o <;> exact .mk _ _ hw

/-! ### Fleets -/

namespace Fleet

/-- Two fleets with the same clients, whose contexts share the same in related worlds. -/
inductive Alike (R : σ → τ → Prop) : Fleet σ η → Fleet τ η → Prop
  | mk (clients : List (Phase η)) {s : ContextState σ η} {s' : ContextState τ η}
      (hs : s.Alike R s') : Alike R ⟨s, clients⟩ ⟨s', clients⟩

namespace Alike

variable {f : Fleet σ η} {f' : Fleet τ η}

lemma of_eq (hc : f.clients = f'.clients) (hs : f.context.shared = f'.context.shared)
    (hw : R f.context.world f'.context.world) : f.Alike R f' := by
  obtain ⟨⟨shared, w⟩, clients⟩ := f
  obtain ⟨⟨shared', w'⟩, clients'⟩ := f'
  obtain rfl : clients = clients' := hc
  obtain rfl : shared = shared' := hs
  exact .mk _ (.mk _ hw)

lemma clients_eq (h : f.Alike R f') : f.clients = f'.clients := by
  cases h
  rfl

lemma shared_eq (h : f.Alike R f') : f.context.shared = f'.context.shared := by
  cases h with
  | mk clients hs =>
    cases hs
    rfl

lemma world (h : f.Alike R f') : R f.context.world f'.context.world := by
  cases h with
  | mk clients hs =>
    cases hs with
    | mk shared hw => exact hw

end Alike

variable {ctx : Context σ η} {ctx' : Context τ η} {f : Fleet σ η} {f' : Fleet τ η}

/-- A request is answered alike in fleets that are alike, where the call that it makes is. -/
lemma ask_alike (ctx : Context σ η) (ctx' : Context τ η) (h : f.Alike R f') (i : Nat)
    (r : Request) (hc : ∀ label store, Label.parse r.table = .ok label →
      (ctx.backend.call store (r.call label) f.context.world).Alike R
        (ctx'.backend.call store (r.call label) f'.context.world)) :
    (f.call ctx (.ask i r)).1 = (f'.call ctx' (.ask i r)).1 ∧
      (f.call ctx (.ask i r)).2.Alike R (f'.call ctx' (.ask i r)).2 := by
  cases h with
  | mk clients hs =>
    cases hs with
    | mk shared hw =>
      simp only [call]
      split
      · rename_i c hi
        have ha := r.run_alike c hw fun label store hp _ => hc label store hp
        exact ⟨congrArg (Reply.ofAnswer r) ha.outcome_eq, .mk _ (.mk _ ha.world)⟩
      · exact ⟨rfl, .mk _ (.mk _ hw)⟩

/-- Fleets of bisimilar contexts that are alike answer every call alike and stay alike. -/
theorem call_alike (hb : ctx.Bisimilar R ctx') (h : f.Alike R f') (c : Call) :
    (f.call ctx c).1 = (f'.call ctx' c).1 ∧ (f.call ctx c).2.Alike R (f'.call ctx' c).2 := by
  cases c with
  | create =>
    cases h with
    | mk clients hs => exact ⟨rfl, .mk _ hs⟩
  | init i =>
    cases h with
    | mk clients hs =>
      simp only [call]
      split
      · rename_i c hi
        have ha := hb.init c hs
        refine ⟨congrArg Reply.ofFinish ha.outcome_eq, ?_⟩
        rw [ha.world.1]
        exact .mk _ ha.world.2
      · exact ⟨rfl, .mk _ hs⟩
  | cleanup i =>
    cases h with
    | mk clients hs =>
      simp only [call]
      split
      · rename_i c hi
        have ha := hb.cleanup c hs
        refine ⟨congrArg Reply.ofFinish ha.outcome_eq, ?_⟩
        rw [ha.world.1]
        exact .mk _ ha.world.2
      · exact ⟨rfl, .mk _ hs⟩
  | drop i =>
    cases h with
    | mk clients hs =>
      simp only [call]
      split
      · rename_i c hi
        exact ⟨rfl, .mk _ (hb.drop c hs).world⟩
      · exact ⟨rfl, .mk _ hs⟩
  | ask i r => exact ask_alike ctx ctx' h i r fun label store _ => hb.call store _ h.world

/-- No sequence of calls tells such fleets apart. -/
theorem transcript_alike (hb : ctx.Bisimilar R ctx') (h : f.Alike R f') (calls : List Call) :
    (transcript (call ctx) calls f).1 = (transcript (call ctx') calls f').1 := by
  refine (transcript_agree (R := Alike R) (fun g g' c hg => ?_) calls h).1
  exact call_alike hb hg c

end Fleet

end KeyedGraph
