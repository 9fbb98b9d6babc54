import KeyedGraph.Proofs.Client.Request
import KeyedGraph.Proofs.Store.Handles
import KeyedGraph.Store.Faulty

/-!
# Requests do all or nothing

A request makes at most one call, and its status says exactly what came of it. What the caller
has collected changes only if the status is `ok`. Over a backend whose calls leave the world
alone when they fail, the world changes only then too.
-/

namespace KeyedGraph

variable {σ η : Type}

/-! ### Counting calls -/

/-- A world with the calls that were made so far, each with the store that it was made on. -/
structure Trace (σ η : Type) where
  inner : σ
  calls : List (η × StoreCall) := []

/-- The backend that keeps a trace of the calls on it. -/
def Backend.traced (b : Backend σ η) : Backend (Trace σ η) η :=
  { connect := fun settings t =>
      (b.connect settings t.inner).mapWorld fun inner => { t with inner }
    call := fun store c t =>
      (b.call store c t.inner).mapWorld fun inner => ⟨inner, t.calls ++ [(store, c)]⟩ }

lemma Backend.traced_call (b : Backend σ η) (store : η) (c : StoreCall) (t : Trace σ η) :
    b.traced.call store c t =
      { outcome := (b.call store c t.inner).outcome
        world := ⟨(b.call store c t.inner).world, t.calls ++ [(store, c)]⟩
        events := (b.call store c t.inner).events } := rfl

/-- Keeping a trace changes nothing else. -/
lemma Request.inner_run_traced (b : Backend σ η) (c : Client η) (r : Request) (t : Trace σ η) :
    (r.run b.traced c t).mapWorld Trace.inner = r.run b c t.inner := by
  have h : (r.run b.traced c t).mapWorld Trace.inner =
      r.run b { store := c.store.map id } t.inner :=
    Request.mapWorld_run Trace.inner id (fun _ _ _ => rfl) c r t
  simpa using h

/-! ### What a caller collects -/

lemma FieldSet.getElem?_extend (fields added : FieldSet) (name : String) :
    (fields.extend added)[name]? = added[name]?.or fields[name]? := by
  cases h : added[name]? with
  | some value =>
    exact Std.ExtTreeMap.getElem?_insertMany_list_of_mem Std.ReflCmp.compare_self
      Std.ExtTreeMap.distinct_keys_toList (Std.ExtTreeMap.mem_toList_iff_getElem?_eq_some.mpr h)
  | none =>
    refine Std.ExtTreeMap.getElem?_insertMany_list_of_contains_eq_false ?_
    rw [List.contains_eq_mem, decide_eq_false_iff_not]
    intro hm
    obtain ⟨⟨name', value⟩, hv, rfl⟩ := List.mem_map.mp hm
    rw [Std.ExtTreeMap.mem_toList_iff_getElem?_eq_some.mp hv] at h
    cases h

namespace Request

/-- What a reply demands of the status and of what the caller has collected: a read adds the
fields that are asked for and keeps all others, a scan keeps the rows that are there and puts new
ones behind them, and a read that finds nothing changes nothing. -/
def Fulfilled (label : Label) :
    (r : Request) → (r.call label).Reply → Status → r.Collected → Prop
  | .read _ _ selection into, reply, status, fields =>
    match reply with
    | some node =>
      status = .ok ∧ ∀ name : String,
        fields[name]? = (projectFields node selection)[name]?.or into[name]?
    | none => status = .notFound ∧ fields = into
  | .scan _ _ _ selection into, nodes, status, rows =>
    status = .ok ∧ rows = into ++ nodes.map fun node => projectFields node selection
  | .update _ _ _, _, status, _ => status = .ok
  | .insert _ _ _, _, status, _ => status = .ok
  | .delete _ _, _, status, _ => status = .ok

variable {r : Request} {label : Label}

lemma fulfilled_conclude (reply : (r.call label).Reply) :
    r.Fulfilled label reply (r.conclude label reply).1 (r.conclude label reply).2 := by
  cases r with
  | read table key selection into =>
    cases reply with
    | some node => exact ⟨rfl, into.getElem?_extend (projectFields node selection)⟩
    | none => exact ⟨rfl, rfl⟩
  | scan => exact ⟨rfl, rfl⟩
  | update | insert | delete => rfl

/-- Only an answered read ends well and with another status than `ok`. -/
lemma conclude_of_not_ok {reply : (r.call label).Reply} (h : (r.conclude label reply).1 ≠ .ok) :
    (r.conclude label reply).2 = r.untouched ∧ ∃ key, r.call label = .readNode label key := by
  cases r with
  | read table key selection into =>
    cases reply with
    | some node => exact absurd rfl h
    | none => exact ⟨rfl, key, rfl⟩
  | scan | update | insert | delete => exact absurd rfl h

/-- What the caller has collected stays, unless the status is `ok`. -/
lemma collected_of_not_ok (b : Backend σ η) (c : Client η) (r : Request) (w : σ)
    {status : Status} {collected : r.Collected}
    (ho : (r.run b c w).outcome = .ok (status, collected)) (hs : status ≠ .ok) :
    collected = r.untouched := by
  have hc := run_cases b c r w
  generalize r.run b c w = a at hc ho
  cases hc with
  | rejected | unready => exact (congrArg Prod.snd (Outcome.ok.inj ho)).symm
  | idle => exact absurd (congrArg Prod.fst (Outcome.ok.inj ho)).symm hs
  | asked label store hp hstore hi =>
    generalize b.call store (r.call label) w = a at ho
    obtain ⟨o, w, es⟩ := a
    cases o with
    | ok reply =>
      have hx : r.conclude label reply = (status, collected) := Outcome.ok.inj ho
      have hne : (r.conclude label reply).1 ≠ .ok := by rwa [hx]
      have hu := (conclude_of_not_ok hne).1
      rwa [hx] at hu
    | error => exact (congrArg Prod.snd (Outcome.ok.inj ho)).symm
    | crash => cases ho

end Request

/-! ### Backends that fail without effect -/

/-- A backend whose reads change nothing, and neither do calls without success. -/
structure Backend.Careful (b : Backend σ η) : Prop where
  read (store : η) (label : Label) (key : String) (w : σ) :
    (b.call store (.readNode label key) w).world = w
  failed {store : η} {c : StoreCall} {w : σ}
    (h : ∀ reply, (b.call store c w).outcome ≠ .ok reply) : (b.call store c w).world = w

/-- Over such a backend, a request that does not end with `ok` changes nothing. -/
lemma Request.world_of_not_ok {b : Backend σ η} (hb : b.Careful) {c : Client η} {r : Request}
    {w : σ} (h : ∀ collected, (r.run b c w).outcome ≠ .ok (.ok, collected)) :
    (r.run b c w).world = w := by
  have hc := run_cases b c r w
  generalize r.run b c w = a at hc h ⊢
  cases hc with
  | rejected | unready | idle => rfl
  | asked label store hp hs hi =>
    rw [world_finish]
    cases ho : (b.call store (r.call label) w).outcome with
    | error | crash => exact hb.failed (by simp [ho])
    | ok reply =>
      have hne : (r.conclude label reply).1 ≠ .ok := by
        intro hok
        refine h (r.conclude label reply).2 ?_
        generalize b.call store (r.call label) w = a at ho
        obtain ⟨o, w, es⟩ := a
        obtain rfl : o = .ok reply := ho
        rw [← hok]
        rfl
      obtain ⟨-, key, hcall⟩ := conclude_of_not_ok hne
      rw [hcall]
      exact hb.read store label key w

lemma Memory.careful : backend.Careful where
  read handle label key m := by
    change (call handle (.readNode label key) m).world = m
    rw [call_of_ne_close handle m (by simp)]
    split <;> rfl
  failed {handle c m} h := by
    change ∀ reply, (call handle c m).outcome ≠ .ok reply at h
    change (call handle c m).world = m
    by_cases hc : c = .close
    · subst hc
      exact absurd rfl (h ())
    · rw [call_of_ne_close handle m hc] at h ⊢
      split at h
      · rename_i hx
        rw [if_pos hx]
        rfl
      · rename_i hx
        rw [if_neg hx]
        cases c with
        | createNode label key values =>
          simp only [answer, createNode] at h ⊢
          split at h
          · rename_i hu
            rw [if_pos hu]
            rfl
          · exact absurd rfl (h ())
        | _ => exact absurd rfl (h _)

/-- Stopping calls before they reach the backend leaves it careful. -/
lemma Backend.Careful.withFaults {b : Backend σ η} (hb : b.Careful) : b.withFaults.Careful where
  read store label key w := by
    simp only [Backend.withFaults, Faulty.guarded]
    split
    · rfl
    · simp only [Attempt.mapWorld, hb.read]
  failed {store c w} h := by
    simp only [Backend.withFaults, Faulty.guarded] at h ⊢
    split at h
    · rfl
    · simp only [Attempt.mapWorld] at h ⊢
      rw [hb.failed h]

/-! ### Requests -/

/-- A request on a table that is no label, or on a client that has no store, or for no records,
makes no call. Any other makes one call on the client's store, with its label and key, and ends
as the answer demands. What the caller has collected stays, unless the status is `ok`; and so do
the nodes in memory, also if calls are stopped before they reach the store. -/
theorem requests_do_all_or_nothing (b : Backend σ η) (c : Client η) (r : Request) (w : σ) :
    let a := r.run b.traced c { inner := w }
    a.mapWorld Trace.inner = r.run b c w ∧
    (∀ cause, Label.parse r.table = .error cause →
      a.outcome = .ok (.badRequest, r.untouched) ∧ a.world = { inner := w }) ∧
    (∀ label, Label.parse r.table = .ok label → c.store = none →
      a.outcome = .ok (.error, r.untouched) ∧ a.world = { inner := w }) ∧
    (∀ label store, Label.parse r.table = .ok label → c.store = some store → r.isIdle = true →
      a.outcome = .ok (.ok, r.untouched) ∧ a.world = { inner := w }) ∧
    (∀ label store, Label.parse r.table = .ok label → c.store = some store → r.isIdle = false →
      a.world =
        { inner := (b.call store (r.call label) w).world, calls := [(store, r.call label)] } ∧
      match (b.call store (r.call label) w).outcome with
      | .ok reply =>
        ∃ status collected, a.outcome = .ok (status, collected) ∧
          r.Fulfilled label reply status collected
      | .error _ => a.outcome = .ok (.error, r.untouched)
      | .crash => a.outcome = .crash) ∧
    (∀ status collected, a.outcome = .ok (status, collected) → status ≠ .ok →
      collected = r.untouched) ∧
    (∀ (client : Client Nat) (m : Memory),
      (∀ collected, (r.run Memory.backend client m).outcome ≠ .ok (.ok, collected)) →
      (r.run Memory.backend client m).world = m) ∧
    (∀ (client : Client Nat) (m : Faulty Memory),
      (∀ collected, (r.run Memory.backend.withFaults client m).outcome ≠ .ok (.ok, collected)) →
      (r.run Memory.backend.withFaults client m).world = m) := by
  intro a
  refine ⟨Request.inner_run_traced b c r _, fun cause hp => ?_, fun label hp hs => ?_,
    fun label store hp hs hi => ?_, fun label store hp hs hi => ?_,
    fun status collected => Request.collected_of_not_ok b.traced c r _,
    fun client m => Request.world_of_not_ok Memory.careful,
    fun client m => Request.world_of_not_ok Memory.careful.withFaults⟩
  · simp only [a, Request.run_of_no_label b.traced hp, and_self]
  · simp only [a, Request.run_of_none b.traced hp hs, and_self]
  · simp only [a, Request.run_of_idle b.traced hp hs hi, and_self]
  · simp only [a, Request.run_of_ready b.traced hp hs hi, Backend.traced_call]
    refine ⟨by rw [Request.world_finish, List.nil_append], ?_⟩
    generalize b.call store (r.call label) w = answer
    obtain ⟨o, w', es⟩ := answer
    cases o with
    | ok reply => exact ⟨_, _, rfl, Request.fulfilled_conclude reply⟩
    | error | crash => rfl

end KeyedGraph
