import KeyedGraph.Client
import KeyedGraph.Proofs.Connection.Ledger

/-!
# Requests

A request is one of the five operations with its arguments and with what its caller collects
results in. On a table that is there, a client that has a store makes one call on it and finishes
with what the store replied: `Request.run_of_ready` says so of all five operations at once. Only
a scan of no records makes no call. What is proved about requests elsewhere rests on these
equations and does not open the operations again.
-/

namespace KeyedGraph

/-- A request to a client. -/
inductive Request
  | read (table key : String) (selection : Selection) (into : FieldSet)
  | scan (table start : String) (count : Nat) (selection : Selection) (into : List FieldSet)
  | update (table key : String) (values : FieldSet)
  | insert (table key : String) (values : FieldSet)
  | delete (table key : String)

/-- What the caller of a request collects. -/
@[reducible] def Request.Collected : Request → Type
  | .read _ _ _ _ => FieldSet
  | .scan _ _ _ _ _ => List FieldSet
  | .update _ _ _ => Unit
  | .insert _ _ _ => Unit
  | .delete _ _ => Unit

/-- The table that a request names. -/
def Request.table : Request → String
  | .read table _ _ _ => table
  | .scan table _ _ _ _ => table
  | .update table _ _ => table
  | .insert table _ _ => table
  | .delete table _ => table

/-- What the caller of a request has collected so far. -/
def Request.untouched : (r : Request) → r.Collected
  | .read _ _ _ into => into
  | .scan _ _ _ _ into => into
  | .update _ _ _ => ()
  | .insert _ _ _ => ()
  | .delete _ _ => ()

variable {σ η : Type}

/-- What a client does for a request. -/
def Request.run (b : Backend σ η) (c : Client η) :
    (r : Request) → σ → Attempt σ (Status × r.Collected)
  | .read table key selection into => c.read b table key selection into
  | .scan table start count selection into => c.scan b table start count selection into
  | .update table key values => c.update b table key values
  | .insert table key values => c.insert b table key values
  | .delete table key => c.delete b table key

namespace Request

/-! ### What a request asks for -/

/-- The operation that a request is for. -/
def operation : Request → Operation
  | .read _ _ _ _ => .read
  | .scan _ _ _ _ _ => .scan
  | .update _ _ _ => .update
  | .insert _ _ _ => .insert
  | .delete _ _ => .delete

/-- The key that a request names; that of a scan is where it starts. -/
def key : Request → String
  | .read _ key _ _ => key
  | .scan _ start _ _ _ => start
  | .update _ key _ => key
  | .insert _ key _ => key
  | .delete _ key => key

/-- Whether a request is a scan of no records. -/
def isIdle : Request → Bool
  | .scan _ _ count _ _ => count = 0
  | _ => false

/-- The call that a request makes on the nodes of its table's label. -/
def call (label : Label) : Request → StoreCall
  | .read _ key _ _ => .readNode label key
  | .scan _ start count _ _ => .scanNodes label start count
  | .update _ key values => .replaceNode label key values
  | .insert _ key values => .createNode label key values
  | .delete _ key => .deleteNodes label key

lemma call_ne_close (r : Request) (label : Label) : r.call label ≠ .close := by
  cases r <;> simp [call]

/-! ### What a request makes of a reply -/

/-- The status that a request ends with behind a reply, and what its caller has collected
then. -/
def conclude (label : Label) : (r : Request) → (r.call label).Reply → Status × r.Collected
  | .read _ _ selection into, reply =>
    match reply with
    | some node => (.ok, into.extend (projectFields node selection))
    | none => (.notFound, into)
  | .scan _ _ _ selection into, nodes =>
    (.ok, into ++ nodes.map fun node => projectFields node selection)
  | .update _ _ _, _ => (.ok, ())
  | .insert _ _ _, _ => (.ok, ())
  | .delete _ _, _ => (.ok, ())

/-- What is recorded about a reply. -/
def remarks (label : Label) : (r : Request) → (r.call label).Reply → List Event
  | .read _ key _ _, reply =>
    match reply with
    | some _ => []
    | none => [readMissed label key]
  | .scan _ _ _ _ _, _ => []
  | .update _ key _, (matched : Nat) => if matched = 0 then [updateMissed label key] else []
  | .insert _ _ _, _ => []
  | .delete _ key, deleted => [deleteCompleted label key deleted]

/-- What an operation comes to, whose body follows up the answer to a call. -/
def report {α β : Type} (operation : Operation) (label : Label) (key : String) (collected : α)
    (f : β → Status × α) (more : β → List Event) : Attempt σ β → Attempt σ (Status × α)
  | ⟨.ok reply, w, events⟩ =>
    { outcome := .ok (f reply)
      world := w
      events := events ++ more reply ++ operationEvents operation (f reply).1 }
  | ⟨.error cause, w, events⟩ =>
    { outcome := .ok (.error, collected)
      world := w
      events :=
        events ++ operationFailed operation label key cause :: operationEvents operation .error }
  | ⟨.crash, w, events⟩ => { outcome := .crash, world := w, events }

/-- Finishes a request with the answer to its call. -/
def finish (r : Request) (label : Label) (a : Attempt σ (r.call label).Reply) :
    Attempt σ (Status × r.Collected) :=
  report r.operation label r.key r.untouched (r.conclude label) (r.remarks label) a

@[simp] lemma world_finish (r : Request) (label : Label) (a : Attempt σ (r.call label).Reply) :
    (r.finish label a).world = a.world := by
  obtain ⟨o, w, es⟩ := a
  cases o <;> rfl

/-! ### Requests as exchanges -/

variable (b : Backend σ η) {c : Client η} {r : Request} {label : Label} {store : η}

/-- An operation of a client that has a store reports how its body ends. -/
lemma execute_of_ready {α : Type} {table : String} (hp : Label.parse table = .ok label)
    (hs : c.store = some store) (operation : Operation) (key : String) (collected : α)
    (body : η → Label → σ → Attempt σ (Status × α)) (w : σ) :
    c.execute operation table key collected body w =
      report operation label key collected id (fun _ => []) (body store label w) := by
  simp only [Client.execute, hp, hs]
  generalize body store label w = a
  obtain ⟨o, w, es⟩ := a
  cases o with
  | ok => simp [report]
  | error | crash => rfl

/-- A body that follows up the answer to a call. -/
lemma report_followUp {α β : Type} (operation : Operation) (label : Label) (key : String)
    (collected : α) (f : β → Status × α) (more : β → List Event) (a : Attempt σ β) :
    report operation label key collected id (fun _ => []) (Client.followUp a f more) =
      report operation label key collected f more a := by
  obtain ⟨o, w, es⟩ := a
  cases o with
  | ok => simp [Client.followUp, report]
  | error | crash => rfl

/-- A client that has a store makes one call and finishes with the reply. -/
theorem run_of_ready (hp : Label.parse r.table = .ok label) (hs : c.store = some store)
    (hi : r.isIdle = false) (w : σ) :
    r.run b c w = r.finish label (b.call store (r.call label) w) := by
  cases r with
  | read table key selection into =>
    change Label.parse table = _ at hp
    rw [run, Client.read, execute_of_ready hp hs, report_followUp, finish]
    congr 1
    all_goals
      funext reply
      cases reply <;> rfl
  | scan table start count selection into =>
    change Label.parse table = _ at hp
    have hc : count ≠ 0 := by simpa [isIdle] using hi
    rw [run, Client.scan, execute_of_ready hp hs, if_neg hc, report_followUp]
    rfl
  | update table key values =>
    change Label.parse table = _ at hp
    rw [run, Client.update, execute_of_ready hp hs, report_followUp]
    rfl
  | insert table key values =>
    change Label.parse table = _ at hp
    rw [run, Client.insert, execute_of_ready hp hs, report_followUp]
    rfl
  | delete table key =>
    change Label.parse table = _ at hp
    rw [run, Client.delete, execute_of_ready hp hs, report_followUp]
    rfl

/-- A scan of no records makes no call. -/
theorem run_of_idle (hp : Label.parse r.table = .ok label) (hs : c.store = some store)
    (hi : r.isIdle = true) (w : σ) :
    r.run b c w =
      { outcome := .ok (.ok, r.untouched)
        world := w
        events := operationEvents r.operation .ok } := by
  cases r with
  | scan table start count selection into =>
    change Label.parse table = _ at hp
    have hc : count = 0 := by simpa [isIdle] using hi
    rw [run, Client.scan, execute_of_ready hp hs, if_pos hc]
    rfl
  | _ => cases hi

/-- A client that has no store makes no call. -/
theorem run_of_none (hp : Label.parse r.table = .ok label) (hs : c.store = none) (w : σ) :
    r.run b c w =
      { outcome := .ok (.error, r.untouched)
        world := w
        events :=
          operationUnready r.operation r.table r.key ::
            operationEvents r.operation .error } := by
  cases r with
  | read table | scan table | update table | insert table | delete table =>
    change Label.parse table = _ at hp
    simp only [run, Client.read, Client.scan, Client.update, Client.insert, Client.delete,
      Client.execute, hp, hs]
    rfl

/-- Without a label for its table, a request makes no call. -/
theorem run_of_no_label {cause : Error} (hp : Label.parse r.table = .error cause) (c : Client η)
    (w : σ) :
    r.run b c w =
      { outcome := .ok (.badRequest, r.untouched)
        world := w
        events :=
          tableRejected r.operation r.table cause ::
            operationEvents r.operation .badRequest } := by
  cases r with
  | read table | scan table | update table | insert table | delete table =>
    change Label.parse table = _ at hp
    simp only [run, Client.read, Client.scan, Client.update, Client.insert, Client.delete,
      Client.execute, hp]
    rfl

/-! ### How requests go -/

/-- The ways in which a request goes. -/
inductive Course (b : Backend σ η) (c : Client η) (r : Request) (w : σ) :
    Attempt σ (Status × r.Collected) → Prop
  | rejected (cause : Error) (hp : Label.parse r.table = .error cause) :
      Course b c r w
        { outcome := .ok (.badRequest, r.untouched)
          world := w
          events :=
            tableRejected r.operation r.table cause :: operationEvents r.operation .badRequest }
  | unready (label : Label) (hp : Label.parse r.table = .ok label) (hs : c.store = none) :
      Course b c r w
        { outcome := .ok (.error, r.untouched)
          world := w
          events :=
            operationUnready r.operation r.table r.key :: operationEvents r.operation .error }
  | idle (label : Label) (store : η) (hp : Label.parse r.table = .ok label)
      (hs : c.store = some store) (hi : r.isIdle = true) :
      Course b c r w
        { outcome := .ok (.ok, r.untouched)
          world := w
          events := operationEvents r.operation .ok }
  | asked (label : Label) (store : η) (hp : Label.parse r.table = .ok label)
      (hs : c.store = some store) (hi : r.isIdle = false) :
      Course b c r w (r.finish label (b.call store (r.call label) w))

/-- Every request goes in one of the ways. -/
theorem run_cases (c : Client η) (r : Request) (w : σ) : Course b c r w (r.run b c w) := by
  cases hp : Label.parse r.table with
  | error cause =>
    rw [run_of_no_label b hp]
    exact .rejected cause hp
  | ok label =>
    cases hs : c.store with
    | none =>
      rw [run_of_none b hp hs]
      exact .unready label hp hs
    | some store =>
      cases hi : r.isIdle with
      | true =>
        rw [run_of_idle b hp hs hi]
        exact .idle label store hp hs hi
      | false =>
        rw [run_of_ready b hp hs hi]
        exact .asked label store hp hs hi

/-- A request leaves the world as it is, or makes one call on the client's store. -/
lemma world_run (b : Backend σ η) (c : Client η) (r : Request) (w : σ) :
    (r.run b c w).world = w ∨
      ∃ store call, c.store = some store ∧ call ≠ .close ∧
        (r.run b c w).world = (b.call store call w).world := by
  have hc := run_cases b c r w
  generalize r.run b c w = a at hc ⊢
  cases hc with
  | rejected | unready | idle => exact .inl rfl
  | asked label store hp hs hi =>
    exact .inr ⟨store, r.call label, hs, r.call_ne_close label, world_finish ..⟩

/-! ### Requests on two backends -/

/-- A request does the same on two backends, where one does what the other does, with other
worlds and other stores. -/
theorem mapWorld_run {τ θ : Type} {b : Backend σ η} {b' : Backend τ θ} (f : σ → τ) (g : η → θ)
    (h : ∀ store call w, (b.call store call w).mapWorld f = b'.call (g store) call (f w))
    (c : Client η) (r : Request) (w : σ) :
    (r.run b c w).mapWorld f = r.run b' { store := c.store.map g } (f w) := by
  have hc := run_cases b c r w
  generalize r.run b c w = a at hc ⊢
  cases hc with
  | rejected cause hp => exact (run_of_no_label b' hp ..).symm
  | unready label hp hs => exact (run_of_none b' hp (by simp [hs]) _).symm
  | idle label store hp hs hi =>
    rw [hs]
    exact (run_of_idle b' hp rfl hi _).symm
  | asked label store hp hs hi =>
    rw [hs, Option.map_some, run_of_ready b' hp rfl hi]
    change _ = r.finish label (b'.call (g store) _ _)
    rw [← h]
    generalize b.call store (r.call label) w = a
    obtain ⟨o, w, es⟩ := a
    cases o <;> rfl

end Request

/-! ### Recorded requests -/

/-- A client, without the number of its store. -/
def Client.plain (c : Client (Numbered η)) : Client η :=
  { store := c.store.map Numbered.handle }

/-- Recording a request changes nothing but the ledger. -/
theorem Request.plain_run (b : Backend σ η) (c : Client (Numbered η)) (r : Request)
    (l : Ledger σ) :
    (r.run b.recorded c l).mapWorld Ledger.inner = r.run b c.plain l.inner :=
  mapWorld_run Ledger.inner Numbered.handle (fun _ _ _ => rfl) c r l

end KeyedGraph
