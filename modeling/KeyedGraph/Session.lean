import KeyedGraph.Client
import KeyedGraph.Store.Faulty
import KeyedGraph.Store.Memory

/-!
# Sessions

A session works on one context through named clients and named stores. Each command is one step;
its answer says how it ended, and a command that crashes ends by itself.
-/

namespace KeyedGraph

/-- A store that a session holds: one of the context's backend, or a store in memory of its
own. -/
inductive HeldStore (η : Type)
  | shared (handle : η)
  | own (memory : Memory)

/-- What a session works with. Faults of calls are in force only if it is faulty. -/
structure Session.Setup (σ η : Type) where
  settings : Settings
  backend : Backend σ η
  faulty : Bool := false

/-- The state of a session. -/
structure Session (σ η : Type) where
  context : ContextState (Faulty σ) η
  clients : List (String × Client η) := []
  stores : List (String × HeldStore η) := []

/-- What a session is told to do. -/
inductive Session.Command
  | create (client : String)
  | init (client : String)
  | cleanup (client : String)
  | isInitialized (client : String)
  | drop (client : String)
  | describeClient (client : String)
  | describeContext
  | read (client table key : String) (selection : Selection) (into : FieldSet)
  | scan (client table start : String) (count : Nat) (selection : Selection)
      (into : List FieldSet)
  | update (client table key : String) (values : FieldSet)
  | insert (client table key : String) (values : FieldSet)
  | delete (client table key : String)
  | acquire (store : String)
  | release
  | connect (store : String)
  | newStore (store : String)
  | nodeCount (store : String) (label : Except Error Label)
  | call (store : String) (c : Except Error StoreCall)
  | dropStore (store : String)
  | isSame (store other : String)
  | setFault (point : FaultPoint) (fault : Option Fault)
  | workers (count : Nat) (table : String)

/-- How one of several workers fared: whether its `init` succeeded, the status of its insertion,
and whether its `cleanup` succeeded. -/
structure Session.WorkerReport where
  initialized : Bool
  status : Status
  cleaned : Bool
deriving DecidableEq, Repr

/-- The answer to a command. -/
inductive Session.Answer
  | nothing
  | truth (value : Bool)
  | text (content : String)
  | count (n : Nat)
  | ended (outcome : Outcome Unit)
  | reply (c : StoreCall) (outcome : Outcome c.Reply)
  | status (value : Status)
  | record (status : Status) (fields : FieldSet)
  | records (status : Status) (rows : List FieldSet)
  | reports (workers : List Session.WorkerReport)
  | unknownName

/-- What a command leads to. -/
structure Session.Response (σ η : Type) where
  answer : Session.Answer
  session : Session σ η
  events : List Event := []

/-! ### Names -/

/-- Binds a name in front of what it was bound to before. -/
def bindName {α : Type} (name : String) (a : α) (bindings : List (String × α)) :
    List (String × α) :=
  (name, a) :: bindings.filter fun b => b.1 != name

/-- Frees a name. -/
def freeName {α : Type} (name : String) (bindings : List (String × α)) : List (String × α) :=
  bindings.filter fun b => b.1 != name

namespace Session.Setup

variable {σ η : Type}

/-- The context of a session. -/
def context (setup : Session.Setup σ η) : Context (Faulty σ) η :=
  { settings := setup.settings
    backend := setup.backend.withFaults }

end Session.Setup

namespace Session

variable {σ η : Type}

/-- A session that has done nothing yet. -/
def start (w : σ) : Session σ η :=
  { context := { world := { inner := w } } }

/-- The session with another world. -/
def withWorld (s : Session σ η) (w : Faulty σ) : Session σ η :=
  { s with context := { s.context with world := w } }

/-- The session with a client under a name and another context. -/
def withClient (s : Session σ η) (name : String) (p : Client η × ContextState (Faulty σ) η) :
    Session σ η :=
  { s with clients := bindName name p.1 s.clients, context := p.2 }

/-! ### Answers -/

/-- The response to a command that ends without a value of its own. -/
def ended {τ : Type} (a : Attempt τ Unit) (after : τ → Session σ η) : Response σ η :=
  { answer := .ended a.outcome, session := after a.world, events := a.events }

/-- The response to an operation. -/
def reported {α : Type} (s : Session σ η) (a : Attempt (Faulty σ) (Status × α))
    (form : Status × α → Answer) : Response σ η :=
  { answer :=
      match a.outcome with
      | .ok value => form value
      | .error cause => .ended (.error cause)
      | .crash => .ended .crash
    session := s.withWorld a.world
    events := a.events }

/-- The response to a command that takes a store and gives it a name. -/
def held {τ : Type} (name : String) (a : Attempt τ η) (after : τ → Session σ η) : Response σ η :=
  let s := after a.world
  match a.outcome with
  | .ok handle =>
    { answer := .ended (.ok ())
      session := { s with stores := bindName name (.shared handle) s.stores }
      events := a.events }
  | .error cause => { answer := .ended (.error cause), session := s, events := a.events }
  | .crash => { answer := .ended .crash, session := s, events := a.events }

/-- The response to a command about a client that has to be there. -/
def withNamed (s : Session σ η) (name : String) (respond : Client η → Response σ η) :
    Response σ η :=
  match s.clients.lookup name with
  | some client => respond client
  | none => { answer := .unknownName, session := s }

/-! ### Commands -/

/-- Drops a client that has a name. -/
def dropClient (setup : Setup σ η) (s : Session σ η) (client : Client η) (answer : Answer) :
    Response σ η :=
  let a := client.drop setup.context s.context
  { answer :=
      match a.outcome with
      | .crash => .ended .crash
      | _ => answer
    session := { s with context := a.world }
    events := a.events }

/-- Calls a store that has a name. -/
def callStore (setup : Setup σ η) (s : Session σ η) (name : String) (c : StoreCall) :
    Response σ η :=
  match s.stores.lookup name with
  | none => { answer := .unknownName, session := s }
  | some (.shared handle) =>
    let a := setup.context.backend.call handle c s.context.world
    { answer := .reply c a.outcome, session := s.withWorld a.world, events := a.events }
  | some (.own memory) =>
    let a := Memory.call 0 c memory
    { answer := .reply c a.outcome
      session := { s with stores := bindName name (.own a.world) s.stores }
      events := a.events }

/-- Whether two names hold one store. -/
def sameStore [DecidableEq η] (s : Session σ η) (name other : String) : Bool :=
  match s.stores.lookup name, s.stores.lookup other with
  | some (.shared handle), some (.shared handle') => handle = handle'
  | some (.own _), some (.own _) => name = other
  | _, _ => false

/-! ### Workers -/

/-- A worker at its work: its client, and what it has to report so far. -/
structure Worker (η : Type) where
  client : Client η
  report : WorkerReport

/-- Whether an outcome is a value. -/
def succeeded {α : Type} : Outcome α → Bool
  | .ok _ => true
  | _ => false

/-- Lets each worker of a list take a step, one after the other. -/
def eachWorker {τ : Type} (step : Nat → Worker η → τ → Worker η × τ × List Event) (index : Nat) :
    List (Worker η) → τ → List (Worker η) × τ × List Event
  | [], w => ([], w, [])
  | worker :: rest, w =>
    let (worker, w, events) := step index worker w
    let (rest, w, more) := eachWorker step (index + 1) rest w
    (worker :: rest, w, events ++ more)

/-- A worker takes its share of the connection. -/
def workerInit (setup : Setup σ η) (_ : Nat) (worker : Worker η)
    (s : ContextState (Faulty σ) η) : Worker η × ContextState (Faulty σ) η × List Event :=
  let a := worker.client.init setup.context s
  (⟨a.world.1, { worker.report with initialized := succeeded a.outcome }⟩, a.world.2, a.events)

/-- A worker inserts its own record. -/
def workerInsert (setup : Setup σ η) (table : String) (index : Nat) (worker : Worker η)
    (s : ContextState (Faulty σ) η) : Worker η × ContextState (Faulty σ) η × List Event :=
  let a := worker.client.insert setup.context.backend table ("user" ++ toString index) ∅ s.world
  let status :=
    match a.outcome with
    | .ok (status, _) => status
    | _ => .error
  ({ worker with report := { worker.report with status } },
    { s with world := a.world }, a.events)

/-- A worker gives its share up. -/
def workerCleanup (setup : Setup σ η) (_ : Nat) (worker : Worker η)
    (s : ContextState (Faulty σ) η) : Worker η × ContextState (Faulty σ) η × List Event :=
  let a := worker.client.cleanup setup.context s
  (⟨a.world.1, { worker.report with cleaned := succeeded a.outcome }⟩, a.world.2, a.events)

/-- Whether an event is a sample of the number of users. -/
def isUserSample : Event → Bool
  | .activeClients _ => true
  | _ => false

/-- Lets workers take their shares, insert a record each, and give their shares up. Of the events
only the samples of the number of users are kept, as their order is the same for every
schedule. -/
def runWorkers (setup : Setup σ η) (count : Nat) (table : String) (s : Session σ η) :
    Response σ η :=
  let workers := List.replicate count (⟨{}, ⟨false, .error, false⟩⟩ : Worker η)
  let (workers, context, opening) := eachWorker (workerInit setup) 0 workers s.context
  let (workers, context, working) := eachWorker (workerInsert setup table) 0 workers context
  let (workers, context, closing) := eachWorker (workerCleanup setup) 0 workers context
  { answer := .reports (workers.map (·.report))
    session := { s with context }
    events := (opening ++ working ++ closing).filter isUserSample }

/-! ### Steps -/

/-- Executes a command. -/
def step [DecidableEq η] (setup : Setup σ η) (s : Session σ η) :
    Command → Response σ η
  | .create name =>
    let older := s.clients.lookup name
    let s := { s with clients := bindName name {} s.clients }
    match older with
    | some client => dropClient setup s client .nothing
    | none => { answer := .nothing, session := s }
  | .init name =>
    s.withNamed name fun client =>
      ended (client.init setup.context s.context) (s.withClient name)
  | .cleanup name =>
    s.withNamed name fun client =>
      ended (client.cleanup setup.context s.context) (s.withClient name)
  | .isInitialized name =>
    s.withNamed name fun client => { answer := .truth client.isInitialized, session := s }
  | .drop name =>
    match s.clients.lookup name with
    | some client =>
      dropClient setup { s with clients := freeName name s.clients } client (.truth true)
    | none => { answer := .truth false, session := s }
  | .describeClient name =>
    s.withNamed name fun client =>
      { answer := .text (client.describe setup.settings s.context.shared), session := s }
  | .describeContext =>
    { answer := .text (KeyedGraph.describeContext setup.settings s.context.shared),
      session := s }
  | .read name table key selection into =>
    s.withNamed name fun client =>
      s.reported (client.read setup.context.backend table key selection into s.context.world)
        fun (status, fields) => .record status fields
  | .scan name table start count selection into =>
    s.withNamed name fun client =>
      s.reported
        (client.scan setup.context.backend table start count selection into s.context.world)
        fun (status, rows) => .records status rows
  | .update name table key values =>
    s.withNamed name fun client =>
      s.reported (client.update setup.context.backend table key values s.context.world)
        fun (status, _) => .status status
  | .insert name table key values =>
    s.withNamed name fun client =>
      s.reported (client.insert setup.context.backend table key values s.context.world)
        fun (status, _) => .status status
  | .delete name table key =>
    s.withNamed name fun client =>
      s.reported (client.delete setup.context.backend table key s.context.world)
        fun (status, _) => .status status
  | .acquire name =>
    held name (setup.context.acquire s.context) fun context => { s with context }
  | .release => ended (setup.context.release s.context) fun context => { s with context }
  | .connect name =>
    held name (setup.context.backend.connect setup.settings s.context.world) s.withWorld
  | .newStore name =>
    { answer := .nothing
      session := { s with stores := bindName name (.own .standalone) s.stores } }
  | .nodeCount _ (.error cause) => { answer := .ended (.error cause), session := s }
  | .nodeCount name (.ok label) =>
    match s.stores.lookup name with
    | some (.own memory) => { answer := .count (memory.nodeCount label), session := s }
    | _ => { answer := .unknownName, session := s }
  | .call _ (.error cause) => { answer := .ended (.error cause), session := s }
  | .call name (.ok c) => callStore setup s name c
  | .dropStore name =>
    { answer := .nothing, session := { s with stores := freeName name s.stores } }
  | .isSame name other => { answer := .truth (s.sameStore name other), session := s }
  | .setFault point fault =>
    { answer := .nothing
      session :=
        if setup.faulty || point = .connect then
          s.withWorld (s.context.world.setFault point fault)
        else s }
  | .workers count table => runWorkers setup count table s

end Session

end KeyedGraph
