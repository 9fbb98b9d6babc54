import KeyedGraph.Connection

/-!
# Clients

A client is what a workload works with. It shares the connection of its context from a successful
`init` until `cleanup`, and runs the five operations on the store that it was given. An operation
never fails: it reports a status, and leaves what its caller collects results in as it was unless
the status is `ok`.
-/

namespace KeyedGraph

/-- A client, with the store that it was given. -/
structure Client (η : Type) where
  store : Option η := none

/-- Whether a client has a store. -/
def Client.isInitialized {η : Type} (c : Client η) : Bool :=
  c.store.isSome

/-- The diagnostic form of a client. -/
def Client.describe {η : Type} (settings : Settings) (shared : SharedConnection η)
    (c : Client η) : String :=
  "GraphClient \x7b context: " ++ describeContext settings shared ++ ", initialized: " ++
    toString c.isInitialized ++ " \x7d"

/-! ### Records -/

/-- The source of a client's records. -/
def clientTarget : String := "graphkv::client"

/-- A table's name is not a label. -/
def tableRejected (operation : Operation) (table : String) (cause : Error) : Event :=
  .log {
    level := .warn
    target := clientTarget
    message := "Rejected table name"
    fields :=
      [("operation", .message operation.name), ("table", .text table),
        ("error", .message cause.message)] }

/-- An operation was asked of a client that has no store. -/
def operationUnready (operation : Operation) (table key : String) : Event :=
  .log {
    level := .error
    target := clientTarget
    message := "Operation failed"
    fields :=
      [("operation", .message operation.name), ("table", .text table), ("key", .text key),
        ("error", .message Error.notInitialized.message)] }

/-- The store failed an operation. -/
def operationFailed (operation : Operation) (label : Label) (key : String) (cause : Error) :
    Event :=
  .log {
    level := .error
    target := clientTarget
    message := "Operation failed"
    fields :=
      [("operation", .message operation.name), ("label", .message label.name),
        ("key", .text key), ("error", .message cause.message)] }

/-- A client got no store. -/
def initFailed (cause : Error) : Event :=
  .log {
    level := .error
    target := clientTarget
    message := "Could not initialize graph connection"
    fields := [("error", .message cause.message)] }

/-- A client that went away could not give up its share. -/
def dropFailed (cause : Error) : Event :=
  .log {
    level := .warn
    target := clientTarget
    message := "Failed to release graph connection on drop"
    fields := [("error", .message cause.message)] }

/-- A read found no node. -/
def readMissed (label : Label) (key : String) : Event :=
  .log {
    level := .debug
    target := clientTarget
    message := "No node matched read"
    fields := [("label", .message label.name), ("key", .text key)] }

/-- An update found no node. -/
def updateMissed (label : Label) (key : String) : Event :=
  .log {
    level := .debug
    target := clientTarget
    message := "Update matched no node"
    fields := [("label", .message label.name), ("key", .text key)] }

/-- A deletion removed this many nodes. -/
def deleteCompleted (label : Label) (key : String) (deleted : Nat) : Event :=
  .log {
    level := .trace
    target := clientTarget
    message := "Delete completed"
    fields :=
      [("label", .message label.name), ("key", .text key), ("deleted", .number deleted)] }

namespace Client

variable {σ η : Type}

/-! ### The life of a client -/

/-- Takes a share of the connection; a client that has one keeps it. -/
def init (ctx : Context σ η) (c : Client η) (s : ContextState σ η) :
    Attempt (Client η × ContextState σ η) Unit :=
  match c.store with
  | some _ => .done () (c, s)
  | none =>
    match ctx.acquire s with
    | ⟨.ok store, s, events⟩ => { outcome := .ok (), world := (⟨some store⟩, s), events }
    | ⟨.error cause, s, events⟩ =>
      { outcome := .error cause, world := (c, s), events := events ++ [initFailed cause] }
    | ⟨.crash, s, events⟩ => { outcome := .crash, world := (c, s), events }

/-- Gives the share up, if there is one. The client has no store afterwards, whatever happens. -/
def cleanup (ctx : Context σ η) (c : Client η) (s : ContextState σ η) :
    Attempt (Client η × ContextState σ η) Unit :=
  match c.store with
  | none => .done () (c, s)
  | some _ => (ctx.release s).mapWorld fun s => ({}, s)

/-- Takes a client away: what fails is only reported. -/
def drop (ctx : Context σ η) (c : Client η) (s : ContextState σ η) :
    Attempt (ContextState σ η) Unit :=
  match c.cleanup ctx s with
  | ⟨.ok (), (_, s), events⟩ => { outcome := .ok (), world := s, events }
  | ⟨.error cause, (_, s), events⟩ =>
    { outcome := .ok (), world := s, events := events ++ [dropFailed cause] }
  | ⟨.crash, (_, s), events⟩ => { outcome := .crash, world := s, events }

/-! ### Operations -/

/-- Runs an operation. Its body is reached only with a label and a store; it gives a status and
what the caller's collection becomes. The samples of the operation come last. -/
def execute {α : Type} (c : Client η) (operation : Operation) (table key : String)
    (collected : α) (body : η → Label → σ → Attempt σ (Status × α)) (w : σ) :
    Attempt σ (Status × α) :=
  match Label.parse table, c.store with
  | .error cause, _ =>
    { outcome := .ok (.badRequest, collected)
      world := w
      events := tableRejected operation table cause :: operationEvents operation .badRequest }
  | .ok _, none =>
    { outcome := .ok (.error, collected)
      world := w
      events := operationUnready operation table key :: operationEvents operation .error }
  | .ok label, some store =>
    match body store label w with
    | ⟨.ok (status, collected), w, events⟩ =>
      { outcome := .ok (status, collected)
        world := w
        events := events ++ operationEvents operation status }
    | ⟨.error cause, w, events⟩ =>
      { outcome := .ok (.error, collected)
        world := w
        events :=
          events ++ operationFailed operation label key cause ::
            operationEvents operation .error }
    | ⟨.crash, w, events⟩ => { outcome := .crash, world := w, events }

/-- Follows up the answer to a call with a value and with more events. -/
def followUp {α β : Type} (a : Attempt σ α) (f : α → β) (more : α → List Event) : Attempt σ β :=
  match a with
  | ⟨.ok value, w, events⟩ =>
    { outcome := .ok (f value), world := w, events := events ++ more value }
  | ⟨.error cause, w, events⟩ => { outcome := .error cause, world := w, events }
  | ⟨.crash, w, events⟩ => { outcome := .crash, world := w, events }

/-- Reads the fields of one record into a field set. -/
def read (b : Backend σ η) (c : Client η) (table key : String) (selection : Selection)
    (into : FieldSet) (w : σ) : Attempt σ (Status × FieldSet) :=
  c.execute .read table key into (fun store label w =>
    followUp (b.call store (.readNode label key) w)
      (fun
        | some node => (.ok, into.extend (projectFields node selection))
        | none => (.notFound, into))
      (fun
        | some _ => []
        | none => [readMissed label key])) w

/-- Reads records in the order of their keys and puts them behind those collected. -/
def scan (b : Backend σ η) (c : Client η) (table start : String) (count : Nat)
    (selection : Selection) (into : List FieldSet) (w : σ) :
    Attempt σ (Status × List FieldSet) :=
  c.execute .scan table start into (fun store label w =>
    if count = 0 then .done (.ok, into) w
    else
      followUp (b.call store (.scanNodes label start count) w)
        (fun nodes => (.ok, into ++ nodes.map fun node => projectFields node selection))
        (fun _ => [])) w

/-- Replaces the fields of a record. -/
def update (b : Backend σ η) (c : Client η) (table key : String) (values : FieldSet) (w : σ) :
    Attempt σ (Status × Unit) :=
  c.execute .update table key () (fun store label w =>
    followUp (b.call store (.replaceNode label key values) w) (fun _ => (.ok, ()))
      (fun matched => if matched = 0 then [updateMissed label key] else [])) w

/-- Inserts a record. -/
def insert (b : Backend σ η) (c : Client η) (table key : String) (values : FieldSet) (w : σ) :
    Attempt σ (Status × Unit) :=
  c.execute .insert table key () (fun store label w =>
    followUp (b.call store (.createNode label key values) w) (fun _ => (.ok, ())) fun _ => []) w

/-- Deletes a record. -/
def delete (b : Backend σ η) (c : Client η) (table key : String) (w : σ) :
    Attempt σ (Status × Unit) :=
  c.execute .delete table key () (fun store label w =>
    followUp (b.call store (.deleteNodes label key) w) (fun _ => (.ok, ()))
      (fun deleted => [deleteCompleted label key deleted])) w

end Client

end KeyedGraph
