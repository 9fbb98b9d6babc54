import KeyedGraph.Proofs.Fleet.Calls
import KeyedGraph.Proofs.Records.Table

/-!
# Directories

A directory is what a workload sees of a fleet over a store with unique keys: a table for each
label, and which clients are initialized. It knows of no connection, and no call but a change of
a record changes a table. A caller sees fields by looking names up, so a directory says of each
name what it is bound to; what is seen of all names determines the fields.
-/

namespace KeyedGraph

/-! ### What a caller sees -/

/-- What each name is bound to, if it is. -/
abbrev Bindings := String → Option String

/-- The bindings of fields. -/
def FieldSet.bindings (fields : FieldSet) : Bindings :=
  fun name => fields[name]?

lemma FieldSet.bindings_injective : Function.Injective FieldSet.bindings :=
  fun _ _ h => Std.ExtTreeMap.ext_getElem? fun name => congrFun h name

namespace Request

/-- What the caller of a request sees of what is collected. -/
@[reducible] def Sight : Request → Type
  | .read _ _ _ _ => Bindings
  | .scan _ _ _ _ _ => List Bindings
  | .update _ _ _ => Unit
  | .insert _ _ _ => Unit
  | .delete _ _ => Unit

/-- Looks at what is collected. -/
def see : (r : Request) → r.Collected → r.Sight
  | .read _ _ _ _, fields => fields.bindings
  | .scan _ _ _ _ _, rows => rows.map FieldSet.bindings
  | .update _ _ _, () => ()
  | .insert _ _ _, () => ()
  | .delete _ _, () => ()

/-- What the caller saw before the request. -/
def seenBefore : (r : Request) → r.Sight
  | .read _ _ _ into => into.bindings
  | .scan _ _ _ _ into => into.map FieldSet.bindings
  | .update _ _ _ => ()
  | .insert _ _ _ => ()
  | .delete _ _ => ()

lemma see_injective (r : Request) : Function.Injective r.see := by
  cases r with
  | read => exact FieldSet.bindings_injective
  | scan => exact List.map_injective_iff.mpr FieldSet.bindings_injective
  | update | insert | delete => exact fun _ _ _ => rfl

end Request

/-- A reply, as its caller sees it. -/
inductive Sighting
  | nothing
  | finished (succeeded : Bool)
  | answer (request : Request) (status : Status) (sight : request.Sight)
  | crashed

/-- Looks at a reply. -/
def Reply.seen : Reply → Sighting
  | .nothing => .nothing
  | .finished succeeded => .finished succeeded
  | .answer r status collected => .answer r status (r.see collected)
  | .crashed => .crashed

/-- Nothing of a reply escapes its caller. -/
lemma Reply.seen_injective : Function.Injective Reply.seen := by
  intro reply other h
  cases reply with
  | nothing | finished | crashed =>
    cases other <;> cases h
    rfl
  | answer r status collected =>
    cases other with
    | nothing | finished | crashed => cases h
    | answer r' status' collected' =>
      simp only [seen, Sighting.answer.injEq] at h
      obtain ⟨rfl, rfl, h⟩ := h
      rw [r.see_injective (eq_of_heq h)]

/-! ### Tables -/

/-- The table of each label. -/
abbrev Tables := Label → Table

/-- The tables with that of one label changed. -/
def Tables.set (tables : Tables) (label : Label) (table : Table) : Tables :=
  fun l => if l = label then table else tables l

/-- What a request on the records of a label is answered, and the tables behind it. A read finds
the fields that are asked for in front of what its caller had, and a scan puts those of each
record of its page behind it. -/
def Tables.serve (tables : Tables) (label : Label) :
    (r : Request) → (Status × r.Sight) × Tables
  | .read _ key selection into =>
    match (tables label)[key]? with
    | some record =>
      ((.ok, fun name => (record.find? key selection name).or into[name]?), tables)
    | none => ((.notFound, into.bindings), tables)
  | .scan _ start count selection into =>
    let page := (tables label).page start count
    ((.ok, into.map FieldSet.bindings ++
      page.map fun (key, record) => record.find? key selection), tables)
  | .update _ key values =>
    if key ∈ tables label then
      ((.ok, ()), tables.set label ((tables label).insert key (.ofValues values)))
    else ((.ok, ()), tables)
  | .insert _ key values =>
    if key ∈ tables label then ((.error, ()), tables)
    else ((.ok, ()), tables.set label ((tables label).insert key (.ofValues values)))
  | .delete _ key => ((.ok, ()), tables.set label ((tables label).erase key))

/-! ### Clients -/

/-- Where the workload sees a client. -/
inductive Standing
  | uninitialized
  | initialized
  | dropped
deriving DecidableEq

/-- The tables, and the clients in the order of their creation. -/
structure Directory where
  tables : Tables := fun _ => ∅
  clients : List Standing := []

namespace Directory

/-- Whether there is such a client. -/
def isPresent (d : Directory) (i : Nat) : Bool :=
  d.clients[i]?.any (· ≠ .dropped)

/-- Whether there is such a client and it is initialized. -/
def isInitialized (d : Directory) (i : Nat) : Bool :=
  d.clients[i]? = some .initialized

/-- What a client is answered that is initialized or not. -/
def ask (d : Directory) (initialized : Bool) (r : Request) : (Status × r.Sight) × Tables :=
  match Label.parse r.table, initialized with
  | .error _, _ => ((.badRequest, r.seenBefore), d.tables)
  | .ok _, false => ((.error, r.seenBefore), d.tables)
  | .ok label, true => d.tables.serve label r

/-- Makes a call. -/
def call (d : Directory) : Call → Sighting × Directory
  | .create => (.nothing, { d with clients := d.clients ++ [.uninitialized] })
  | .init i =>
    if d.isPresent i then (.finished true, { d with clients := d.clients.set i .initialized })
    else (.nothing, d)
  | .cleanup i =>
    if d.isPresent i then (.finished true, { d with clients := d.clients.set i .uninitialized })
    else (.nothing, d)
  | .drop i => (.nothing, { d with clients := d.clients.set i .dropped })
  | .ask i r =>
    if d.isPresent i then
      let ((status, sight), tables) := d.ask (d.isInitialized i) r
      (.answer r status sight, { d with tables })
    else (.nothing, d)

end Directory

end KeyedGraph
