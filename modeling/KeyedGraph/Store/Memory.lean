import KeyedGraph.Store

/-!
# The store in memory

Nodes are kept as lists in the order of their creation, one list for each label. All handles
share the nodes; a handle works until it is closed.
-/

namespace KeyedGraph

/-! ### Nodes of one label -/

/-- The first node with a key. -/
def findNode (key : String) (nodes : List FieldSet) : Option FieldSet :=
  nodes.find? (hasKey key)

/-- Whether a node's key is at or behind a start key. -/
def reaches (start : String) (node : FieldSet) : Bool :=
  match nodeKey? node with
  | some key => start ≤ key
  | none => false

/-- Whether the key of one node is at or before that of another; a node without a key comes
first. -/
def keyLe (a b : FieldSet) : Bool :=
  match nodeKey? a, nodeKey? b with
  | some k, some l => k ≤ l
  | none, _ => true
  | some _, none => false

/-- At most `limit` nodes from a start key on, in the order of their keys; nodes with one key
stay in the order of their creation. -/
def scanList (start : String) (limit : Nat) (nodes : List FieldSet) : List FieldSet :=
  ((nodes.filter (reaches start)).mergeSort keyLe).take limit

/-- How many nodes have a key. -/
def countKey (key : String) (nodes : List FieldSet) : Nat :=
  nodes.countP (hasKey key)

/-- Gives all nodes with a key these values and no others. -/
def replaceKey (key : String) (values : FieldSet) (nodes : List FieldSet) : List FieldSet :=
  nodes.map fun node => if hasKey key node then nodeProperties key values else node

/-- Leaves out the nodes with a key. -/
def removeKey (key : String) (nodes : List FieldSet) : List FieldSet :=
  nodes.filter fun node => !hasKey key node

/-! ### The store -/

/-- Nodes by their label. -/
abbrev Nodes := Label → List FieldSet

/-- The nodes with those of one label changed. -/
def Nodes.set (nodes : Nodes) (label : Label) (list : List FieldSet) : Nodes :=
  fun l => if l = label then list else nodes l

/-- A store in memory: its nodes, whether it keeps keys unique, whether it refuses connections,
how many handles it has opened, and which of them are closed. Handles are numbered from zero. -/
structure Memory where
  nodes : Nodes := fun _ => []
  uniqueKeys : Bool := false
  unreachable : Bool := false
  opened : Nat := 0
  closedHandles : List Nat := []

namespace Memory

/-- How many handles are closed. -/
def closed (m : Memory) : Nat :=
  m.closedHandles.length

/-- Whether a handle is closed. -/
def isClosed (m : Memory) (handle : Nat) : Bool :=
  m.closedHandles.contains handle

/-- How many nodes a label has. -/
def nodeCount (m : Memory) (label : Label) : Nat :=
  (m.nodes label).length

/-- The name of a kind of call in errors. -/
def callName : CallKind → String
  | .verifyConnectivity => "memory_verify_connectivity"
  | .readNode => "memory_read"
  | .scanNodes => "memory_scan"
  | .replaceNode => "memory_replace"
  | .createNode => "memory_create"
  | .deleteNodes => "memory_delete"
  | .close => "memory_close"

/-- Puts the nodes of one label. -/
def setNodes (m : Memory) (label : Label) (list : List FieldSet) : Memory :=
  { m with nodes := m.nodes.set label list }

/-- Creates a node, unless keys are unique and its key is taken. -/
def createNode (label : Label) (key : String) (values : FieldSet) (m : Memory) :
    Attempt Memory Unit :=
  if m.uniqueKeys && (m.nodes label).any (hasKey key) then
    .failed (.operationFailed (callName .createNode) (.duplicateNode label.name key)) m
  else .done () (m.setNodes label (m.nodes label ++ [nodeProperties key values]))

/-- Closes a handle; one that is closed stays so. -/
def closeHandle (handle : Nat) (m : Memory) : Memory :=
  if m.isClosed handle then m else { m with closedHandles := handle :: m.closedHandles }

/-- The answer to a call on a handle that is open. -/
def answer : (c : StoreCall) → Memory → Attempt Memory c.Reply
  | .verifyConnectivity, m => .done () m
  | .readNode label key, m => .done (findNode key (m.nodes label)) m
  | .scanNodes label start limit, m => .done (scanList start limit (m.nodes label)) m
  | .replaceNode label key values, m =>
    .done (countKey key (m.nodes label))
      (m.setNodes label (replaceKey key values (m.nodes label)))
  | .createNode label key values, m => createNode label key values m
  | .deleteNodes label key, m =>
    .done (countKey key (m.nodes label)) (m.setNodes label (removeKey key (m.nodes label)))
  | .close, m => .done () m

/-- Makes a call on a handle. Closing always succeeds; every other call on a closed handle
fails. -/
def call (handle : Nat) : (c : StoreCall) → Memory → Attempt Memory c.Reply
  | .close, m => .done () (m.closeHandle handle)
  | c, m =>
    if m.isClosed handle then .failed (.operationFailed (callName c.kind) .connectionClosed) m
    else answer c m

/-- Opens a handle. -/
def connect (settings : Settings) (m : Memory) : Attempt Memory Nat :=
  if m.unreachable then .failed (.connection settings.url "connection refused") m
  else .done m.opened { m with opened := m.opened + 1 }

/-- The backend that keeps its nodes in memory. -/
def backend : Backend Memory Nat :=
  { connect, call }

/-- A store that stands for itself, with one open handle. -/
def standalone : Memory :=
  { opened := 1 }

/-! ### Small facts -/

@[simp] theorem setNodes_same (m : Memory) (label : Label) (list : List FieldSet) :
    (m.setNodes label list).nodes label = list := by
  simp [setNodes, Nodes.set]

theorem setNodes_of_ne {m : Memory} {label other : Label} (h : other ≠ label)
    (list : List FieldSet) : (m.setNodes label list).nodes other = m.nodes other := by
  simp [setNodes, Nodes.set, h]

@[simp] theorem isClosed_closeHandle_same (m : Memory) (handle : Nat) :
    (m.closeHandle handle).isClosed handle = true := by
  unfold closeHandle
  split
  · assumption
  · simp [isClosed]

theorem nodes_closeHandle (m : Memory) (handle : Nat) :
    (m.closeHandle handle).nodes = m.nodes := by
  unfold closeHandle
  split <;> rfl

end Memory

end KeyedGraph
