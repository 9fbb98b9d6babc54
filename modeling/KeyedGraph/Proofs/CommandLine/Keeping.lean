import KeyedGraph.Proofs.CommandLine.Reading
import KeyedGraph.Proofs.CommandLine.Stages
import KeyedGraph.Proofs.Config.DefaultPlace
import KeyedGraph.Proofs.Records.Refinement

/-!
# What becomes of the pairs of a command line

The pairs of a command line bind the fields of a record or the properties of a configuration,
each name by its last pair. A record that is inserted where there is none is read back with these
fields.
-/

namespace KeyedGraph

/-- The configuration that properties are put on: the one of a named file, or else of the default
place, with the overrides of the environment. -/
def Host.baseConfig {φ : Type} (host : Host φ) : Option String → Except Error Config
  | some path => (host.loadFile path).map fun config => config.withEnvironment host.env
  | none => .ok host.loadDefault.1

lemma Host.loadConfig_eq {φ : Type} (host : Host φ) (path : Option String)
    (properties : Properties) :
    (host.loadConfig path properties).1 =
      (host.baseConfig path).bind fun config => config.withProperties properties := by
  cases path with
  | none => rfl
  | some path =>
    rw [loadConfig_some, baseConfig]
    cases host.loadFile path <;> rfl

/-! ### Inserting and reading back -/

lemma notMem_ofPairs {pairs : List (String × String)} {name : String}
    (h : ∀ pair ∈ pairs, pair.1 ≠ name) : name ∉ FieldSet.ofPairs pairs := by
  rw [(bindLast_ofPairs pairs).mem_iff, List.mem_map]
  rintro ⟨pair, hm, rfl⟩
  exact h pair hm rfl

/-- All of a node's own fields are those that it was made with. -/
lemma projectFields_nodeProperties {fields : FieldSet} (h : keyField ∉ fields) (key : String) :
    projectFields (nodeProperties key fields) none = fields :=
  Std.ExtTreeMap.ext_getElem? fun name =>
    (⟨fields, h⟩ : Record).getElem?_projectFields_node key none name

lemma FieldSet.empty_extend (fields : FieldSet) : FieldSet.extend ∅ fields = fields := by
  refine Std.ExtTreeMap.ext_getElem? fun name => ?_
  rw [getElem?_extend, Std.ExtTreeMap.getElem?_empty, Option.or_none]

namespace Memory

variable {m : Memory} {handle : Nat} {label : Label} {key : String}

/-- Where no node has the key, one is created, whether keys are unique or not. -/
lemma createNode_of_new (h : ∀ node ∈ m.nodes label, nodeKey? node ≠ some key)
    (fields : FieldSet) :
    createNode label key fields m =
      .done () (m.setNodes label (m.nodes label ++ [nodeProperties key fields])) := by
  have hany : (m.nodes label).any (hasKey key) = false := by
    rw [List.any_eq_false]
    exact fun node hn hk => h node hn (hasKey_iff.mp hk)
  rw [createNode, hany, Bool.and_false, if_neg Bool.false_ne_true]

/-- It is the first node with its key. -/
lemma findNode_append_of_new {nodes : List FieldSet}
    (h : ∀ node ∈ nodes, nodeKey? node ≠ some key) (fields : FieldSet) :
    findNode key (nodes ++ [nodeProperties key fields]) = some (nodeProperties key fields) := by
  have hnone : nodes.find? (hasKey key) = none :=
    List.find?_eq_none.mpr fun node hn hk => h node hn (hasKey_iff.mp hk)
  rw [findNode, List.find?_append, hnone, Option.none_or, List.find?_singleton,
    if_pos (hasKey_iff.mpr (nodeKey?_nodeProperties key fields))]

/-- A record that is inserted where no node has its key is read back with all of its fields and
no others. -/
lemma read_insert (ho : m.IsOpen handle) {table : String} (hp : Label.parse table = .ok label)
    (h : ∀ node ∈ m.nodes label, nodeKey? node ≠ some key) {fields : FieldSet}
    (hf : keyField ∉ fields) :
    let client : Client Nat := ⟨some handle⟩
    let inserted := client.insert backend table key fields m
    inserted.outcome = .ok (.ok, ()) ∧
      (client.read backend table key none ∅ inserted.world).outcome = .ok (.ok, fields) := by
  intro client inserted
  have hinserted : inserted =
      (Request.insert table key fields).finish label (createNode label key fields m) :=
    Tables.run_of_isOpen (r := .insert table key fields) ho hp rfl
  rw [createNode_of_new h] at hinserted
  have hworld :
      inserted.world = m.setNodes label (m.nodes label ++ [nodeProperties key fields]) := by
    rw [hinserted]
    rfl
  refine ⟨by rw [hinserted]; rfl, ?_⟩
  rw [hworld]
  have hopen :
      (m.setNodes label (m.nodes label ++ [nodeProperties key fields])).IsOpen handle := ho
  have hread := Tables.run_of_isOpen (r := .read table key none ∅) hopen hp rfl
  refine (congrArg Attempt.outcome hread).trans ?_
  simp only [Request.call, answer, setNodes_same, findNode_append_of_new h]
  change Outcome.ok
    (Status.ok, FieldSet.extend ∅ (projectFields (nodeProperties key fields) none)) = _
  rw [projectFields_nodeProperties hf, FieldSet.empty_extend]

end Memory

namespace CommandLine

/-- An argument is a pair just if it has an equals sign and does not begin with one, and its key
and value are what stands before and behind the first one. Whatever a slot for pairs was given on
a command line that is understood is a pair, and none is left out; those of a command that stores
a record come through as they were given. The pairs make the fields that are stored and the
properties that are put on the configuration: each name that occurs is bound to the value of its
last pair, and no other name is bound. A record that is inserted where no node has its key is
read back with exactly these fields. -/
theorem arguments_decode_losslessly :
    (∀ s key value, parsePair s = .ok (key, value) ↔
      key ≠ "" ∧ '=' ∉ key.toList ∧ s = key ++ "=" ++ value) ∧
    (∀ s, (∃ pair, parsePair s = .ok pair) ↔ '=' ∈ s.toList ∧ s.toList.head? ≠ some '=') ∧
    (∀ arguments i, parse arguments = .ok i → ∃ (outer inner : Given) (name : String),
      taskOf name inner = .ok i.task ∧ i = invocationOf outer inner i.task ∧
      ∀ slot : Slot, slot.TakesPairs → Accepted (outer.all slot) (outer.pairs slot) ∧
        Accepted (inner.all slot) (inner.pairs slot)) ∧
    (∀ properties values pairs fields table key,
      Accepted properties pairs → Accepted values fields →
      parse (recordArguments properties "insert" table key values) =
          .ok { verbose := false, config := none, properties := pairs,
                task := .insert table key fields } ∧
        parse (recordArguments properties "update" table key values) =
          .ok { verbose := false, config := none, properties := pairs,
                task := .update table key fields }) ∧
    (∀ pairs, ∃ fields, BindLast fields pairs ∧
      (∀ other, BindLast other pairs → other = fields) ∧
      (∀ (σ η : Type) (ctx : Context σ η) client w table key,
        (Task.insert table key pairs).operate ctx client w =
            Client.followUp (client.insert ctx.backend table key fields w)
              (fun (status, _) => (status, [], [])) (fun _ => []) ∧
          (Task.update table key pairs).operate ctx client w =
            Client.followUp (client.update ctx.backend table key fields w)
              (fun (status, _) => (status, [], [])) fun _ => []) ∧
      (∀ (σ η φ : Type) (b : Backend σ η) (w : σ) (host : Host φ) (i : Invocation),
        i.properties = pairs →
        (∀ t, i.Starts host b w t → ∃ base, host.baseConfig i.config = .ok base ∧
          base.withProperties fields = .ok t.config) ∧
        ∀ base cause, host.baseConfig i.config = .ok base →
          base.withProperties fields = .error cause →
          (i.run host b w).said = ["Failed to load configuration: " ++ cause.message]) ∧
      ((∀ pair ∈ pairs, pair.1 ≠ keyField) →
        ∀ (m : Memory) (handle : Nat) (table : String) (label : Label) (key : String),
          m.IsOpen handle → Label.parse table = .ok label →
          (∀ node ∈ m.nodes label, nodeKey? node ≠ some key) →
          let client : Client Nat := ⟨some handle⟩
          let inserted := client.insert Memory.backend table key fields m
          inserted.outcome = .ok (.ok, ()) ∧
            (client.read Memory.backend table key none ∅ inserted.world).outcome =
              .ok (.ok, fields))) := by
  refine ⟨fun s key value => parsePair_eq_ok_iff, fun s => exists_parsePair_eq_ok_iff,
    fun arguments i h => ?_,
    fun properties values pairs fields table key hp hv => parse_recordArguments hp hv table key,
    fun pairs => ⟨.ofPairs pairs, bindLast_ofPairs pairs, fun other h => h.eq_ofPairs,
      fun σ η ctx client w table key => ⟨rfl, rfl⟩, fun σ η φ b w host i hi => ⟨fun t ht => ?_,
        fun base cause hb hc => ?_⟩, fun hn m handle table label key ho hp hk => ?_⟩⟩
  · obtain ⟨outer, inner, name, task, houter, hinner, ht, rfl⟩ := exists_of_parse h
    exact ⟨outer, inner, name, ht, rfl, fun slot hs => ⟨houter.accepted hs, hinner.accepted hs⟩⟩
  · subst hi
    have hloaded := ht.loaded
    rw [host.loadConfig_eq] at hloaded
    exact exists_of_bind_eq_ok hloaded
  · subst hi
    have hloaded : (host.loadConfig i.config (.ofPairs i.properties)).1 = .error cause := by
      rw [host.loadConfig_eq, hb]
      exact hc
    simp only [Invocation.run, hloaded]
  · exact Memory.read_insert ho hp hk (notMem_ofPairs hn)

end CommandLine

end KeyedGraph
