import KeyedGraph.CommandLine.Arguments
import KeyedGraph.Proofs.CommandLine.Pairs
import KeyedGraph.Proofs.Except
import Mathlib.Tactic.Common

/-!
# Reading a command line

Whatever the arguments are, reading only adds to what was settled, and what it adds are values
that their slots take. So the pairs of a command line that was understood are all that their
slots were given: none is left out. Pairs that are given in full come through, whatever else is
in them.
-/

namespace KeyedGraph.CommandLine

/-! ### Settling -/

/-- All that was settled are values that their slots take. -/
def Given.Sound (given : Given) : Prop :=
  ∀ slot values, (slot, values) ∈ given → ∀ value ∈ values, slot.fault? value = none

/-- More was settled, all of it values that their slots take. -/
def Given.Grows (given given' : Given) : Prop :=
  ∃ more : Given, given' = given ++ more ∧ more.Sound

namespace Given

variable {given given' given'' : Given} {slot : Slot}

lemma Grows.refl (given : Given) : given.Grows given :=
  ⟨[], (List.append_nil given).symm, fun _ _ h => absurd h List.not_mem_nil⟩

lemma Grows.trans (h : given.Grows given') (h' : given'.Grows given'') :
    given.Grows given'' := by
  obtain ⟨more, rfl, hm⟩ := h
  obtain ⟨more', rfl, hm'⟩ := h'
  refine ⟨more ++ more', List.append_assoc .., fun slot values hv => ?_⟩
  rcases List.mem_append.mp hv with hv | hv
  · exact hm slot values hv
  · exact hm' slot values hv

lemma Grows.sound (h : Grows [] given) : given.Sound := by
  obtain ⟨more, rfl, hm⟩ := h
  exact hm

lemma mem_all {value : String} :
    value ∈ given.all slot ↔ ∃ values, (slot, values) ∈ given ∧ value ∈ values := by
  simp only [all, List.mem_flatMap, Prod.exists]
  constructor
  · rintro ⟨slot', values, hg, hv⟩
    split at hv
    · rename_i hs
      obtain rfl : slot' = slot := hs
      exact ⟨values, hg, hv⟩
    · exact absurd hv List.not_mem_nil
  · rintro ⟨values, hg, hv⟩
    exact ⟨slot, values, hg, by simpa using hv⟩

end Given

lemma firstFault?_eq_none_iff {slot : Slot} {values : List String} :
    firstFault? slot values = none ↔ ∀ value ∈ values, slot.fault? value = none := by
  induction values with
  | nil => simp [firstFault?]
  | cons value rest ih =>
    rw [firstFault?, List.forall_mem_cons]
    cases slot.fault? value with
    | none => simp [ih]
    | some cause => simp

lemma grows_settleSlot {slot : Slot} {arguments : List String} {given given' : Given}
    (h : settleSlot slot arguments given = .ok given') : given.Grows given' := by
  unfold settleSlot at h
  split at h
  · cases h
  · split at h
    · cases h
    · dsimp only at h
      split at h
      · cases h
      · rename_i hf
        obtain rfl := Except.ok.inj h
        refine ⟨_, rfl, fun slot' values hm => ?_⟩
        obtain ⟨rfl, rfl⟩ := Prod.mk.inj (List.mem_singleton.mp hm)
        exact firstFault?_eq_none_iff.mp hf

namespace Reading

/-! ### What a step of reading keeps -/

variable {level : Level} {r r' : Reading} {slot : Slot} {argument : String}

lemma grows_settle (h : r.settle = .ok r') : r.given.Grows r'.given := by
  unfold settle at h
  split at h
  · obtain rfl := Except.ok.inj h
    exact .refl _
  · rename_i slot arguments hp
    obtain ⟨given, hs, rfl⟩ := exists_of_map_eq_ok h
    exact grows_settleSlot hs

lemma grows_fill {arguments : List String} (h : r.fill slot arguments = .ok r') :
    r.given.Grows r'.given := by
  obtain ⟨r₁, hs, h⟩ := exists_of_bind_eq_ok h
  obtain ⟨given, hg, h⟩ := exists_of_bind_eq_ok h
  obtain rfl := Except.ok.inj h
  exact (grows_settle hs).trans (grows_settleSlot hg)

lemma grows_await (h : r.await slot = .ok r') : r.given.Grows r'.given := by
  obtain ⟨r₁, hs, h⟩ := exists_of_bind_eq_ok h
  obtain rfl := Except.ok.inj h
  have hgrows := grows_settle hs
  exact hgrows

lemma grows_option {attached : Option String} (h : r.option slot attached = .ok r') :
    r.given.Grows r'.given := by
  unfold option at h
  split at h
  · obtain ⟨_, -, h⟩ := exists_of_bind_eq_ok h
    cases h
  · obtain ⟨_, -, h⟩ := exists_of_bind_eq_ok h
    cases h
  · exact grows_fill (eq_ok_of_mapError h)
  · cases h
  · cases h
  · cases h
  · exact grows_fill (eq_ok_of_mapError h)
  · exact grows_await (eq_ok_of_mapError h)

lemma grows_longOption {body : List Char} (h : r.longOption level body = .ok r') :
    r.given.Grows r'.given := by
  unfold longOption at h
  dsimp only at h
  split at h
  · cases h
  · exact grows_option h

lemma grows_shortOptions {cs : List Char} (h : r.shortOptions level cs = .ok r') :
    r.given.Grows r'.given := by
  induction cs generalizing r with
  | nil =>
    obtain rfl := Except.ok.inj h
    exact .refl _
  | cons c rest ih =>
    unfold shortOptions at h
    split at h
    · cases h
    · split at h
      case h_1 | h_2 | h_3 =>
        obtain ⟨r₁, ho, h⟩ := exists_of_bind_eq_ok h
        exact (grows_option ho).trans (ih h)
      all_goals exact grows_option h

lemma grows_operand (h : r.operand level argument = .ok r') : r.given.Grows r'.given := by
  unfold operand at h
  split at h
  · cases h
  · split at h
    · split at h
      · obtain rfl := Except.ok.inj h
        exact .refl _
      · obtain ⟨r₁, hs, rfl⟩ := exists_of_map_eq_ok (eq_ok_of_mapError h)
        have hgrows := grows_settle hs
        exact hgrows
    · obtain rfl := Except.ok.inj h
      exact .refl _
    · obtain ⟨r₁, hs, rfl⟩ := exists_of_map_eq_ok (eq_ok_of_mapError h)
      have hgrows := grows_settle hs
      exact hgrows

/-- Reading arguments only adds values that their slots take. -/
lemma grows_arguments {arguments : List String} {command : Option (String × List String)}
    (h : r.arguments level arguments = .ok (r', command)) : r.given.Grows r'.given := by
  induction arguments generalizing r with
  | nil =>
    obtain ⟨rfl, -⟩ := Prod.mk.inj (Except.ok.inj h)
    exact .refl _
  | cons argument rest ih =>
    unfold Reading.arguments at h
    split at h
    · obtain ⟨r₁, ho, h⟩ := exists_of_bind_eq_ok h
      exact (grows_operand ho).trans (ih h)
    · split at h
      · obtain ⟨rfl, -⟩ := Prod.mk.inj (Except.ok.inj h)
        exact .refl _
      · split at h
        · have hgrows := ih h
          exact hgrows
        · obtain ⟨r₁, ho, h⟩ := exists_of_bind_eq_ok h
          exact (grows_longOption ho).trans (ih h)
        · obtain ⟨r₁, ho, h⟩ := exists_of_bind_eq_ok h
          exact (grows_shortOptions ho).trans (ih h)
        · dsimp only at h
          split at h
          · have hgrows := ih h
            exact hgrows
          · obtain ⟨r₁, ho, h⟩ := exists_of_bind_eq_ok h
            exact (grows_operand ho).trans (ih h)

end Reading

/-! ### Command lines that are understood -/

/-- The slots that take pairs. -/
def Slot.TakesPairs (slot : Slot) : Prop :=
  slot = .property ∨ slot = .values

lemma fault?_eq_none_iff {slot : Slot} (hs : slot.TakesPairs) {value : String} :
    slot.fault? value = none ↔ ∃ pair, parsePair value = .ok pair := by
  have hf : slot.fault? value = Slot.values.fault? value := by
    rcases hs with rfl | rfl <;> rfl
  rw [hf]
  simp only [Slot.fault?]
  cases parsePair value <;> simp

/-- The pairs of a slot are all that it was given. -/
lemma Given.Sound.accepted {given : Given} (h : given.Sound) {slot : Slot}
    (hs : slot.TakesPairs) : Accepted (given.all slot) (given.pairs slot) := by
  refine .of_forall fun value hv => ?_
  obtain ⟨values, hg, hv⟩ := Given.mem_all.mp hv
  exact (fault?_eq_none_iff hs).mp (h slot values hg value hv)

/-- Behind a command's name, sound values make up its task. -/
lemma sound_of_readCommand {name : String} {arguments : List String} {inner : Given}
    {task : Task} (h : readCommand name arguments = .ok (inner, task)) :
    inner.Sound ∧ taskOf name inner = .ok task := by
  unfold readCommand at h
  split at h
  · cases h
  · obtain ⟨⟨r, command⟩, hr, h⟩ := exists_of_bind_eq_ok h
    obtain ⟨r', hs, h⟩ := exists_of_bind_eq_ok h
    obtain ⟨task', ht, h⟩ := exists_of_bind_eq_ok h
    obtain ⟨rfl, rfl⟩ := Prod.mk.inj (Except.ok.inj h)
    have hgrows : Given.Grows [] r'.given :=
      (Reading.grows_arguments hr).trans (Reading.grows_settle (eq_ok_of_mapError hs))
    exact ⟨hgrows.sound, eq_ok_of_mapError ht⟩

/-- A command line that was understood is made of sound values: those in front of the command's
name, and those behind it that make up the task. -/
lemma exists_of_parse {arguments : List String} {i : Invocation} (h : parse arguments = .ok i) :
    ∃ (outer inner : Given) (name : String) (task : Task), outer.Sound ∧ inner.Sound ∧
      taskOf name inner = .ok task ∧ i = invocationOf outer inner task := by
  obtain ⟨⟨r, command⟩, hr, h⟩ := exists_of_bind_eq_ok h
  cases command with
  | none =>
    obtain ⟨r', -, h⟩ := exists_of_bind_eq_ok h
    split at h <;> cases h
  | some command =>
    obtain ⟨name, rest⟩ := command
    obtain ⟨⟨inner, task⟩, hc, h⟩ := exists_of_bind_eq_ok h
    obtain ⟨r', hs, h⟩ := exists_of_bind_eq_ok h
    obtain rfl := Except.ok.inj h
    have hgrows : Given.Grows [] r'.given :=
      (Reading.grows_arguments hr).trans (Reading.grows_settle (eq_ok_of_mapError hs))
    obtain ⟨hinner, ht⟩ := sound_of_readCommand hc
    exact ⟨r'.given, inner, name, task, hgrows.sound, hinner, ht, rfl⟩

/-! ### Pairs that are given in full -/

/-- A slot that takes each argument as one value settles what it takes. -/
lemma settleSlot_eq_ok {slot : Slot} {arguments : List String} {given : Given}
    (hs : slot ≠ .fields) (ha : arguments ≠ [])
    (hg : slot.kind = .repeated ∨ given.has slot = false)
    (hf : ∀ value ∈ arguments, slot.fault? value = none) :
    settleSlot slot arguments given = .ok (given ++ [(slot, arguments)]) := by
  have hempty : arguments.isEmpty = false := List.isEmpty_eq_false_iff.mpr ha
  have hsplit : arguments.flatMap slot.split = arguments := by
    have hone : slot.split = fun value => [value] := by
      funext value
      cases slot with
      | fields => exact absurd rfl hs
      | _ => rfl
    rw [hone, List.flatMap_singleton']
  rw [settleSlot, hempty, Bool.and_false, if_neg Bool.false_ne_true, if_neg]
  · simp only [hsplit, firstFault?_eq_none_iff.mpr hf]
  · rcases hg with hg | hg <;> simp [hg]

/-- The option that gives a property, with the pair attached. -/
def propertyOption (text : String) : String :=
  "--property=" ++ text

/-- The arguments of a command that stores a record. Behind the two dashes there are only
operands, so that the fields may begin with a dash. -/
def recordArguments (properties : List String) (command table key : String)
    (values : List String) : List String :=
  properties.map propertyOption ++ command :: "--" :: table :: key :: values

namespace Reading

lemma toList_propertyOption (text : String) :
    (propertyOption text).toList =
      '-' :: '-' :: 'p' :: ("roperty".toList ++ '=' :: text.toList) := by
  simp [propertyOption]

/-- No command's name begins with a dash. -/
lemma contains_propertyOption (text : String) :
    outerLevel.commands.contains (propertyOption text) = false := by
  have hnames : ∀ name ∈ commandNames, name.toList.head? ≠ some '-' := by decide
  rw [← Bool.not_eq_true, List.contains_iff_mem]
  intro hm
  exact hnames _ hm (by rw [toList_propertyOption]; rfl)

/-- An option that gives a property is settled at once. -/
lemma longOption_property {text : String} (ht : ∃ pair, parsePair text = .ok pair)
    (given : Given) :
    longOption outerLevel { given } ('p' :: ("roperty".toList ++ '=' :: text.toList)) =
      .ok { given := given ++ [(.property, [text])] } := by
  have hcut : ('p' :: ("roperty".toList ++ '=' :: text.toList)).span (· != '=') =
      ("property".toList, '=' :: text.toList) :=
    span_ne_equals_eq_iff.mpr ⟨by decide, rfl, .inr ⟨_, rfl⟩⟩
  have hfind : (outerLevel.options.find? fun slot => slot.long? = some "property") =
      some .property := by
    decide
  have hsettle : settleSlot .property [text] given = .ok (given ++ [(.property, [text])]) := by
    refine settleSlot_eq_ok (by simp) (by simp) (.inl rfl) fun value hv => ?_
    obtain rfl : value = text := List.mem_singleton.mp hv
    exact (fault?_eq_none_iff (.inl rfl)).mpr ht
  simp only [longOption, hcut, String.ofList_toList, hfind, Reading.option, Slot.kind, fill,
    settle, bind, Except.bind, hsettle]
  rfl

lemma arguments_propertyOption {text : String} (ht : ∃ pair, parsePair text = .ok pair)
    (given : Given) (rest : List String) :
    Reading.arguments outerLevel { given } (propertyOption text :: rest) =
      Reading.arguments outerLevel { given := given ++ [(.property, [text])] } rest := by
  rw [Reading.arguments, if_neg Bool.false_ne_true, contains_propertyOption, Bool.and_false,
    if_neg Bool.false_ne_true, toList_propertyOption]
  simp only [longOption_property ht, bind, Except.bind]

/-- Properties in front of a command's name are settled one after the other. -/
lemma arguments_properties {texts : List String}
    (ht : ∀ text ∈ texts, ∃ pair, parsePair text = .ok pair) (given : Given) {name : String}
    (hn : name ∈ commandNames) (rest : List String) :
    Reading.arguments outerLevel { given } (texts.map propertyOption ++ name :: rest) =
      .ok ({ given := given ++ texts.map fun text => (.property, [text]) },
        some (name, rest)) := by
  induction texts generalizing given with
  | nil =>
    have hcontains : outerLevel.commands.contains name = true := List.contains_iff_mem.mpr hn
    rw [List.map_nil, List.nil_append, Reading.arguments, if_neg Bool.false_ne_true, hcontains,
      List.map_nil, List.append_nil]
    rfl
  | cons text texts ih =>
    obtain ⟨hhead, htail⟩ := List.forall_mem_cons.mp ht
    rw [List.map_cons, List.cons_append, arguments_propertyOption hhead, ih htail, List.map_cons,
      List.append_assoc, List.singleton_append]

end Reading

/-- The level behind the name of a command that stores a record. -/
def recordLevel : Level :=
  { options := commonOptions, operands := [.table, .key, .values] }

/-- What the operands of a record settle. -/
def recordGiven (table key : String) (values : List String) : Given :=
  [(.table, [table]), (.key, [key])] ++ if values.isEmpty then [] else [(.values, values)]

namespace Reading

/-- Behind a record's key, operands gather as its values. -/
lemma arguments_values (given : Given) (values more : List String) :
    Reading.arguments recordLevel
        { given, pending := some (.values, values), onlyOperands := true, filled := 2 } more =
      .ok ({ given, pending := some (.values, values ++ more), onlyOperands := true,
             filled := 2 }, none) := by
  induction more generalizing values with
  | nil => rw [Reading.arguments, List.append_nil]
  | cons value more ih =>
    rw [Reading.arguments, if_pos rfl]
    have h := ih (values ++ [value])
    rw [List.append_assoc, List.singleton_append] at h
    exact h

/-- The table's name waits until the key comes, and the key until the values or the end come. -/
lemma arguments_address (table key : String) (values : List String) :
    Reading.arguments recordLevel {} ("--" :: table :: key :: values) =
      Reading.arguments recordLevel
        { given := [(.table, [table])], pending := some (.key, [key]), onlyOperands := true,
          filled := 2 } values := by
  have hsettle : settleSlot .table [table] [] = .ok [(.table, [table])] :=
    settleSlot_eq_ok (by simp) (by simp) (.inr rfl) fun _ _ => rfl
  calc Reading.arguments recordLevel {} ("--" :: table :: key :: values)
      = Reading.arguments recordLevel { onlyOperands := true } (table :: key :: values) := by
        rw [Reading.arguments]
        rfl
    _ = Reading.arguments recordLevel
          { pending := some (.table, [table]), onlyOperands := true, filled := 1 }
          (key :: values) := by
        rw [Reading.arguments, if_pos rfl]
        rfl
    _ = _ := by
        rw [Reading.arguments, if_pos rfl]
        simp only [operand, recordLevel, List.getElem?_cons_succ, List.getElem?_cons_zero,
          Slot.kind, settle, hsettle, Except.map, Except.mapError, bind, Except.bind]

/-- The operands of a record are settled in the end. -/
lemma arguments_record {values : List String}
    (hv : ∀ value ∈ values, ∃ pair, parsePair value = .ok pair) (table key : String) :
    ∃ r r', Reading.arguments recordLevel {} ("--" :: table :: key :: values) = .ok (r, none) ∧
      r.settle = .ok r' ∧ r'.given = recordGiven table key values := by
  have hkey : settleSlot .key [key] [(.table, [table])] =
      .ok [(.table, [table]), (.key, [key])] :=
    settleSlot_eq_ok (by simp) (by simp) (.inr rfl) fun _ _ => rfl
  rw [arguments_address]
  cases values with
  | nil =>
    refine ⟨_, { given := recordGiven table key [], onlyOperands := true, filled := 2 },
      by rw [Reading.arguments], ?_, rfl⟩
    simp only [settle, hkey, Except.map]
    rfl
  | cons value more =>
    have hvalues : settleSlot .values (value :: more) [(.table, [table]), (.key, [key])] =
        .ok (recordGiven table key (value :: more)) :=
      settleSlot_eq_ok (by simp) (by simp) (.inl rfl) fun v hm =>
        (fault?_eq_none_iff (.inr rfl)).mpr (hv v hm)
    have hfirst : operand recordLevel
        { given := [(.table, [table])], pending := some (.key, [key]), onlyOperands := true,
          filled := 2 } value =
          .ok { given := [(.table, [table]), (.key, [key])], pending := some (.values, [value]),
                onlyOperands := true, filled := 2 } := by
      simp only [operand, recordLevel, List.getElem?_cons_succ, List.getElem?_cons_zero,
          Slot.kind, settle, hkey, Except.map, Except.mapError]
      rfl
    have hread := arguments_values [(.table, [table]), (.key, [key])] [value] more
    rw [Reading.arguments, if_pos rfl, hfirst]
    refine ⟨_,
      { given := recordGiven table key (value :: more), onlyOperands := true, filled := 2 },
      hread, ?_, rfl⟩
    simp only [settle, List.singleton_append, hvalues, Except.map]

end Reading

/-- What the options of properties settle. -/
def propertiesGiven (texts : List String) : Given :=
  texts.map fun text => (.property, [text])

section Given

variable (table key : String) (values texts : List String)

lemma pairs_recordGiven {fields : List (String × String)} (hv : Accepted values fields) :
    (recordGiven table key values).pairs .values = fields := by
  have hall : (recordGiven table key values).all .values = values := by
    cases values <;> simp [Given.all, recordGiven]
  rw [Given.pairs, hall, hv.filterMap_eq]

lemma one?_table_recordGiven : (recordGiven table key values).one? .table = some table := by
  cases values <;> rfl

lemma one?_key_recordGiven : (recordGiven table key values).one? .key = some key := by
  cases values <;> rfl

lemma has_recordGiven {slot : Slot} (h : slot ≠ .table ∧ slot ≠ .key ∧ slot ≠ .values) :
    (recordGiven table key values).has slot = false := by
  obtain ⟨ht, hk, hv⟩ := h
  cases values <;> simp [Given.has, recordGiven, ht.symm, hk.symm, hv.symm]

lemma pairs_propertiesGiven {pairs : List (String × String)} (hp : Accepted texts pairs) :
    (propertiesGiven texts).pairs .property = pairs := by
  have hall : (propertiesGiven texts).all .property = texts := by
    simp [Given.all, propertiesGiven, List.flatMap_map]
  rw [Given.pairs, hall, hp.filterMap_eq]

lemma has_propertiesGiven {slot : Slot} (h : slot ≠ .property) :
    (propertiesGiven texts).has slot = false := by
  simp [Given.has, propertiesGiven, h.symm]

end Given

lemma Given.one?_of_has_eq_false {given : Given} {slot : Slot} (h : given.has slot = false) :
    given.one? slot = none := by
  have hall : given.all slot = [] := by
    refine List.flatMap_eq_nil_iff.mpr fun g hg => if_neg fun hs => ?_
    have hne := List.any_eq_false.mp h g hg
    exact hne (decide_eq_true hs)
  rw [one?, hall, List.getLast?_nil]

/-- The arguments of a command that stores a record are understood, whatever the pairs are. -/
lemma parse_of_taskOf {properties values : List String} {pairs fields : List (String × String)}
    (hp : Accepted properties pairs) (hv : Accepted values fields) {name table key : String}
    (hn : name ∈ commandNames) (hl : commandLevel name = recordLevel) {task : Task}
    (ht : taskOf name (recordGiven table key values) = .ok task) :
    parse (recordArguments properties name table key values) =
      .ok { verbose := false, config := none, properties := pairs, task } := by
  have houter := Reading.arguments_properties (fun _ => hp.exists_of_mem) [] hn
    ("--" :: table :: key :: values)
  obtain ⟨r, r', hr, hs, hg⟩ := Reading.arguments_record (fun _ => hv.exists_of_mem) table key
  have hhelp : name ≠ "help" := by
    rintro rfl
    simp [commandLevel, recordLevel] at hl
  have hcommand : readCommand name ("--" :: table :: key :: values) =
      .ok (recordGiven table key values, task) := by
    simp only [readCommand, if_neg hhelp, hl, hr, hs, hg, ht, Except.mapError, bind, Except.bind]
    rfl
  have hinvocation :
      invocationOf (propertiesGiven properties) (recordGiven table key values) task =
      { verbose := false, config := none, properties := pairs, task } := by
    simp [invocationOf, has_recordGiven, has_propertiesGiven, Given.one?_of_has_eq_false,
      pairs_propertiesGiven properties hp]
  rw [← hinvocation, recordArguments, parse, houter]
  simp only [hcommand, Reading.settle, Except.mapError, bind, Except.bind]
  rfl

/-- The pairs of a command that stores a record come through as they were given. -/
lemma parse_recordArguments {properties values : List String}
    {pairs fields : List (String × String)} (hp : Accepted properties pairs)
    (hv : Accepted values fields) (table key : String) :
    parse (recordArguments properties "insert" table key values) =
        .ok { verbose := false, config := none, properties := pairs,
              task := .insert table key fields } ∧
      parse (recordArguments properties "update" table key values) =
        .ok { verbose := false, config := none, properties := pairs,
              task := .update table key fields } := by
  constructor
  · refine parse_of_taskOf hp hv (by decide) rfl ?_
    simp only [taskOf, one?_table_recordGiven, one?_key_recordGiven, pairs_recordGiven _ _ _ hv]
  · refine parse_of_taskOf hp hv (by decide) rfl ?_
    simp only [taskOf, one?_table_recordGiven, one?_key_recordGiven, pairs_recordGiven _ _ _ hv]

example :
    (parse (recordArguments ["neo4j.user=a=b"] "insert" "crew" "ada"
      ["-x=", "rank=mate"])).toOption =
      some { verbose := false, config := none, properties := [("neo4j.user", "a=b")],
             task := .insert "crew" "ada" [("-x", ""), ("rank", "mate")] } := by
  decide +kernel

end KeyedGraph.CommandLine
