import KeyedGraph.Proofs.Cypher.Statements
import Mathlib.Algebra.Group.Nat.Defs

/-!
# What reaches the text of a query

The text of a query is made from its operation and its label. Keys, bounds and values are bound
to parameters, which the text names behind dollar signs. So the name of the table is all that a
user puts into the text, and it stands between the only two backticks.
-/

namespace KeyedGraph

/-! ### Queries of the operations -/

/-- What a user supplies for a query beside the table. -/
structure UserData where
  key : String := ""
  start : String := ""
  limit : Nat := 0
  values : FieldSet := ∅

/-- The query of an operation on the nodes of a label. -/
def Query.of (operation : Operation) (label : Label) (data : UserData) : Query :=
  match operation with
  | .read => .read label data.key
  | .scan => .scan label data.start data.limit
  | .update => .update label data.key data.values
  | .insert => .insert label data.key data.values
  | .delete => .delete label data.key

/-- The names of the parameters, in the order in which they are bound. -/
def Query.paramNames (q : Query) : List String :=
  q.params.map Prod.fst

/-- The parameters of an operation. -/
def Operation.parameters : Operation → List String
  | .read => ["key"]
  | .scan => ["start_key", "limit"]
  | .update => ["key", "values"]
  | .insert => ["values"]
  | .delete => ["key"]

lemma Query.paramNames_of (operation : Operation) (label : Label) (data : UserData) :
    (Query.of operation label data).paramNames = operation.parameters := by
  cases operation <;> rfl

lemma Operation.nodup_parameters (operation : Operation) : operation.parameters.Nodup := by
  cases operation <;> decide

lemma Query.text_of (operation : Operation) (label : Label) (data : UserData) :
    (Query.of operation label data).text = (Statement.on operation label).text := by
  cases operation <;> rfl

namespace Cypher

/-! ### The label in a text -/

lemma notMem_name {c : Char} (hc : Text.continuesIdentifier c = false) (label : Label) :
    c ∉ label.name.toList := by
  intro hm
  have hall := List.all_eq_true.mp (Text.all_continuesIdentifier label.isIdentifier_name) c hm
  rw [hc] at hall
  cases hall

lemma toList_text (operation : Operation) (label : Label) :
    (Statement.on operation label).text.toList =
      (before operation).toList ++ label.name.toList ++ (behind operation).toList := by
  rw [text_eq, String.toList_append, String.toList_append]

/-- The label stands between two backticks. -/
lemma exists_text_eq_quoted (operation : Operation) (label : Label) :
    ∃ front back, (Statement.on operation label).text.toList =
      front ++ '`' :: label.name.toList ++ '`' :: back := by
  obtain ⟨front, hfront⟩ : ∃ front, (before operation).toList = front ++ ['`'] := by
    cases operation with
    | insert => exact ⟨("CREATE " ++ "(n:").toList, String.toList_append⟩
    | read | scan | update | delete => exact ⟨("MATCH " ++ "(n:").toList, String.toList_append⟩
  obtain ⟨back, hback⟩ : ∃ back, (behind operation).toList = '`' :: back := by
    refine ⟨(behind operation).toList.tail, ?_⟩
    cases operation <;> simp only [behind, String.toList_append] <;> rfl
  refine ⟨front, back, ?_⟩
  rw [toList_text, hfront, hback]
  simp

/-- A text tells which statement it is of. -/
lemma text_injective {operation operation' : Operation} {label label' : Label}
    (h : (Statement.on operation label).text = (Statement.on operation' label').text) :
    operation = operation' ∧ label = label' := by
  have hc : command (.on operation label) = command (.on operation' label') := by
    apply Option.some.inj
    rw [← parse_text, ← parse_text, h]
  cases operation <;> cases operation' <;> simp [command] at hc
  all_goals exact ⟨rfl, Label.ext hc⟩

/-! ### Placeholders and backticks -/

/-- The names behind the dollar signs of a text, as far as each name goes. -/
def placeholders : List Char → List String
  | [] => []
  | c :: cs =>
    if c = '$' then
      String.ofList (cs.takeWhile Text.continuesIdentifier) :: placeholders cs
    else placeholders cs

lemma placeholders_append {cs : List Char} (h : '$' ∉ cs) (ds : List Char) :
    placeholders (cs ++ ds) = placeholders ds := by
  induction cs with
  | nil => rfl
  | cons c cs ih =>
    rw [List.mem_cons, not_or] at h
    rw [List.cons_append, placeholders, if_neg (Ne.symm h.1), ih h.2]

/-- Before and behind a label stands one backtick each, and placeholders stand only behind it. -/
lemma around_label (operation : Operation) :
    (before operation).toList.count '`' = 1 ∧ '$' ∉ (before operation).toList ∧
      (behind operation).toList.count '`' = 1 ∧
      placeholders (behind operation).toList = operation.parameters := by
  cases operation <;> decide +kernel

/-- The quotes of the label are the only backticks. -/
lemma count_backtick_text (operation : Operation) (label : Label) :
    (Statement.on operation label).text.toList.count '`' = 2 := by
  obtain ⟨hbefore, -, hbehind, -⟩ := around_label operation
  have hname : label.name.toList.count '`' = 0 :=
    List.count_eq_zero.mpr (notMem_name (by decide) label)
  rw [toList_text, List.count_append, List.count_append, hbefore, hname, hbehind]

/-- The placeholders of a text are the parameters of its operation, one after the other. -/
lemma placeholders_text (operation : Operation) (label : Label) :
    placeholders (Statement.on operation label).text.toList = operation.parameters := by
  obtain ⟨-, hbefore, -, hbehind⟩ := around_label operation
  have hname : '$' ∉ label.name.toList := notMem_name (by decide) label
  rw [toList_text, List.append_assoc, placeholders_append hbefore, placeholders_append hname,
    hbehind]

/-- Two queries have one text exactly if they are of one operation on one table, whatever else
the user supplied. A text has two backticks, the name of the table stands between them, and its
placeholders are the parameters that are bound, each of them once. -/
theorem texts_hold_only_tables {table table' : String} {label label' : Label}
    (h : Label.parse table = .ok label) (h' : Label.parse table' = .ok label')
    (operation operation' : Operation) (data data' : UserData) :
    let q := Query.of operation label data
    let q' := Query.of operation' label' data'
    (q.text = q'.text ↔ operation = operation' ∧ table = table') ∧
    q.text.toList.count '`' = 2 ∧
    (∃ front back, q.text.toList = front ++ '`' :: table.toList ++ '`' :: back) ∧
    placeholders q.text.toList = q.paramNames ∧
    q.paramNames.Nodup := by
  intro q q'
  obtain rfl := Label.name_of_parse h
  obtain rfl := Label.name_of_parse h'
  have hq : q.text = (Statement.on operation label).text := Query.text_of operation label data
  have hq' : q'.text = (Statement.on operation' label').text :=
    Query.text_of operation' label' data'
  have hn : q.paramNames = operation.parameters := Query.paramNames_of operation label data
  rw [hq, hq', hn]
  refine ⟨⟨fun ht => ?_, fun ht => ?_⟩, count_backtick_text operation label,
    exists_text_eq_quoted operation label, placeholders_text operation label,
    operation.nodup_parameters⟩
  · obtain ⟨ho, hl⟩ := text_injective ht
    exact ⟨ho, congrArg Label.name hl⟩
  · obtain ⟨rfl, hl⟩ := ht
    rw [Label.ext hl]

/-- A table name that is an identifier, as a label. -/
def people : Label :=
  ⟨"people", by decide +kernel, by decide +kernel⟩

/-- Keys, a limit and values that would do harm in a text. -/
def hostileData : UserData :=
  { key := "`) DETACH DELETE n //"
    start := "$key"
    limit := 2 ^ 64 - 1
    values := FieldSet.ofPairs [("`", "$values")] }

/-- Harmful data leave the text of an update as it is without any. -/
theorem hostile_data_stay_out_of_text :
    let q := Query.of .update people hostileData
    Label.parse "people" = .ok people ∧
    q.text = (Query.of .update people {}).text ∧
    q.text.toList.count '`' = 2 ∧
    (∃ front back, q.text.toList = front ++ '`' :: "people".toList ++ '`' :: back) ∧
    placeholders q.text.toList = q.paramNames ∧
    q.paramNames.Nodup := by
  have h : Label.parse "people" = .ok people := Label.parse_name people
  obtain ⟨htext, hrest⟩ := texts_hold_only_tables h h .update .update hostileData {}
  exact ⟨h, htext.mpr ⟨rfl, rfl⟩, hrest⟩

end Cypher

end KeyedGraph
