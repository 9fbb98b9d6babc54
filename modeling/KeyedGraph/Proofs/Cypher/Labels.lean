import KeyedGraph.Label
import KeyedGraph.Proofs.Text.References

/-!
# Which table names are labels

A table name is a label just if it is a name of at most 64 bytes, and the label is shown as the
name. Any other is refused for one reason: that it is empty, or else that it is too long, or else
for what it is made of.
-/

namespace KeyedGraph

namespace Label

variable {table : String}

/-! ### How table names are read -/

/-- The ways in which a table name is read. -/
inductive Reading (table : String) : Except Error Label → Prop
  | empty (he : table = "") : Reading table (.error (.invalidInput .emptyTable))
  | long (hl : 64 < table.utf8ByteSize) :
      Reading table (.error (.invalidInput (.longTable table)))
  | malformed (he : table ≠ "") (hl : table.utf8ByteSize ≤ 64) (hn : ¬ Text.IsName table) :
      Reading table (.error (.invalidInput (.malformedTable table)))
  | label (l : Label) (hl : table.utf8ByteSize ≤ 64) (hn : Text.IsName table)
      (hname : l.name = table) : Reading table (.ok l)

/-- Every table name is read in one of the ways. -/
theorem parse_cases (table : String) : Reading table (parse table) := by
  rw [parse]
  split
  · rename_i he
    exact .empty (by simpa using he)
  · rename_i he
    have he : table ≠ "" := by simpa using he
    split
    · rename_i hl
      exact .long hl
    · rename_i hl
      have hl : table.utf8ByteSize ≤ 64 := Nat.le_of_not_lt hl
      split
      · rename_i hi
        exact .label _ hl (Text.isName_iff.mpr hi) rfl
      · rename_i hi
        exact .malformed he hl fun hn => hi (Text.isName_iff.mp hn)

end Label

/-! ### The characters of a name -/

namespace Text

lemma toNat_of_startsName {c : Char} (h : StartsName c) : 48 ≤ c.toNat ∧ c.toNat < 128 := by
  simp only [StartsName, Char.le_def, UInt32.le_iff_toNat_le] at h
  rcases h with ⟨hl, hu⟩ | ⟨hl, hu⟩ | rfl
  · change 65 ≤ c.toNat at hl
    change c.toNat ≤ 90 at hu
    omega
  · change 97 ≤ c.toNat at hl
    change c.toNat ≤ 122 at hu
    omega
  · decide

/-- A name is all ASCII, and has nothing in it that comes before the digits. -/
lemma IsName.toNat {name : String} (h : IsName name) :
    ∀ c ∈ name.toList, 48 ≤ c.toNat ∧ c.toNat < 128 := by
  obtain ⟨first, rest, hname, hfirst, hrest⟩ := h
  intro c hc
  rw [hname] at hc
  rcases List.mem_cons.mp hc with rfl | hc
  · exact toNat_of_startsName hfirst
  · rcases hrest c hc with hs | ⟨hl, hu⟩
    · exact toNat_of_startsName hs
    · rw [Char.le_def, UInt32.le_iff_toNat_le] at hl hu
      change 48 ≤ c.toNat at hl
      change c.toNat ≤ 57 at hu
      omega

lemma IsName.ne_empty {name : String} (h : IsName name) : name ≠ "" := by
  rintro rfl
  obtain ⟨c, cs, hname, -⟩ := h
  simp at hname

end Text

/-! ### The wording of refusals -/

/-- The wording for a table name that is empty. -/
def emptyTableMessage : String :=
  "table name cannot be empty"

/-- The wording for a table name that is too long. -/
def longTableMessage (table : String) : String :=
  "table name exceeds 64 characters: '" ++ table ++ "'"

/-- The wording for a table name that is made of the wrong characters. -/
def malformedTableMessage (table : String) : String :=
  "table name '" ++ table ++ "' is not a valid label; use letters, digits and underscores, " ++
    "starting with a letter or underscore"

lemma message_longTable (table : String) :
    InputError.message (.longTable table) = longTableMessage table := by
  have hlimit : "table name exceeds " ++ toString maxLabelLength ++ " characters: '" =
      "table name exceeds 64 characters: '" := by
    decide +kernel
  exact congrArg (fun s => s ++ table ++ "'") hlimit

lemma take_toList_append {s : String} {n : Nat} (h : n ≤ s.toList.length) (t : String) :
    (s ++ t).toList.take n = s.toList.take n := by
  rw [String.toList_append, List.take_append_of_le_length h]

/-- The wordings differ in their twelfth character, so that none is that of two refusals. -/
lemma take_toList_messages (table : String) :
    emptyTableMessage.toList.take 12 = "table name c".toList ∧
      (longTableMessage table).toList.take 12 = "table name e".toList ∧
      (malformedTableMessage table).toList.take 12 = "table name '".toList := by
  have hlong : longTableMessage table =
      "table name exceeds 64 characters: '" ++ (table ++ "'") := String.append_assoc
  have hmalformed : malformedTableMessage table =
      "table name '" ++
        (table ++ ("' is not a valid label; use letters, digits and underscores, " ++
        "starting with a letter or underscore")) :=
    String.append_assoc.trans String.append_assoc
  refine ⟨by decide +kernel, ?_, ?_⟩
  · rw [hlong, take_toList_append (by decide +kernel)]
    decide +kernel
  · rw [hmalformed, take_toList_append (by decide +kernel)]
    decide +kernel

lemma messages_ne (table : String) :
    emptyTableMessage ≠ longTableMessage table ∧
      emptyTableMessage ≠ malformedTableMessage table ∧
      longTableMessage table ≠ malformedTableMessage table := by
  obtain ⟨hempty, hlong, hmalformed⟩ := take_toList_messages table
  refine ⟨fun h => ?_, fun h => ?_, fun h => ?_⟩
  · rw [h, hlong] at hempty
    exact absurd hempty (by decide +kernel)
  · rw [h, hmalformed] at hempty
    exact absurd hempty (by decide +kernel)
  · rw [h, hmalformed] at hlong
    exact absurd hlong (by decide +kernel)

/-! ### The grammar of labels -/

namespace Label

variable {table : String}

/-- A table name has a label just if it is short enough and a name. -/
lemma exists_label_iff :
    (∃ l, parse table = .ok l) ↔
      (1 ≤ table.utf8ByteSize ∧ table.utf8ByteSize ≤ 64) ∧ Text.IsName table := by
  have hc := parse_cases table
  generalize parse table = r at hc
  cases hc with
  | empty he => simp [he]
  | long hl => simp [Nat.not_le_of_lt hl]
  | malformed he hl hn => simp [hn]
  | label l hl hn =>
    have hpos : 1 ≤ table.utf8ByteSize :=
      Nat.pos_of_ne_zero (mt String.utf8ByteSize_eq_zero_iff.mp hn.ne_empty)
    exact iff_of_true ⟨l, rfl⟩ ⟨⟨hpos, hl⟩, hn⟩

/-- Each wording stands for one reason to refuse a table name. -/
lemma wording_of_error {e : Error} (he : parse table = .error e) :
    ∃ cause, e = .invalidInput cause ∧
      (cause.message = emptyTableMessage ↔ table = "") ∧
      (cause.message = longTableMessage table ↔ 64 < table.utf8ByteSize) ∧
      (cause.message = malformedTableMessage table ↔ table ≠ "" ∧ table.utf8ByteSize ≤ 64) := by
  obtain ⟨hel, hem, hlm⟩ := messages_ne table
  have hc := parse_cases table
  rw [he] at hc
  cases hc with
  | empty hempty =>
    refine ⟨.emptyTable, rfl, iff_of_true rfl hempty, ?_, ?_⟩
    · exact iff_of_false hel (by simp [hempty])
    · exact iff_of_false hem (by simp [hempty])
  | long hlong =>
    have hne : table ≠ "" := by
      rintro rfl
      exact absurd hlong (by decide)
    refine ⟨.longTable table, rfl, ?_, ?_, ?_⟩
    · rw [message_longTable]
      exact iff_of_false hel.symm hne
    · rw [message_longTable]
      exact iff_of_true rfl hlong
    · rw [message_longTable]
      exact iff_of_false hlm fun h => Nat.not_lt.mpr h.2 hlong
  | malformed hne hle hn =>
    refine ⟨.malformedTable table, rfl, iff_of_false hem.symm hne, ?_, ?_⟩
    · exact iff_of_false hlm.symm (Nat.not_lt.mpr hle)
    · exact iff_of_true rfl ⟨hne, hle⟩

end Label

/-- A table name is a label exactly if it is a name of at most 64 bytes; the label is then shown
as the table's name, and is of no other table. Any other table name is refused with the wording
for an empty one just if it is empty, with that for a long one just if it has more than 64 bytes,
and with the third one otherwise. So a control or a character that is not ASCII is refused
wherever it is. -/
theorem labels_are_short_names (table : String) :
    ((∃ l, Label.parse table = .ok l) ↔
      (1 ≤ table.utf8ByteSize ∧ table.utf8ByteSize ≤ 64) ∧ Text.IsName table) ∧
    (∀ l, Label.parse table = .ok l → l.name = table ∧ toString l = table ∧
      ∀ other, Label.parse other = .ok l → other = table) ∧
    (∀ e, Label.parse table = .error e → ∃ cause, e = .invalidInput cause ∧
      (cause.message = emptyTableMessage ↔ table = "") ∧
      (cause.message = longTableMessage table ↔ 64 < table.utf8ByteSize) ∧
      (cause.message = malformedTableMessage table ↔
        table ≠ "" ∧ table.utf8ByteSize ≤ 64)) ∧
    (∀ c ∈ table.toList, c.toNat < 32 ∨ 128 ≤ c.toNat →
      ∃ e, Label.parse table = .error e) ∧
    Label.ofString table = Label.parse table := by
  refine ⟨Label.exists_label_iff, fun l hl => ?_, fun e he => Label.wording_of_error he,
    fun c hmem hchar => ?_, rfl⟩
  · refine ⟨Label.name_of_parse hl, Label.name_of_parse hl, fun other ho => ?_⟩
    rw [← Label.name_of_parse hl, ← Label.name_of_parse ho]
  · have hc := Label.parse_cases table
    generalize Label.parse table = r at hc
    cases hc with
    | empty | long | malformed => exact ⟨_, rfl⟩
    | label l hl hn =>
      have := hn.toNat c hmem
      omega

/-- A line end at the end of a name counts as a character of it. -/
example : Label.parse "users\n" = .error (.invalidInput (.malformedTable "users\n")) := by
  decide +kernel

end KeyedGraph
