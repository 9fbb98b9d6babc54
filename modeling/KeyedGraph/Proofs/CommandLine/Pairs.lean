import KeyedGraph.CommandLine.Pair
import KeyedGraph.Record
import Mathlib.Data.List.TakeDrop
import Mathlib.Data.List.TakeWhile

/-!
# Pairs and the fields that they make

A pair is written with an equals sign between its key and its value, and the key has none of its
own; that determines both, whatever the value is. Of the pairs with one name, the last gives the
field its value.
-/

namespace KeyedGraph

/-! ### Reading one pair -/

/-- The ways in which an argument is read: it has no equals sign, it begins with one, or its
first one stands between key and value. -/
inductive PairReading : String → Except PairError (String × String) → Prop
  | missingEquals {s : String} (h : '=' ∉ s.toList) : PairReading s (.error (.missingEquals s))
  | emptyKey {s : String} (value : String) (h : s = "=" ++ value) :
      PairReading s (.error (.emptyKey s))
  | pair {s key value : String} (hk : key ≠ "") (hn : '=' ∉ key.toList)
      (h : s = key ++ "=" ++ value) : PairReading s (.ok (key, value))

/-- A text is cut in front of its first equals sign, or at its end if it has none. -/
lemma span_ne_equals_eq_iff {cs key behind : List Char} :
    cs.span (· != '=') = (key, behind) ↔
      '=' ∉ key ∧ cs = key ++ behind ∧ (behind = [] ∨ ∃ value, behind = '=' :: value) := by
  rw [List.span_eq_takeWhile_dropWhile, Prod.mk.injEq]
  constructor
  · rintro ⟨rfl, rfl⟩
    refine ⟨fun h => by simpa using List.mem_takeWhile_imp h,
      List.takeWhile_append_dropWhile.symm, ?_⟩
    have hhead := List.head?_dropWhile_not (· != '=') cs
    cases hd : cs.dropWhile (· != '=') with
    | nil => exact .inl rfl
    | cons c value =>
      obtain rfl : c = '=' := by simpa [hd] using hhead
      exact .inr ⟨value, rfl⟩
  · rintro ⟨hn, rfl, hb⟩
    have hall : ∀ c ∈ key, (c != '=') = true := fun c hc => by
      simpa using fun h : c = '=' => hn (h ▸ hc)
    rw [List.takeWhile_append_of_pos hall, List.dropWhile_append_of_pos hall]
    rcases hb with rfl | ⟨value, rfl⟩ <;> simp

/-- Every argument is read in one of the ways. -/
theorem parsePair_cases (s : String) : PairReading s (parsePair s) := by
  rw [parsePair]
  cases hcut : s.toList.span (· != '=') with
  | mk key behind =>
    obtain ⟨hn, happ, rfl | ⟨value, rfl⟩⟩ := span_ne_equals_eq_iff.mp hcut
    · refine .missingEquals ?_
      rw [happ, List.append_nil]
      exact hn
    · have hs : s = String.ofList key ++ "=" ++ String.ofList value :=
        String.toList_inj.mp (by simp [happ])
      cases key with
      | nil => exact .emptyKey (String.ofList value) (by simpa using hs)
      | cons c cs =>
        refine .pair (fun h => ?_) (by simpa using hn) hs
        simpa using congrArg String.toList h

/-- A key without an equals sign is read back from in front of any value. -/
lemma parsePair_append {key : String} (hk : key ≠ "") (hn : '=' ∉ key.toList) (value : String) :
    parsePair (key ++ "=" ++ value) = .ok (key, value) := by
  have hcut : (key ++ "=" ++ value).toList.span (· != '=') = (key.toList, '=' :: value.toList) :=
    span_ne_equals_eq_iff.mpr ⟨hn, by simp, .inr ⟨_, rfl⟩⟩
  rw [parsePair, hcut]
  cases h : key.toList with
  | nil => exact absurd (String.toList_eq_nil_iff.mp h) hk
  | cons c cs => simp [← h]

/-- An argument is the pair of a key without an equals sign and a value just if it consists of
them, with an equals sign between. -/
theorem parsePair_eq_ok_iff {s key value : String} :
    parsePair s = .ok (key, value) ↔
      key ≠ "" ∧ '=' ∉ key.toList ∧ s = key ++ "=" ++ value := by
  constructor
  · intro h
    have hc := parsePair_cases s
    rw [h] at hc
    cases hc with
    | pair hk hn hs => exact ⟨hk, hn, hs⟩
  · rintro ⟨hk, hn, rfl⟩
    exact parsePair_append hk hn value

example : parsePair "url==a=" = .ok ("url", "=a=") := by decide

/-- An argument is a pair just if it has an equals sign and does not begin with one. -/
lemma exists_parsePair_eq_ok_iff {s : String} :
    (∃ pair, parsePair s = .ok pair) ↔ '=' ∈ s.toList ∧ s.toList.head? ≠ some '=' := by
  have hc := parsePair_cases s
  generalize parsePair s = read at hc ⊢
  cases hc with
  | missingEquals h => simp [h]
  | emptyKey value h => simp [h]
  | @pair key value hk hn h =>
    refine iff_of_true ⟨_, rfl⟩ ?_
    subst h
    refine ⟨by simp, ?_⟩
    cases hkey : key.toList with
    | nil => exact absurd (String.toList_eq_nil_iff.mp hkey) hk
    | cons c cs =>
      rw [hkey] at hn
      simpa [hkey] using fun hc : c = '=' => hn (hc ▸ List.mem_cons_self)

/-! ### Reading a list of pairs -/

/-- Each of the arguments is read as the pair in its place. -/
def Accepted (arguments : List String) (pairs : List (String × String)) : Prop :=
  List.Forall₂ (fun argument pair => parsePair argument = .ok pair) arguments pairs

namespace Accepted

variable {arguments : List String} {pairs : List (String × String)}

/-- No argument is left out. -/
lemma filterMap_eq (h : Accepted arguments pairs) :
    (arguments.filterMap fun argument => (parsePair argument).toOption) = pairs := by
  induction h with
  | nil => rfl
  | cons hp _ ih =>
    rw [List.filterMap_cons, hp, ih]
    rfl

lemma of_forall (h : ∀ argument ∈ arguments, ∃ pair, parsePair argument = .ok pair) :
    Accepted arguments (arguments.filterMap fun argument => (parsePair argument).toOption) := by
  induction arguments with
  | nil => exact .nil
  | cons argument rest ih =>
    obtain ⟨⟨pair, hp⟩, hrest⟩ := List.forall_mem_cons.mp h
    simp only [List.filterMap_cons, hp, Except.toOption]
    exact .cons hp (ih hrest)

lemma exists_of_mem (h : Accepted arguments pairs) {argument : String}
    (ha : argument ∈ arguments) : ∃ pair, parsePair argument = .ok pair := by
  induction h with
  | nil => exact absurd ha List.not_mem_nil
  | cons hp _ ih =>
    rcases List.mem_cons.mp ha with rfl | ha
    · exact ⟨_, hp⟩
    · exact ih ha

end Accepted

/-! ### The fields that pairs make -/

/-- The last of the pairs with this name has this value. -/
def LastBinds (pairs : List (String × String)) (name value : String) : Prop :=
  ∃ before after, pairs = before ++ (name, value) :: after ∧ ∀ pair ∈ after, pair.1 ≠ name

/-- The fields have the names that occur in the pairs and no others, and each has the value of
the last pair with its name. -/
structure BindLast (fields : FieldSet) (pairs : List (String × String)) : Prop where
  mem_iff (name : String) : name ∈ fields ↔ name ∈ pairs.map Prod.fst
  getElem?_eq_some_iff (name value : String) :
    fields[name]? = some value ↔ LastBinds pairs name value

lemma lastBinds_iff {pairs : List (String × String)} {name value : String} :
    LastBinds pairs name value ↔ pairs.reverse.lookup name = some value := by
  rw [List.lookup_eq_some_iff]
  constructor
  · rintro ⟨before, after, rfl, hafter⟩
    refine ⟨after.reverse, before.reverse, by simp, fun pair hp => ?_⟩
    exact bne_iff_ne.mpr (hafter pair (List.mem_reverse.mp hp)).symm
  · rintro ⟨after, before, heq, hafter⟩
    refine ⟨before.reverse, after.reverse, ?_, fun pair hp => ?_⟩
    · rw [List.reverse_eq_iff.mp heq, List.reverse_append, List.reverse_cons, List.append_assoc,
        List.singleton_append]
    · exact (bne_iff_ne.mp (hafter pair (List.mem_reverse.mp hp))).symm

lemma bindLast_ofPairs (pairs : List (String × String)) : BindLast (.ofPairs pairs) pairs where
  mem_iff name := by
    simp [FieldSet.ofPairs, Std.ExtTreeMap.mem_insertMany_list]
  getElem?_eq_some_iff name value := by
    rw [FieldSet.getElem?_ofPairs, lastBinds_iff]

/-- There are no other such fields. -/
lemma BindLast.eq_ofPairs {fields : FieldSet} {pairs : List (String × String)}
    (h : BindLast fields pairs) : fields = .ofPairs pairs := by
  refine Std.ExtTreeMap.ext_getElem? fun name => Option.ext fun value => ?_
  rw [h.getElem?_eq_some_iff, (bindLast_ofPairs pairs).getElem?_eq_some_iff]

end KeyedGraph
