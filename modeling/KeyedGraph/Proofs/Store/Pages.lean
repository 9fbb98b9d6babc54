import KeyedGraph.Proofs.Store.Runs
import KeyedGraph.Proofs.Text.ByteOrder

/-!
# Pages

Who cannot take all rows of a scan at once asks for them page by page: a scan with a small limit,
and another one from the key of the last row as long as the page is full. That row comes again as
the first of the next page, so keys have to be unique, or nodes with one key would be lost
between two pages, and a page has to have two rows, or the walk would not move.
-/

namespace KeyedGraph

open Text

/-- The key of one node is smaller than that of another in the order of their bytes. -/
def Ascends (a b : FieldSet) : Prop :=
  ∃ k l, nodeKey? a = some k ∧ nodeKey? b = some l ∧ compareBytes k l = .lt

/-- Whether a node's key is at or behind a start key in the order of their bytes. -/
def isFrom (start : String) (node : FieldSet) : Bool :=
  (nodeKey? node).any fun key => (compareBytes start key).isLE

section Lists

variable {start : String} {size limit : Nat} {nodes : List FieldSet}

lemma isFrom_eq_reaches (start : String) : isFrom start = reaches start := by
  funext node
  rw [isFrom, reaches]
  cases nodeKey? node with
  | none => rfl
  | some key => exact isLE_compareBytes start key

/-- Unique keys ascend. -/
lemma ascends_ranked (hu : (nodes.map nodeKey?).Nodup) (start : String) :
    (ranked start nodes).Pairwise Ascends := by
  have hperm : ((ranked start nodes).map nodeKey?).Perm
      ((nodes.filter (reaches start)).map nodeKey?) := (perm_ranked start nodes).map nodeKey?
  have hnodup : ((ranked start nodes).map nodeKey?).Nodup :=
    hperm.nodup_iff.mpr (hu.sublist (List.filter_sublist.map nodeKey?))
  have hne : (ranked start nodes).Pairwise fun a b => nodeKey? a ≠ nodeKey? b :=
    List.pairwise_map.mp hnodup
  refine ((pairwise_ranked start nodes).and hne).imp_of_mem fun {a b} ha hb ⟨hle, hne⟩ => ?_
  obtain ⟨-, k, hk, -⟩ := mem_ranked.mp ha
  obtain ⟨-, l, hl, -⟩ := mem_ranked.mp hb
  rw [keyLe, hk, hl] at hle
  refine ⟨k, l, hk, hl, compareBytes_eq_lt_iff.mpr (lt_of_le_of_ne (of_decide_eq_true hle) ?_)⟩
  rintro rfl
  exact hne (hk.trans hl.symm)

/-- Where a full page ends, a scan from the key of its last row goes on, beginning with that
row. -/
lemma exists_last_row (hu : (nodes.map nodeKey?).Nodup) (hs : 1 ≤ size)
    (hfull : (scanList start size nodes).length = size) :
    ∃ last key rest, (scanList start size nodes).getLast? = some last ∧
      nodeKey? last = some key ∧ ranked start nodes = scanList start size nodes ++ rest ∧
      ranked key nodes = last :: rest := by
  obtain ⟨front, last, hpage⟩ : ∃ front last, scanList start size nodes = front ++ [last] := by
    rcases List.eq_nil_or_concat (scanList start size nodes) with hnil | ⟨front, last, hc⟩
    · simp [hnil] at hfull
      omega
    · exact ⟨front, last, by rw [hc, List.concat_eq_append]⟩
  have heq : ranked start nodes = front ++ last :: (ranked start nodes).drop size := by
    rw [List.append_cons, ← hpage, scanList_eq_take, List.take_append_drop]
  have hm : last ∈ ranked start nodes := by
    rw [heq]
    simp
  obtain ⟨-, key, hk, -⟩ := mem_ranked.mp hm
  refine ⟨last, key, (ranked start nodes).drop size, ?_, hk, ?_, ?_⟩
  · rw [hpage, List.getLast?_concat]
  · rw [scanList_eq_take, List.take_append_drop]
  · refine ranked_of_eq_append heq hk fun a ha => ?_
    -- the rows before the last one have smaller keys
    have hasc := ascends_ranked hu start
    rw [heq] at hasc
    obtain ⟨k, l, hka, hl, hlt⟩ :=
      (List.pairwise_append.mp hasc).2.2 a ha last List.mem_cons_self
    obtain rfl : key = l := Option.some.inj (hk.symm.trans hl)
    rw [compareBytes_eq_lt_iff] at hlt
    rw [reaches, hka]
    exact decide_eq_false (not_le_of_gt hlt)

lemma scanList_isPrefix (h : size ≤ limit) (start : String) (nodes : List FieldSet) :
    scanList start size nodes <+: scanList start limit nodes :=
  List.take_prefix_take_left h

/-- A page that is not full has all there is. -/
lemma scanList_of_not_full (h : (scanList start size nodes).length < size) (hl : size ≤ limit) :
    scanList start limit nodes = scanList start size nodes := by
  rw [scanList_eq_take, List.length_take] at h
  rw [scanList_eq_take, scanList_eq_take, List.take_of_length_le (by omega),
    List.take_of_length_le (by omega)]

/-- A page that is full and the scan from the key of its last row make up a longer page. -/
lemma scanList_of_full (hu : (nodes.map nodeKey?).Nodup) (hs : 1 ≤ size) (hl : size ≤ limit)
    (h : (scanList start size nodes).length = size) :
    ∃ last key rest, (scanList start size nodes).getLast? = some last ∧
      nodeKey? last = some key ∧ scanList key (limit - size + 1) nodes = last :: rest ∧
      scanList start limit nodes = scanList start size nodes ++ rest := by
  obtain ⟨last, key, rest, hlast, hk, hr, hrest⟩ := exists_last_row hu hs h
  refine ⟨last, key, rest.take (limit - size), hlast, hk, ?_, ?_⟩
  · rw [scanList_eq_take, hrest, List.take_succ_cons]
  · rw [scanList_eq_take start limit, hr, List.take_append, h, List.take_of_length_le (by omega)]

end Lists

namespace Memory

/-- Walks through the nodes of a label from a start key on, by pages of one size: while a page is
full, the next one starts with the key of its last row, and the row that comes again is left out.
At most so many pages are asked for. -/
def walk (handle : Nat) (label : Label) (size : Nat) :
    Nat → String → Memory → Option (List FieldSet)
  | 0, _, _ => none
  | pages + 1, start, m =>
    let page := call handle (.scanNodes label start size) m
    match page.outcome with
    | .ok rows =>
      if rows.length < size then some rows
      else
        (rows.getLast?.bind nodeKey?).bind fun key =>
          (walk handle label size pages key page.world).map fun more => rows ++ more.tail
    | .error _ => none
    | .crash => none

variable {m : Memory} {handle : Nat} {label : Label} {size : Nat}

lemma walk_succ (ho : m.IsOpen handle) (pages : Nat) (start : String) :
    walk handle label size (pages + 1) start m =
      if (scanList start size (m.nodes label)).length < size then
        some (scanList start size (m.nodes label))
      else
        ((scanList start size (m.nodes label)).getLast?.bind nodeKey?).bind fun key =>
          (walk handle label size pages key m).map fun more =>
            scanList start size (m.nodes label) ++ more.tail := by
  rw [walk, call_of_isOpen ho (by simp)]
  rfl

/-- A walk over unique keys by pages of two rows or more goes through what one scan does. -/
lemma walk_eq (ho : m.IsOpen handle) (hu : ((m.nodes label).map nodeKey?).Nodup) (hs : 2 ≤ size)
    (pages : Nat) (start : String) :
    walk handle label size pages start m =
      if ((ranked start (m.nodes label)).length - 1) / (size - 1) < pages then
        some (ranked start (m.nodes label))
      else none := by
  induction pages generalizing start with
  | zero => rfl
  | succ pages ih =>
    rw [walk_succ ho]
    have hlength : (scanList start size (m.nodes label)).length =
        min size (ranked start (m.nodes label)).length := List.length_take
    by_cases hl : (scanList start size (m.nodes label)).length < size
    · have hle : (ranked start (m.nodes label)).length ≤ size := by omega
      have hpage : scanList start size (m.nodes label) = ranked start (m.nodes label) :=
        List.take_of_length_le hle
      have hone : ((ranked start (m.nodes label)).length - 1) / (size - 1) = 0 :=
        Nat.div_eq_of_lt (by omega)
      rw [if_pos hl, hpage, hone, if_pos (Nat.succ_pos pages)]
    · have hfull : (scanList start size (m.nodes label)).length = size := by omega
      obtain ⟨last, key, rest, hlast, hk, hr, hrest⟩ := exists_last_row hu (by omega) hfull
      -- the walk goes on over the last row of the page and all behind it
      have hmore : ((ranked start (m.nodes label)).length - 1) / (size - 1) =
          (rest.length + 1 - 1) / (size - 1) + 1 := by
        have hsub : (ranked start (m.nodes label)).length - 1 = rest.length + (size - 1) := by
          rw [hr, List.length_append, hfull]
          omega
        rw [hsub, Nat.add_div_right _ (by omega), Nat.add_sub_cancel]
      rw [if_neg hl, hlast, Option.bind_some, hk, Option.bind_some, ih, hrest, List.length_cons,
        hmore]
      simp only [Nat.add_lt_add_iff_right]
      split
      · rw [Option.map_some, List.tail_cons, hr]
      · rfl

/-- After any steps on any handles of a store in memory, on a handle that is open: the rows of a
scan are the first rows of any longer one. With unique keys, a page that is not full has all rows
of a longer scan, and a page that is full has those up to its last row, from where a scan that
starts with the key of that row goes on. So a walk by pages of two rows or more goes through each
node from its start key on once and in the order of the keys. Every page but the last one moves
it on by all of the page's rows but one, which tells how many pages it takes. -/
theorem pages_make_up_scans (uniqueKeys unreachable : Bool) (steps : List (Step Nat))
    {handle : Nat} (ho : (Memory.run { uniqueKeys, unreachable } steps).IsOpen handle)
    (label : Label) (start : String) :
    let m := Memory.run { uniqueKeys, unreachable } steps
    (∀ size limit, 1 ≤ size → size ≤ limit → ∃ page rows,
      call handle (.scanNodes label start size) m = .done page m ∧
      call handle (.scanNodes label start limit) m = .done rows m ∧
      page <+: rows ∧
      (uniqueKeys = true → page.length < size → rows = page) ∧
      (uniqueKeys = true → page.length = size → ∃ last key rest,
        page.getLast? = some last ∧ nodeKey? last = some key ∧
        call handle (.scanNodes label key (limit - size + 1)) m = .done (last :: rest) m ∧
        rows = page ++ rest)) ∧
    (uniqueKeys = true → ∀ size ≥ 2, ∃ rows,
      rows.Perm ((m.nodes label).filter (isFrom start)) ∧
      rows.Pairwise Ascends ∧
      ∀ pages, walk handle label size pages start m =
        if (rows.length - 1) / (size - 1) < pages then some rows else none) := by
  intro m
  have hanswer (c : StoreCall) (hc : c ≠ .close) : call handle c m = answer c m :=
    call_of_isOpen ho hc
  have hunique (hu : uniqueKeys = true) : ((m.nodes label).map nodeKey?).Nodup := by
    refine nodup_succession (succession_run _ steps) hu (fun _ => ?_) label
    exact List.nodup_nil
  constructor
  · intro size limit hs hl
    refine ⟨_, _, hanswer _ (by simp), hanswer _ (by simp), scanList_isPrefix hl _ _, ?_, ?_⟩
    · intro _ hless
      exact scanList_of_not_full hless hl
    · intro hu hfull
      obtain ⟨last, key, rest, hlast, hk, hnext, hrows⟩ :=
        scanList_of_full (hunique hu) hs hl hfull
      refine ⟨last, key, rest, hlast, hk, ?_, hrows⟩
      rw [hanswer _ (by simp), answer, hnext]
  · intro hu size hs
    refine ⟨ranked start (m.nodes label), ?_, ascends_ranked (hunique hu) start, ?_⟩
    · rw [isFrom_eq_reaches]
      exact perm_ranked start (m.nodes label)
    · intro pages
      exact walk_eq ho (hunique hu) hs pages start

/-- Five nodes with unique keys, created in no order of them. -/
def choir : List (Step Nat) :=
  [.connect {}, .call 0 (.createNode crew "eve" ∅), .call 0 (.createNode crew "bob" ∅),
    .call 0 (.createNode crew "dan" ∅), .call 0 (.createNode crew "ada" ∅),
    .call 0 (.createNode crew "cat" ∅)]

/-- The four nodes behind the first key take two pages of three rows, which have one row in
common. -/
theorem choir_walks_in_two_pages :
    let m := Memory.run { uniqueKeys := true } choir
    m.IsOpen 0 ∧
    (∃ page last key rest, page.length = 3 ∧ call 0 (.scanNodes crew "b" 3) m = .done page m ∧
      page.getLast? = some last ∧ nodeKey? last = some key ∧
      call 0 (.scanNodes crew key 3) m = .done (last :: rest) m ∧
      call 0 (.scanNodes crew "b" 5) m = .done (page ++ rest) m) ∧
    ∃ rows, rows.length = 4 ∧ rows.Perm ((m.nodes crew).filter (isFrom "b")) ∧
      rows.Pairwise Ascends ∧ walk 0 crew 3 1 "b" m = none ∧
        walk 0 crew 3 2 "b" m = some rows := by
  intro m
  have ho : m.IsOpen 0 := ⟨by decide +kernel, by decide +kernel⟩
  have hreach : (m.nodes crew).countP (reaches "b") = 4 := by decide +kernel
  obtain ⟨hpages, hwalk⟩ := pages_make_up_scans true false choir ho crew "b"
  obtain ⟨page, all, hpage, hall, -, -, hfull⟩ := hpages 3 5 (by decide) (by decide)
  have hlength : page.length = 3 := by
    rw [call_of_isOpen ho (by simp)] at hpage
    obtain rfl := Outcome.ok.inj (congrArg Attempt.outcome hpage)
    rw [scanList_eq_take, List.length_take, length_ranked, hreach]
    rfl
  obtain ⟨last, key, rest, hlast, hk, hnext, rfl⟩ := hfull rfl hlength
  obtain ⟨rows, hperm, hasc, hw⟩ := hwalk rfl 3 (by decide)
  have hrows : rows.length = 4 := by
    rw [hperm.length_eq, ← List.countP_eq_length_filter, isFrom_eq_reaches, hreach]
  refine ⟨ho, ⟨page, last, key, rest, hlength, hpage, hlast, hk, hnext, hall⟩, rows, hrows,
    hperm, hasc, ?_, ?_⟩
  · rw [hw, hrows]
    rfl
  · rw [hw, hrows]
    rfl

end Memory

end KeyedGraph
