import KeyedGraph.Proofs.Connection.Invariant

/-!
# Ledgers

A ledger is a world that also keeps the list of all attempts on a backend, in their order. The
handles of a recorded backend carry the number of the connect that opened them, so that a store
is known by its number even if a backend hands out one handle twice. Recording changes nothing
else: `plain_acquire`, `plain_release` and `plain_call` say that what is left without the list
and the numbers is what the backend itself does. A ledger is orderly if every call in it was made
on a store that was opened and not yet closed.
-/

namespace KeyedGraph

variable {σ η : Type}

/-- A store, by the number of the connect that opened it. -/
structure Numbered (η : Type) where
  number : Nat
  handle : η
deriving DecidableEq

/-- An attempt on a backend, with its success. A call names its store by the store's number. -/
inductive Contact
  | connect (succeeded : Bool)
  | call (store : Nat) (kind : CallKind) (succeeded : Bool)
deriving DecidableEq

/-- A world with the attempts that were made so far. -/
structure Ledger (σ : Type) where
  inner : σ
  contacts : List Contact := []

/-- Whether an attempt gave a value. -/
def Outcome.isOk {α : Type} : Outcome α → Bool
  | .ok _ => true
  | _ => false

/-! ### Counting contacts -/

/-- Whether a store was opened. -/
def Contact.isOpening : Contact → Bool
  | .connect succeeded => succeeded
  | .call _ _ _ => false

/-- Whether a store was closed, well or badly. -/
def Contact.isClosing : Contact → Bool
  | .connect _ => false
  | .call _ kind _ => kind = .close

/-- Whether this store was closed, well or badly. -/
def Contact.closes (store : Nat) : Contact → Bool
  | .connect _ => false
  | .call n kind _ => n = store ∧ kind = .close

/-- How many stores were opened. -/
def openings (contacts : List Contact) : Nat :=
  contacts.countP Contact.isOpening

/-- How many times any store was closed. -/
def closings (contacts : List Contact) : Nat :=
  contacts.countP Contact.isClosing

/-- How many times one store was closed. -/
def closingsOf (store : Nat) (contacts : List Contact) : Nat :=
  contacts.countP (Contact.closes store)

@[simp] lemma openings_nil : openings [] = 0 := rfl

@[simp] lemma openings_connect (succeeded : Bool) (l : List Contact) :
    openings (.connect succeeded :: l) = openings l + if succeeded then 1 else 0 :=
  List.countP_cons

@[simp] lemma openings_call (n : Nat) (kind : CallKind) (succeeded : Bool) (l : List Contact) :
    openings (.call n kind succeeded :: l) = openings l :=
  List.countP_cons_of_neg (by simp [Contact.isOpening])

@[simp] lemma openings_append (l m : List Contact) :
    openings (l ++ m) = openings l + openings m :=
  List.countP_append

@[simp] lemma closings_nil : closings [] = 0 := rfl

@[simp] lemma closings_connect (succeeded : Bool) (l : List Contact) :
    closings (.connect succeeded :: l) = closings l :=
  List.countP_cons_of_neg (by simp [Contact.isClosing])

@[simp] lemma closings_call (n : Nat) (kind : CallKind) (succeeded : Bool) (l : List Contact) :
    closings (.call n kind succeeded :: l) = closings l + if kind = .close then 1 else 0 := by
  simp [closings, List.countP_cons, Contact.isClosing]

@[simp] lemma closings_append (l m : List Contact) :
    closings (l ++ m) = closings l + closings m :=
  List.countP_append

@[simp] lemma closingsOf_nil (store : Nat) : closingsOf store [] = 0 := rfl

@[simp] lemma closingsOf_connect (store : Nat) (succeeded : Bool) (l : List Contact) :
    closingsOf store (.connect succeeded :: l) = closingsOf store l :=
  List.countP_cons_of_neg (by simp [Contact.closes])

@[simp] lemma closingsOf_call (store n : Nat) (kind : CallKind) (succeeded : Bool)
    (l : List Contact) :
    closingsOf store (.call n kind succeeded :: l) =
      closingsOf store l + if n = store ∧ kind = .close then 1 else 0 := by
  simp [closingsOf, List.countP_cons, Contact.closes]

@[simp] lemma closingsOf_append (store : Nat) (l m : List Contact) :
    closingsOf store (l ++ m) = closingsOf store l + closingsOf store m :=
  List.countP_append

/-! ### Recording -/

/-- The backend that keeps a ledger of the attempts on it. -/
def Backend.recorded (b : Backend σ η) : Backend (Ledger σ) (Numbered η) :=
  { connect := fun settings l =>
      let a := b.connect settings l.inner
      { outcome := a.outcome.map (Numbered.mk (openings l.contacts))
        world := ⟨a.world, l.contacts ++ [.connect a.outcome.isOk]⟩
        events := a.events }
    call := fun store c l =>
      let a := b.call store.handle c l.inner
      { outcome := a.outcome
        world := ⟨a.world, l.contacts ++ [.call store.number c.kind a.outcome.isOk]⟩
        events := a.events } }

/-- The context whose backend keeps a ledger. -/
def Context.recorded (ctx : Context σ η) : Context (Ledger σ) (Numbered η) :=
  { settings := ctx.settings, backend := ctx.backend.recorded }

/-- A context that nothing was asked of yet. -/
def ContextState.new (w : σ) : ContextState σ η :=
  { world := w }

/-- A context that nothing was asked of yet, with an empty ledger. -/
def ContextState.newRecorded (w : σ) : ContextState (Ledger σ) (Numbered η) :=
  .new { inner := w }

@[simp] lemma Context.recorded_settings (ctx : Context σ η) :
    ctx.recorded.settings = ctx.settings := rfl

@[simp] lemma Context.recorded_backend (ctx : Context σ η) :
    ctx.recorded.backend = ctx.backend.recorded := rfl

@[simp] lemma Backend.recorded_connect (b : Backend σ η) (settings : Settings) (l : Ledger σ) :
    b.recorded.connect settings l =
      { outcome := (b.connect settings l.inner).outcome.map (Numbered.mk (openings l.contacts))
        world :=
          ⟨(b.connect settings l.inner).world,
            l.contacts ++ [.connect (b.connect settings l.inner).outcome.isOk]⟩
        events := (b.connect settings l.inner).events } := rfl

@[simp] lemma Backend.recorded_call (b : Backend σ η) (store : Numbered η) (c : StoreCall)
    (l : Ledger σ) :
    b.recorded.call store c l =
      { outcome := (b.call store.handle c l.inner).outcome
        world :=
          ⟨(b.call store.handle c l.inner).world,
            l.contacts ++
              [.call store.number c.kind (b.call store.handle c l.inner).outcome.isOk]⟩
        events := (b.call store.handle c l.inner).events } := rfl

@[simp] lemma Outcome.isOk_map {α β : Type} (f : α → β) (o : Outcome α) :
    (o.map f).isOk = o.isOk := by
  cases o <;> rfl

/-- What opening a store adds to the ledger, and the number of the store. -/
lemma Backend.contacts_connect {b : Backend σ η} {settings : Settings} {l l' : Ledger σ}
    {o : Outcome (Numbered η)} {es : List Event}
    (h : b.recorded.connect settings l = ⟨o, l', es⟩) :
    l'.contacts = l.contacts ++ [.connect o.isOk] ∧
      ∀ store, o = .ok store → store.number = openings l.contacts := by
  simp only [recorded_connect, Attempt.mk.injEq] at h
  obtain ⟨rfl, rfl, -⟩ := h
  refine ⟨by simp, fun store ho => ?_⟩
  cases hx : (b.connect settings l.inner).outcome with
  | ok handle =>
    rw [hx] at ho
    obtain rfl := Outcome.ok.inj ho
    rfl
  | error | crash => simp [hx, Outcome.map] at ho

/-- What a call adds to the ledger. -/
lemma Backend.contacts_call {b : Backend σ η} {store : Numbered η} {c : StoreCall}
    {l l' : Ledger σ} {o : Outcome c.Reply} {es : List Event}
    (h : b.recorded.call store c l = ⟨o, l', es⟩) :
    l'.contacts = l.contacts ++ [.call store.number c.kind o.isOk] := by
  simp only [recorded_call, Attempt.mk.injEq] at h
  obtain ⟨rfl, rfl, -⟩ := h
  rfl

/-! ### Recording is invisible -/

/-- What is shared, without the numbers of stores. -/
def SharedConnection.plain (c : SharedConnection (Numbered η)) : SharedConnection η :=
  { users := c.users, store := c.store.map Numbered.handle, poisoned := c.poisoned }

/-- The state of a context, without its ledger. -/
def ContextState.plain (s : ContextState (Ledger σ) (Numbered η)) : ContextState σ η :=
  { shared := s.shared.plain, world := s.world.inner }

/-- An attempt with another form of its value and its world. -/
def Attempt.map {τ α β : Type} (f : α → β) (g : σ → τ) (a : Attempt σ α) : Attempt τ β :=
  { outcome := a.outcome.map f, world := g a.world, events := a.events }

@[simp] lemma Outcome.map_id {α : Type} (o : Outcome α) : o.map id = o := by
  cases o <;> rfl

lemma plain_abandon (ctx : Context σ η) (c : SharedConnection (Numbered η)) (store : Numbered η)
    (cause : Error) (l : Ledger σ) (es : List Event) :
    (ctx.recorded.abandon c store cause l es).map Numbered.handle ContextState.plain =
      ctx.abandon c.plain store.handle cause l.inner es := by
  simp only [Context.abandon, Context.recorded_backend, Backend.recorded_call]
  generalize ctx.backend.call store.handle .close l.inner = a
  obtain ⟨o, w, es'⟩ := a
  cases o <;> rfl

lemma plain_openStore (ctx : Context σ η) (c : SharedConnection (Numbered η)) (l : Ledger σ) :
    (ctx.recorded.openStore c l).map Numbered.handle ContextState.plain =
      ctx.openStore c.plain l.inner := by
  simp only [Context.openStore, Context.recorded_backend, Context.recorded_settings,
    Backend.recorded_connect]
  generalize ctx.backend.connect ctx.settings l.inner = a
  obtain ⟨o, w, es⟩ := a
  cases o with
  | error | crash => rfl
  | ok store =>
    simp only [Outcome.map, Backend.recorded_call]
    generalize ctx.backend.call store .verifyConnectivity w = a
    obtain ⟨o, w', es'⟩ := a
    cases o with
    | ok | crash => rfl
    | error cause => exact plain_abandon ..

theorem plain_acquire (ctx : Context σ η) (s : ContextState (Ledger σ) (Numbered η)) :
    (ctx.recorded.acquire s).map Numbered.handle ContextState.plain = ctx.acquire s.plain := by
  obtain ⟨⟨users, store, poisoned⟩, l⟩ := s
  cases poisoned with
  | true => rfl
  | false =>
    cases store with
    | some store => rfl
    | none => exact plain_openStore ctx _ l

lemma plain_closeStore (ctx : Context σ η) (store : Numbered η) (l : Ledger σ)
    (es : List Event) :
    (ctx.recorded.closeStore store l es).map id ContextState.plain =
      ctx.closeStore store.handle l.inner es := by
  simp only [Context.closeStore, Context.recorded_backend, Backend.recorded_call]
  generalize ctx.backend.call store.handle .close l.inner = a
  obtain ⟨o, w, es'⟩ := a
  cases o <;> rfl

theorem plain_release (ctx : Context σ η) (s : ContextState (Ledger σ) (Numbered η)) :
    (ctx.recorded.release s).map id ContextState.plain = ctx.release s.plain := by
  obtain ⟨⟨users, store, poisoned⟩, l⟩ := s
  cases poisoned with
  | true => rfl
  | false =>
    match users, store with
    | 0, _ | 1, none | _ + 2, none | _ + 2, some _ => rfl
    | 1, some store => exact plain_closeStore ctx store l _

@[simp] theorem plain_call (b : Backend σ η) (store : Numbered η) (c : StoreCall)
    (l : Ledger σ) :
    (b.recorded.call store c l).mapWorld Ledger.inner = b.call store.handle c l.inner := rfl

/-! ### Orderly ledgers -/

/-- Every call was made on a store that was opened before and not closed before. -/
def Orderly (contacts : List Contact) : Prop :=
  ∀ before n kind succeeded after, contacts = before ++ .call n kind succeeded :: after →
    n < openings before ∧ closingsOf n before = 0

/-- A store that was opened and is not closed. -/
def Ledger.IsOpen (l : Ledger σ) (store : Numbered η) : Prop :=
  store.number < openings l.contacts ∧ closingsOf store.number l.contacts = 0

namespace Orderly

variable {l : List Contact}

lemma nil : Orderly [] := by
  intro before n kind succeeded after h
  simp at h

lemma append_connect (h : Orderly l) (succeeded : Bool) :
    Orderly (l ++ [.connect succeeded]) := by
  intro before n kind ok after hs
  rcases List.eq_nil_or_concat after with rfl | ⟨after, last, rfl⟩
  · have := (List.append_inj' hs rfl).2
    simp at this
  · rw [List.concat_eq_append, ← List.cons_append, ← List.append_assoc] at hs
    exact h _ _ _ _ _ (List.append_inj' hs rfl).1

lemma append_call (h : Orderly l) {n : Nat} (ho : n < openings l) (hc : closingsOf n l = 0)
    (kind : CallKind) (succeeded : Bool) : Orderly (l ++ [.call n kind succeeded]) := by
  intro before n' kind' ok after hs
  rcases List.eq_nil_or_concat after with rfl | ⟨after, last, rfl⟩
  · obtain ⟨rfl, hx⟩ := List.append_inj' hs rfl
    obtain ⟨rfl, -, -⟩ : n = n' ∧ kind = kind' ∧ succeeded = ok := by simpa using hx
    exact ⟨ho, hc⟩
  · rw [List.concat_eq_append, ← List.cons_append, ← List.append_assoc] at hs
    exact h _ _ _ _ _ (List.append_inj' hs rfl).1

/-- A store that is yet to be opened was not closed. -/
lemma closingsOf_of_le (h : Orderly l) {n : Nat} (hn : openings l ≤ n) : closingsOf n l = 0 := by
  refine List.countP_eq_zero.mpr fun contact hm hc => ?_
  cases contact with
  | connect => simp [Contact.closes] at hc
  | call n' kind succeeded =>
    obtain ⟨rfl, -⟩ : n' = n ∧ kind = .close := by simpa [Contact.closes] using hc
    obtain ⟨before, after, rfl⟩ := List.append_of_mem hm
    have := (h before n' kind succeeded after rfl).1
    simp only [openings_append] at hn
    omega

end Orderly

/-- Whoever keeps to stores that are open leaves an orderly ledger. -/
theorem Backend.upholds_orderly (b : Backend σ η) :
    b.recorded.Upholds (fun l => Orderly l.contacts) Ledger.IsOpen where
  connect settings l hl := hl.append_connect _
  opened {settings l store} hl ho := by
    have hx : b.recorded.connect settings l = ⟨.ok store, (b.recorded.connect settings l).world,
        (b.recorded.connect settings l).events⟩ := by
      rw [← ho]
    obtain ⟨hc, hn⟩ := Backend.contacts_connect hx
    rw [Ledger.IsOpen, hc, hn store rfl]
    simp [Outcome.isOk, hl.closingsOf_of_le (Nat.le_refl _)]
  call c l hl ho := hl.append_call ho.1 ho.2 _ _
  kept {store c} hc l hl ho := by
    have hk : c.kind ≠ .close := by
      cases c with
      | close => exact absurd rfl hc
      | _ => simp [StoreCall.kind]
    simpa [Ledger.IsOpen, hk] using ho

/-- Whoever keeps to stores that are open does not close a store again. -/
theorem Backend.upholds_closed (b : Backend σ η) (n : Nat) :
    b.recorded.Upholds (fun l => Orderly l.contacts ∧ closingsOf n l.contacts = 1)
      Ledger.IsOpen where
  connect settings l hl := ⟨b.upholds_orderly.connect settings hl.1, by simpa using hl.2⟩
  opened hl ho := b.upholds_orderly.opened hl.1 ho
  call {store} c l hl ho := by
    have hne : store.number ≠ n := by
      rintro rfl
      simp [ho.2] at hl
    exact ⟨b.upholds_orderly.call c hl.1 ho, by simpa [hne] using hl.2⟩
  kept hc _ hl ho := b.upholds_orderly.kept hc hl.1 ho

end KeyedGraph
