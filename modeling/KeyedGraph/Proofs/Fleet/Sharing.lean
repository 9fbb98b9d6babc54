import KeyedGraph.Proofs.Fleet.Basic

/-!
# Sharing

In every reachable fleet the count of the context is the number of clients that have a share, and
the store of every client is the one that the context holds. That store is opened and not closed,
so no client ever makes a call on a store that was closed, whatever the other clients do and
whatever fails or crashes.
-/

namespace KeyedGraph

variable {σ η : Type}

/-! ### Recorded fleets -/

/-- Where a client stands, without the number of its store. -/
def Phase.plain : Phase (Numbered η) → Phase η
  | .resting client => .resting client.plain
  | .joining store => .joining store.handle
  | .leaving dropped => .leaving dropped
  | .gone => .gone

@[simp] lemma Phase.plain_left (dropped : Bool) :
    (left dropped : Phase (Numbered η)).plain = left dropped := by
  cases dropped <;> rfl

namespace Fleet

/-- A fleet, without its ledger. -/
def plain (f : Fleet (Ledger σ) (Numbered η)) : Fleet σ η :=
  { context := f.context.plain, clients := f.clients.map Phase.plain }

/-- A fleet without clients, whose context nothing was asked of yet, with an empty ledger. -/
def newRecorded (w : σ) : Fleet (Ledger σ) (Numbered η) :=
  { context := .newRecorded w }

lemma getElem?_clients_plain (f : Fleet (Ledger σ) (Numbered η)) (i : Nat) :
    f.plain.clients[i]? = f.clients[i]?.map Phase.plain :=
  List.getElem?_map

lemma plain_put (f : Fleet (Ledger σ) (Numbered η)) (i : Nat) (p : Phase (Numbered η)) :
    (f.put i p).plain = f.plain.put i p.plain := by
  simp [plain, put, List.map_set]

lemma plain_acquire (ctx : Context σ η) (f : Fleet (Ledger σ) (Numbered η)) (i : Nat) :
    (f.acquire ctx.recorded i).plain = f.plain.acquire ctx i := by
  rw [acquire, acquire, getElem?_clients_plain]
  cases f.clients[i]? with
  | none => rfl
  | some p =>
    cases p with
    | joining | leaving | gone => rfl
    | resting c =>
      obtain ⟨store⟩ := c
      cases store with
      | some store => rfl
      | none =>
        have h := KeyedGraph.plain_acquire ctx f.context
        change (ctx.recorded.acquire f.context).map _ _ = ctx.acquire f.plain.context at h
        simp only [Option.map_some, Phase.plain, Client.plain, Option.map_none, ← h]
        generalize ctx.recorded.acquire f.context = a
        obtain ⟨o, s, es⟩ := a
        cases o with
        | ok store => exact plain_put { f with context := s } i (.joining store)
        | error | crash => rfl

lemma plain_keep (f : Fleet (Ledger σ) (Numbered η)) (i : Nat) :
    (f.keep i).plain = f.plain.keep i := by
  rw [keep, keep, getElem?_clients_plain]
  cases f.clients[i]? with
  | none => rfl
  | some p =>
    cases p with
    | resting | leaving | gone => rfl
    | joining store => exact plain_put f i _

lemma plain_letGo (f : Fleet (Ledger σ) (Numbered η)) (i : Nat) (dropped : Bool) :
    (f.letGo i dropped).plain = f.plain.letGo i dropped := by
  rw [letGo, letGo, getElem?_clients_plain]
  cases f.clients[i]? with
  | none => rfl
  | some p =>
    cases p with
    | joining | leaving | gone => rfl
    | resting c =>
      obtain ⟨store⟩ := c
      cases store with
      | some store => exact plain_put f i _
      | none => exact (plain_put f i _).trans (by rw [Phase.plain_left]; rfl)

lemma plain_release (ctx : Context σ η) (f : Fleet (Ledger σ) (Numbered η)) (i : Nat) :
    (f.release ctx.recorded i).plain = f.plain.release ctx i := by
  rw [release, release, getElem?_clients_plain]
  cases f.clients[i]? with
  | none => rfl
  | some p =>
    cases p with
    | resting | joining | gone => rfl
    | leaving dropped =>
      have h := congrArg Attempt.world (KeyedGraph.plain_release ctx f.context)
      change (ctx.recorded.release f.context).world.plain = _ at h
      refine (plain_put _ i _).trans ?_
      rw [Phase.plain_left]
      exact congrArg (fun s => put ⟨s, f.plain.clients⟩ i (.left dropped)) h

lemma plain_operate (ctx : Context σ η) (f : Fleet (Ledger σ) (Numbered η)) (i : Nat)
    (request : Request) :
    (f.operate ctx.recorded i request).plain = f.plain.operate ctx i request := by
  rw [operate, operate, getElem?_clients_plain]
  cases f.clients[i]? with
  | none => rfl
  | some p =>
    cases p with
    | joining | leaving | gone => rfl
    | resting client =>
      have h := congrArg Attempt.world (request.plain_run ctx.backend client f.context.world)
      change (request.run ctx.backend.recorded client f.context.world).world.inner = _ at h
      exact congrArg (fun w => Fleet.mk ⟨f.plain.context.shared, w⟩ f.plain.clients) h

lemma plain_move (ctx : Context σ η) (f : Fleet (Ledger σ) (Numbered η)) (m : Move) :
    (f.move ctx.recorded m).plain = f.plain.move ctx m := by
  cases m with
  | create => simp [move, plain, Phase.plain, Client.plain]
  | acquire i => exact plain_acquire ctx f i
  | keep i => exact plain_keep f i
  | letGo i dropped => exact plain_letGo f i dropped
  | release i => exact plain_release ctx f i
  | operate i request => exact plain_operate ctx f i request

lemma plain_after (ctx : Context σ η) (moves : List Move) (f : Fleet (Ledger σ) (Numbered η)) :
    (after ctx.recorded moves f).plain = after ctx moves f.plain := by
  induction moves generalizing f with
  | nil => rfl
  | cons m moves ih => rw [after_cons, after_cons, ih, plain_move]

/-! ### Consistent fleets -/

/-- How many clients have a share of the connection. -/
def holders (f : Fleet σ η) : Nat :=
  f.clients.countP Phase.holds

/-- The count of the context is the number of its holders, and their store is the one that it
holds, which is tended. -/
structure Consistent (Good : σ → Prop) (Live : σ → η → Prop) (f : Fleet σ η) : Prop where
  sound : f.context.shared.Sound
  tended : f.context.Tended Good Live
  users_eq : f.context.shared.users = f.holders
  store_eq {p : Phase η} (hp : p ∈ f.clients) {store : η} (hs : p.store? = some store) :
    f.context.shared.store = some store

lemma holders_put {f : Fleet σ η} {i : Nat} {p : Phase η} (hi : f.clients[i]? = some p)
    (q : Phase η) :
    (f.put i q).holders + (if p.holds then 1 else 0) = f.holders + if q.holds then 1 else 0 := by
  obtain ⟨hlt, rfl⟩ := List.getElem?_eq_some_iff.mp hi
  simp only [holders, put, List.countP_set hlt]
  have : f.clients[i].holds = true → 0 < f.clients.countP Phase.holds :=
    fun h => List.countP_pos_iff.mpr ⟨_, List.getElem_mem hlt, h⟩
  grind

lemma mem_put {f : Fleet σ η} {i : Nat} {p q : Phase η} (h : q ∈ (f.put i p).clients) :
    q ∈ f.clients ∨ q = p :=
  List.mem_or_eq_of_mem_set h

namespace Consistent

variable {ctx : Context σ η} {f : Fleet σ η} {i : Nat} {Good : σ → Prop} {Live : σ → η → Prop}

lemma new {w : σ} (hw : Good w) : (Fleet.new w : Fleet σ η).Consistent Good Live where
  sound := .new
  tended := .of_none hw rfl
  users_eq := rfl
  store_eq hp := by simp [Fleet.new] at hp

/-- A client may change its phase if it keeps its share and gets no other store. -/
lemma put (h : f.Consistent Good Live) {p q : Phase η} (hi : f.clients[i]? = some p)
    (hh : q.holds = p.holds) (hs : ∀ store, q.store? = some store → p.store? = some store) :
    (f.put i q).Consistent Good Live where
  sound := h.sound
  tended := h.tended
  users_eq := by
    have := holders_put hi q
    rw [hh] at this
    exact h.users_eq.trans (Nat.add_right_cancel this).symm
  store_eq {q'} hq' store hs' := by
    rcases mem_put hq' with hm | rfl
    · exact h.store_eq hm hs'
    · exact h.store_eq (List.mem_of_getElem? hi) (hs store hs')

lemma create (h : f.Consistent Good Live) :
    (f.move ctx .create).Consistent Good Live where
  sound := h.sound
  tended := h.tended
  users_eq := by
    have hc : (f.move ctx .create).holders = f.holders := by
      simp [holders, Fleet.move, Phase.holds, Client.isInitialized]
    exact h.users_eq.trans hc.symm
  store_eq {p} hp store hs := by
    rcases List.mem_append.mp hp with hm | hm
    · exact h.store_eq hm hs
    · obtain rfl := List.mem_singleton.mp hm
      simp [Phase.store?] at hs

/-- The store of a holder is the one that the context holds and hands out. -/
lemma acquire_ok (hb : ctx.backend.Upholds Good Live) (h : f.Consistent Good Live)
    (hi : f.clients[i]? = some (.resting ⟨none⟩)) {store : η}
    (ho : (ctx.acquire f.context).outcome = .ok store) :
    (({ f with context := (ctx.acquire f.context).world } : Fleet σ η).put i
      (.joining store)).Consistent Good Live where
  sound := ctx.sound_acquire h.sound
  tended := h.tended.acquire hb
  users_eq := by
    have := holders_put (f := { f with context := (ctx.acquire f.context).world }) hi
      (.joining store)
    have hu := h.users_eq
    simp only [Phase.holds, Client.isInitialized, Option.isSome_none, Bool.false_eq_true,
      if_true, if_false] at this
    change (ctx.acquire f.context).world.shared.users = _
    rw [ctx.shared_acquire_of_ok h.sound ho]
    exact (congrArg (· + 1) hu).trans this.symm
  store_eq {p} hp store' hs := by
    change (ctx.acquire f.context).world.shared.store = _
    rw [ctx.shared_acquire_of_ok h.sound ho]
    rcases mem_put hp with hm | rfl
    · have hold := h.store_eq hm hs
      have hp := h.sound.poisoned_of_users (Nat.pos_iff_ne_zero.mp (h.sound.users_pos hold))
      rw [ctx.acquire_of_some hp hold] at ho
      exact congrArg some (Outcome.ok.inj ho).symm
    · exact hs

lemma acquire_not_ok (hb : ctx.backend.Upholds Good Live) (h : f.Consistent Good Live)
    (ho : ∀ store, (ctx.acquire f.context).outcome ≠ .ok store) :
    ({ f with context := (ctx.acquire f.context).world } : Fleet σ η).Consistent Good Live := by
  obtain ⟨hu, hs⟩ := ctx.shared_acquire_of_not_ok ho
  exact ⟨ctx.sound_acquire h.sound, h.tended.acquire hb, hu.trans h.users_eq,
    fun hp _ hstore => hs.trans (h.store_eq hp hstore)⟩

lemma acquire (hb : ctx.backend.Upholds Good Live) (h : f.Consistent Good Live) (i : Nat) :
    (f.acquire ctx i).Consistent Good Live := by
  rw [Fleet.acquire]
  split
  · rename_i hi
    split
    · rename_i store s es ha
      have := h.acquire_ok hb hi (congrArg Attempt.outcome ha)
      rwa [ha] at this
    · rename_i o s es hne ha
      have := h.acquire_not_ok hb (fun store ho => hne store (by rw [ha] at ho; exact ho))
      rwa [ha] at this
  · exact h

lemma keep (h : f.Consistent Good Live) (i : Nat) : (f.keep i).Consistent Good Live := by
  rw [Fleet.keep]
  split
  · rename_i store hi
    exact h.put hi rfl (fun _ hs => hs)
  · exact h

lemma letGo (h : f.Consistent Good Live) (i : Nat) (dropped : Bool) :
    (f.letGo i dropped).Consistent Good Live := by
  rw [Fleet.letGo]
  split
  · rename_i store hi
    exact h.put hi rfl (fun _ hs => by simp [Phase.store?] at hs)
  · rename_i hi
    refine h.put hi (Phase.holds_left dropped) (fun _ hs => ?_)
    simp at hs
  · exact h

/-- Behind a release, whoever still has a store shares it with the context. -/
lemma release (hb : ctx.backend.Upholds Good Live) (h : f.Consistent Good Live) (i : Nat) :
    (f.release ctx i).Consistent Good Live := by
  rw [Fleet.release]
  split
  · rename_i dropped hi
    have hcount := holders_put (f := { f with context := (ctx.release f.context).world }) hi
      (.left dropped)
    rw [Phase.holds_left] at hcount
    simp only [Phase.holds, if_true, Bool.false_eq_true, if_false] at hcount
    have hu := h.users_eq
    change f.context.shared.users =
      Fleet.holders { f with context := (ctx.release f.context).world } at hu
    obtain ⟨hu', hs'⟩ := ctx.shared_release h.sound (by omega)
    refine ⟨ctx.sound_release h.sound, h.tended.release hb, ?_, fun {p} hp store hs => ?_⟩
    · change (ctx.release f.context).world.shared.users = _
      omega
    · -- a client that still has a store is a holder, so the one that leaves is not the last
      have hpos : 0 < Fleet.holders (({ f with context := (ctx.release f.context).world } :
          Fleet σ η).put i (.left dropped)) :=
        List.countP_pos_iff.mpr ⟨p, hp, Phase.holds_of_store? hs⟩
      change (ctx.release f.context).world.shared.store = _
      rw [hs', if_neg (by omega)]
      rcases mem_put hp with hm | rfl
      · exact h.store_eq hm hs
      · simp at hs
  · exact h

/-- A request makes its call on the store that the context holds. -/
lemma operate (hb : ctx.backend.Upholds Good Live) (h : f.Consistent Good Live) (i : Nat)
    (request : Request) : (f.operate ctx i request).Consistent Good Live := by
  rw [Fleet.operate]
  split
  · rename_i client hi
    refine ⟨h.sound, ?_, h.users_eq, h.store_eq⟩
    rcases request.world_run ctx.backend client f.context.world with hw | ⟨store, c, hs, hc, hw⟩
    · dsimp only
      rw [hw]
      exact h.tended
    · dsimp only
      rw [hw]
      exact h.tended.call hb (h.store_eq (List.mem_of_getElem? hi) hs) hc
  · exact h

/-- Every move keeps a fleet consistent. -/
lemma move (hb : ctx.backend.Upholds Good Live) (h : f.Consistent Good Live) (m : Move) :
    (f.move ctx m).Consistent Good Live := by
  cases m with
  | create => exact h.create
  | acquire i => exact h.acquire hb i
  | keep i => exact h.keep i
  | letGo i dropped => exact h.letGo i dropped
  | release i => exact h.release hb i
  | operate i request => exact h.operate hb i request

/-- Every reachable fleet is consistent. -/
theorem after (hb : ctx.backend.Upholds Good Live) (h : f.Consistent Good Live)
    (moves : List Move) : (Fleet.after ctx moves f).Consistent Good Live :=
  after_induction (fun _ m h => h.move hb m) moves h

end Consistent

end Fleet

/-! ### The shared store -/

/-- Whether a client is between two calls, or taken away. -/
def Phase.isSettled : Phase η → Bool
  | .resting _ => true
  | .gone => true
  | _ => false

lemma Phase.holds_of_isSettled {p : Phase η} (h : p.isSettled = true) :
    p.holds = p.store?.isSome := by
  cases p with
  | resting | gone => rfl
  | joining | leaving => simp [isSettled] at h

/-- In every reachable fleet, whatever fails or crashes, the count is the number of the clients
that have a share; these are the initialized ones when all clients are between two calls. A store
is held exactly while the count is positive, it is the store of every client that has one, and it
was not closed. No call was ever made on a store that was closed before. -/
theorem clients_share_open_store (ctx : Context σ η) (w : σ) (moves : List Move) :
    let f := Fleet.after ctx.recorded moves (.newRecorded w)
    f.plain = Fleet.after ctx moves (.new w) ∧
    f.context.shared.users = f.holders ∧
    ((∀ p ∈ f.clients, p.isSettled) →
      f.context.shared.users = f.clients.countP fun p => p.store?.isSome) ∧
    (f.context.shared.store.isSome ↔ 0 < f.context.shared.users) ∧
    (∀ p ∈ f.clients, ∀ store, p.store? = some store → f.context.shared.store = some store) ∧
    (∀ store, f.context.shared.store = some store →
      closingsOf store.number f.context.world.contacts = 0) ∧
    Orderly f.context.world.contacts := by
  intro f
  have h : f.Consistent (fun l => Orderly l.contacts) Ledger.IsOpen :=
    (Fleet.Consistent.new .nil).after ctx.backend.upholds_orderly moves
  refine ⟨Fleet.plain_after ctx moves _, h.users_eq, fun hp => ?_, h.sound.store_isSome_iff,
    fun p hp store hs => h.store_eq hp hs, fun store hs => (h.tended.live hs).2, h.tended.good⟩
  refine h.users_eq.trans (List.countP_congr fun p hm => ?_)
  rw [Phase.holds_of_isSettled (hp p hm)]

end KeyedGraph
