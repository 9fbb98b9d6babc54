import KeyedGraph.Proofs.Bolt.Replies
import KeyedGraph.Proofs.Connection.Accounting
import KeyedGraph.Proofs.Connection.Failures
import KeyedGraph.Proofs.Fleet.Samples
import Mathlib.Data.List.Chain

/-!
# The gauge of users and the records of the connection

A context shows an observer three things of what its users share: it publishes their count, and
it records that a store was created and that one was closed. None of these ever leaves the truth.
The count that was published last is the count that there is, and it moves by one at a time; a
creation is recorded just as the count leaves zero, and a closing just as it gets back there,
unless the store was closed badly.
-/

namespace KeyedGraph

variable {σ η : Type}

/-! ### Changes of the connection -/

/-- A change of the connection. -/
inductive Change
  | created
  | closed
deriving DecidableEq

/-- The change that an event records. -/
def Event.change? : Event → Option Change
  | .log record =>
    if record.message = "Graph connection created" then some .created
    else if record.message = "Graph connection closed" then some .closed
    else none
  | _ => none

/-- The changes that were recorded. -/
def recordedChanges (events : List Event) : List Change :=
  events.filterMap Event.change?

@[simp] lemma recordedChanges_append (es es' : List Event) :
    recordedChanges (es ++ es') = recordedChanges es ++ recordedChanges es' :=
  List.filterMap_append

/-- Neither counts of users nor changes are shown. -/
def Discreet (events : List Event) : Prop :=
  publishedUsers events = [] ∧ recordedChanges events = []

lemma discreet_nil : Discreet [] :=
  ⟨rfl, rfl⟩

lemma Discreet.append {es es' : List Event} (h : Discreet es) (h' : Discreet es') :
    Discreet (es ++ es') :=
  ⟨by rw [publishedUsers_append, h.1, h'.1]; rfl,
    by rw [recordedChanges_append, h.2, h'.2]; rfl⟩

/-- A backend that leaves counts of users and changes of the connection to the context. -/
structure Backend.Discreet (b : Backend σ η) : Prop where
  connect (settings : Settings) (w : σ) : KeyedGraph.Discreet (b.connect settings w).events
  call (store : η) (c : StoreCall) (w : σ) : KeyedGraph.Discreet (b.call store c w).events

namespace Backend.Discreet

variable {b : Backend σ η} (hb : b.Discreet)
include hb

lemma of_connect {settings : Settings} {w w' : σ} {o : Outcome η} {es : List Event}
    (h : b.connect settings w = ⟨o, w', es⟩) : KeyedGraph.Discreet es := by
  have hd := hb.connect settings w
  rwa [h] at hd

lemma of_call {store : η} {c : StoreCall} {w w' : σ} {o : Outcome c.Reply} {es : List Event}
    (h : b.call store c w = ⟨o, w', es⟩) : KeyedGraph.Discreet es := by
  have hd := hb.call store c w
  rwa [h] at hd

end Backend.Discreet

namespace Bolt

variable {τ : Type} (server : Server τ) (link : Link)

lemma events_runWith (q : Query) (failure : String → Error) (w : Links τ) :
    (runWith server link q failure w).events = [] := by
  rw [runWith]
  split <;> rfl

lemma events_fetchWith {α : Type} (kind : CallKind) (q : Query)
    (read : Stream → Except FailureCause α) (w : Links τ) :
    (fetchWith server link kind q read w).events = [] := by
  rw [fetchWith]
  split
  · rfl
  · split <;> rfl

lemma events_answer (c : StoreCall) (w : Links τ) : (answer server link c w).events = [] := by
  cases c with
  | close => rfl
  | verifyConnectivity | createNode => exact events_runWith ..
  | readNode | scanNodes | replaceNode | deleteNodes => exact events_fetchWith ..

/-- A store behind a server is discreet. -/
lemma discreet_backend : (backend server).Discreet where
  connect settings w := by
    change KeyedGraph.Discreet (connect settings w).events
    rw [connect]
    split
    · exact discreet_nil
    · split
      · exact ⟨rfl, rfl⟩
      · exact discreet_nil
  call link c w := by
    change KeyedGraph.Discreet (call server link c w).events
    unfold call
    split
    · exact discreet_nil
    · split
      · exact discreet_nil
      · rw [events_answer]
        exact discreet_nil

end Bolt

lemma Backend.discreet_scripted : Backend.scripted.Discreet := by
  have h {α : Type} (value : α) (script : List Bool) :
      KeyedGraph.Discreet (followScript value script).events := by
    unfold followScript
    split <;> exact discreet_nil
  exact ⟨fun _ => h _, fun _ _ => h _⟩

/-! ### Passages -/

/-- How the count of users passes from one value to the next, with the counts that are published
and the changes that are recorded meanwhile. -/
inductive Passage (closesWell : Bool) : Nat → Nat → List Nat → List Change → Prop
  | still (n : Nat) : Passage closesWell n n [] []
  | joined (n : Nat) (hn : 0 < n) : Passage closesWell n (n + 1) [n + 1] []
  | opened : Passage closesWell 0 1 [1] [.created]
  | left (n : Nat) (hn : 0 < n) : Passage closesWell (n + 1) n [n] []
  | closed (hw : closesWell = true) : Passage closesWell 1 0 [0] [.closed]
  | closedBadly (hw : closesWell = false) : Passage closesWell 1 0 [0] []

/-- Two counts of which one is the next after the other. -/
def Neighbours (m n : Nat) : Prop :=
  n = m + 1 ∨ m = n + 1

/-- The change that led to a count of users. -/
def lastChange (users : Nat) : Change :=
  if users = 0 then .closed else .created

namespace Passage

variable {closesWell : Bool} {m n : Nat} {published counts : List Nat}
  {recorded changes : List Change}

/-- Behind a passage, the count that was published last is the count of users. -/
lemma getLastD (h : Passage closesWell m n published recorded) (counts : List Nat) :
    (published ++ counts).getLastD m = counts.getLastD n := by
  cases h with
  | still => rfl
  | joined | opened | left | closed | closedBadly => exact List.getLastD_cons ..

/-- Counts that are published one after the other are neighbours. -/
lemma isChain_published (h : Passage closesWell m n published recorded)
    (hc : (n :: counts).IsChain Neighbours) :
    (m :: (published ++ counts)).IsChain Neighbours := by
  cases h with
  | still => exact hc
  | joined | opened => exact hc.cons_cons (.inl rfl)
  | left | closed | closedBadly => exact hc.cons_cons (.inr rfl)

/-- Unless a close fails, changes that are recorded one after the other are not the same. -/
lemma isChain_recorded (h : Passage closesWell m n published recorded)
    (hw : m = 1 → n = 0 → closesWell = true)
    (hc : (lastChange n :: changes).IsChain (· ≠ ·)) :
    (lastChange m :: (recorded ++ changes)).IsChain (· ≠ ·) := by
  cases h with
  | still => exact hc
  | joined _ hn | left _ hn => simpa [lastChange, Nat.ne_of_gt hn] using hc
  | opened => exact hc.cons_cons (by decide)
  | closed => exact hc.cons_cons (by decide)
  | closedBadly hb => simp [hb] at hw

/-- The changes of a passage are those that the counts before and behind it call for. -/
lemma recorded_eq (h : Passage closesWell m n published recorded) :
    recorded =
      if m = 0 ∧ n = 1 then [.created]
      else if m = 1 ∧ n = 0 ∧ closesWell = true then [.closed]
      else [] := by
  cases h with
  | still | joined | opened | left | closed | closedBadly => grind

/-- A creation is undone by a closing, well or badly, or there are users. -/
lemma count_recorded (h : Passage closesWell m n published recorded) :
    recorded.count .created + (if 0 < m then 1 else 0) =
      recorded.count .closed + (if m = 1 ∧ n = 0 ∧ closesWell = false then 1 else 0) +
        if 0 < n then 1 else 0 := by
  cases h with
  | still | joined | opened | left | closed | closedBadly => grind

end Passage

namespace Context

/-- Whether the store that is held would be closed well. -/
def closesWell (ctx : Context σ η) (s : ContextState σ η) : Bool :=
  match s.shared.store with
  | some store => (ctx.backend.call store .close s.world).outcome.isOk
  | none => false

/-- A step leads from one state of a context to another by a passage. -/
structure Passes (ctx : Context σ η) (s s' : ContextState σ η) (events : List Event) : Prop where
  sound : s'.shared.Sound
  unpoisoned : s'.shared.poisoned = false
  passage : Passage (ctx.closesWell s) s.shared.users s'.shared.users (publishedUsers events)
    (recordedChanges events)

variable {ctx : Context σ η} {s s' : ContextState σ η} {es es' : List Event}

/-- What is discreet makes no passage. -/
lemma Passes.of_shared_eq (h : s.shared.Sound) (hp : s.shared.poisoned = false)
    (hs : s'.shared = s.shared) (he : Discreet es) : ctx.Passes s s' es where
  sound := by rwa [hs]
  unpoisoned := by rwa [hs]
  passage := by
    rw [hs, he.1, he.2]
    exact .still _

/-- What is shown after a passage may be discreet. -/
lemma Passes.append (h : ctx.Passes s s' es) (he : Discreet es') :
    ctx.Passes s s' (es ++ es') where
  sound := h.sound
  unpoisoned := h.unpoisoned
  passage := by
    rw [publishedUsers_append, recordedChanges_append, he.1, he.2, List.append_nil,
      List.append_nil]
    exact h.passage

section Steps

variable (hs : ctx.backend.Steady) (hd : ctx.backend.Discreet)
include hs hd

/-- An acquisition makes a passage. -/
lemma passes_acquire (h : s.shared.Sound) (hp : s.shared.poisoned = false) :
    ctx.Passes s (ctx.acquire s).world (ctx.acquire s).events := by
  have hsound := sound_acquire ctx h
  have hc := acquire_cases ctx s
  generalize ctx.acquire s = a at hsound hc ⊢
  cases hc with
  | locked hp' => simp [hp] at hp'
  | joined store _ hstore => exact ⟨hsound, hp, .joined _ (h.users_pos hstore)⟩
  | refused cause w es _ _ hc => exact .of_shared_eq h hp rfl (hd.of_connect hc)
  | connectCrashed w es _ _ hc =>
    exact absurd (congrArg Attempt.outcome hc) (hs.connect ctx.settings s.world)
  | opened store w w' es es' _ hstore hc hv =>
    refine ⟨hsound, hp, ?_⟩
    obtain ⟨hu, hr⟩ := (hd.of_connect hc).append (hd.of_call hv)
    rw [publishedUsers_append, recordedChanges_append, hu, hr, h.users_of_none hstore]
    exact .opened
  | probeCrashed store w w' es es' _ _ hc hv =>
    exact absurd (congrArg Attempt.outcome hv) (hs.verify store w)
  | abandoned store cause closing w w' w'' es es' es'' _ _ hc hv hx hk =>
    refine .of_shared_eq h hp rfl ?_
    refine (((hd.of_connect hc).append (hd.of_call hv)).append (hd.of_call hx)).append ?_
    cases closing with
    | ok | crash => exact discreet_nil
    | error more => exact ⟨rfl, rfl⟩
  | abandonCrashed store cause w w' w'' es es' es'' _ _ hc hv hx =>
    exact absurd (congrArg Attempt.outcome hx) (hs.close store w')

/-- A release makes a passage. -/
lemma passes_release (h : s.shared.Sound) (hp : s.shared.poisoned = false) :
    ctx.Passes s (ctx.release s).world (ctx.release s).events := by
  have hsound := sound_release ctx h
  have hc := release_cases ctx s
  generalize ctx.release s = a at hsound hc ⊢
  cases hc with
  | locked hp' => simp [hp] at hp'
  | surplus _ hu => exact .of_shared_eq h hp rfl ⟨rfl, rfl⟩
  | left _ hu hl =>
    obtain ⟨store, hstore⟩ := h.exists_store hu
    have h1 : s.shared.users ≠ 1 := hl.resolve_right (by simp [hstore])
    have hpass : Passage (ctx.closesWell s) (s.shared.users - 1 + 1) (s.shared.users - 1)
        [s.shared.users - 1] [] :=
      .left _ (by omega)
    rw [Nat.sub_add_cancel (Nat.pos_of_ne_zero hu)] at hpass
    exact ⟨hsound, hp, hpass⟩
  | closed store w es _ hu hstore hx =>
    have hw : ctx.closesWell s = true := by simp only [closesWell, hstore, hx, Outcome.isOk]
    obtain ⟨hpub, hrec⟩ := hd.of_call hx
    refine ⟨hsound, rfl, ?_⟩
    simp only [publishedUsers_append, recordedChanges_append, hpub, hrec, hu]
    exact .closed hw
  | closeFailed store cause w es _ hu hstore hx =>
    have hw : ctx.closesWell s = false := by simp only [closesWell, hstore, hx, Outcome.isOk]
    obtain ⟨hpub, hrec⟩ := hd.of_call hx
    refine ⟨hsound, rfl, ?_⟩
    simp only [publishedUsers_append, recordedChanges_append, hpub, hrec, hu]
    exact .closedBadly hw
  | closeCrashed store w es _ hu hstore hx =>
    exact absurd (congrArg Attempt.outcome hx) (hs.close store s.world)

end Steps

end Context

/-! ### Visits -/

/-- A call on a context, made directly or by one of its clients. -/
inductive Visit
  | acquire
  | release
  | call (c : Call)

/-- What is seen of a context before, during and behind a visit, and whether the store that was
held would be closed well. -/
structure Stage where
  before : Nat
  after : Nat
  events : List Event
  closesWell : Bool

/-- The count of users gets back to zero, and the store is closed badly. -/
def Stage.failsToClose (s : Stage) : Bool :=
  s.before = 1 && s.after = 0 && !s.closesWell

section Clients

variable {ctx : Context σ η} (hs : ctx.backend.Steady) (hd : ctx.backend.Discreet)
  {s : ContextState σ η} (h : s.shared.Sound) (hp : s.shared.poisoned = false)
include hd

lemma Request.discreet_run (c : Client η) (r : Request) (w : σ) :
    Discreet (r.run ctx.backend c w).events := by
  have hc := run_cases ctx.backend c r w
  generalize r.run ctx.backend c w = a at hc ⊢
  cases hc with
  | rejected | unready | idle => exact ⟨rfl, rfl⟩
  | asked label store =>
    have hcall := hd.call store (r.call label) w
    generalize ctx.backend.call store (r.call label) w = a at hcall ⊢
    obtain ⟨o, w', es⟩ := a
    cases o with
    | crash => exact hcall
    | error cause => exact hcall.append ⟨rfl, rfl⟩
    | ok reply =>
      have hlast :
          Discreet (operationEvents r.operation (r.conclude label reply).1) := ⟨rfl, rfl⟩
      refine (hcall.append ?_).append hlast
      cases r with
      | read => cases reply <;> exact ⟨rfl, rfl⟩
      | update =>
        simp only [remarks]
        split <;> exact ⟨rfl, rfl⟩
      | scan | insert | delete => exact ⟨rfl, rfl⟩

include hs h hp

namespace Client

lemma passes_init (c : Client η) :
    ctx.Passes s (c.init ctx s).world.2 (c.init ctx s).events := by
  have ha := ctx.passes_acquire hs hd h hp
  obtain ⟨store⟩ := c
  cases store with
  | some store => exact .of_shared_eq h hp rfl discreet_nil
  | none =>
    simp only [init]
    generalize ctx.acquire s = a at ha ⊢
    obtain ⟨o, s', es⟩ := a
    cases o with
    | ok | crash => exact ha
    | error cause => exact ha.append ⟨rfl, rfl⟩

lemma passes_cleanup (c : Client η) :
    ctx.Passes s (c.cleanup ctx s).world.2 (c.cleanup ctx s).events := by
  obtain ⟨store⟩ := c
  cases store with
  | none => exact .of_shared_eq h hp rfl discreet_nil
  | some store => exact ctx.passes_release hs hd h hp

lemma passes_drop (c : Client η) : ctx.Passes s (c.drop ctx s).world (c.drop ctx s).events := by
  have ha := c.passes_cleanup hs hd h hp
  simp only [drop]
  generalize c.cleanup ctx s = a at ha ⊢
  obtain ⟨o, s', es⟩ := a
  cases o with
  | ok | crash => exact ha
  | error cause => exact ha.append ⟨rfl, rfl⟩

end Client

end Clients

namespace Fleet

variable {ctx : Context σ η} {f : Fleet σ η}

/-- What a visit shows and leaves behind. -/
def visited (ctx : Context σ η) (f : Fleet σ η) : Visit → List Event × Fleet σ η
  | .acquire =>
    ((ctx.acquire f.context).events, { f with context := (ctx.acquire f.context).world })
  | .release =>
    ((ctx.release f.context).events, { f with context := (ctx.release f.context).world })
  | .call c => (f.shown ctx c, (f.call ctx c).2)

/-- Makes a visit and watches it. -/
def visit (ctx : Context σ η) (f : Fleet σ η) (v : Visit) : Stage × Fleet σ η :=
  ({ before := f.context.shared.activeUsers
     after := (f.visited ctx v).2.context.shared.activeUsers
     events := (f.visited ctx v).1
     closesWell := ctx.closesWell f.context },
    (f.visited ctx v).2)

/-- Every visit makes a passage. -/
theorem passes_visited (hs : ctx.backend.Steady) (hd : ctx.backend.Discreet)
    (h : f.context.shared.Sound) (hp : f.context.shared.poisoned = false) (v : Visit) :
    ctx.Passes f.context (f.visited ctx v).2.context (f.visited ctx v).1 := by
  cases v with
  | acquire => exact ctx.passes_acquire hs hd h hp
  | release => exact ctx.passes_release hs hd h hp
  | call c =>
    change ctx.Passes f.context (f.watch ctx c).2.context (f.watch ctx c).1.2
    have hc := watch_cases ctx f c
    generalize f.watch ctx c = r at hc ⊢
    cases hc with
    | created | missed => exact .of_shared_eq h hp rfl discreet_nil
    | @init i client => exact client.passes_init hs hd h hp
    | @cleanup i client => exact client.passes_cleanup hs hd h hp
    | @drop i client => exact client.passes_drop hs hd h hp
    | @asked i client request =>
      exact .of_shared_eq h hp rfl (request.discreet_run hd client f.context.world)

end Fleet

/-! ### Journeys -/

/-- A stage is a passage. -/
def Stage.IsPassage (s : Stage) : Prop :=
  Passage s.closesWell s.before s.after (publishedUsers s.events) (recordedChanges s.events)

/-- Stages that lead from one count of users to another, passage by passage. -/
inductive Journey : Nat → List Stage → Nat → Prop
  | nil (n : Nat) : Journey n [] n
  | cons {s : Stage} {stages : List Stage} {n : Nat} (h : s.IsPassage)
      (hj : Journey s.after stages n) : Journey s.before (s :: stages) n

/-- What is shown in stages. -/
def shownIn (stages : List Stage) : List Event :=
  stages.flatMap Stage.events

namespace Journey

variable {m n : Nat} {stages : List Stage}

lemma published_cons (s : Stage) (stages : List Stage) :
    publishedUsers (shownIn (s :: stages)) =
      publishedUsers s.events ++ publishedUsers (shownIn stages) :=
  publishedUsers_append ..

lemma recorded_cons (s : Stage) (stages : List Stage) :
    recordedChanges (shownIn (s :: stages)) =
      recordedChanges s.events ++ recordedChanges (shownIn stages) :=
  recordedChanges_append ..

lemma isPassage (h : Journey m stages n) : ∀ s ∈ stages, s.IsPassage := by
  induction h with
  | nil => exact fun _ hm => absurd hm List.not_mem_nil
  | cons h _ ih => exact List.forall_mem_cons.mpr ⟨h, ih⟩

lemma getLastD_published (h : Journey m stages n) :
    (publishedUsers (shownIn stages)).getLastD m = n := by
  induction h with
  | nil => rfl
  | cons h _ ih => rw [published_cons, Passage.getLastD h, ih]

lemma isChain_published (h : Journey m stages n) :
    (m :: publishedUsers (shownIn stages)).IsChain Neighbours := by
  induction h with
  | nil => exact .singleton _
  | cons h _ ih =>
    rw [published_cons]
    exact Passage.isChain_published h ih

lemma isChain_recorded (h : Journey m stages n) (hw : ∀ s ∈ stages, s.failsToClose = false) :
    (lastChange m :: recordedChanges (shownIn stages)).IsChain (· ≠ ·) := by
  induction h with
  | nil => exact .singleton _
  | cons h _ ih =>
    obtain ⟨hs, hw⟩ := List.forall_mem_cons.mp hw
    rw [recorded_cons]
    refine Passage.isChain_recorded h (fun hb ha => ?_) (ih hw)
    simpa [Stage.failsToClose, hb, ha] using hs

lemma count_recorded (h : Journey m stages n) :
    (recordedChanges (shownIn stages)).count .created + (if 0 < m then 1 else 0) =
      (recordedChanges (shownIn stages)).count .closed + stages.countP Stage.failsToClose +
        if 0 < n then 1 else 0 := by
  induction h with
  | nil => rfl
  | @cons s stages n h hj ih =>
    have hc := Passage.count_recorded h
    have hf : s.failsToClose = true ↔ s.before = 1 ∧ s.after = 0 ∧ s.closesWell = false := by
      simp [Stage.failsToClose, and_assoc]
    simp only [recorded_cons, List.count_append, List.countP_cons, hf]
    omega

end Journey

/-- Any visits make a journey. -/
theorem journey_visits {ctx : Context σ η} (hs : ctx.backend.Steady) (hd : ctx.backend.Discreet)
    (visits : List Visit) {f : Fleet σ η} (h : f.context.shared.Sound)
    (hp : f.context.shared.poisoned = false) :
    Journey f.context.shared.users (transcript (Fleet.visit ctx) visits f).1
        (transcript (Fleet.visit ctx) visits f).2.context.shared.users ∧
      (transcript (Fleet.visit ctx) visits f).2.context.shared.Sound ∧
      (transcript (Fleet.visit ctx) visits f).2.context.shared.poisoned = false := by
  induction visits generalizing f with
  | nil => exact ⟨.nil _, h, hp⟩
  | cons v visits ih =>
    have hv := Fleet.passes_visited hs hd h hp v
    obtain ⟨hj, hend⟩ := ih (f := (f.visited ctx v).2) hv.sound hv.unpoisoned
    refine ⟨?_, hend⟩
    have hb : (f.visit ctx v).1.before = f.context.shared.users := by
      simp [Fleet.visit, SharedConnection.activeUsers, hp]
    have ha : (f.visit ctx v).1.after = (f.visited ctx v).2.context.shared.users := by
      simp [Fleet.visit, SharedConnection.activeUsers, hv.unpoisoned]
    rw [transcript_cons, ← hb]
    refine .cons ?_ ?_
    · rw [Stage.IsPassage, hb, ha]
      exact hv.passage
    · rw [ha]
      exact hj

/-- Behind a server, any visits make a journey, whatever the server answers. -/
theorem Bolt.journey_visits {τ : Type} (server : Server τ) (settings : Settings)
    (visits : List Visit) (w : Links τ) :
    let ctx : Context (Links τ) Link := { settings, backend := backend server }
    let run := transcript (Fleet.visit ctx) visits (.new w)
    Journey 0 run.1 run.2.context.shared.users :=
  (KeyedGraph.journey_visits (backend_calm server).steady (discreet_backend server) visits
    (f := .new w) .new rfl).1

/-- Over every sequence of visits, where connecting, checking and closing may fail but not crash:
the count that was published last is the count of users; the counts that were published begin at
one and are neighbours; a creation is recorded just where the count goes from zero to one, and a
closing just where it gets back and the store is closed well; so these take turns as long as no
close fails, and what was created and neither closed nor failed to close is what is connected. -/
theorem notices_follow_users {ctx : Context σ η} (hs : ctx.backend.Steady)
    (hd : ctx.backend.Discreet) (w : σ) (visits : List Visit) :
    let stages := (transcript (Fleet.visit ctx) visits (.new w)).1
    let shared := (transcript (Fleet.visit ctx) visits (.new w)).2.context.shared
    let published := publishedUsers (shownIn stages)
    let recorded := recordedChanges (shownIn stages)
    published.getLastD 0 = shared.activeUsers ∧
    (∀ n ∈ published.head?, n = 1) ∧
    published.IsChain Neighbours ∧
    (∀ s ∈ stages, recordedChanges s.events =
      if s.before = 0 ∧ s.after = 1 then [.created]
      else if s.before = 1 ∧ s.after = 0 ∧ s.closesWell = true then [.closed]
      else []) ∧
    ((∀ s ∈ stages, s.failsToClose = false) →
      (∀ c ∈ recorded.head?, c = .created) ∧ recorded.IsChain (· ≠ ·)) ∧
    recorded.count .created = recorded.count .closed + stages.countP Stage.failsToClose +
      if shared.isConnected then 1 else 0 := by
  intro stages shared published recorded
  obtain ⟨hj, hsound, hp⟩ : Journey 0 stages shared.users ∧ shared.Sound ∧
      shared.poisoned = false :=
    journey_visits hs hd visits (f := .new w) .new rfl
  obtain ⟨hfirst, hchain⟩ := List.isChain_cons.mp hj.isChain_published
  refine ⟨?_, fun n hn => ?_, hchain, fun s hm => (hj.isPassage s hm).recorded_eq,
    fun hw => ?_, ?_⟩
  · rw [SharedConnection.activeUsers, hp]
    exact hj.getLastD_published
  · exact (hfirst n hn).resolve_right (by omega)
  · obtain ⟨hfirst, hchain⟩ := List.isChain_cons.mp (hj.isChain_recorded hw)
    refine ⟨fun c hc => ?_, hchain⟩
    cases c with
    | created => rfl
    | closed => exact absurd rfl (hfirst .closed hc)
  · have hcount := hj.count_recorded
    have hconn : shared.isConnected = true ↔ 0 < shared.users := by
      rw [SharedConnection.isConnected, hp]
      exact hsound.store_isSome_iff
    simp only [hconn]
    simpa using hcount

/-- A client and others share a store that is opened at the third attempt and closed badly behind
the last of them; then the client has a store for itself. -/
def errands : List Visit :=
  [.call .create, .acquire, .call (.init 0), .acquire, .call (.init 0), .release,
    .call (.cleanup 0), .release, .call (.init 0), .call (.drop 0)]

/-- What goes wrong meanwhile: connecting, then a check and the closing behind it, then a
closing. -/
def mishaps : List Bool :=
  [false, true, false, false, true, true, false]

/-- Two stores are created; one of them is closed well, and one badly. -/
theorem notices_follow_users_through_mishaps :
    let ctx : Context (List Bool) Unit := { settings := {}, backend := .scripted }
    let run := transcript (Fleet.visit ctx) errands (.new mishaps)
    ctx.backend.Steady ∧ ctx.backend.Discreet ∧
    publishedUsers (shownIn run.1) = [1, 2, 1, 0, 1, 0] ∧
    recordedChanges (shownIn run.1) = [.created, .created, .closed] ∧
    run.1.countP Stage.failsToClose = 1 ∧ run.2.context.shared.activeUsers = 0 ∧
    run.2.context.shared.isConnected = false := by
  intro ctx run
  have hs : ctx.backend.Steady := Backend.steady_scripted
  have hd : ctx.backend.Discreet := Backend.discreet_scripted
  have h := notices_follow_users hs hd mishaps errands
  -- what holds of every run is taken over before this one is evaluated
  generalize hr : transcript (Fleet.visit ctx) errands (.new mishaps) = r at h
  obtain ⟨hlast, -, -, -, -, hcount⟩ := h
  have hpub : publishedUsers (shownIn r.1) = [1, 2, 1, 0, 1, 0] := by
    rw [← hr]
    decide +kernel
  have hrec : recordedChanges (shownIn r.1) = [.created, .created, .closed] := by
    rw [← hr]
    decide +kernel
  have hfail : r.1.countP Stage.failsToClose = 1 := by
    rw [← hr]
    decide +kernel
  rw [hpub] at hlast
  rw [hrec, hfail] at hcount
  simp only [run, hr]
  refine ⟨hs, hd, hpub, hrec, hfail, hlast.symm, ?_⟩
  simpa using hcount

end KeyedGraph
