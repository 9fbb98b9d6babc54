import KeyedGraph.CommandLine.Program
import KeyedGraph.Proofs.Client.AllOrNothing
import KeyedGraph.Proofs.Client.Lifetime

/-!
# The stages of a run

A run loads its configuration, sets its log up, initializes a client, makes the operation of its
task and cleans the client up. Each stage is described apart from the program, and a stage is
reached only if those before it succeeded: a run comes to a client or it does not, every
operation ends with a status, and the client is cleaned up well or badly behind it. What the
program leaves behind is told for each of these ways.
-/

namespace KeyedGraph.CommandLine

variable {σ η φ : Type}

/-! ### The stages of a run -/

/-- What a run has once its client is initialized. -/
structure Start (σ η φ : Type) where
  config : Config
  log : LogState φ
  client : Client η
  state : ContextState σ η

/-- The context of the client. -/
def Start.context (t : Start σ η φ) (b : Backend σ η) : Context σ η :=
  ⟨t.config.connection, b⟩

/-- The configuration is loaded, the log is set up and the client is initialized. -/
structure Invocation.Starts (i : Invocation) (host : Host φ) (b : Backend σ η) (w : σ)
    (t : Start σ η φ) : Prop where
  loaded : (host.loadConfig i.config (FieldSet.ofPairs i.properties)).1 = .ok t.config
  logged : ({ files := host.files } : LogState φ).setUp host.system
    (.ofSettings host.library host.env t.config.logging i.verbose) = (.ok (), t.log)
  initialized : ∃ es, Client.init (t.context b) {} { world := w } =
    ⟨.ok (), (t.client, t.state), es⟩

/-- The request that a task makes; to check the connection takes none. -/
def Task.request? : Task → Option Request
  | .check => none
  | .read table key fields => some (.read table key (selectionOf fields) ∅)
  | .scan table start count fields => some (.scan table start count (selectionOf fields) [])
  | .insert table key values => some (.insert table key (FieldSet.ofPairs values))
  | .update table key values => some (.update table key (FieldSet.ofPairs values))
  | .delete table key => some (.delete table key)

/-- What a result shows of what was collected. -/
def collectedMembers : (r : Request) → r.Collected → List (String × JsonValue)
  | .read _ _ _ _, fields => [("record", .ofFields fields)]
  | .scan _ _ _ _ _, rows => [("records", .array (rows.map .ofFields))]
  | .update _ _ _, _ => []
  | .insert _ _ _, _ => []
  | .delete _ _, _ => []

/-- The operation of a task ends with a status; the members of its result are told, and the world
that it leaves. To check the connection is always `ok`. -/
inductive Task.Ends (ctx : Context σ η) (client : Client η) :
    Task → σ → Status → List (String × JsonValue) → σ → Prop
  | checked (w : σ) :
      Ends ctx client .check w .ok
        [("status", .text Status.ok.name), ("url", .text ctx.settings.url)] w
  | requested {task : Task} (r : Request) (hr : task.request? = some r) {w w' : σ}
      {status : Status} (collected : r.Collected) (es : List Event)
      (h : r.run ctx.backend client w = ⟨.ok (status, collected), w', es⟩) :
      Ends ctx client task w status
        (collectedMembers r collected ++ [("status", .text status.name)]) w'

/-- The client is cleaned up well. -/
def CleansUp (ctx : Context σ η) (client : Client η) (s : ContextState σ η) : Prop :=
  (client.cleanup ctx s).outcome = .ok ()

/-- All stages succeed, and the operation ends with a status and with the members of its
result. -/
def Invocation.Completes (i : Invocation) (host : Host φ) (b : Backend σ η) (w : σ)
    (status : Status) (members : List (String × JsonValue)) : Prop :=
  ∃ t w', i.Starts host b w t ∧
    i.task.Ends (t.context b) t.client t.state.world status members w' ∧
    CleansUp (t.context b) t.client { t.state with world := w' }

/-! ### Operations -/

namespace Task

variable {ctx : Context σ η} {client : Client η} {task : Task}

/-- A task that makes a request reports how that ends. -/
lemma operate_of_request {r : Request} (hr : task.request? = some r) (w : σ) :
    task.operate ctx client w =
      Client.followUp (r.run ctx.backend client w)
        (fun (status, collected) => (status, collectedMembers r collected, [])) fun _ => [] := by
  cases task with
  | check => cases hr
  | read | scan | insert | update | delete =>
    cases hr
    rfl

/-- What the operation of a task comes to is what its result is made of. -/
lemma Ends.operate_eq {w w' : σ} {status : Status} {members : List (String × JsonValue)}
    (h : task.Ends ctx client w status members w') :
    ∃ before behind es, task.operate ctx client w = ⟨.ok (status, before, behind), w', es⟩ ∧
      before ++ ("status", .text status.name) :: behind = members := by
  cases h with
  | checked => exact ⟨[], [("url", .text ctx.settings.url)], [], rfl, rfl⟩
  | requested r hr collected es h =>
    refine ⟨collectedMembers r collected, [], es ++ [], ?_, rfl⟩
    rw [operate_of_request hr, h]
    rfl

/-- Every operation ends. -/
lemma ends (ctx : Context σ η) (hb : ctx.backend.Calm) (client : Client η) (task : Task)
    (w : σ) : ∃ status members w', task.Ends ctx client w status members w' := by
  cases hr : task.request? with
  | none =>
    cases task with
    | check => exact ⟨_, _, _, .checked w⟩
    | read | scan | insert | update | delete => cases hr
  | some r =>
    obtain ⟨status, collected, w', es, h⟩ := r.run_ends hb client w
    exact ⟨_, _, _, .requested r hr collected es h⟩

/-- A result tells the status of its operation. -/
lemma Ends.lookup_status {w w' : σ} {status : Status} {members : List (String × JsonValue)}
    (h : task.Ends ctx client w status members w') :
    members.lookup "status" = some (.text status.name) := by
  cases h with
  | checked => rfl
  | requested r => cases r <;> rfl

/-- The members of a result have different names. -/
lemma Ends.nodup_names {w w' : σ} {status : Status} {members : List (String × JsonValue)}
    (h : task.Ends ctx client w status members w') : (members.map Prod.fst).Nodup := by
  cases h with
  | checked => simp
  | requested r => cases r <;> simp [collectedMembers]

/-- Without success, nothing was collected. -/
lemma Ends.of_not_ok {w w' : σ} {status : Status} {members : List (String × JsonValue)}
    (h : task.Ends ctx client w status members w') (hs : status ≠ .ok) :
    ∃ r, task.request? = some r ∧
      members = collectedMembers r r.untouched ++ [("status", .text status.name)] := by
  cases h with
  | checked => exact absurd rfl hs
  | requested r hr collected es h =>
    have hc : collected = r.untouched :=
      r.collected_of_not_ok ctx.backend client w (congrArg Attempt.outcome h) hs
    exact ⟨r, hr, by rw [hc]⟩

end Task

/-! ### Behind the operation -/

section Finish

variable {ctx : Context σ η} {client : Client η} {s : ContextState σ η}

lemma leave_of_none (hc : client.store = none) (t : TaskRun σ η) : leave ctx client t = t := by
  obtain ⟨outcome, written, context, events⟩ := t
  cases outcome with
  | ok | error => simp [leave, Client.drop_of_none hc, Attempt.done]
  | crash => rfl

/-- If the client is cleaned up well, the result is written. -/
lemma finish_of_ok (hc : CleansUp ctx client s) (events : List Event) (status : Status)
    (result : JsonValue) :
    ∃ es, finish ctx client s events status result =
      { outcome := .ok status
        written := some result
        context := (client.cleanup ctx s).world.2
        events := es } := by
  have hclient := Client.client_cleanup ctx client s
  simp only [CleansUp] at hc
  rw [finish]
  generalize client.cleanup ctx s = a at hc hclient ⊢
  obtain ⟨o, ⟨client', s'⟩, es⟩ := a
  obtain rfl : o = .ok () := hc
  obtain rfl : client' = {} := hclient
  exact ⟨_, leave_of_none rfl _⟩

/-- If it is not, nothing is written. -/
lemma finish_of_error {cause : Error} (hc : (client.cleanup ctx s).outcome = .error cause)
    (events : List Event) (status : Status) (result : JsonValue) :
    ∃ es, finish ctx client s events status result =
      { outcome := .error cause
        context := (client.cleanup ctx s).world.2
        events := es } := by
  have hclient := Client.client_cleanup ctx client s
  rw [finish]
  generalize client.cleanup ctx s = a at hc hclient ⊢
  obtain ⟨o, ⟨client', s'⟩, es⟩ := a
  obtain rfl : o = .error cause := hc
  obtain rfl : client' = {} := hclient
  exact ⟨_, leave_of_none rfl _⟩

end Finish

/-! ### Runs by their stages -/

/-- A task whose client cannot be initialized comes to nothing else. -/
lemma Task.run_of_init_error {ctx : Context σ η} {client : Client η} {s : ContextState σ η}
    {cause : Error} {es : List Event} {w : σ}
    (hi : Client.init ctx {} { world := w } = ⟨.error cause, (client, s), es⟩) (task : Task) :
    task.run ctx w = { outcome := .error cause, context := s, events := es } := by
  obtain ⟨rfl, -⟩ := Client.acquire_of_init_error hi
  rw [Task.run, hi]
  exact leave_of_none rfl _

/-- A task whose client is initialized finishes with what its operation comes to. -/
lemma Task.run_of_ends {ctx : Context σ η} {client : Client η} {s : ContextState σ η}
    {es : List Event} {w w' : σ} {task : Task} {status : Status}
    {members : List (String × JsonValue)}
    (hi : Client.init ctx {} { world := w } = ⟨.ok (), (client, s), es⟩)
    (ho : task.Ends ctx client s.world status members w') :
    ∃ es, task.run ctx w =
      finish ctx client { s with world := w' } es status (.object members) := by
  obtain ⟨before, behind, more, hoperate, rfl⟩ := ho.operate_eq
  refine ⟨es ++ more, ?_⟩
  rw [Task.run, hi]
  dsimp only
  rw [hoperate]

namespace Invocation

variable {i : Invocation} {host : Host φ} {b : Backend σ η} {w w' : σ} {t : Start σ η φ}
  {status : Status} {members : List (String × JsonValue)}

lemma run_of_starts (ht : i.Starts host b w t)
    (ho : i.task.Ends (t.context b) t.client t.state.world status members w') :
    ∃ es, i.run host b w = ended host t.log
      (finish (t.context b) t.client { t.state with world := w' } es status
        (.object members)) := by
  obtain ⟨es, hi⟩ := ht.initialized
  obtain ⟨es', hrun⟩ := Task.run_of_ends hi ho
  refine ⟨es', ?_⟩
  simp only [run, ht.loaded, ht.logged]
  exact congrArg (ended host t.log) hrun

/-- A run that does not come to a client fails and writes no result. At most it has tried to
initialize one. -/
lemma run_of_not_starts (hb : b.Steady) (h : ∀ t, ¬ i.Starts host b w t) :
    (i.run host b w).exit = .failure ∧ (i.run host b w).output = none ∧
      ((i.run host b w).world = w ∨
        ∃ config cause client s es,
          Client.init ⟨config, b⟩ {} { world := w } = ⟨.error cause, (client, s), es⟩ ∧
            (i.run host b w).world = s.world) := by
  rw [run]
  split
  · exact ⟨rfl, rfl, .inl rfl⟩
  · rename_i config hloaded
    dsimp only
    split
    · exact ⟨rfl, rfl, .inl rfl⟩
    · rename_i log hlogged
      cases hi : Client.init ⟨config.connection, b⟩ {} { world := w } with
      | mk outcome world es =>
        obtain ⟨client, s⟩ := world
        cases outcome with
        | ok =>
          exact absurd ⟨hloaded, hlogged, es, hi⟩ (h ⟨config, log, client, s⟩)
        | error cause =>
          rw [Task.run_of_init_error hi]
          exact ⟨rfl, rfl, .inr ⟨_, cause, client, s, es, hi, rfl⟩⟩
        | crash =>
          exact absurd (congrArg Attempt.outcome hi)
            (Client.init_ne_crash ⟨config.connection, b⟩ hb _ _)

/-- A run whose client is cleaned up well writes its result. -/
lemma run_of_cleansUp (ht : i.Starts host b w t)
    (ho : i.task.Ends (t.context b) t.client t.state.world status members w')
    (hc : CleansUp (t.context b) t.client { t.state with world := w' }) :
    (i.run host b w).exit = (if status.isOk then .success else .failure) ∧
      (i.run host b w).output = some (JsonValue.object members).render ∧
      (i.run host b w).world =
        (t.client.cleanup (t.context b) { t.state with world := w' }).world.2.world := by
  obtain ⟨es, hrun⟩ := run_of_starts ht ho
  obtain ⟨es', hfinish⟩ := finish_of_ok hc es status (.object members)
  rw [hrun, hfinish]
  exact ⟨rfl, rfl, rfl⟩

/-- A run whose client is cleaned up badly fails and writes no result. -/
lemma run_of_not_cleansUp (hb : b.Steady) (ht : i.Starts host b w t)
    (ho : i.task.Ends (t.context b) t.client t.state.world status members w')
    (hc : ¬ CleansUp (t.context b) t.client { t.state with world := w' }) :
    (i.run host b w).exit = .failure ∧ (i.run host b w).output = none ∧
      (i.run host b w).world =
        (t.client.cleanup (t.context b) { t.state with world := w' }).world.2.world := by
  obtain ⟨es, hrun⟩ := run_of_starts ht ho
  have hne := Client.cleanup_ne_crash (t.context b) hb t.client { t.state with world := w' }
  cases hx : (t.client.cleanup (t.context b) { t.state with world := w' }).outcome with
  | ok => exact absurd hx hc
  | crash => exact absurd hx hne
  | error cause =>
    obtain ⟨es', hfinish⟩ := finish_of_error hx es status (.object members)
    rw [hrun, hfinish]
    exact ⟨rfl, rfl, rfl⟩

/-- Every run comes to a client and its operation ends, or it does not come to a client. -/
lemma starts_or_not (hb : b.Calm) (i : Invocation) (host : Host φ) (w : σ) :
    (∃ t status members w', i.Starts host b w t ∧
      i.task.Ends (t.context b) t.client t.state.world status members w') ∨
      ∀ t, ¬ i.Starts host b w t := by
  by_cases h : ∃ t, i.Starts host b w t
  · obtain ⟨t, ht⟩ := h
    obtain ⟨status, members, w', ho⟩ :=
      Task.ends (t.context b) hb t.client i.task t.state.world
    exact .inl ⟨t, status, members, w', ht, ho⟩
  · exact .inr (not_exists.mp h)

/-! ### Exit statuses and results -/

/-- A run in which all stages succeed writes its result and ends as its operation did. -/
lemma run_of_completes (h : i.Completes host b w status members) :
    (i.run host b w).exit = (if status.isOk then .success else .failure) ∧
      (i.run host b w).output = some (JsonValue.object members).render := by
  obtain ⟨t, w', ht, ho, hc⟩ := h
  obtain ⟨hexit, houtput, -⟩ := run_of_cleansUp ht ho hc
  exact ⟨hexit, houtput⟩

/-- A run in which some stage fails fails and writes no result. -/
lemma run_of_not_completes (hb : b.Calm)
    (h : ∀ status members, ¬ i.Completes host b w status members) :
    (i.run host b w).exit = .failure ∧ (i.run host b w).output = none := by
  rcases starts_or_not hb i host w with ⟨t, status, members, w', ht, ho⟩ | hnot
  · obtain ⟨hexit, houtput, -⟩ := run_of_not_cleansUp hb.steady ht ho
      fun hc => h status members ⟨t, w', ht, ho, hc⟩
    exact ⟨hexit, houtput⟩
  · obtain ⟨hexit, houtput, -⟩ := run_of_not_starts hb.steady hnot
    exact ⟨hexit, houtput⟩

/-- Every run succeeds or fails. -/
lemma exit_cases (hb : b.Calm) (i : Invocation) (host : Host φ) (w : σ) :
    (i.run host b w).exit = .success ∨ (i.run host b w).exit = .failure := by
  by_cases h : ∃ status members, i.Completes host b w status members
  · obtain ⟨status, members, h⟩ := h
    rw [(run_of_completes h).1]
    cases status.isOk with
    | true => exact .inl rfl
    | false => exact .inr rfl
  · exact .inr (run_of_not_completes hb fun status members hc => h ⟨status, members, hc⟩).1

/-- A run succeeds just if all its stages do and its operation ends well. -/
lemma exit_eq_success_iff (hb : b.Calm) :
    (i.run host b w).exit = .success ↔ ∃ members, i.Completes host b w .ok members := by
  constructor
  · intro hexit
    by_cases h : ∃ status members, i.Completes host b w status members
    · obtain ⟨status, members, h⟩ := h
      have hs : status.isOk = true := by
        by_contra hs
        rw [(run_of_completes h).1, if_neg hs] at hexit
        cases hexit
      obtain rfl : status = .ok := of_decide_eq_true hs
      exact ⟨members, h⟩
    · rw [(run_of_not_completes hb fun status members hc => h ⟨status, members, hc⟩).1] at hexit
      cases hexit
  · rintro ⟨members, h⟩
    exact (run_of_completes h).1

/-- A run writes a result just if all its stages succeed, however its operation ends. -/
lemma output_isSome_iff (hb : b.Calm) :
    (i.run host b w).output.isSome ↔ ∃ status members, i.Completes host b w status members := by
  constructor
  · intro houtput
    by_contra hnot
    rw [(run_of_not_completes hb fun status members hc =>
      hnot ⟨status, members, hc⟩).2] at houtput
    cases houtput
  · rintro ⟨status, members, h⟩
    rw [(run_of_completes h).2]
    rfl

end Invocation

end KeyedGraph.CommandLine
