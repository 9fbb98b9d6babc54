import KeyedGraph.Config.Document
import KeyedGraph.FileTree
import KeyedGraph.Logging.Plain
import KeyedGraph.Proofs.CommandLine.Stages

/-!
# How the program ends

Over a backend that never crashes, the exit status of a run, the result that it writes and the
connections that it opens and closes agree on how far the run came. What happens on the backend
is read off a ledger.
-/

namespace KeyedGraph

/-! ### Backends that never crash -/

lemma Backend.calm_scripted : Backend.scripted.Calm where
  connect _ := followScript_ne_crash _
  call _ _ := followScript_ne_crash _

/-- Whether an attempt was an operation on nodes. -/
def Contact.IsOperation : Contact → Prop
  | .connect _ => False
  | .call _ kind _ => kind ≠ .verifyConnectivity ∧ kind ≠ .close

end KeyedGraph

namespace KeyedGraph.CommandLine

variable {σ η φ : Type}

/-! ### Recording is invisible -/

/-- A task that was carried out, without its ledger. -/
def TaskRun.plain (t : TaskRun (Ledger σ) (Numbered η)) : TaskRun σ η :=
  { outcome := t.outcome, written := t.written, context := t.context.plain, events := t.events }

/-- What the program leaves behind, without its ledger. -/
def ProgramRun.plain (r : ProgramRun (Ledger σ) φ) : ProgramRun σ φ :=
  { exit := r.exit, output := r.output, said := r.said, log := r.log, world := r.world.inner }

section Recording

variable (ctx : Context σ η) (client : Client (Numbered η))

lemma plain_leave (t : TaskRun (Ledger σ) (Numbered η)) :
    (leave ctx.recorded client t).plain = leave ctx client.plain t.plain := by
  obtain ⟨outcome, written, s, events⟩ := t
  cases outcome with
  | crash => rfl
  | ok | error =>
    simp only [leave, TaskRun.plain, ← Client.plain_drop]
    generalize client.drop ctx.recorded s = a
    obtain ⟨o, s, es⟩ := a
    cases o <;> rfl

lemma plain_finish (s : ContextState (Ledger σ) (Numbered η)) (events : List Event)
    (status : Status) (result : JsonValue) :
    (finish ctx.recorded client s events status result).plain =
      finish ctx client.plain s.plain events status result := by
  simp only [finish, ← Client.plain_cleanup]
  generalize client.cleanup ctx.recorded s = a
  obtain ⟨o, ⟨client, s⟩, es⟩ := a
  cases o with
  | ok | error => exact plain_leave ..
  | crash => rfl

lemma plain_operate (task : Task) (l : Ledger σ) :
    (task.operate ctx.recorded client l).mapWorld Ledger.inner =
      task.operate ctx client.plain l.inner := by
  cases hr : task.request? with
  | none =>
    cases task with
    | check => rfl
    | read | scan | insert | update | delete => cases hr
  | some r =>
    rw [Task.operate_of_request hr, Task.operate_of_request hr, ← r.plain_run ctx.backend]
    change (Client.followUp (r.run ctx.backend.recorded client l) _ _).mapWorld _ = _
    generalize r.run ctx.backend.recorded client l = a
    obtain ⟨o, l, es⟩ := a
    cases o <;> rfl

lemma plain_taskRun (task : Task) (l : Ledger σ) :
    (task.run ctx.recorded l).plain = task.run ctx l.inner := by
  have hinit := Client.plain_init ctx {} { world := l }
  change _ = Client.init ctx {} { world := l.inner } at hinit
  rw [Task.run, Task.run, ← hinit]
  generalize Client.init ctx.recorded {} { world := l } = a
  obtain ⟨o, ⟨client, s⟩, es⟩ := a
  cases o with
  | error => exact plain_leave ..
  | crash => rfl
  | ok =>
    simp only [Attempt.mapWorld, Client.plainPair]
    have hoperate := plain_operate ctx client task s.world
    change _ = task.operate ctx client.plain s.plain.world at hoperate
    rw [← hoperate]
    generalize task.operate ctx.recorded client s.world = a
    obtain ⟨o, l, more⟩ := a
    cases o with
    | ok => exact plain_finish ..
    | error => exact plain_leave ..
    | crash => rfl

end Recording

/-- Recording a run changes nothing but the ledger. -/
theorem plain_run (host : Host φ) (b : Backend σ η) (arguments : List String) (l : Ledger σ) :
    (run host b.recorded arguments l).plain = run host b arguments l.inner := by
  rw [run, run]
  split
  · rename_i i hp
    rw [Invocation.run, Invocation.run]
    split
    · rfl
    · rename_i config hloaded
      dsimp only
      split
      · rfl
      · rename_i log hlogged
        rw [← plain_taskRun]
        change (ended host log
          (i.task.run (Context.recorded ⟨config.connection, b⟩) l)).plain = _
        generalize i.task.run (Context.recorded ⟨config.connection, b⟩) l = t
        obtain ⟨outcome, written, s, events⟩ := t
        cases outcome <;> rfl
  · rename_i stop hp
    cases stop with
    | help | version => rfl
    | usage cause => cases cause <;> rfl

/-! ### The ledger of a run -/

/-- The operation of a task neither opens nor closes a store. -/
lemma Task.Ends.counts (ctx : Context σ η) {client : Client (Numbered η)} {task : Task}
    {l l' : Ledger σ} {status : Status} {members : List (String × JsonValue)}
    (h : task.Ends ctx.recorded client l status members l') :
    openings l'.contacts = openings l.contacts ∧ closings l'.contacts = closings l.contacts ∧
      ∀ n, closingsOf n l'.contacts = closingsOf n l.contacts := by
  cases h with
  | checked => exact ⟨rfl, rfl, fun _ => rfl⟩
  | requested r hr collected es h =>
    have hworld : (r.run ctx.backend.recorded client l).world = l' := congrArg Attempt.world h
    rcases r.contacts_run ctx.backend client l with hc | ⟨store, kind, succeeded, -, hk, hc⟩
    · rw [← hworld, hc]
      exact ⟨rfl, rfl, fun _ => rfl⟩
    · rw [← hworld, hc]
      simp [hk]

namespace Invocation

variable {i : Invocation} {host : Host φ} {b : Backend σ η} {w : σ}

/-- A run that comes to a client opens one store, which is closed once when the run ends. -/
lemma contacts_of_starts (hb : b.Calm) {t : Start (Ledger σ) (Numbered η) φ}
    (ht : i.Starts host b.recorded { inner := w } t) :
    let contacts := (i.run host b.recorded { inner := w }).world.contacts
    openings contacts = 1 ∧ closings contacts = 1 ∧
      ∃ store, t.client.store = some store ∧ closingsOf store.number contacts = 1 := by
  intro contacts
  let ctx : Context σ η := ⟨t.config.connection, b⟩
  obtain ⟨es, hi⟩ := ht.initialized
  obtain ⟨store, hstore, hnumber, hshared, hopened⟩ :=
    Client.contacts_of_init_ok ctx hb.steady hi
  obtain ⟨status, members, l, ho⟩ :=
    Task.ends (t.context b.recorded) hb.recorded t.client i.task t.state.world
  obtain ⟨hopenings, hclosings, hclosingsOf⟩ := Task.Ends.counts ctx ho
  obtain ⟨closedWell, hclosed⟩ := Client.contacts_cleanup ctx hb.steady
    (s := { t.state with world := l }) hstore hshared
  have hworld : (i.run host b.recorded { inner := w }).world =
      (t.client.cleanup ctx.recorded { t.state with world := l }).world.2.world := by
    by_cases hc : CleansUp (t.context b.recorded) t.client { t.state with world := l }
    · exact (run_of_cleansUp ht ho hc).2.2
    · exact (run_of_not_cleansUp hb.recorded.steady ht ho hc).2.2
  have hcontacts : contacts = l.contacts ++ [.call 0 .close closedWell] := by
    rw [← hnumber, ← hclosed]
    exact congrArg Ledger.contacts hworld
  refine ⟨?_, ?_, store, hstore, ?_⟩
  · rw [hcontacts, openings_append, hopenings, hopened]
    rfl
  · rw [hcontacts, closings_append, hclosings, hopened]
    rfl
  · rw [hcontacts, closingsOf_append, hclosingsOf, hopened, hnumber]
    rfl

/-- A run that does not come to a client asks for no operation, and a store that it opened
nevertheless is closed. -/
lemma contacts_of_not_starts (hb : b.Calm)
    (h : ∀ t, ¬ i.Starts host b.recorded { inner := w } t) :
    let contacts := (i.run host b.recorded { inner := w }).world.contacts
    openings contacts ≤ 1 ∧ closings contacts = openings contacts ∧
      ∀ contact ∈ contacts, ¬ contact.IsOperation := by
  intro contacts
  obtain ⟨-, -, hworld | ⟨config, cause, client, s, es, hi, hworld⟩⟩ :=
    run_of_not_starts hb.recorded.steady h
  · have hcontacts : contacts = [] := congrArg Ledger.contacts hworld
    rw [hcontacts]
    simp
  · have hcontacts : contacts = s.world.contacts := congrArg Ledger.contacts hworld
    rw [hcontacts]
    rcases Client.contacts_of_init_error ⟨config, b⟩ hb.steady hi with
      hs | ⟨closedWell, hs⟩
    · rw [hs]
      simp [Contact.IsOperation]
    · rw [hs]
      simp [Contact.IsOperation]

/-- Every run opens one store at most and closes all that it opens. -/
lemma contacts_balanced (hb : b.Calm) (i : Invocation) (host : Host φ) (w : σ) :
    let contacts := (i.run host b.recorded { inner := w }).world.contacts
    openings contacts ≤ 1 ∧ closings contacts = openings contacts := by
  intro contacts
  by_cases h : ∃ t, i.Starts host b.recorded { inner := w } t
  · obtain ⟨t, ht⟩ := h
    obtain ⟨hopenings, hclosings, -⟩ := contacts_of_starts hb ht
    exact ⟨Nat.le_of_eq hopenings, hclosings.trans hopenings.symm⟩
  · obtain ⟨hopenings, hclosings, -⟩ := contacts_of_not_starts hb (not_exists.mp h)
    exact ⟨hopenings, hclosings⟩

end Invocation

/-! ### Endings agree -/

/-- A process that finds neither files nor variables. -/
def bareHost : Host FileTree where
  env _ := none
  files := {}
  system := FileTree.system []
  configDir := none
  readDocument := ConfigFile.parse
  library := plainLibrary

/-- A table that is no label: the run fails, but its result is written. -/
example :
    let r := run bareHost Backend.scripted ["scan", "user table", "user1"] [true, true, true]
    r.exit = .failure ∧
      r.output = some "\x7b\n  \"records\": [],\n  \"status\": \"BAD_REQUEST\"\n\x7d" := by
  decide +kernel

end KeyedGraph.CommandLine
