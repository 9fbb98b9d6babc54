import KeyedGraph.Proofs.Fleet.Calls
import KeyedGraph.Proofs.Store.Handles

/-!
# Samples and alarms

Each request that comes to an end shows two samples, and it shows them last: that its operation
was counted with the status that the caller gets, and that it was timed. No other call shows such
samples, so the counters of a run are the numbers of its calls by operation and status. A request
raises an alarm, that is a record of an error or a warning, just if it fails or its table is
rejected, and then one.
-/

namespace KeyedGraph

variable {σ η : Type}

/-! ### Kinds of events -/

/-- Whether an event is a sample of an operation. -/
def Event.isSample : Event → Bool
  | .operationCounted _ _ => true
  | .operationTimed _ => true
  | .log _ => false
  | .activeClients _ => false

/-- The record of an error or of a warning. -/
def Event.alarm? : Event → Option LogRecord
  | .log record => if record.level.rank ≤ LogLevel.warn.rank then some record else none
  | _ => none

/-- The samples of operations among the events. -/
def samples (events : List Event) : List Event :=
  events.filter Event.isSample

/-- The records of errors and warnings among the events. -/
def alarms (events : List Event) : List LogRecord :=
  events.filterMap Event.alarm?

@[simp] lemma samples_nil : samples [] = [] := rfl

@[simp] lemma samples_append (es es' : List Event) :
    samples (es ++ es') = samples es ++ samples es' :=
  List.filter_append ..

@[simp] lemma samples_log (record : LogRecord) (es : List Event) :
    samples (.log record :: es) = samples es := rfl

@[simp] lemma samples_activeClients (n : Nat) (es : List Event) :
    samples (.activeClients n :: es) = samples es := rfl

@[simp] lemma alarms_append (es es' : List Event) :
    alarms (es ++ es') = alarms es ++ alarms es' :=
  List.filterMap_append

@[simp] lemma alarms_operationEvents (operation : Operation) (status : Status) :
    alarms (operationEvents operation status) = [] := rfl

/-- Neither samples of operations nor alarms are among the events. -/
def Quiet (events : List Event) : Prop :=
  samples events = [] ∧ alarms events = []

lemma quiet_nil : Quiet [] :=
  ⟨rfl, rfl⟩

/-- A backend that shows no samples of operations and raises no alarms of its own. -/
structure Backend.Quiet (b : Backend σ η) : Prop where
  connect (settings : Settings) (w : σ) : KeyedGraph.Quiet (b.connect settings w).events
  call (store : η) (c : StoreCall) (w : σ) : KeyedGraph.Quiet (b.call store c w).events

/-- A store in memory is quiet. -/
lemma Memory.quiet_backend : Memory.backend.Quiet where
  connect settings m := by
    change KeyedGraph.Quiet (connect settings m).events
    rw [events_connect]
    exact quiet_nil
  call store c m := by
    change KeyedGraph.Quiet (call store c m).events
    rw [events_call]
    exact quiet_nil

/-! ### Requests -/

namespace Request

/-- What a request shows that ends with a status: the samples of its operation come last and are
the only ones, and there is one alarm if it failed or was rejected, and none else. -/
structure Accounted (r : Request) (status : Status) (events : List Event) : Prop where
  samples_eq :
    samples events = [.operationCounted r.operation status, .operationTimed r.operation]
  last : [.operationCounted r.operation status, .operationTimed r.operation] <:+ events
  alarms_eq :
    match status with
    | .error =>
      ∃ record, alarms events = [record] ∧ record.level = .error ∧
        record.message = "Operation failed"
    | .badRequest =>
      ∃ record, alarms events = [record] ∧ record.level = .warn ∧
        record.message = "Rejected table name"
    | .ok => alarms events = []
    | .notFound => alarms events = []

variable {r : Request} {label : Label}

/-- A reply is remarked on quietly, and it is no failure. -/
lemma quiet_remarks (reply : (r.call label).Reply) : Quiet (r.remarks label reply) := by
  cases r with
  | read table key selection into => cases reply <;> exact ⟨rfl, rfl⟩
  | update table key values =>
    simp only [remarks]
    split <;> exact ⟨rfl, rfl⟩
  | scan | insert | delete => exact ⟨rfl, rfl⟩

lemma conclude_ok_or_notFound (reply : (r.call label).Reply) :
    (r.conclude label reply).1 = .ok ∨ (r.conclude label reply).1 = .notFound := by
  cases r with
  | read table key selection into =>
    cases reply with
    | some node => exact .inl rfl
    | none => exact .inr rfl
  | scan | update | insert | delete => exact .inl rfl

/-- Quiet events and then the samples of an operation that ended well. -/
lemma accounted_of_quiet {events : List Event} {status : Status} (he : Quiet events)
    (hs : status = .ok ∨ status = .notFound) :
    r.Accounted status (events ++ operationEvents r.operation status) where
  samples_eq := by
    rw [samples_append, he.1]
    rfl
  last := List.suffix_append ..
  alarms_eq := by
    have ha : alarms (events ++ operationEvents r.operation status) = [] := by simp [he.2]
    rcases hs with rfl | rfl
    · exact ha
    · exact ha

/-- Quiet events and then an alarm and the samples of an operation that failed. -/
lemma accounted_of_failure {events : List Event} {record : LogRecord} (he : Quiet events)
    (hl : record.level = .error) (hm : record.message = "Operation failed") :
    r.Accounted .error (events ++ .log record :: operationEvents r.operation .error) where
  samples_eq := by
    rw [samples_append, he.1]
    rfl
  last := (List.suffix_cons ..).trans (List.suffix_append ..)
  alarms_eq := by
    refine ⟨record, ?_, hl, hm⟩
    have ha : Event.alarm? (.log record) = some record := by
      rw [Event.alarm?, hl]
      rfl
    rw [alarms_append, he.2, alarms, List.nil_append, List.filterMap_cons_some ha]
    exact congrArg (List.cons record) (alarms_operationEvents r.operation .error)

/-- Over a quiet backend, a request that comes to an end shows what it has to. -/
theorem accounted {b : Backend σ η} (hb : b.Quiet) (c : Client η) (r : Request) (w : σ) :
    ((r.run b c w).outcome = .crash ∧ samples (r.run b c w).events = []) ∨
      ∃ status collected, (r.run b c w).outcome = .ok (status, collected) ∧
        r.Accounted status (r.run b c w).events := by
  have hc := run_cases b c r w
  generalize r.run b c w = a at hc ⊢
  cases hc with
  | rejected cause hp =>
    refine .inr ⟨_, _, rfl, ⟨rfl, List.suffix_cons .., ?_⟩⟩
    exact ⟨_, rfl, rfl, rfl⟩
  | unready label hp hs =>
    exact .inr ⟨_, _, rfl, accounted_of_failure quiet_nil rfl rfl⟩
  | idle label store hp hs hi =>
    exact .inr ⟨_, _, rfl, accounted_of_quiet quiet_nil (.inl rfl)⟩
  | asked label store hp hs hi =>
    have hq := hb.call store (r.call label) w
    generalize b.call store (r.call label) w = a at hq ⊢
    obtain ⟨o, w', es⟩ := a
    change Quiet es at hq
    cases o with
    | ok reply =>
      refine .inr ⟨_, _, rfl, accounted_of_quiet ?_ (conclude_ok_or_notFound reply)⟩
      obtain ⟨hs, ha⟩ := quiet_remarks (r := r) reply
      exact ⟨by rw [samples_append, hq.1, hs]; rfl, by rw [alarms_append, hq.2, ha]; rfl⟩
    | error cause => exact .inr ⟨_, _, rfl, accounted_of_failure hq rfl rfl⟩
    | crash => exact .inl ⟨rfl, hq.1⟩

end Request

/-! ### Other calls -/

namespace Backend.Quiet

variable {b : Backend σ η} (hb : b.Quiet)
include hb

lemma samples_connect {settings : Settings} {w w' : σ} {o : Outcome η} {es : List Event}
    (h : b.connect settings w = ⟨o, w', es⟩) : samples es = [] := by
  have hq := (hb.connect settings w).1
  rwa [h] at hq

lemma samples_call {store : η} {c : StoreCall} {w w' : σ} {o : Outcome c.Reply} {es : List Event}
    (h : b.call store c w = ⟨o, w', es⟩) : samples es = [] := by
  have hq := (hb.call store c w).1
  rwa [h] at hq

end Backend.Quiet

section Sharing

variable {ctx : Context σ η} (hb : ctx.backend.Quiet)
include hb

lemma Context.samples_acquire (s : ContextState σ η) : samples (ctx.acquire s).events = [] := by
  have hc := ctx.acquire_cases s
  generalize ctx.acquire s = a at hc ⊢
  cases hc with
  | locked | joined => rfl
  | refused cause w es hp hs hc => exact hb.samples_connect hc
  | connectCrashed w es hp hs hc => exact hb.samples_connect hc
  | opened store w w' es es' hp hs hc hv =>
    simp [hb.samples_connect hc, hb.samples_call hv, connectionCreated]
  | probeCrashed store w w' es es' hp hs hc hv =>
    simp [crashed, hb.samples_connect hc, hb.samples_call hv]
  | abandoned store cause closing w w' w'' es es' es'' hp hs hc hv hx hk =>
    cases closing with
    | ok => simp [hb.samples_connect hc, hb.samples_call hv, hb.samples_call hx]
    | error more =>
      simp [hb.samples_connect hc, hb.samples_call hv, hb.samples_call hx, closeAfterProbeFailed]
    | crash => exact absurd rfl hk
  | abandonCrashed store cause w w' w'' es es' es'' hp hs hc hv hx =>
    simp [crashed, hb.samples_connect hc, hb.samples_call hv, hb.samples_call hx]

lemma Context.samples_release (s : ContextState σ η) : samples (ctx.release s).events = [] := by
  have hc := ctx.release_cases s
  generalize ctx.release s = a at hc ⊢
  cases hc with
  | locked | surplus | left => rfl
  | closed store w es hp hu hs hx => simp [hb.samples_call hx, connectionClosed]
  | closeFailed store cause w es hp hu hs hx => simp [hb.samples_call hx]
  | closeCrashed store w es hp hu hs hx => simp [crashed, hb.samples_call hx]

namespace Client

lemma samples_init (c : Client η) (s : ContextState σ η) :
    samples (c.init ctx s).events = [] := by
  have ha : samples (ctx.acquire s).events = [] := Context.samples_acquire hb s
  obtain ⟨store⟩ := c
  cases store with
  | some store => rfl
  | none =>
    simp only [init]
    generalize ctx.acquire s = a at ha ⊢
    obtain ⟨o, s', es⟩ := a
    cases o with
    | ok | crash => exact ha
    | error cause =>
      change samples es = [] at ha
      simp [ha, initFailed]

lemma samples_cleanup (c : Client η) (s : ContextState σ η) :
    samples (c.cleanup ctx s).events = [] := by
  obtain ⟨store⟩ := c
  cases store with
  | none => rfl
  | some store => exact Context.samples_release hb s

lemma samples_drop (c : Client η) (s : ContextState σ η) :
    samples (c.drop ctx s).events = [] := by
  have ha : samples (c.cleanup ctx s).events = [] := samples_cleanup hb c s
  simp only [drop]
  generalize c.cleanup ctx s = a at ha ⊢
  obtain ⟨o, s', es⟩ := a
  cases o with
  | ok | crash => exact ha
  | error cause =>
    change samples es = [] at ha
    simp [ha, dropFailed]

end Client

end Sharing

/-! ### Runs -/

/-- The operation that a reply ends, and the status that it gives. -/
def Reply.status? : Reply → Option (Operation × Status)
  | .answer request status _ => some (request.operation, status)
  | .nothing => none
  | .finished _ => none
  | .crashed => none

namespace Fleet

/-- What a call shows. -/
def shown (ctx : Context σ η) (f : Fleet σ η) : Call → List Event
  | .create => []
  | .init i =>
    match f.clients[i]? with
    | some (.resting c) => (c.init ctx f.context).events
    | _ => []
  | .cleanup i =>
    match f.clients[i]? with
    | some (.resting c) => (c.cleanup ctx f.context).events
    | _ => []
  | .drop i =>
    match f.clients[i]? with
    | some (.resting c) => (c.drop ctx f.context).events
    | _ => []
  | .ask i request =>
    match f.clients[i]? with
    | some (.resting c) => (request.run ctx.backend c f.context.world).events
    | _ => []

/-- Makes a call and watches what it shows. -/
def watch (ctx : Context σ η) (f : Fleet σ η) (c : Call) : (Reply × List Event) × Fleet σ η :=
  (((f.call ctx c).1, f.shown ctx c), (f.call ctx c).2)

variable {ctx : Context σ η}

/-- What a call is answered, shows and leaves behind: a new client, nothing, or what the client
that it is made on does. -/
inductive Happening (ctx : Context σ η) (f : Fleet σ η) :
    Call → (Reply × List Event) × Fleet σ η → Prop
  | created : Happening ctx f .create
      ((.nothing, []), { f with clients := f.clients ++ [.resting {}] })
  | missed {c : Call} {i : Nat} (hc : c.client? = some i)
      (hi : ∀ client, f.clients[i]? ≠ some (.resting client)) :
        Happening ctx f c ((.nothing, []), f)
  | init {i : Nat} {client : Client η} (hi : f.clients[i]? = some (.resting client)) :
      Happening ctx f (.init i)
        ((.ofFinish (client.init ctx f.context).outcome, (client.init ctx f.context).events),
          { f with context := (client.init ctx f.context).world.2 }.put i
            (.resting (client.init ctx f.context).world.1))
  | cleanup {i : Nat} {client : Client η} (hi : f.clients[i]? = some (.resting client)) :
      Happening ctx f (.cleanup i)
        ((.ofFinish (client.cleanup ctx f.context).outcome,
          (client.cleanup ctx f.context).events),
          { f with context := (client.cleanup ctx f.context).world.2 }.put i
            (.resting (client.cleanup ctx f.context).world.1))
  | drop {i : Nat} {client : Client η} (hi : f.clients[i]? = some (.resting client)) :
      Happening ctx f (.drop i)
        ((.nothing, (client.drop ctx f.context).events),
          { f with context := (client.drop ctx f.context).world }.put i .gone)
  | asked {i : Nat} {client : Client η} (request : Request)
      (hi : f.clients[i]? = some (.resting client)) :
      Happening ctx f (.ask i request)
        ((.ofAnswer request (request.run ctx.backend client f.context.world).outcome,
            (request.run ctx.backend client f.context.world).events),
          { f with
            context :=
              { f.context with
                world := (request.run ctx.backend client f.context.world).world } })

/-- A call on a client that does not rest shows nothing. -/
lemma shown_of_not_resting {f : Fleet σ η} {c : Call} {i : Nat} (hc : c.client? = some i)
    (hi : ∀ client, f.clients[i]? ≠ some (.resting client)) : f.shown ctx c = [] := by
  cases c with
  | create => cases hc
  | init j | cleanup j | drop j | ask j request =>
    obtain rfl : j = i := Option.some.inj hc
    simp only [shown]

/-- Every call happens in one of the ways. -/
theorem watch_cases (ctx : Context σ η) (f : Fleet σ η) (c : Call) :
    Happening ctx f c (f.watch ctx c) := by
  obtain hc | ⟨i, hc⟩ := Option.eq_none_or_eq_some c.client?
  · cases c with
    | create => exact .created
    | init | cleanup | drop | ask => cases hc
  by_cases hi : ∃ client, f.clients[i]? = some (.resting client)
  swap
  · have hi := not_exists.mp hi
    rw [watch, call_of_not_resting hc hi, shown_of_not_resting hc hi]
    exact .missed hc hi
  obtain ⟨client, hi⟩ := hi
  cases c with
  | create => cases hc
  | init j =>
    obtain rfl : j = i := Option.some.inj hc
    simp only [watch, call_init ctx hi, shown, hi]
    exact .init hi
  | cleanup j =>
    obtain rfl : j = i := Option.some.inj hc
    simp only [watch, call_cleanup ctx hi, shown, hi]
    exact .cleanup hi
  | drop j =>
    obtain rfl : j = i := Option.some.inj hc
    simp only [watch, call_drop ctx hi, shown, hi]
    exact .drop hi
  | ask j request =>
    obtain rfl : j = i := Option.some.inj hc
    simp only [watch, call_ask ctx hi, shown, hi]
    exact .asked request hi

/-- A call shows no samples, or it is a request that is answered and shows what it has to. -/
lemma watch_accounted (hb : ctx.backend.Quiet) (f : Fleet σ η) (c : Call) :
    ((f.watch ctx c).1.1.status? = none ∧ samples (f.watch ctx c).1.2 = []) ∨
      ∃ request status collected, (f.watch ctx c).1.1 = .answer request status collected ∧
        request.Accounted status (f.watch ctx c).1.2 := by
  have hc := watch_cases ctx f c
  generalize f.watch ctx c = r at hc ⊢
  cases hc with
  | created | missed => exact .inl ⟨rfl, rfl⟩
  | @init i client =>
    refine .inl ⟨?_, client.samples_init hb f.context⟩
    cases (client.init ctx f.context).outcome <;> rfl
  | @cleanup i client =>
    refine .inl ⟨?_, client.samples_cleanup hb f.context⟩
    cases (client.cleanup ctx f.context).outcome <;> rfl
  | @drop i client => exact .inl ⟨rfl, client.samples_drop hb f.context⟩
  | @asked i client request =>
    obtain ⟨ho, hs⟩ | ⟨status, collected, ho, ha⟩ := request.accounted hb client f.context.world
    · exact .inl ⟨by rw [ho]; rfl, hs⟩
    · exact .inr ⟨request, status, collected, by rw [ho]; rfl, ha⟩

/-- A call counts once what it is answered, if it is a request, and nothing else. -/
lemma count_watch (hb : ctx.backend.Quiet) (f : Fleet σ η) (c : Call) (operation : Operation)
    (status : Status) :
    (f.watch ctx c).1.2.count (.operationCounted operation status) =
      if (f.watch ctx c).1.1.status? = some (operation, status) then 1 else 0 := by
  have hcount : (f.watch ctx c).1.2.count (.operationCounted operation status) =
      (samples (f.watch ctx c).1.2).count (.operationCounted operation status) :=
    (List.count_filter rfl).symm
  rw [hcount]
  obtain ⟨hr, hs⟩ | ⟨request, answered, collected, hr, ha⟩ := watch_accounted hb f c
  · rw [hr, hs]
    rfl
  · rw [hr, ha.samples_eq]
    simp [Reply.status?, List.count_cons]

/-- A run counts what its calls are answered. -/
theorem count_watched (hb : ctx.backend.Quiet) (f : Fleet σ η) (calls : List Call)
    (operation : Operation) (status : Status) :
    ((transcript (watch ctx) calls f).1.flatMap Prod.snd).count
        (.operationCounted operation status) =
      (transcript (watch ctx) calls f).1.countP fun entry =>
        entry.1.status? = some (operation, status) := by
  induction calls generalizing f with
  | nil => rfl
  | cons c calls ih =>
    rw [transcript_cons, List.flatMap_cons, List.count_append, List.countP_cons, ih,
      count_watch hb, Nat.add_comm]
    simp only [decide_eq_true_eq]

end Fleet

/-- Over a quiet backend, every request that comes to an end shows last that it was counted with
its status and that it was timed, and no other call shows such samples; so the counters of a run
are the numbers of its answers. A request raises one alarm if it failed or was rejected, and none
else. -/
theorem operations_accounted_for {ctx : Context σ η} (hb : ctx.backend.Quiet) :
    (∀ (c : Client η) (r : Request) (w : σ),
      ((r.run ctx.backend c w).outcome = .crash ∧
          samples (r.run ctx.backend c w).events = []) ∨
        ∃ status collected, (r.run ctx.backend c w).outcome = .ok (status, collected) ∧
          r.Accounted status (r.run ctx.backend c w).events) ∧
    (∀ (c : Client η) (s : ContextState σ η),
      samples (c.init ctx s).events = [] ∧ samples (c.cleanup ctx s).events = [] ∧
        samples (c.drop ctx s).events = []) ∧
    ∀ (f : Fleet σ η) (calls : List Call) (operation : Operation) (status : Status),
      let run := (transcript (Fleet.watch ctx) calls f).1
      (run.flatMap Prod.snd).count (.operationCounted operation status) =
        run.countP fun entry => entry.1.status? = some (operation, status) := by
  refine ⟨fun c r w => r.accounted hb c w, fun c s => ?_, Fleet.count_watched hb⟩
  exact ⟨c.samples_init hb s, c.samples_cleanup hb s, c.samples_drop hb s⟩

/-- An insertion before `init` and two of one key after it, a read that misses, a deletion from
what is no table, and an update after `cleanup`. -/
def mixedCalls : List Call :=
  [.create, .ask 0 (.insert "people" "ada" ∅), .init 0, .ask 0 (.insert "people" "ada" ∅),
    .ask 0 (.insert "people" "ada" ∅), .ask 0 (.read "people" "bob" none ∅),
    .ask 0 (.delete "no table" "ada"), .cleanup 0, .ask 0 (.update "people" "ada" ∅), .drop 0]

/-- Over a store in memory with unique keys, one of the insertions is counted as done and two as
failed, and no update as done. -/
theorem operations_accounted_for_in_memory :
    let run :=
      (transcript (Fleet.watch (Memory.context {})) mixedCalls (.new { uniqueKeys := true })).1
    run.filterMap (fun entry => entry.1.status?) =
      [(.insert, .error), (.insert, .ok), (.insert, .error), (.read, .notFound),
        (.delete, .badRequest), (.update, .error)] ∧
    (run.flatMap Prod.snd).count (.operationCounted .insert .error) = 2 ∧
    (run.flatMap Prod.snd).count (.operationCounted .insert .ok) = 1 ∧
    (run.flatMap Prod.snd).count (.operationCounted .update .ok) = 0 := by
  have hquiet : (Memory.context {}).backend.Quiet := Memory.quiet_backend
  have hcount := (operations_accounted_for hquiet).2.2 (.new { uniqueKeys := true }) mixedCalls
  refine ⟨by decide +kernel, (hcount .insert .error).trans ?_, (hcount .insert .ok).trans ?_,
    (hcount .update .ok).trans ?_⟩
  · decide +kernel
  · decide +kernel
  · decide +kernel

end KeyedGraph
