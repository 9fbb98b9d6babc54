import KeyedGraph.Client
import KeyedGraph.CommandLine.Arguments
import KeyedGraph.Config.Location
import KeyedGraph.JsonValue
import KeyedGraph.Logging

/-!
# The program

The program carries out one task: it reads the command line and the configuration, sets its log
up, takes a client through the task, and writes the result. A result is written only when the
client could also be cleaned up.
-/

namespace KeyedGraph.CommandLine

/-- How the process ends. -/
inductive ExitStatus
  | success
  | failure
  | usage
  | crash
deriving DecidableEq, Repr

/-- The number that a process ends with. -/
def ExitStatus.code : ExitStatus → Nat
  | .success => 0
  | .failure => 1
  | .usage => 2
  | .crash => 134

/-! ### Tasks -/

/-- A task that was carried out: how it ended, the result that was written, the state that it
left and its events. -/
structure TaskRun (σ η : Type) where
  outcome : Outcome Status
  written : Option JsonValue := none
  context : ContextState σ η
  events : List Event := []

/-- The fields that a read or a scan asks for. -/
abbrev selectionOf (fields : Option (List String)) : Selection :=
  fields

/-- The operation of a task, with the members of its result that come before the status and those
that come behind it. -/
def Task.operate {σ η : Type} (ctx : Context σ η) (client : Client η) (task : Task) (w : σ) :
    Attempt σ (Status × List (String × JsonValue) × List (String × JsonValue)) :=
  match task with
  | .check => .done (.ok, [], [("url", .text ctx.settings.url)]) w
  | .read table key fields =>
    Client.followUp (client.read ctx.backend table key (selectionOf fields) ∅ w)
      (fun (status, record) => (status, [("record", .ofFields record)], [])) fun _ => []
  | .scan table start count fields =>
    Client.followUp (client.scan ctx.backend table start count (selectionOf fields) [] w)
      (fun (status, rows) => (status, [("records", .array (rows.map .ofFields))], []))
      fun _ => []
  | .insert table key values =>
    Client.followUp (client.insert ctx.backend table key (FieldSet.ofPairs values) w)
      (fun (status, _) => (status, [], [])) fun _ => []
  | .update table key values =>
    Client.followUp (client.update ctx.backend table key (FieldSet.ofPairs values) w)
      (fun (status, _) => (status, [], [])) fun _ => []
  | .delete table key =>
    Client.followUp (client.delete ctx.backend table key w) (fun (status, _) => (status, [], []))
      fun _ => []

/-- Takes a client away behind its task. A crash has ended the process before that. -/
def leave {σ η : Type} (ctx : Context σ η) (client : Client η) (t : TaskRun σ η) : TaskRun σ η :=
  match t.outcome with
  | .crash => t
  | _ =>
    match client.drop ctx t.context with
    | ⟨.crash, s, more⟩ =>
      { t with outcome := .crash, context := s, events := t.events ++ more }
    | ⟨_, s, more⟩ => { t with context := s, events := t.events ++ more }

/-- Cleans a client up behind its operation; only then the result is written. -/
def finish {σ η : Type} (ctx : Context σ η) (client : Client η) (s : ContextState σ η)
    (events : List Event) (status : Status) (result : JsonValue) : TaskRun σ η :=
  match client.cleanup ctx s with
  | ⟨.ok (), (client, s), more⟩ =>
    leave ctx client
      { outcome := .ok status, written := some result, context := s, events := events ++ more }
  | ⟨.error cause, (client, s), more⟩ =>
    leave ctx client { outcome := .error cause, context := s, events := events ++ more }
  | ⟨.crash, (_, s), more⟩ => { outcome := .crash, context := s, events := events ++ more }

/-- Carries a task out with a client of its own. -/
def Task.run {σ η : Type} (ctx : Context σ η) (task : Task) (w : σ) : TaskRun σ η :=
  match Client.init ctx {} { world := w } with
  | ⟨.error cause, (client, s), events⟩ =>
    leave ctx client { outcome := .error cause, context := s, events }
  | ⟨.crash, (_, s), events⟩ => { outcome := .crash, context := s, events }
  | ⟨.ok (), (client, s), events⟩ =>
    match task.operate ctx client s.world with
    | ⟨.ok (status, before, behind), w, more⟩ =>
      finish ctx client { s with world := w } (events ++ more) status
        (.object (before ++ ("status", .text status.name) :: behind))
    | ⟨.error cause, w, more⟩ =>
      leave ctx client
        { outcome := .error cause, context := { s with world := w }, events := events ++ more }
    | ⟨.crash, w, more⟩ =>
      { outcome := .crash, context := { s with world := w }, events := events ++ more }

/-! ### Runs of the program -/

/-- What the program leaves behind: how it ends, what it wrote to the standard output, what it
said on the standard error behind its log, its log, and the backend's world. -/
structure ProgramRun (σ φ : Type) where
  exit : ExitStatus
  output : Option String := none
  said : List String := []
  log : LogState φ
  world : σ

/-- The version that the program tells. -/
def versionText : String := "graphkv 0.3.1"

/-- The help that the program gives. -/
def helpText : String :=
  programDescription ++ "\n\nUsage: graphkv [OPTIONS] <COMMAND>\n\nCommands: " ++
    ", ".intercalate commandNames

/-- The end of a run that does not get as far as a task. -/
def stopped {σ φ : Type} (stop : Stop) (log : LogState φ) (w : σ) : ProgramRun σ φ :=
  match stop with
  | .help => { exit := .success, output := some helpText, log, world := w }
  | .version => { exit := .success, output := some versionText, log, world := w }
  | .usage .nothingGiven => { exit := .usage, said := [helpText], log, world := w }
  | .usage cause => { exit := .usage, said := [Text.plain cause.report], log, world := w }

/-- The end of a run whose task was carried out. Its records are emitted outside of all spans. -/
def ended {σ η φ : Type} (host : Host φ) (log : LogState φ) (t : TaskRun σ η) : ProgramRun σ φ :=
  let emissions := (logRecords t.events).map fun record => { record }
  let log := log.write host.system host.library.form emissions
  let output := t.written.map JsonValue.render
  match t.outcome with
  | .ok status =>
    { exit := if status.isOk then .success else .failure
      output
      log
      world := t.context.world }
  | .error cause =>
    { exit := .failure
      output
      said := ["Error: " ++ cause.message]
      log
      world := t.context.world }
  | .crash => { exit := .crash, output, log, world := t.context.world }

/-- Carries out an invocation. -/
def Invocation.run {σ η φ : Type} (host : Host φ) (backend : Backend σ η)
    (invocation : Invocation) (w : σ) : ProgramRun σ φ :=
  let log : LogState φ := { files := host.files }
  match (host.loadConfig invocation.config (FieldSet.ofPairs invocation.properties)).1 with
  | .error cause =>
    { exit := .failure
      said := ["Failed to load configuration: " ++ cause.message]
      log
      world := w }
  | .ok config =>
    let logging :=
      LoggingConfig.ofSettings host.library host.env config.logging invocation.verbose
    match log.setUp host.system logging with
    | (.error cause, log) =>
      { exit := .failure
        said := ["Failed to initialize logging: " ++ cause.message]
        log
        world := w }
    | (.ok (), log) => ended host log (invocation.task.run ⟨config.connection, backend⟩ w)

/-- Runs the program on its arguments. -/
def run {σ η φ : Type} (host : Host φ) (backend : Backend σ η) (arguments : List String)
    (w : σ) : ProgramRun σ φ :=
  match parse arguments with
  | .ok invocation => invocation.run host backend w
  | .error stop => stopped stop { files := host.files } w

end KeyedGraph.CommandLine
