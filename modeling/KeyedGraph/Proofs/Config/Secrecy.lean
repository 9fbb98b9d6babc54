import KeyedGraph.Proofs.Config.Precedence
import KeyedGraph.Proofs.Fleet.Bisimulation
import KeyedGraph.Session

/-!
# The password stays secret

Let two configurations be built from layers that differ in nothing but the password. They are
built alike or fail alike, and nobody who sees their diagnostic forms, their validation, or whole
sessions on a store in memory can tell which password is in which: no answer, no error, no record
and no sample depends on it.
-/

namespace KeyedGraph

variable {σ τ η α : Type}

/-! ### Contexts that do the same -/

/-- Attempts that are alike are the same if related worlds are. -/
lemma Attempt.Alike.eq {R : σ → σ → Prop} (hR : ∀ w w', R w w' → w = w') {a a' : Attempt σ α}
    (h : a.Alike R a') : a = a' := by
  cases h with
  | mk o es hw => rw [hR _ _ hw]

lemma ContextState.Alike.eq {s s' : ContextState σ η} (h : s.Alike Eq s') : s = s' := by
  cases h with
  | mk shared hw => rw [hw]

namespace Context.Bisimilar

variable {ctx ctx' : Context σ η} (h : ctx.Bisimilar Eq ctx') (s : ContextState σ η)
include h

lemma acquire_eq : ctx.acquire s = ctx'.acquire s :=
  (h.acquire (.mk s.shared rfl)).eq fun _ _ hs => hs.eq

lemma release_eq : ctx.release s = ctx'.release s :=
  (h.release (.mk s.shared rfl)).eq fun _ _ hs => hs.eq

lemma init_eq (c : Client η) : c.init ctx s = c.init ctx' s :=
  (h.init c (.mk s.shared rfl)).eq fun _ _ hp => Prod.ext hp.1 hp.2.eq

lemma cleanup_eq (c : Client η) : c.cleanup ctx s = c.cleanup ctx' s :=
  (h.cleanup c (.mk s.shared rfl)).eq fun _ _ hp => Prod.ext hp.1 hp.2.eq

lemma drop_eq (c : Client η) : c.drop ctx s = c.drop ctx' s :=
  (h.drop c (.mk s.shared rfl)).eq fun _ _ hs => hs.eq

end Context.Bisimilar

/-! ### Sessions -/

/-- A backend that connects in the same way with any password. -/
def Backend.IgnoresPassword (b : Backend σ η) : Prop :=
  ∀ (settings : Settings) (password : String) (w : σ),
    b.connect { settings with password := password } w = b.connect settings w

/-- Stores in memory look at the URL only. -/
lemma Memory.ignoresPassword_backend : Memory.backend.IgnoresPassword := by
  intro settings password m
  rfl

/-- Injected faults do not look at settings. -/
lemma Backend.IgnoresPassword.withFaults {b : Backend σ η} (h : b.IgnoresPassword) :
    b.withFaults.IgnoresPassword := by
  intro settings password w
  have hb : b.connect { settings with password := password } = b.connect settings := by
    funext w
    exact h settings password w
  simp only [Backend.withFaults, hb]

namespace Session

/-- The setup with another password. -/
def Setup.withPassword (setup : Setup σ η) (password : String) : Setup σ η :=
  { setup with settings := { setup.settings with password := password } }

section Steps

variable {setup : Setup σ η} (h : setup.backend.IgnoresPassword) (password : String)
include h

/-- The contexts do the same with any password. -/
lemma bisimilar_withPassword :
    (setup.withPassword password).context.Bisimilar Eq setup.context where
  url_eq := rfl
  database_eq := rfl
  connect := by
    intro w w' hw
    subst hw
    have hc := h.withFaults setup.settings password w
    apply Attempt.Alike.of_eq
    · exact congrArg Attempt.outcome hc
    · exact congrArg Attempt.events hc
    · exact congrArg Attempt.world hc
  call := by
    intro store c w w' hw
    subst hw
    exact Attempt.Alike.of_eq rfl rfl rfl

lemma dropClient_withPassword (s : Session σ η) (client : Client η) (answer : Answer) :
    dropClient (setup.withPassword password) s client answer =
      dropClient setup s client answer := by
  simp only [dropClient, (bisimilar_withPassword h password).drop_eq]

lemma runWorkers_withPassword (count : Nat) (table : String) (s : Session σ η) :
    runWorkers (setup.withPassword password) count table s = runWorkers setup count table s := by
  have hb := bisimilar_withPassword h password
  have hinit : workerInit (setup.withPassword password) = workerInit setup := by
    funext index worker s
    simp only [workerInit, hb.init_eq]
  have hinsert :
      workerInsert (setup.withPassword password) table = workerInsert setup table := by
    rfl
  have hcleanup : workerCleanup (setup.withPassword password) = workerCleanup setup := by
    funext index worker s
    simp only [workerCleanup, hb.cleanup_eq]
  simp only [runWorkers, hinit, hinsert, hcleanup]

/-- No command is answered otherwise with another password. -/
theorem step_withPassword [DecidableEq η] (s : Session σ η) (c : Command) :
    step (setup.withPassword password) s c = step setup s c := by
  have hb := bisimilar_withPassword h password
  cases c with
  | create name | drop name => simp only [step, dropClient_withPassword h password]
  | init name => simp only [step, hb.init_eq]
  | cleanup name => simp only [step, hb.cleanup_eq]
  | acquire name => simp only [step, hb.acquire_eq]
  | release => simp only [step, hb.release_eq]
  | connect name =>
    have hc := h.withFaults setup.settings password s.context.world
    exact congrArg (held name · s.withWorld) hc
  | workers count table => exact runWorkers_withPassword h password count table s
  | nodeCount name label =>
    cases label with
    | error | ok => rfl
  | call name c =>
    cases c with
    | error | ok => rfl
  | _ => rfl

end Steps

/-- Executes a command and watches what it answers and shows. -/
def watch [DecidableEq η] (setup : Setup σ η) (s : Session σ η) (c : Command) :
    (Answer × List Event) × Session σ η :=
  (((step setup s c).answer, (step setup s c).events), (step setup s c).session)

end Session

/-! ### Layers -/

/-- Layers that say the same about every field but the password. -/
def Layers.AlikeButPassword (l l' : Layers) : Prop :=
  ∀ f, f ≠ .password → l.entries f = l'.entries f

namespace Layers.AlikeButPassword

variable {l l' : Layers} (h : l.AlikeButPassword l')
include h

/-- The sizes, and so their faults, are the same. -/
lemma sizeProperties_eq : sizeProperties l.properties = sizeProperties l'.properties := by
  have hm : l.properties[maxConnectionsProperty]? = l'.properties[maxConnectionsProperty]? :=
    congrArg FieldEntries.property (h .maxConnections (by decide))
  have hf : l.properties[fetchSizeProperty]? = l'.properties[fetchSizeProperty]? :=
    congrArg FieldEntries.property (h .fetchSize (by decide))
  simp only [sizeProperties, Settings.sizeProperty, hm, hf]

/-- The configurations differ at most in the password. -/
lemma config_eq {c c' : Config} (hc : l.config = .ok c) (hc' : l'.config = .ok c') :
    c' = { c with connection.password := c'.connection.password } := by
  apply Config.ext_get
  intro f
  by_cases hf : f = .password
  · subst hf
    rfl
  · have hget : c'.get f = c.get f := by
      rw [Layers.get_config hc', Layers.get_config hc, h f hf]
    rw [hget]
    cases f with
    | password => exact absurd rfl hf
    | _ => rfl

/-- Either both layers give a configuration, or they fail with one error. -/
lemma config_cases :
    (∃ e, l.config = .error e ∧ l'.config = .error e) ∨
      ∃ c c', l.config = .ok c ∧ l'.config = .ok c' := by
  have hs := h.sizeProperties_eq
  simp only [Layers.config, withProperties_eq, ← hs]
  cases sizeProperties l.properties with
  | error e =>
    left
    exact ⟨e, rfl, rfl⟩
  | ok sizes =>
    right
    exact ⟨_, _, rfl, rfl⟩

end Layers.AlikeButPassword

/-- Layers that differ in nothing but the password fail with one error, or give configurations
that differ in nothing but the password. Then these have one diagnostic form, however paths are
written, and their validation comes to one end. Every sequence of commands on a store in memory,
from any state of a session and with any faults, is answered the same, shows the same and leaves
the same behind. -/
theorem password_does_not_leak {l l' : Layers} (h : l.AlikeButPassword l') :
    (∃ e, l.config = .error e ∧ l'.config = .error e) ∨
      ∃ c c', l.config = .ok c ∧ l'.config = .ok c' ∧
        c' = { c with connection.password := c'.connection.password } ∧
        (∀ quotePath, c'.describe quotePath = c.describe quotePath) ∧
        c'.connection.describe = c.connection.describe ∧
        c'.connection.validate = c.connection.validate ∧
        ∀ (faulty : Bool) (s : Session Memory Nat) (commands : List Session.Command),
          transcript
            (Session.watch { settings := c'.connection, backend := Memory.backend, faulty })
              commands s =
            transcript
              (Session.watch { settings := c.connection, backend := Memory.backend, faulty })
              commands s := by
  rcases h.config_cases with hfail | ⟨c, c', hc, hc'⟩
  · left
    exact hfail
  · right
    have hp := h.config_eq hc hc'
    generalize c'.connection.password = password at hp
    subst hp
    refine ⟨c, _, hc, hc', rfl, fun quotePath => rfl, rfl, rfl, ?_⟩
    intro faulty s commands
    let setup : Session.Setup Memory Nat :=
      { settings := c.connection, backend := Memory.backend, faulty }
    change transcript (Session.watch (setup.withPassword password)) commands s =
      transcript (Session.watch setup) commands s
    have hwatch : Session.watch (setup.withPassword password) = Session.watch setup := by
      funext s command
      have hb : setup.backend.IgnoresPassword := Memory.ignoresPassword_backend
      simp only [Session.watch, Session.step_withPassword hb]
    rw [hwatch]

/-- Layers with a password in the file, by a reference. -/
def inFile : Layers where
  file := { connection := some { url := some "bolt://db", password := some "$\x7bSECRET\x7d" } }
  env name := if name = "SECRET" then some "sesame" else none

/-- The same layers with another password among the properties. -/
def inProperties : Layers :=
  { inFile with properties := .ofPairs [(passwordProperty, "mellon")] }

/-- The two passwords are taken over, and do not show. -/
theorem neither_password_leaks :
    inFile.AlikeButPassword inProperties ∧
      ∃ c c', inFile.config = .ok c ∧ inProperties.config = .ok c' ∧
        c.connection.password = "sesame" ∧ c'.connection.password = "mellon" ∧
        c'.describe Text.quote = c.describe Text.quote ∧
        ∀ (s : Session Memory Nat) (commands : List Session.Command),
          transcript (Session.watch { settings := c'.connection, backend := Memory.backend })
              commands s =
            transcript (Session.watch { settings := c.connection, backend := Memory.backend })
              commands s := by
  have h : inFile.AlikeButPassword inProperties := by
    intro f hf
    cases f with
    | password => exact absurd rfl hf
    | url | user | database | maxConnections | fetchSize =>
      apply FieldEntries.ext
      · decide +kernel
      · rfl
      · rfl
    | format | filter | file => rfl
  refine ⟨h, ?_⟩
  rcases password_does_not_leak h with ⟨e, he, -⟩ | ⟨c, c', hc, hc', -, hdescribe, -, -, hwatch⟩
  · have hok : inFile.config.toOption.isSome = true := by decide +kernel
    rw [he] at hok
    cases hok
  · have hp : c.connection.password = "sesame" :=
      Option.some.inj ((Layers.get_config hc .password).trans (by decide +kernel))
    have hp' : c'.connection.password = "mellon" :=
      Option.some.inj ((Layers.get_config hc' .password).trans (by decide +kernel))
    exact ⟨c, c', hc, hc', hp, hp', hdescribe Text.quote, hwatch false⟩

end KeyedGraph
