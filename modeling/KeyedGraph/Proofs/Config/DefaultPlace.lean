import KeyedGraph.Config.Document
import KeyedGraph.Config.Location
import KeyedGraph.Logging.Plain
import KeyedGraph.Proofs.FileTree
import KeyedGraph.Proofs.Text.References

/-!
# The default place of a configuration

A configuration is read from the default place if none is named. That never fails: a file that is
there and can be read gives all that it says, and every other file gives nothing. A file that is
named has to be readable. Both ways lead to the same configuration, unless the file itself refers
to the variable that names the default place.
-/

namespace KeyedGraph

open Text (Environment isBlankText unlessBlank)

variable {φ : Type}

/-! ### Files -/

/-- The bytes of a text are read as that text, and no others are. -/
lemma fromUTF8?_eq_some_iff {bytes : ByteArray} {text : String} :
    String.fromUTF8? bytes = some text ↔ bytes = text.toUTF8 := by
  constructor
  · intro h
    rw [String.fromUTF8?] at h
    split at h
    · cases h
      rfl
    · cases h
  · rintro rfl
    rw [String.fromUTF8?, String.toUTF8_eq_toByteArray, dif_pos text.isValidUTF8]
    rfl

namespace FileSystem

variable {system : FileSystem φ} {files : φ} {path text : String} {cause : FileError}

/-- A text is read where its bytes are. -/
lemma readText_eq_ok_iff :
    system.readText files path = .ok text ↔ system.read files path = .ok text.toUTF8 := by
  rw [readText]
  cases system.read files path with
  | error cause => simp [bind, Except.bind]
  | ok bytes =>
    simp only [bind, Except.bind, Except.ok.injEq]
    rw [← fromUTF8?_eq_some_iff]
    cases String.fromUTF8? bytes <;> simp

/-- No text is read where the bytes cannot be read. -/
lemma readText_of_read_error (h : system.read files path = .error cause) :
    system.readText files path = .error cause := by
  rw [readText, h]
  rfl

/-- No text is read where the bytes are those of no text. -/
lemma readText_of_not_text {bytes : ByteArray} (h : system.read files path = .ok bytes)
    (hn : ∀ text : String, bytes ≠ text.toUTF8) :
    system.readText files path = .error .notText := by
  have hnone : String.fromUTF8? bytes = none := by
    rw [Option.eq_none_iff_forall_ne_some]
    exact fun text ht => hn text (fromUTF8?_eq_some_iff.mp ht)
  simp only [readText, h, bind, Except.bind, hnone]

end FileSystem

namespace Host

variable {host : Host φ} {path : String} {config : Config} {cause : Error}

/-- Something stands at a path. -/
def IsThere (host : Host φ) (path : String) : Prop :=
  host.system.pathExists host.files path = true

/-- A file stands at a path, can be read, and holds the bytes of a text. -/
def Holds (host : Host φ) (path text : String) : Prop :=
  host.system.read host.files path = .ok text.toUTF8

/-- A file that can be read stands at a path, its text is a configuration document, and this
gives a configuration. -/
def Gives (host : Host φ) (path : String) (config : Config) : Prop :=
  ∃ text file, host.Holds path text ∧ host.readDocument text = .ok file ∧
    config = file.config host.env

/-! ### Reading a named file -/

lemma loadFile_of_unreadable {cause : FileError}
    (h : host.system.readText host.files path = .error cause) :
    host.loadFile path = .error (.operationFailed "read_config_file" (.fileAt path cause)) := by
  simp only [loadFile, h]

lemma loadFile_of_holds {text : String} (h : host.Holds path text) :
    host.loadFile path = Config.ofText host.readDocument host.env text := by
  simp only [loadFile, FileSystem.readText_eq_ok_iff.mpr h]

lemma loadFile_of_malformed {text report : String} (h : host.Holds path text)
    (hp : host.readDocument text = .error report) :
    host.loadFile path =
      .error (.operationFailed "parse_config_file" (.malformedDocument report)) := by
  rw [loadFile_of_holds h, Config.ofText, hp]

lemma loadFile_of_gives (h : host.Gives path config) : host.loadFile path = .ok config := by
  obtain ⟨text, file, hh, hp, rfl⟩ := h
  rw [loadFile_of_holds hh, Config.ofText, hp]

/-- A named file is read if it gives a configuration, and only then. -/
lemma loadFile_eq_ok_iff : host.loadFile path = .ok config ↔ host.Gives path config := by
  refine ⟨fun h => ?_, loadFile_of_gives⟩
  cases hr : host.system.readText host.files path with
  | error cause =>
    rw [loadFile_of_unreadable hr] at h
    cases h
  | ok text =>
    have hh : host.Holds path text := FileSystem.readText_eq_ok_iff.mp hr
    rw [loadFile_of_holds hh, Config.ofText] at h
    cases hp : host.readDocument text with
    | error report =>
      rw [hp] at h
      cases h
    | ok file =>
      rw [hp] at h
      exact ⟨text, file, hh, hp, (Except.ok.inj h).symm⟩

/-! ### Reading the default place -/

/-- Where a configuration is looked for if none is named: the place in the variable, if this is
not blank, and else that of the platform. -/
inductive DefaultPlace (host : Host φ) : String → Prop
  | named {path : String} (hv : host.env "GRAPHKV_CONFIG_PATH" = some path)
      (hb : isBlankText path = false) : DefaultPlace host path
  | platform {dir : String}
      (hv : ∀ path, host.env "GRAPHKV_CONFIG_PATH" = some path → isBlankText path = true)
      (hd : host.configDir = some dir) :
      DefaultPlace host (joinPath (joinPath dir "graphkv") "config.toml")

lemma configPath?_eq_some_iff : host.configPath? = some path ↔ host.DefaultPlace path := by
  rw [configPath?]
  cases hv : unlessBlank (host.env "GRAPHKV_CONFIG_PATH") with
  | some named =>
    have hn := Text.unlessBlank_eq_some.mp hv
    constructor
    · rintro ⟨rfl⟩
      exact .named hn.1 hn.2
    · intro h
      cases h with
      | named hv' hb => exact congrArg some (Option.some.inj (hn.1.symm.trans hv'))
      | platform hv' hd =>
        have hb := hv' named hn.1
        rw [hn.2] at hb
        cases hb
  | none =>
    have hblank :
        ∀ path, host.env "GRAPHKV_CONFIG_PATH" = some path → isBlankText path = true := by
      intro path hp
      by_contra hb
      have hs := Text.unlessBlank_eq_some.mpr ⟨hp, Bool.eq_false_iff.mpr hb⟩
      rw [hv] at hs
      cases hs
    constructor
    · intro h
      obtain ⟨dir, hd, rfl⟩ := Option.map_eq_some_iff.mp h
      exact .platform hblank hd
    · intro h
      cases h with
      | named hv' hb =>
        rw [hblank _ hv'] at hb
        cases hb
      | platform hv' hd =>
        dsimp only
        rw [hd]
        rfl

lemma DefaultPlace.unique {other : String} (h : host.DefaultPlace path)
    (h' : host.DefaultPlace other) : path = other := by
  rw [← configPath?_eq_some_iff] at h h'
  exact Option.some.inj (h.symm.trans h')

/-- The ways in which the default place is read. -/
inductive Finding (host : Host φ) : Option Config × List Event → Prop
  | absent (h : ∀ path, host.DefaultPlace path → ¬ host.IsThere path) : Finding host (none, [])
  | found (path : String) (config : Config) (hp : host.DefaultPlace path)
      (ht : host.IsThere path) (h : host.Gives path config) : Finding host (some config, [])
  | broken (path : String) (cause : Error) (hp : host.DefaultPlace path) (ht : host.IsThere path)
      (hn : ∀ config, ¬ host.Gives path config) (h : host.loadFile path = .error cause) :
      Finding host (none, [unreadableFile path cause])

/-- The default place is read in one of the ways. -/
theorem loadPresent_cases (host : Host φ) : Finding host host.loadPresent := by
  rw [loadPresent]
  split
  · rename_i hp
    refine .absent fun path h => ?_
    rw [configPath?_eq_some_iff.mpr h] at hp
    cases hp
  · rename_i path hp
    have hp := configPath?_eq_some_iff.mp hp
    split
    · rename_i ht
      split
      · rename_i config hl
        exact .found path config hp ht (loadFile_eq_ok_iff.mp hl)
      · rename_i cause hl
        refine .broken path cause hp ht (fun config h => ?_) hl
        rw [loadFile_of_gives h] at hl
        cases hl
    · rename_i ht
      refine .absent fun other h => ?_
      rw [h.unique hp]
      exact ht

lemma loadDefault_eq (host : Host φ) :
    host.loadDefault =
      ((host.loadPresent.1.getD {}).withEnvironment host.env, host.loadPresent.2) :=
  rfl

/-- A file in the default place gives all that it says. -/
lemma loadDefault_of_gives (hp : host.DefaultPlace path) (ht : host.IsThere path)
    (h : host.Gives path config) : host.loadDefault = (config.withEnvironment host.env, []) := by
  rw [loadDefault_eq]
  have hf := host.loadPresent_cases
  generalize host.loadPresent = found at hf ⊢
  cases hf with
  | absent hn => exact absurd ht (hn path hp)
  | found other config' hp' ht' h' =>
    rw [hp'.unique hp] at h'
    obtain rfl : config' = config :=
      Except.ok.inj ((loadFile_of_gives h').symm.trans (loadFile_of_gives h))
    rfl
  | broken other cause hp' ht' hn =>
    rw [hp'.unique hp] at hn
    exact absurd h (hn config)

/-- Without a file that is there and can be read, the default place gives nothing at all. -/
lemma loadDefault_of_not_gives
    (h : ∀ path config, host.DefaultPlace path → host.IsThere path → ¬ host.Gives path config) :
    host.loadDefault.1 = ({} : Config).withEnvironment host.env := by
  rw [loadDefault_eq]
  have hf := host.loadPresent_cases
  generalize host.loadPresent = found at hf ⊢
  cases hf with
  | absent | broken => rfl
  | found path config hp ht hg => exact absurd hg (h path config hp ht)

/-- The only event is the report on a file that is there but cannot be read. -/
lemma events_loadDefault (host : Host φ) :
    (host.loadDefault.2 = [] ∧
      ∀ path, host.DefaultPlace path → host.IsThere path → ∃ config, host.Gives path config) ∨
      ∃ path cause, host.DefaultPlace path ∧ host.IsThere path ∧
        (∀ config, ¬ host.Gives path config) ∧ host.loadFile path = .error cause ∧
        host.loadDefault.2 = [unreadableFile path cause] := by
  rw [loadDefault_eq]
  have hf := host.loadPresent_cases
  generalize host.loadPresent = found at hf ⊢
  cases hf with
  | absent hn => exact .inl ⟨rfl, fun path hp ht => absurd ht (hn path hp)⟩
  | found path config hp ht hg =>
    refine .inl ⟨rfl, fun other hp' _ => ⟨config, ?_⟩⟩
    rw [hp'.unique hp]
    exact hg
  | broken path cause hp ht hn hl => exact .inr ⟨path, cause, hp, ht, hn, hl, rfl⟩

end Host

/-! ### What a file refers to -/

/-- A text of the file in which references are expanded refers to a variable. -/
def ConfigFile.RefersTo (file : ConfigFile) (name : String) : Prop :=
  ∃ connection text, file.connection = some connection ∧
    (connection.url = some text ∨ connection.user = some text ∨
      connection.password = some text) ∧
    Text.RefersTo text name

/-- A text that is expanded looks at no variable but those that it refers to. -/
lemma map_expand_congr {env env' : Environment} (entry : Option String)
    (h : ∀ text name, entry = some text → Text.RefersTo text name → env' name = env name) :
    entry.map (Text.expand env') = entry.map (Text.expand env) := by
  cases entry with
  | none => rfl
  | some text => exact congrArg some (Text.expand_congr fun name hr => h text name rfl hr)

/-- A file gives the same configuration in environments that agree on what it refers to. -/
lemma ConfigFile.config_congr {env env' : Environment} {file : ConfigFile}
    (h : ∀ name, file.RefersTo name → env' name = env name) :
    file.config env' = file.config env := by
  obtain ⟨connection, logging⟩ := file
  cases connection with
  | none => rfl
  | some connection =>
    have hurl := map_expand_congr connection.url
      fun text name ht hr => h name ⟨connection, text, rfl, .inl ht, hr⟩
    have huser := map_expand_congr connection.user
      fun text name ht hr => h name ⟨connection, text, rfl, .inr (.inl ht), hr⟩
    have hpassword := map_expand_congr connection.password
      fun text name ht hr => h name ⟨connection, text, rfl, .inr (.inr ht), hr⟩
    simp only [config, ConnectionSection.settings, Option.map_some, hurl, huser, hpassword]

/-! ### Two ways to name a file -/

/-- Environments that differ at most in the variable for the default place. -/
def SameButPlace (env env' : Environment) : Prop :=
  ∀ name, name ≠ "GRAPHKV_CONFIG_PATH" → env' name = env name

/-- The variable for the default place overrides nothing. -/
lemma SameButPlace.withEnvironment_eq {env env' : Environment} (h : SameButPlace env env')
    (config : Config) : config.withEnvironment env' = config.withEnvironment env := by
  simp only [Config.withEnvironment, Settings.withEnvironment, LoggingSettings.withEnvironment,
    h "GRAPHKV_NEO4J_URL" (by decide), h "GRAPHKV_NEO4J_USER" (by decide),
    h "GRAPHKV_NEO4J_PASSWORD" (by decide), h "GRAPHKV_NEO4J_DATABASE" (by decide),
    h "GRAPHKV_LOG" (by decide), h "GRAPHKV_LOG_FORMAT" (by decide)]

/-- A file that does not refer to the variable for the default place gives the same configuration
whatever this variable holds. -/
lemma SameButPlace.config_eq {env env' : Environment} (h : SameButPlace env env')
    {file : ConfigFile} (hr : ¬ file.RefersTo "GRAPHKV_CONFIG_PATH") :
    file.config env' = file.config env := by
  refine ConfigFile.config_congr fun name hname => h name ?_
  rintro rfl
  exact hr hname

namespace Host

variable {host : Host φ} {path : String} {config : Config}

/-- The ways in which a named file ends up as a configuration. -/
lemma loadConfig_some (host : Host φ) (path : String) (properties : Properties) :
    host.loadConfig (some path) properties =
      ((host.loadFile path).bind fun config =>
        (config.withEnvironment host.env).withProperties properties, []) := by
  rw [loadConfig]
  cases host.loadFile path <;> rfl

/-- A file that can be read is there. -/
lemma Gives.isThere (h : host.Gives path config) (hfind : host.system.FindsReadable) :
    host.IsThere path := by
  obtain ⟨text, file, hh, -⟩ := h
  exact hfind host.files path _ hh

/-- A file in the default place ends up as what it says. -/
lemma loadConfig_none_of_gives (hp : host.DefaultPlace path) (ht : host.IsThere path)
    (h : host.Gives path config) (properties : Properties) :
    (host.loadConfig none properties).1 =
      (config.withEnvironment host.env).withProperties properties := by
  change host.loadDefault.1.withProperties properties = _
  rw [loadDefault_of_gives hp ht h]

lemma loadConfig_some_of_gives (h : host.Gives path config) (properties : Properties) :
    host.loadConfig (some path) properties =
      ((config.withEnvironment host.env).withProperties properties, []) := by
  rw [loadConfig_some, loadFile_of_gives h]
  rfl

end Host

/-- Without properties, a configuration is taken as it is. -/
lemma Config.withProperties_empty (config : Config) : config.withProperties ∅ = .ok config := by
  simp [Config.withProperties, Settings.applyProperties, Settings.applyTexts,
    Settings.sizeProperty]

/-- The default place never fails. A file there that can be read gives its configuration, with
the overrides of the environment; otherwise these are put on the bare defaults. There is one
event if something stands there that cannot be read, and else there is none. A named file fails
if it cannot be read or is no document, and is overridden in the same way if it can. So, where
what can be read is there, a file comes to the same configuration whether it is named or the
variable for the default place names it, in one environment, and also in two that differ in this
variable only if the file does not refer to it. -/
theorem default_place_never_fails (host : Host φ) :
    (host.loadConfig none ∅).1 = .ok host.loadDefault.1 ∧
    (∀ path config, host.DefaultPlace path → host.IsThere path → host.Gives path config →
      host.loadDefault.1 = config.withEnvironment host.env) ∧
    ((∀ path config, host.DefaultPlace path → host.IsThere path → ¬ host.Gives path config) →
      host.loadDefault.1 = ({} : Config).withEnvironment host.env) ∧
    (∀ path, host.DefaultPlace path → host.IsThere path →
      (∀ config, ¬ host.Gives path config) →
      ∃ cause, host.loadFile path = .error cause ∧
        host.loadDefault.2 = [.log
          { level := .warn
            target := "graphkv::config"
            message := "Ignoring unreadable config file"
            fields := [("path", .message path), ("error", .message cause.message)] }]) ∧
    ((∀ path, host.DefaultPlace path → host.IsThere path → ∃ config, host.Gives path config) →
      host.loadDefault.2 = []) ∧
    (∀ path properties,
      (∀ cause, host.system.read host.files path = .error cause →
        host.loadConfig (some path) properties =
          (.error (.operationFailed "read_config_file" (.fileAt path cause)), [])) ∧
      (∀ bytes, host.system.read host.files path = .ok bytes →
        (∀ text : String, bytes ≠ text.toUTF8) →
        host.loadConfig (some path) properties =
          (.error (.operationFailed "read_config_file" (.fileAt path .notText)), [])) ∧
      (∀ text report, host.Holds path text → host.readDocument text = .error report →
        host.loadConfig (some path) properties =
          (.error (.operationFailed "parse_config_file" (.malformedDocument report)), [])) ∧
      (∀ config, host.Gives path config →
        host.loadConfig (some path) properties =
          ((config.withEnvironment host.env).withProperties properties, []))) ∧
    (host.system.FindsReadable →
      (∀ path config, host.env "GRAPHKV_CONFIG_PATH" = some path → isBlankText path = false →
        host.Gives path config → ∀ properties,
          (host.loadConfig none properties).1 = (host.loadConfig (some path) properties).1) ∧
      (∀ env path text file, SameButPlace host.env env →
        env "GRAPHKV_CONFIG_PATH" = some path → isBlankText path = false →
        host.Holds path text → host.readDocument text = .ok file →
        ¬ file.RefersTo "GRAPHKV_CONFIG_PATH" → ∀ properties,
          ({ host with env }.loadConfig none properties).1 =
            (host.loadConfig (some path) properties).1)) := by
  refine ⟨host.loadDefault.1.withProperties_empty, fun path config hp ht hg => ?_,
    Host.loadDefault_of_not_gives, fun path hp ht hn => ?_, fun h => ?_,
    fun path properties =>
      ⟨fun cause hr => ?_, fun bytes hr hn => ?_, fun text report hh hp => ?_,
      fun config hg => Host.loadConfig_some_of_gives hg properties⟩,
    fun hfind => ⟨fun path config hv hb hg properties => ?_,
      fun env path text file hs hv hb hh hp hr properties => ?_⟩⟩
  · rw [Host.loadDefault_of_gives hp ht hg]
  · rcases host.events_loadDefault with ⟨-, h⟩ | ⟨other, cause, hp', -, -, hl, he⟩
    · obtain ⟨config, hg⟩ := h path hp ht
      exact absurd hg (hn config)
    · rw [hp'.unique hp] at hl he
      exact ⟨cause, hl, he⟩
  · rcases host.events_loadDefault with ⟨he, -⟩ | ⟨path, cause, hp, ht, hn, -⟩
    · exact he
    · obtain ⟨config, hg⟩ := h path hp ht
      exact absurd hg (hn config)
  · rw [Host.loadConfig_some, Host.loadFile_of_unreadable (FileSystem.readText_of_read_error hr)]
    rfl
  · rw [Host.loadConfig_some,
      Host.loadFile_of_unreadable (FileSystem.readText_of_not_text hr hn)]
    rfl
  · rw [Host.loadConfig_some, Host.loadFile_of_malformed hh hp]
    rfl
  · rw [Host.loadConfig_none_of_gives (.named hv hb) (hg.isThere hfind) hg,
      Host.loadConfig_some_of_gives hg]
  · -- the other environment gives the same configuration of the file, and the same overrides
    have hg : host.Gives path (file.config host.env) := ⟨text, file, hh, hp, rfl⟩
    have hg' : { host with env }.Gives path (file.config env) := ⟨text, file, hh, hp, rfl⟩
    rw [Host.loadConfig_none_of_gives (.named hv hb) (hg'.isThere hfind) hg',
      Host.loadConfig_some_of_gives hg, hs.config_eq hr, hs.withEnvironment_eq]

/-! ### A file that refers to its own place -/

/-- A host whose only file takes the user's name from the variable for the default place. -/
def selfNamingHost : Host FileTree where
  env _ := none
  files :=
    { entries := [(["c.toml"],
        .file "[neo4j]\nuser = \"$\x7bGRAPHKV_CONFIG_PATH\x7d\"\n".toUTF8)] }
  system := FileTree.system []
  configDir := none
  readDocument := ConfigFile.parse
  library := plainLibrary

/-- If the file is named where the variable is not set, the user has no name; if the variable
names it, the user has that of the file. -/
theorem naming_by_the_variable_may_show :
    let env : Environment := fun name =>
      if name = "GRAPHKV_CONFIG_PATH" then some "/c.toml" else none
    let userOf (r : Except Error Config) := r.toOption.map (·.connection.user)
    let named := (selfNamingHost.loadConfig (some "/c.toml") ∅).1
    let found := ({ selfNamingHost with env }.loadConfig none ∅).1
    SameButPlace selfNamingHost.env env ∧ env "GRAPHKV_CONFIG_PATH" = some "/c.toml" ∧
      isBlankText "/c.toml" = false ∧ userOf named = some "" ∧ userOf found = some "/c.toml" ∧
      found ≠ named := by
  intro env userOf named found
  have hnamed : userOf named = some "" := by decide +kernel
  have hfound : userOf found = some "/c.toml" := by decide +kernel
  refine ⟨fun name h => if_neg h, rfl, by decide, hnamed, hfound, fun h => ?_⟩
  rw [h, hnamed] at hfound
  exact absurd hfound (by decide)

/-- In the environment with the variable, the file comes to one configuration in both ways. -/
theorem one_environment_names_alike :
    let env : Environment := fun name =>
      if name = "GRAPHKV_CONFIG_PATH" then some "/c.toml" else none
    let host := { selfNamingHost with env }
    host.system.FindsReadable ∧ host.Gives "/c.toml" { connection := { user := "/c.toml" } } ∧
      ∀ properties,
        (host.loadConfig none properties).1 =
          (host.loadConfig (some "/c.toml") properties).1 := by
  intro env host
  have hfind : host.system.FindsReadable := FileTree.findsReadable_system []
  have hg : host.Gives "/c.toml" { connection := { user := "/c.toml" } } :=
    Host.loadFile_eq_ok_iff.mp (by decide +kernel)
  obtain ⟨-, -, -, -, -, -, halike⟩ := default_place_never_fails host
  obtain ⟨hone, -⟩ := halike hfind
  exact ⟨hfind, hg, hone "/c.toml" _ rfl (by decide) hg⟩

end KeyedGraph
