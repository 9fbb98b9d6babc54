import KeyedGraph.Config
import Mathlib.Tactic.Common

/-!
# Precedence of the layers

A configuration has nine fields, and each of them is decided alone: by the property that sets it,
or else by the variable that overrides it, by the entry of the file, and by the default. What
counts as given differs. A property counts as soon as it is there, and a variable only if it is
not blank, except for the password; the file's entries for the URL and the credentials are
expanded, the others are not; sizes have no variables, and the logging settings no properties.
-/

namespace KeyedGraph

open Text (Environment unlessBlank)

/-! ### Fields -/

/-- The fields of a configuration. -/
inductive Field
  | url
  | user
  | password
  | database
  | maxConnections
  | fetchSize
  | format
  | filter
  | file
deriving DecidableEq

/-- What a field holds. -/
@[reducible] def Field.Content : Field → Type
  | .maxConnections => Nat
  | .fetchSize => Nat
  | _ => String

/-- What a configuration has in a field. -/
def Config.get (c : Config) : (f : Field) → Option f.Content
  | .url => some c.connection.url
  | .user => some c.connection.user
  | .password => some c.connection.password
  | .database => some c.connection.database
  | .maxConnections => c.connection.maxConnections
  | .fetchSize => c.connection.fetchSize
  | .format => c.logging.format
  | .filter => c.logging.filter
  | .file => c.logging.file

/-- Configurations that have the same in every field are the same. -/
theorem Config.ext_get {c c' : Config} (h : ∀ f, c.get f = c'.get f) : c = c' := by
  obtain ⟨⟨url, user, password, database, maxConnections, fetchSize⟩, format, filter, file⟩ := c
  obtain ⟨⟨url', user', password', database', maxConnections', fetchSize'⟩, format', filter',
    file'⟩ := c'
  obtain rfl : url = url' := Option.some.inj (h .url)
  obtain rfl : user = user' := Option.some.inj (h .user)
  obtain rfl : password = password' := Option.some.inj (h .password)
  obtain rfl : database = database' := Option.some.inj (h .database)
  obtain rfl : maxConnections = maxConnections' := h .maxConnections
  obtain rfl : fetchSize = fetchSize' := h .fetchSize
  obtain rfl : format = format' := h .format
  obtain rfl : filter = filter' := h .filter
  obtain rfl : file = file' := h .file
  rfl

/-- What a field holds that no layer sets. -/
def Field.default? : (f : Field) → Option f.Content
  | .url => some "bolt://localhost:7687"
  | .user => some "neo4j"
  | .password => some ""
  | .database => some "neo4j"
  | .maxConnections => none
  | .fetchSize => none
  | .format => none
  | .filter => none
  | .file => none

/-! ### Entries of a field -/

/-- What the layers say about a field: a property, a variable, and the entry of the file, in
which references are expanded if the field allows them. -/
@[ext] structure FieldEntries (f : Field) where
  property : Option String := none
  override : Option String := none
  written : Option f.Content := none

namespace FieldEntries

/-- The size that a text gives, if it is one. -/
def size? (s : String) : Option Nat :=
  (Text.readSize s).toOption

/-- What the property gives: a text as it stands, or a size. -/
def ofProperty : {f : Field} → FieldEntries f → Option f.Content
  | .url, e => e.property
  | .user, e => e.property
  | .password, e => e.property
  | .database, e => e.property
  | .maxConnections, e => e.property.bind size?
  | .fetchSize, e => e.property.bind size?
  | .format, _ => none
  | .filter, _ => none
  | .file, _ => none

/-- What the variable gives. It has to be more than blanks, but for the password. -/
def ofOverride : {f : Field} → FieldEntries f → Option f.Content
  | .url, e => unlessBlank e.override
  | .user, e => unlessBlank e.override
  | .password, e => e.override
  | .database, e => unlessBlank e.override
  | .maxConnections, _ => none
  | .fetchSize, _ => none
  | .format, e => unlessBlank e.override
  | .filter, e => unlessBlank e.override
  | .file, _ => none

/-- What a field holds by its entries: the first that is given, from the property to the
default. -/
def resolve {f : Field} (e : FieldEntries f) : Option f.Content :=
  e.ofProperty <|> e.ofOverride <|> e.written <|> f.default?

end FieldEntries

/-- The layers over the defaults: a file, the variables that its references stand for, the
variables that override it, and properties. -/
structure Layers where
  file : ConfigFile := {}
  env : Environment := fun _ => none
  overrides : Environment := fun _ => none
  properties : Properties := ∅

namespace Layers

/-- The configuration that the layers give. -/
def config (l : Layers) : Except Error Config :=
  ((l.file.config l.env).withEnvironment l.overrides).withProperties l.properties

/-- The entries of a field in the layers. -/
def entries (l : Layers) : (f : Field) → FieldEntries f
  | .url =>
    { property := l.properties[urlProperty]?
      override := l.overrides "GRAPHKV_NEO4J_URL"
      written := (l.file.connection.bind (·.url)).map (Text.expand l.env) }
  | .user =>
    { property := l.properties[userProperty]?
      override := l.overrides "GRAPHKV_NEO4J_USER"
      written := (l.file.connection.bind (·.user)).map (Text.expand l.env) }
  | .password =>
    { property := l.properties[passwordProperty]?
      override := l.overrides "GRAPHKV_NEO4J_PASSWORD"
      written := (l.file.connection.bind (·.password)).map (Text.expand l.env) }
  | .database =>
    { property := l.properties[databaseProperty]?
      override := l.overrides "GRAPHKV_NEO4J_DATABASE"
      written := l.file.connection.bind (·.database) }
  | .maxConnections =>
    { property := l.properties[maxConnectionsProperty]?
      written := l.file.connection.bind (·.maxConnections) }
  | .fetchSize =>
    { property := l.properties[fetchSizeProperty]?
      written := l.file.connection.bind (·.fetchSize) }
  | .format =>
    { override := l.overrides "GRAPHKV_LOG_FORMAT"
      written := l.file.logging.bind (·.format) }
  | .filter =>
    { override := l.overrides "GRAPHKV_LOG"
      written := l.file.logging.bind (·.filter) }
  | .file => { written := l.file.logging.bind (·.file) }

/-- The properties for sizes can be read as sizes. -/
def SizesParse (l : Layers) : Prop :=
  ∀ name ∈ [maxConnectionsProperty, fetchSizeProperty], ∀ text, l.properties[name]? = some text →
    ∃ n, Text.readSize text = .ok n

end Layers

/-! ### Layer by layer -/

lemma some_getD {α : Type} (o : Option α) (a : α) : some (o.getD a) = (o <|> some a) := by
  cases o <;> rfl

lemma eq_orElse_none {α : Type} (o : Option α) : o = (o <|> none) := by
  cases o <;> rfl

lemma orElse_twice {α : Type} (o o' : Option α) : (o <|> o <|> o') = (o <|> o') := by
  cases o <;> rfl

section Layers

variable (l : Layers) (c : Config)

/-- A field of a file's configuration is its entry, or the default. -/
lemma get_fileConfig (f : Field) :
    (l.file.config l.env).get f = ((l.entries f).written <|> f.default?) := by
  obtain ⟨⟨connection, logging⟩, env, overrides, properties⟩ := l
  cases f with
  | url | user | password | database =>
    cases connection with
    | none => rfl
    | some c => exact some_getD ..
  | maxConnections | fetchSize =>
    cases connection with
    | none => rfl
    | some c => exact eq_orElse_none _
  | format | filter | file =>
    cases logging with
    | none => rfl
    | some c => exact eq_orElse_none _

/-- A variable that counts comes before what a field holds. -/
lemma get_withEnvironment (f : Field) :
    (c.withEnvironment l.overrides).get f = ((l.entries f).ofOverride <|> c.get f) := by
  cases f with
  | url | user | password | database => exact some_getD ..
  | maxConnections | fetchSize | format | filter | file => rfl

lemma sizeProperty_eq_ok {p : Properties} {name : String} {o : Option Nat}
    (h : Settings.sizeProperty p name = .ok o) : o = p[name]?.bind FieldEntries.size? := by
  rw [Settings.sizeProperty] at h
  split at h
  · rename_i hn
    cases h
    rw [hn]
    rfl
  · rename_i text hn
    split at h
    · rename_i n hr
      cases h
      simp [hn, FieldEntries.size?, hr, Except.toOption]
    · cases h

/-- The sizes that properties give, or the first fault. -/
def sizeProperties (p : Properties) : Except Error (Option Nat × Option Nat) :=
  match Settings.sizeProperty p maxConnectionsProperty with
  | .error e => .error e
  | .ok maxConnections =>
    (Settings.sizeProperty p fetchSizeProperty).map fun fetchSize => (maxConnections, fetchSize)

/-- The settings with texts and sizes from properties. -/
def Settings.putProperties (s : Settings) (p : Properties) (sizes : Option Nat × Option Nat) :
    Settings :=
  { s.applyTexts p with
    maxConnections := sizes.1 <|> s.maxConnections
    fetchSize := sizes.2 <|> s.fetchSize }

/-- Only the sizes can keep properties from being taken over. -/
lemma withProperties_eq (p : Properties) :
    c.withProperties p = (sizeProperties p).map fun sizes =>
      { c with connection := c.connection.putProperties p sizes } := by
  rw [Config.withProperties, Settings.applyProperties, sizeProperties]
  cases Settings.sizeProperty p maxConnectionsProperty with
  | error e => rfl
  | ok m => cases Settings.sizeProperty p fetchSizeProperty <;> rfl

/-- Properties that are taken over come before what the fields hold. -/
lemma get_withProperties {c' : Config} (h : c.withProperties l.properties = .ok c') (f : Field) :
    c'.get f = ((l.entries f).ofProperty <|> c.get f) := by
  rw [withProperties_eq, sizeProperties] at h
  cases hm : Settings.sizeProperty l.properties maxConnectionsProperty with
  | error e => simp [hm, Except.map] at h
  | ok m =>
    cases hn : Settings.sizeProperty l.properties fetchSizeProperty with
    | error e => simp [hm, hn, Except.map] at h
    | ok n =>
      obtain rfl : _ = c' := by simpa [hm, hn, Except.map] using h
      cases f with
      | url | user | password | database => exact some_getD ..
      | maxConnections =>
        rw [sizeProperty_eq_ok hm]
        rfl
      | fetchSize =>
        rw [sizeProperty_eq_ok hn]
        rfl
      | format | filter | file => rfl

/-- Properties whose sizes can be read are taken over. -/
lemma exists_withProperties (h : l.SizesParse) :
    ∃ c', c.withProperties l.properties = .ok c' := by
  have hs (name : String) (hm : name ∈ [maxConnectionsProperty, fetchSizeProperty]) :
      ∃ o, Settings.sizeProperty l.properties name = .ok o := by
    rw [Settings.sizeProperty]
    cases hp : l.properties[name]? with
    | none => exact ⟨none, rfl⟩
    | some text =>
      obtain ⟨n, hn⟩ := h name hm text hp
      exact ⟨some n, by simp only [hn]⟩
  obtain ⟨m, hm⟩ := hs maxConnectionsProperty (by simp)
  obtain ⟨n, hn⟩ := hs fetchSizeProperty (by simp)
  rw [withProperties_eq, sizeProperties, hm, hn]
  exact ⟨_, rfl⟩

end Layers

/-! ### All layers -/

/-- The variables override the same fields in the same way the second time. -/
theorem withEnvironment_twice (c : Config) (overrides : Environment) :
    (c.withEnvironment overrides).withEnvironment overrides = c.withEnvironment overrides := by
  refine Config.ext_get fun f => ?_
  have h (c : Config) := get_withEnvironment { overrides } c f
  rw [h, h, orElse_twice]

/-- Properties that are taken over once can be taken over again, and change nothing. -/
theorem withProperties_twice (c : Config) (properties : Properties) :
    (c.withProperties properties).bind (·.withProperties properties) =
      c.withProperties properties := by
  cases h : c.withProperties properties with
  | error e => rfl
  | ok c' =>
    obtain ⟨c'', h'⟩ : ∃ c'', c'.withProperties properties = .ok c'' := by
      rw [withProperties_eq] at h ⊢
      cases hs : sizeProperties properties with
      | error e => simp [hs, Except.map] at h
      | ok sizes => exact ⟨_, rfl⟩
    have hg := get_withProperties { properties } c h
    have hg' := get_withProperties { properties } c' h'
    obtain rfl : c'' = c' := by
      refine Config.ext_get fun f => ?_
      rw [hg', hg, orElse_twice]
    exact h'

/-- The configuration that layers give has in each field what the field's entries say. -/
theorem Layers.get_config {l : Layers} {c : Config} (h : l.config = .ok c) (f : Field) :
    c.get f = (l.entries f).resolve := by
  rw [get_withProperties l _ h, get_withEnvironment, get_fileConfig, FieldEntries.resolve]

/-- Layers whose sizes can be read give a configuration. It has in each field what the entries of
the field say, and so the same as that of other layers that have the same entries for the field.
Applying the variables or the properties twice in a row is applying them once. -/
theorem layers_decide_field_by_field {l : Layers} (hs : l.SizesParse) :
    ∃ c, l.config = .ok c ∧ (∀ f, c.get f = (l.entries f).resolve) ∧
      (∀ (l' : Layers) (c' : Config), l'.config = .ok c' →
        ∀ f, l'.entries f = l.entries f → c'.get f = c.get f) ∧
      (∀ c : Config, (c.withEnvironment l.overrides).withEnvironment l.overrides =
        c.withEnvironment l.overrides) ∧
      ∀ c : Config, (c.withProperties l.properties).bind (·.withProperties l.properties) =
        c.withProperties l.properties := by
  obtain ⟨c, h⟩ := exists_withProperties l ((l.file.config l.env).withEnvironment l.overrides) hs
  refine ⟨c, h, Layers.get_config h, fun l' c' h' f he => ?_,
    fun c => withEnvironment_twice c l.overrides, fun c => withProperties_twice c l.properties⟩
  rw [Layers.get_config h' f, Layers.get_config h f, he]

/-- Layers with a reference in the file's URL and one in its database, a blank variable for the
URL and an empty one for the password, an empty property for the user and a size with blanks
around it. -/
def motley : Layers where
  file :=
    { connection := some
        { url := some "bolt://$\x7bHOST\x7d:7687"
          user := some "ada"
          password := some "$\x7bSECRET\x7d"
          database := some "$\x7bBASE\x7d"
          maxConnections := some 3
          fetchSize := some 50 }
      logging := some { format := some "json", filter := some "warn" } }
  env name := if name = "HOST" then some "db" else none
  overrides name :=
    if name = "GRAPHKV_NEO4J_URL" then some "  "
    else if name = "GRAPHKV_NEO4J_PASSWORD" then some ""
    else if name = "GRAPHKV_LOG" then some "debug"
    else none
  properties := .ofPairs [(userProperty, ""), (maxConnectionsProperty, " +7 ")]

/-- What the motley layers give. -/
def motleyConfig : Config where
  connection :=
    { url := "bolt://db:7687"
      user := ""
      password := ""
      database := "$\x7bBASE\x7d"
      maxConnections := some 7
      fetchSize := some 50 }
  logging := { format := some "json", filter := some "debug" }

/-- Each field of the motley layers is decided by another rule. -/
theorem motley_layers_decide_field_by_field :
    motley.SizesParse ∧ motley.config = .ok motleyConfig := by
  have hs : motley.SizesParse := by
    intro name hm text ht
    obtain rfl | rfl : name = maxConnectionsProperty ∨ name = fetchSizeProperty := by
      simpa using hm
    · obtain rfl : " +7 " = text := Option.some.inj (Eq.trans (by decide +kernel) ht)
      exact ⟨7, by decide +kernel⟩
    · have hnone : motley.properties[fetchSizeProperty]? = none := by decide +kernel
      rw [hnone] at ht
      cases ht
  obtain ⟨c, h, hget, -⟩ := layers_decide_field_by_field hs
  obtain rfl : c = motleyConfig := by
    refine Config.ext_get fun f => (hget f).trans ?_
    cases f <;> decide +kernel
  exact ⟨hs, h⟩

end KeyedGraph
