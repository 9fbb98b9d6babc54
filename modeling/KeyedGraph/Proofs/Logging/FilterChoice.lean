import KeyedGraph.Logging.Plain
import Mathlib.Tactic.Common

/-!
# The choice of a filter

What a log shows is asked of the environment, then of the settings, and then of the default. A
text that is no filter counts as none, and verbosity raises the default. The choice that is made
keeps to this, but for a verbose process whose settings hold a text that is no filter: then the
default is not raised. Which texts are filters is left to the library that reads them.
-/

namespace KeyedGraph

open Text (Environment)

/-! ### Sources -/

section Sources

/-- The default of a verbosity in words: a verbose process shows one level more of both
targets. -/
def promisedText : Bool → String
  | true => "graphkv=debug,neo4rs=info"
  | false => "graphkv=info,neo4rs=warn"

lemma defaultFilterText_eq (verbose : Bool) :
    defaultFilterText verbose = promisedText verbose := by
  cases verbose <;> rfl

variable (library : LogLibrary)

/-- The default of a verbosity. -/
def defaultFilter (verbose : Bool) : Filter :=
  library.readFilterLeniently (promisedText verbose)

/-- The library finds nothing to leave out in the two defaults, and tells them apart. -/
structure ReadsDefaults : Prop where
  reads (verbose : Bool) :
    library.readFilter (promisedText verbose) = some (defaultFilter library verbose)
  differ : defaultFilter library true ≠ defaultFilter library false

/-- What a source holds is a filter. -/
def GivesFilter (source : Option String) (filter : Filter) : Prop :=
  ∃ text, source = some text ∧ library.readFilter text = some filter

/-- A source holds a text, and this is no filter. -/
def Misleads (source : Option String) : Prop :=
  ∃ text, source = some text ∧ library.readFilter text = none

/-- The filter that a process is promised: the one of the environment, else that of the settings,
and else the default of its verbosity. -/
inductive PromisedFilter (env : Environment) (settings : LoggingSettings) (verbose : Bool) :
    Filter → Prop
  | environment {filter : Filter} (h : GivesFilter library (env "RUST_LOG") filter) :
      PromisedFilter env settings verbose filter
  | settings {filter : Filter} (he : ∀ other, ¬ GivesFilter library (env "RUST_LOG") other)
      (h : GivesFilter library settings.filter filter) :
        PromisedFilter env settings verbose filter
  | default (he : ∀ other, ¬ GivesFilter library (env "RUST_LOG") other)
      (hs : ∀ other, ¬ GivesFilter library settings.filter other) :
      PromisedFilter env settings verbose (defaultFilter library verbose)

end Sources

section Choice

variable {library : LogLibrary} {env : Environment} {settings : LoggingSettings} {verbose : Bool}
  {source : Option String} {filter : Filter}

lemma givesFilter_iff :
    GivesFilter library source filter ↔ source.bind library.readFilter = some filter := by
  simp [GivesFilter, Option.bind_eq_some_iff]

lemma GivesFilter.unique {other : Filter} (h : GivesFilter library source filter)
    (h' : GivesFilter library source other) : filter = other := by
  rw [givesFilter_iff] at h h'
  exact Option.some.inj (h.symm.trans h')

lemma bind_readFilter_of_not_givesFilter (h : ∀ filter, ¬ GivesFilter library source filter) :
    source.bind library.readFilter = none := by
  rw [Option.eq_none_iff_forall_ne_some]
  intro filter hfilter
  exact h filter (givesFilter_iff.mpr hfilter)

lemma not_givesFilter_none (filter : Filter) : ¬ GivesFilter library none filter := by
  rintro ⟨text, ht, -⟩
  cases ht

lemma Misleads.not_givesFilter (h : Misleads library source) (filter : Filter) :
    ¬ GivesFilter library source filter := by
  obtain ⟨text, rfl, hp⟩ := h
  rintro ⟨text', ⟨rfl⟩, hp'⟩
  rw [hp] at hp'
  cases hp'

/-- A source gives a filter, is missing, or misleads. -/
lemma source_cases (library : LogLibrary) (source : Option String) :
    (∃ filter, GivesFilter library source filter) ∨ source = none ∨ Misleads library source := by
  cases source with
  | none => exact .inr (.inl rfl)
  | some text =>
    cases hp : library.readFilter text with
    | none => exact .inr (.inr ⟨text, rfl, hp⟩)
    | some filter => exact .inl ⟨filter, text, rfl, hp⟩

/-! ### What is chosen -/

/-- A filter of the environment is chosen. -/
lemma filter_of_environment (h : GivesFilter library (env "RUST_LOG") filter) :
    (LoggingConfig.ofSettings library env settings verbose).filter = filter := by
  simp only [LoggingConfig.ofSettings, givesFilter_iff.mp h]
  rfl

/-- Without one, the settings are asked. -/
lemma filter_of_settings (he : ∀ other, ¬ GivesFilter library (env "RUST_LOG") other) :
    (LoggingConfig.ofSettings library env settings verbose).filter =
      (settings.readFilter? library verbose).getD (defaultFilter library false) := by
  simp only [LoggingConfig.ofSettings, bind_readFilter_of_not_givesFilter he,
    defaultFilterText_eq]
  rfl

/-- A filter of the settings is the one that they ask for. -/
lemma readFilter?_of_givesFilter (h : GivesFilter library settings.filter filter) :
    settings.readFilter? library verbose = some filter := by
  obtain ⟨text, ht, hp⟩ := h
  rw [LoggingSettings.readFilter?, ht, Option.getD_some, hp]

/-- Settings without a text ask for the default of the verbosity. -/
lemma readFilter?_of_none (hl : ReadsDefaults library) (h : settings.filter = none) :
    settings.readFilter? library verbose = some (defaultFilter library verbose) := by
  rw [LoggingSettings.readFilter?, h, Option.getD_none, defaultFilterText_eq, hl.reads]

/-- Settings that mislead ask for none, however verbose the process is. -/
lemma readFilter?_of_misleads (h : Misleads library settings.filter) :
    settings.readFilter? library verbose = none := by
  obtain ⟨text, ht, hp⟩ := h
  rw [LoggingSettings.readFilter?, ht, Option.getD_some, hp]

/-! ### What is promised -/

/-- Only one filter is promised. -/
lemma PromisedFilter.unique {other : Filter}
    (h : PromisedFilter library env settings verbose filter)
    (h' : PromisedFilter library env settings verbose other) : filter = other := by
  cases h with
  | environment h =>
    cases h' with
    | environment h' => exact h.unique h'
    | settings he | default he => exact absurd h (he _)
  | settings he h =>
    cases h' with
    | environment h' => exact absurd h' (he _)
    | settings _ h' => exact h.unique h'
    | default _ hs => exact absurd h (hs _)
  | default he hs =>
    cases h' with
    | environment h' => exact absurd h' (he _)
    | settings _ h' => exact absurd h' (hs _)
    | default => rfl

/-- The promise is kept, unless the process is verbose, the environment gives no filter and the
settings mislead. -/
lemma promised_iff (hl : ReadsDefaults library) :
    PromisedFilter library env settings verbose
        (LoggingConfig.ofSettings library env settings verbose).filter ↔
      ¬ (verbose = true ∧ (∀ other, ¬ GivesFilter library (env "RUST_LOG") other) ∧
        Misleads library settings.filter) := by
  by_cases he : ∃ other, GivesFilter library (env "RUST_LOG") other
  · obtain ⟨other, he⟩ := he
    rw [filter_of_environment he]
    exact iff_of_true (.environment he) fun h => h.2.1 other he
  · have he := not_exists.mp he
    rw [filter_of_settings he]
    rcases source_cases library settings.filter with ⟨other, hs⟩ | hs | hs
    · rw [readFilter?_of_givesFilter hs]
      exact iff_of_true (.settings he hs) fun h => h.2.2.not_givesFilter other hs
    · rw [readFilter?_of_none hl hs]
      have hnone : ∀ other, ¬ GivesFilter library settings.filter other := by
        rw [hs]
        exact not_givesFilter_none
      refine iff_of_true (.default he hnone) ?_
      rintro ⟨-, -, text, ht, -⟩
      rw [hs] at ht
      cases ht
    · rw [readFilter?_of_misleads hs]
      have hdefault :
          PromisedFilter library env settings verbose (defaultFilter library verbose) :=
        .default he hs.not_givesFilter
      cases verbose with
      | false => exact iff_of_true hdefault (by simp)
      | true =>
        refine iff_of_false (fun h => ?_) (not_not.mpr ⟨rfl, he, hs⟩)
        exact hl.differ (hdefault.unique h)

end Choice

/-- With a library that reads the defaults, a filter of the environment is chosen, and else one
of the settings. Without either, the default of the verbosity is chosen if the settings hold no
text, and the default of a process that is not verbose if they mislead. So the filter that is
promised is chosen just if the process is not verbose, or the environment gives a filter, or the
settings do not mislead. -/
theorem filter_is_the_first_given {library : LogLibrary} (hl : ReadsDefaults library)
    (env : Environment) (settings : LoggingSettings) (verbose : Bool) :
    let chosen := (LoggingConfig.ofSettings library env settings verbose).filter
    (∀ filter, GivesFilter library (env "RUST_LOG") filter → chosen = filter) ∧
    ((∀ other, ¬ GivesFilter library (env "RUST_LOG") other) →
      (∀ filter, GivesFilter library settings.filter filter → chosen = filter) ∧
      (settings.filter = none → chosen = defaultFilter library verbose) ∧
      (Misleads library settings.filter → chosen = defaultFilter library false)) ∧
    (PromisedFilter library env settings verbose chosen ↔
      ¬ (verbose = true ∧ (∀ other, ¬ GivesFilter library (env "RUST_LOG") other) ∧
        Misleads library settings.filter)) := by
  intro chosen
  refine ⟨fun filter h => filter_of_environment h, fun he => ?_, promised_iff hl⟩
  have hchosen : chosen =
      (settings.readFilter? library verbose).getD (defaultFilter library false) :=
    filter_of_settings he
  rw [hchosen]
  refine ⟨fun filter h => ?_, fun h => ?_, fun h => ?_⟩
  · rw [readFilter?_of_givesFilter h, Option.getD_some]
  · rw [readFilter?_of_none hl h, Option.getD_some]
  · rw [readFilter?_of_misleads h, Option.getD_none]

/-! ### A misleading text -/

/-- Plain directives read the defaults. -/
lemma readsDefaults_plainLibrary : ReadsDefaults plainLibrary where
  reads verbose := by
    have hparts : (Directives.parts (promisedText verbose)).mapM Directive.parse =
        some ((Directives.parts (promisedText verbose)).filterMap Directive.parse) := by
      cases verbose <;> decide +kernel
    simp only [plainLibrary, Directives.read, hparts]
    rfl
  differ h := absurd (congrArg Filter.text h) (by decide +kernel)

/-- No plain directive has two equals signs. -/
lemma readFilter_plainLibrary : plainLibrary.readFilter "a=b=c" = none :=
  Option.isNone_iff_eq_none.mp (by decide +kernel)

/-- A verbose process whose settings hold a text with two equals signs shows what one does that
is not verbose, if filters are plain directives. -/
theorem plain_filter_is_the_first_given :
    let settings : LoggingSettings := { filter := some "a=b=c" }
    ReadsDefaults plainLibrary ∧ Misleads plainLibrary settings.filter ∧
      (LoggingConfig.ofSettings plainLibrary (fun _ => none) settings true).filter.text =
        "graphkv=info,neo4rs=warn" := by
  intro settings
  have hs : Misleads plainLibrary settings.filter := ⟨"a=b=c", rfl, readFilter_plainLibrary⟩
  obtain ⟨-, hchosen, -⟩ :=
    filter_is_the_first_given readsDefaults_plainLibrary (fun _ => none) settings true
  obtain ⟨-, -, hmisled⟩ := hchosen not_givesFilter_none
  refine ⟨readsDefaults_plainLibrary, hs, ?_⟩
  rw [hmisled hs]
  decide +kernel

/-- Wherever a text with two equals signs is no filter, as among plain directives, a verbose
process whose settings hold it is promised the verbose default, but the other one is chosen. -/
theorem misleading_settings_hush_a_verbose_process :
    let settings : LoggingSettings := { filter := some "a=b=c" }
    (ReadsDefaults plainLibrary ∧ plainLibrary.readFilter "a=b=c" = none) ∧
      ∀ library, ReadsDefaults library → library.readFilter "a=b=c" = none →
        let chosen := (LoggingConfig.ofSettings library (fun _ => none) settings true).filter
        PromisedFilter library (fun _ => none) settings true (defaultFilter library true) ∧
          chosen = defaultFilter library false ∧
          ¬ PromisedFilter library (fun _ => none) settings true chosen := by
  intro settings
  refine ⟨⟨readsDefaults_plainLibrary, readFilter_plainLibrary⟩, fun library hl hp => ?_⟩
  intro chosen
  have hs : Misleads library settings.filter := ⟨"a=b=c", rfl, hp⟩
  have he : ∀ other, ¬ GivesFilter library none other := not_givesFilter_none
  have hchosen : chosen = defaultFilter library false := by
    rw [show chosen = _ from filter_of_settings he, readFilter?_of_misleads hs, Option.getD_none]
  refine ⟨.default he hs.not_givesFilter, hchosen, fun h => ?_⟩
  exact (promised_iff hl).mp h ⟨rfl, he, hs⟩

end KeyedGraph
