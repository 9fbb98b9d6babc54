import KeyedGraph.Settings
import KeyedGraph.Proofs.Text.Numerals

/-!
# Properties taken over by settings

Properties are taken over in a fixed order: the four texts, then the size of the pool, then the
size of a fetch. Each size has to be one that its text denotes; the first that is not ends it and
is named by the error, and what came before it stays. `properties_apply_in_order` says what the
settings are in either case.
-/

namespace KeyedGraph

open Text (Denotes readSize)

/-- The properties that settings are made from. -/
def knownProperties : List String :=
  [urlProperty, userProperty, passwordProperty, databaseProperty, maxConnectionsProperty,
    fetchSizeProperty]

namespace Properties

/-- A property is missing, or its text denotes a size. -/
def SizeFits (p : Properties) (name : String) : Prop :=
  ∀ text, p[name]? = some text → ∃ n, Denotes text n

/-- What becomes of a size: it is what the property's text denotes, and stays without such a
text. -/
structure SetsSize (p : Properties) (name : String) (before after : Option Nat) : Prop where
  taken {text : String} {n : Nat} (hp : p[name]? = some text) (hd : Denotes text n) :
    after = some n
  kept (h : ∀ text n, p[name]? = some text → ¬ Denotes text n) : after = before

/-- The first size that does not fit, in the order in which sizes are taken over. -/
inductive FirstMisfit (p : Properties) : String → String → Prop
  | maxConnections {text : String} (hp : p[maxConnectionsProperty]? = some text)
      (hd : ∀ n, ¬ Denotes text n) : FirstMisfit p maxConnectionsProperty text
  | fetchSize {text : String} (hm : p.SizeFits maxConnectionsProperty)
      (hp : p[fetchSizeProperty]? = some text) (hd : ∀ n, ¬ Denotes text n) :
      FirstMisfit p fetchSizeProperty text

end Properties

namespace Settings

variable {s : Settings} {p : Properties} {name : String}

/-! ### One size -/

/-- The ways in which the size of a property is read. -/
inductive SizeReading (p : Properties) (name : String) : Except Error (Option Nat) → Prop
  | missing (hp : p[name]? = none) : SizeReading p name (.ok none)
  | given (text : String) (n : Nat) (hp : p[name]? = some text) (hd : Denotes text n) :
      SizeReading p name (.ok (some n))
  | bad (text : String) (cause : Text.NumeralError) (hp : p[name]? = some text)
      (hd : ∀ n, ¬ Denotes text n) (hr : readSize text = .error cause) :
      SizeReading p name (.error (.invalidInput (.badSize name text cause)))

/-- The size of a property is read in one of the ways. -/
lemma sizeProperty_cases (p : Properties) (name : String) :
    SizeReading p name (sizeProperty p name) := by
  rw [sizeProperty]
  split
  · rename_i hp
    exact .missing hp
  · rename_i text hp
    split
    · rename_i n hr
      exact .given text n hp (Text.readSize_eq_ok_iff.mp hr)
    · rename_i cause hr
      refine .bad text cause hp (fun n hd => ?_) hr
      rw [Text.readSize_eq_ok_iff.mpr hd] at hr
      cases hr

/-- A size that its text denotes is the one that is read. -/
lemma sizeProperty_of_denotes {text : String} {n : Nat} (hp : p[name]? = some text)
    (hd : Denotes text n) : sizeProperty p name = .ok (some n) := by
  simp only [sizeProperty, hp, Text.readSize_eq_ok_iff.mpr hd]

lemma SizeReading.fits {o : Option Nat} (h : SizeReading p name (.ok o)) : p.SizeFits name := by
  intro text' hp'
  cases h with
  | missing hp => simp [hp] at hp'
  | given text n hp hd =>
    obtain rfl : text = text' := by simpa [hp] using hp'
    exact ⟨n, hd⟩

/-- A size that was read comes before the one that is there. -/
lemma SizeReading.setsSize {o : Option Nat} (h : SizeReading p name (.ok o))
    (before : Option Nat) : p.SetsSize name before (o <|> before) := by
  cases h with
  | missing hp => exact ⟨fun hp' => by simp [hp] at hp', fun _ => rfl⟩
  | given text n hp hd =>
    refine ⟨fun {text' n'} hp' hd' => ?_, fun hk => absurd hd (hk text n hp)⟩
    obtain rfl : text = text' := by simpa [hp] using hp'
    exact congrArg some (hd.unique hd')

/-- A size that could not be read changes nothing. -/
lemma SizeReading.setsSize_of_error {e : Error} (h : SizeReading p name (.error e))
    (before : Option Nat) : p.SetsSize name before before := by
  cases h with
  | bad text cause hp hd hr =>
    refine ⟨fun {text' n'} hp' hd' => ?_, fun _ => rfl⟩
    obtain rfl : text = text' := by simpa [hp] using hp'
    exact absurd hd' (hd n')

lemma SizeReading.not_fits {e : Error} (h : SizeReading p name (.error e)) :
    ¬ p.SizeFits name := by
  cases h with
  | bad text cause hp hd hr =>
    intro hf
    obtain ⟨n, hn⟩ := hf text hp
    exact hd n hn

/-! ### All properties -/

/-- The ways in which properties are taken over. -/
inductive Application (s : Settings) (p : Properties) : Except Error Unit × Settings → Prop
  | poolMisfit (e : Error) (hm : SizeReading p maxConnectionsProperty (.error e)) :
      Application s p (.error e, s.applyTexts p)
  | fetchMisfit (m : Option Nat) (e : Error) (hm : SizeReading p maxConnectionsProperty (.ok m))
      (hf : SizeReading p fetchSizeProperty (.error e)) :
      Application s p
        (.error e, { s.applyTexts p with maxConnections := m <|> s.maxConnections })
  | whole (m f : Option Nat) (hm : SizeReading p maxConnectionsProperty (.ok m))
      (hf : SizeReading p fetchSizeProperty (.ok f)) :
      Application s p
        (.ok (), { s.applyTexts p with
          maxConnections := m <|> s.maxConnections
          fetchSize := f <|> s.fetchSize })

/-- Properties are taken over in one of the ways. -/
theorem applyProperties_cases (s : Settings) (p : Properties) :
    Application s p (s.applyProperties p) := by
  have hm := sizeProperty_cases p maxConnectionsProperty
  have hf := sizeProperty_cases p fetchSizeProperty
  simp only [applyProperties]
  generalize sizeProperty p maxConnectionsProperty = readPool at hm ⊢
  generalize sizeProperty p fetchSizeProperty = readFetch at hf ⊢
  cases readPool with
  | error e => exact .poolMisfit e hm
  | ok m =>
    cases readFetch with
    | error e => exact .fetchMisfit m e hm hf
    | ok f => exact .whole m f hm hf

variable {r : Except Error Unit × Settings}

namespace Application

/-- The texts are taken over in every case. -/
lemma texts (h : Application s p r) :
    r.2.url = p[urlProperty]?.getD s.url ∧ r.2.user = p[userProperty]?.getD s.user ∧
      r.2.password = p[passwordProperty]?.getD s.password ∧
      r.2.database = p[databaseProperty]?.getD s.database := by
  cases h <;> exact ⟨rfl, rfl, rfl, rfl⟩

lemma eq_ok_iff (h : Application s p r) :
    r.1 = .ok () ↔ p.SizeFits maxConnectionsProperty ∧ p.SizeFits fetchSizeProperty := by
  cases h with
  | poolMisfit e hm => simp [hm.not_fits]
  | fetchMisfit m e hm hf => simp [hf.not_fits]
  | whole m f hm hf => simp [hm.fits, hf.fits]

/-- The size of the pool is set whenever its own text is good, even if that of a fetch is not. -/
lemma setsSize_maxConnections (h : Application s p r) :
    p.SetsSize maxConnectionsProperty s.maxConnections r.2.maxConnections := by
  cases h with
  | poolMisfit e hm => exact hm.setsSize_of_error _
  | fetchMisfit m e hm => exact hm.setsSize _
  | whole m f hm => exact hm.setsSize _

lemma setsSize_fetchSize (h : Application s p r) (ho : r.1 = .ok ()) :
    p.SetsSize fetchSizeProperty s.fetchSize r.2.fetchSize := by
  cases h with
  | poolMisfit | fetchMisfit => cases ho
  | whole m f hm hf => exact hf.setsSize _

lemma fetchSize_of_error (h : Application s p r) {e : Error} (he : r.1 = .error e) :
    r.2.fetchSize = s.fetchSize := by
  cases h with
  | poolMisfit | fetchMisfit => rfl
  | whole => cases he

/-- The error is about the first size that does not fit. -/
lemma firstMisfit (h : Application s p r) {e : Error} (he : r.1 = .error e) :
    ∃ name text cause, p.FirstMisfit name text ∧ readSize text = .error cause ∧
      e = .invalidInput (.badSize name text cause) := by
  cases h with
  | poolMisfit e' hm =>
    obtain rfl : e' = e := Except.error.inj he
    cases hm with
    | bad text cause hp hd hr => exact ⟨_, text, cause, .maxConnections hp hd, hr, rfl⟩
  | fetchMisfit m e' hm hf =>
    obtain rfl : e' = e := Except.error.inj he
    cases hf with
    | bad text cause hp hd hr => exact ⟨_, text, cause, .fetchSize hm.fits hp hd, hr, rfl⟩
  | whole => cases he

end Application

/-- Only the properties that are known matter. -/
lemma applyProperties_congr {p' : Properties}
    (h : ∀ name ∈ knownProperties, p'[name]? = p[name]?) :
    s.applyProperties p' = s.applyProperties p := by
  simp only [knownProperties, List.forall_mem_cons, List.not_mem_nil, false_imp_iff,
    forall_const, and_true] at h
  obtain ⟨hurl, huser, hpassword, hdatabase, hm, hf⟩ := h
  simp only [applyProperties, applyTexts, sizeProperty, hurl, huser, hpassword,
    hdatabase, hm, hf]

/-- Sizes that are written in decimal are taken over as they are. -/
lemma applyProperties_toString {m n : Nat} (hm : m ≤ 2 ^ 64 - 1) (hn : n ≤ 2 ^ 64 - 1) :
    s.applyProperties
        ((p.insert maxConnectionsProperty (toString m)).insert fetchSizeProperty (toString n)) =
      (.ok (), { s.applyTexts p with maxConnections := some m, fetchSize := some n }) := by
  let p' := (p.insert maxConnectionsProperty (toString m)).insert fetchSizeProperty (toString n)
  have hother {name : String} (hf : fetchSizeProperty ≠ name)
      (hm : maxConnectionsProperty ≠ name) : p'[name]? = p[name]? := by
    simp [p', Std.ExtTreeMap.getElem?_insert, hf, hm]
  have htexts : s.applyTexts p' = s.applyTexts p := by
    simp only [applyTexts]
    rw [hother, hother, hother, hother] <;> decide
  have hpool : sizeProperty p' maxConnectionsProperty = .ok (some m) := by
    refine sizeProperty_of_denotes ?_ (Text.denotes_toString hm)
    have hne : fetchSizeProperty ≠ maxConnectionsProperty := by decide
    rw [Std.ExtTreeMap.getElem?_insert, Std.ExtTreeMap.getElem?_insert]
    simp [hne]
  have hfetch : sizeProperty p' fetchSizeProperty = .ok (some n) := by
    refine sizeProperty_of_denotes ?_ (Text.denotes_toString hn)
    simp [p']
  simp only [applyProperties]
  rw [htexts, hpool, hfetch]
  rfl

/-- Properties are taken over as a whole just if each size that they give is one that its text
denotes; only known properties matter. In any case the texts are set, and the size of the pool if
it fits. Otherwise the size of a fetch stays, and the error names the first size that does not
fit. What is written in decimal is taken over as it was. -/
theorem properties_apply_in_order (s : Settings) (p : Properties) :
    let r := s.applyProperties p
    (r.1 = .ok () ↔ p.SizeFits maxConnectionsProperty ∧ p.SizeFits fetchSizeProperty) ∧
    (∀ p' : Properties, (∀ name ∈ knownProperties, p'[name]? = p[name]?) →
      s.applyProperties p' = r) ∧
    (r.2.url = p[urlProperty]?.getD s.url ∧ r.2.user = p[userProperty]?.getD s.user ∧
      r.2.password = p[passwordProperty]?.getD s.password ∧
      r.2.database = p[databaseProperty]?.getD s.database) ∧
    p.SetsSize maxConnectionsProperty s.maxConnections r.2.maxConnections ∧
    (r.1 = .ok () → p.SetsSize fetchSizeProperty s.fetchSize r.2.fetchSize) ∧
    (∀ e, r.1 = .error e → r.2.fetchSize = s.fetchSize ∧
      ∃ name text cause, p.FirstMisfit name text ∧ readSize text = .error cause ∧
        e = .invalidInput (.badSize name text cause) ∧
        e.message = "invalid input: " ++ (name ++ " must be a positive integer, got '" ++ text ++
          "': " ++ cause.message)) ∧
    ∀ m n, m ≤ 2 ^ 64 - 1 → n ≤ 2 ^ 64 - 1 →
      s.applyProperties
          ((p.insert maxConnectionsProperty (toString m)).insert
            fetchSizeProperty (toString n)) =
        (.ok (), { s.applyTexts p with maxConnections := some m, fetchSize := some n }) := by
  intro r
  have h : Application s p r := applyProperties_cases s p
  refine ⟨h.eq_ok_iff, fun p' => applyProperties_congr, h.texts, h.setsSize_maxConnections,
    h.setsSize_fetchSize, fun e he => ⟨h.fetchSize_of_error he, ?_⟩,
    fun m n => applyProperties_toString⟩
  obtain ⟨name, text, cause, hfirst, hr, rfl⟩ := h.firstMisfit he
  exact ⟨name, text, cause, hfirst, hr, rfl, rfl⟩

end Settings

end KeyedGraph
