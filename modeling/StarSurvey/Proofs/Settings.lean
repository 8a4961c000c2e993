import StarSurvey.Proofs.Partial
import StarSurvey.Proofs.Toml.Keys
import StarSurvey.Settings

/-!
# What a file of settings says

- **Layers** (`Settings.ofEntries_eq_ok_iff`): a table whose keys are distinct sets what stands behind
  the keys it has, if all of that fits, and leaves the rest at the defaults.
- **Validity** (`Settings.invalid?_eq_none_iff`): no reason to reject settings is left.
- **Files** (`Settings.load_eq_ok_iff`): settings are loaded if and only if the file that is consulted
  says something and this is valid by itself over the defaults.
-/

namespace StarSurvey

/-! ## Values that fit -/

namespace Toml

/-- The text that a value is. -/
def Value.text? : Value → Option String
  | .string s => some s
  | _ => none

/-- The natural number that a value is. -/
def Value.count? : Value → Option Nat
  | .integer n => if 0 ≤ n then some n.toNat else none
  | _ => none

namespace Entries

variable {α : Type} {es : Entries} {k : String} {v : Value}

/-- What a table has behind a key, read in some way. -/
def setting (es : Entries) (key : String) (read : Value → Option α) : Option α :=
  (es.get? key).bind read

/-- What a table has behind a key, if anything, can be read in some way. -/
def Fits (es : Entries) (key : String) (read : Value → Option α) : Prop :=
  ∀ v, es.get? key = some v → (read v).isSome

instance (es : Entries) (key : String) (read : Value → Option α) : Decidable (es.Fits key read) :=
  decidable_of_iff (∀ v ∈ es.get? key, (read v).isSome) Iff.rfl

@[simp] theorem setting_nil (key : String) (read : Value → Option α) :
    setting [] key read = none := rfl

@[simp] theorem fits_nil (key : String) (read : Value → Option α) : Fits [] key read := nofun

@[simp] theorem setting_singleton (key : String) (read : Value → Option α) :
    setting [(k, v)] key read = if key = k then read v else none := by
  rw [setting, get?_cons]
  split_ifs <;> rfl

@[simp] theorem fits_singleton (key : String) (read : Value → Option α) :
    Fits [(k, v)] key read ↔ (key = k → (read v).isSome) := by
  by_cases h : key = k
  · simp [Fits, get?_cons, h]
  · simp [Fits, get?_cons, h]

/-- With distinct keys a key stands at the front or behind it. -/
theorem setting_cons (h : Distinct ((k, v) :: es)) (key : String) (read : Value → Option α) :
    setting ((k, v) :: es) key read = (es.setting key read <|> setting [(k, v)] key read) := by
  rw [setting_singleton, setting, get?_cons]
  by_cases hk : key = k
  · have hnone : es.get? key = none := hk ▸ get?_eq_none_of_not_mem (distinct_cons.mp h).1
    simp [hk, setting, hk ▸ hnone]
  · simp [hk, setting]

theorem fits_cons (h : Distinct ((k, v) :: es)) (key : String) (read : Value → Option α) :
    Fits ((k, v) :: es) key read ↔ Fits [(k, v)] key read ∧ es.Fits key read := by
  rw [fits_singleton]
  by_cases hk : key = k
  · have hnone : es.get? k = none := get?_eq_none_of_not_mem (distinct_cons.mp h).1
    simp [Fits, get?_cons, hk, hnone]
  · simp [Fits, get?_cons, hk]

end Entries

end Toml

namespace Settings

open Toml (Entries)

/-- What one source says about the settings; what it does not set is left open. -/
structure Layer where
  output : Option String := none
  timeoutSecs : Option Nat := none
  maxInFlight : Option Nat := none
  userAgent : Option String := none
  deriving DecidableEq

namespace Layer

/-- The settings with a layer over them. -/
def applyTo (l : Layer) (s : Settings) : Settings where
  output := l.output.getD s.output
  timeoutSecs := l.timeoutSecs <|> s.timeoutSecs
  maxInFlight := l.maxInFlight <|> s.maxInFlight
  userAgent := l.userAgent.getD s.userAgent

/-- A layer over another one. -/
def onto (l below : Layer) : Layer where
  output := l.output <|> below.output
  timeoutSecs := l.timeoutSecs <|> below.timeoutSecs
  maxInFlight := l.maxInFlight <|> below.maxInFlight
  userAgent := l.userAgent <|> below.userAgent

/-- What the entries of a table set. -/
def ofEntries (es : Entries) : Layer where
  output := es.setting "output" Toml.Value.text?
  timeoutSecs := es.setting "timeout_secs" Toml.Value.count?
  maxInFlight := es.setting "max_in_flight" Toml.Value.count?
  userAgent := es.setting "user_agent" Toml.Value.text?

@[simp] theorem empty_applyTo (s : Settings) : applyTo {} s = s := by
  simp [applyTo]

/-- Layers over settings are put on one by one or all at once. -/
theorem applyTo_applyTo (l below : Layer) (s : Settings) :
    l.applyTo (below.applyTo s) = (l.onto below).applyTo s := by
  simp only [applyTo, onto, Option.orElse_eq_orElse, Option.orElse_eq_or, Option.or_assoc,
    Option.getD_or]

end Layer

/-- All that a table sets has a value that fits. -/
@[mk_iff]
structure Acceptable (es : Entries) : Prop where
  output : es.Fits "output" Toml.Value.text?
  timeoutSecs : es.Fits "timeout_secs" Toml.Value.count?
  maxInFlight : es.Fits "max_in_flight" Toml.Value.count?
  userAgent : es.Fits "user_agent" Toml.Value.text?

instance (es : Entries) : Decidable (Acceptable es) :=
  decidable_of_iff _ (acceptable_iff es).symm

theorem textOf_eq_ok_iff {expected s : String} {v : Toml.Value} :
    textOf expected v = .ok s ↔ v.text? = some s := by
  cases v <;> simp [textOf, Toml.Value.text?]

theorem countOf_eq_ok_iff {expected : String} {v : Toml.Value} {n : Nat} :
    countOf expected v = .ok n ↔ v.count? = some n := by
  cases v with
  | integer i =>
    simp only [countOf, Toml.Value.count?]
    split_ifs <;> simp
  | _ => simp [countOf, Toml.Value.count?]

/-- One entry of a table is a layer by itself. -/
theorem setKey_eq_ok_iff {s s' : Settings} {key : String} {v : Toml.Value} :
    s.setKey key v = .ok s' ↔
      Acceptable [(key, v)] ∧ s' = (Layer.ofEntries [(key, v)]).applyTo s := by
  simp only [acceptable_iff, Entries.fits_singleton, Layer.ofEntries, Entries.setting_singleton,
    Layer.applyTo]
  by_cases hout : key = "output"
  · subst hout
    simp only [setKey, if_true, bind_eq_ok_iff, textOf_eq_ok_iff]
    cases v.text? <;> simp [pure, Except.pure, @eq_comm _ s']
  by_cases htimeout : key = "timeout_secs"
  · subst htimeout
    simp only [setKey, hout, if_true, if_false, bind_eq_ok_iff, countOf_eq_ok_iff]
    cases v.count? <;> simp [pure, Except.pure, @eq_comm _ s']
  by_cases hflight : key = "max_in_flight"
  · subst hflight
    simp only [setKey, hout, htimeout, if_true, if_false, bind_eq_ok_iff, countOf_eq_ok_iff]
    cases v.count? <;> simp [pure, Except.pure, @eq_comm _ s']
  by_cases hagent : key = "user_agent"
  · subst hagent
    simp only [setKey, hout, htimeout, hflight, if_true, if_false, bind_eq_ok_iff,
      textOf_eq_ok_iff]
    cases v.text? <;> simp [pure, Except.pure, @eq_comm _ s']
  · simp [setKey, hout, htimeout, hflight, hagent, Ne.symm hout, Ne.symm htimeout,
      Ne.symm hflight, Ne.symm hagent, @eq_comm _ s']

/-- The entries of a table are set one by one, and what they set together is their layer. -/
theorem foldlM_setKey_eq_ok_iff {es : Entries} (hes : es.Distinct) {s s' : Settings} :
    es.foldlM (fun s e => s.setKey e.1 e.2) s = .ok s' ↔
      Acceptable es ∧ s' = (Layer.ofEntries es).applyTo s := by
  induction es generalizing s with
  | nil => simp [acceptable_iff, Layer.ofEntries, pure, Except.pure, eq_comm]
  | cons e es ih =>
    obtain ⟨k, v⟩ := e
    have hlayer : Layer.ofEntries ((k, v) :: es) =
        (Layer.ofEntries es).onto (Layer.ofEntries [(k, v)]) := by
      simp only [Layer.ofEntries, Layer.onto, Entries.setting_cons hes]
    have hacc : Acceptable ((k, v) :: es) ↔ Acceptable [(k, v)] ∧ Acceptable es := by
      simp only [acceptable_iff, Entries.fits_cons hes]
      tauto
    rw [List.foldlM_cons, bind_eq_ok_iff, hlayer, hacc, ← Layer.applyTo_applyTo]
    simp only [setKey_eq_ok_iff, ih (Entries.distinct_cons.mp hes).2]
    constructor
    · rintro ⟨_, ⟨hk, rfl⟩, hrest, rfl⟩
      exact ⟨⟨hk, hrest⟩, rfl⟩
    · rintro ⟨⟨hk, hrest⟩, rfl⟩
      exact ⟨_, ⟨hk, rfl⟩, hrest, rfl⟩

/-- A table sets its layer over the defaults, or has a value that does not fit. -/
theorem ofEntries_eq_ok_iff {es : Entries} (hes : es.Distinct) {s : Settings} :
    ofEntries es = .ok s ↔ Acceptable es ∧ s = (Layer.ofEntries es).applyTo .default :=
  foldlM_setKey_eq_ok_iff hes

/-! ## Validity -/

/-- Settings with which a survey does not stall. -/
structure IsValid (s : Settings) : Prop where
  timeoutSecs : s.timeoutSecs ≠ some 0
  maxInFlight : s.maxInFlight ≠ some 0
  output : s.output ≠ ""

theorem invalid?_eq_none_iff {s : Settings} : s.invalid? = none ↔ s.IsValid := by
  unfold invalid?
  constructor
  · intro h
    split_ifs at h with htimeout hflight hout
    exact ⟨htimeout, hflight, fun hempty => hout (by rw [hempty]; rfl)⟩
  · rintro ⟨htimeout, hflight, hout⟩
    rw [if_neg htimeout, if_neg hflight, if_neg (by simpa using hout)]

/-- Settings pass a check that turns down what is invalid. -/
theorem check_eq_ok_iff {ε : Type} (fault : Invalid → ε) {s s' : Settings} :
    (match s'.invalid? with
      | some i => .error (fault i)
      | none => .ok s' : Except ε Settings) = .ok s ↔ s = s' ∧ s.IsValid := by
  rw [← invalid?_eq_none_iff]
  cases hinvalid : s'.invalid? with
  | some i =>
    refine iff_of_false nofun ?_
    rintro ⟨rfl, hnone⟩
    exact absurd (hinvalid.symm.trans hnone) nofun
  | none =>
    constructor
    · intro h
      cases h
      exact ⟨rfl, hinvalid⟩
    · rintro ⟨rfl, -⟩
      rfl

theorem isValid_default : IsValid .default := ⟨nofun, nofun, by decide⟩

/-! ## Files -/

/-- What a text says. -/
inductive TextSays (content : String) : Layer → Prop
  /-- Blanks alone say nothing. -/
  | blank : Text.isAllBlank content = true → TextSays content {}
  /-- A document says what its root table sets. -/
  | document (es : Entries) : Text.isAllBlank content = false →
    Entries.ofText? content = some es → Acceptable es → TextSays content (.ofEntries es)

/-- What the file that is consulted says. One that has to be there has a text. -/
inductive FileSays (t : FileTree) : (file : String × Bool) → Layer → Prop
  /-- A file that need not be there, and is not, says nothing. -/
  | missing (path : String) : t.exists? path = false → FileSays t (path, false) {}
  /-- Any other file says what is in its text. -/
  | text (path : String) (required : Bool) (content : String) (l : Layer) :
    t.readText path = .ok content → TextSays content l → FileSays t (path, required) l

/-- A text has settings if it says something. -/
theorem ofToml_eq_ok_iff {content : String} {s : Settings} :
    ofToml content = .ok s ↔ ∃ l, TextSays content l ∧ s = l.applyTo .default := by
  unfold ofToml
  cases hblank : Text.isAllBlank content with
  | true =>
    constructor
    · intro h
      cases h
      exact ⟨_, .blank hblank, (Layer.empty_applyTo _).symm⟩
    · rintro ⟨l, hl, rfl⟩
      cases hl with
      | blank => rw [Layer.empty_applyTo, if_pos rfl]
      | document _ hnot => exact absurd (hblank.symm.trans hnot) nofun
  | false =>
    rw [if_neg Bool.false_ne_true]
    cases hes : Entries.ofText? content with
    | none =>
      refine iff_of_false (by simp) ?_
      rintro ⟨l, hblank' | ⟨es, -, hsome, -⟩, -⟩
      · exact absurd (hblank.symm.trans hblank') nofun
      · exact absurd (hes.symm.trans hsome) nofun
    | some es =>
      simp only [mapError_eq_ok_iff, ofEntries_eq_ok_iff (Entries.distinct_ofText? hes)]
      constructor
      · rintro ⟨hacc, hs⟩
        exact ⟨_, .document es hblank hes hacc, hs⟩
      · rintro ⟨l, hblank' | ⟨es', -, hsome, hacc⟩, hs⟩
        · exact absurd (hblank.symm.trans hblank') nofun
        · obtain rfl : es = es' := Option.some.inj (hes.symm.trans hsome)
          exact ⟨hacc, hs⟩

theorem TextSays.unique {content : String} {l l' : Layer} (h : TextSays content l)
    (h' : TextSays content l') : l = l' := by
  cases h with
  | blank hblank =>
    cases h' with
    | blank => rfl
    | document _ hnot => exact absurd (hblank.symm.trans hnot) nofun
  | document es hnot hes =>
    cases h' with
    | blank hblank => exact absurd (hblank.symm.trans hnot) nofun
    | document es' _ hes' => rw [Option.some.inj (hes.symm.trans hes')]

/-- A file of which nothing is there cannot be read. -/
theorem readText_of_find_eq_error {t : FileTree} {path : String} {f : FileFault}
    (h : t.find path = .error f) : t.readText path = .error f := by
  simp [FileTree.readText, FileTree.readBytes, h, bind, Except.bind]

/-- The text of a file that is there. -/
theorem exists?_of_readText {t : FileTree} {path content : String}
    (h : t.readText path = .ok content) : t.exists? path = true := by
  cases hfind : t.find path with
  | error f => exact absurd ((readText_of_find_eq_error hfind).symm.trans h) nofun
  | ok n => simp [FileTree.exists?, hfind, Except.isOk, Except.toBool]

/-- A file says one thing. -/
theorem FileSays.unique {t : FileTree} {file : String × Bool} {l l' : Layer} (h : FileSays t file l)
    (h' : FileSays t file l') : l = l' := by
  cases h with
  | missing path hnone =>
    cases h' with
    | missing => rfl
    | text _ _ _ _ hread => exact absurd (hnone.symm.trans (exists?_of_readText hread)) nofun
  | text path required content l hread hl =>
    cases h' with
    | missing _ hnone => exact absurd (hnone.symm.trans (exists?_of_readText hread)) nofun
    | text _ _ content' _ hread' hl' =>
      obtain rfl : content = content' := Except.ok.inj (hread.symm.trans hread')
      exact hl.unique hl'

section Load

variable {t : FileTree} {explicit named : Option String} {path : String} {required : Bool}

/-- A file that need not be there and is not says nothing. -/
theorem fileSays_iff_of_missing (hnone : t.exists? path = false) {l : Layer} :
    FileSays t (path, false) l ↔ l = {} := by
  have hsays : FileSays t (path, false) {} := .missing path hnone
  constructor
  · intro hl
    exact hl.unique hsays
  · rintro rfl
    exact hsays

/-- Nothing is loaded from a file that need not be there and is not. -/
theorem load_of_missing (hsource : source explicit named = (path, false))
    (hnone : t.exists? path = false) : load t explicit named = .ok .default := by
  simp [load, hsource, hnone]

/-- Otherwise settings are loaded from a text that has valid ones. -/
theorem load_eq_ok_iff_of_not_missing (hsource : source explicit named = (path, required))
    (hmissing : ¬(required = false ∧ t.exists? path = false)) {s : Settings} :
    load t explicit named = .ok s ↔
      ∃ content, t.readText path = .ok content ∧ ofToml content = .ok s ∧ s.IsValid := by
  have hif : ¬(!required && !t.exists? path) = true := by simpa using hmissing
  simp only [load, hsource, if_neg hif]
  cases t.readText path with
  | error f => simp
  | ok content =>
    simp only [Except.ok.injEq, exists_eq_left']
    cases ofToml content with
    | error fault => simp
    | ok s' =>
      rw [Except.ok.injEq, @eq_comm _ s']
      exact check_eq_ok_iff LoadFault.invalid

/-- Settings are loaded if and only if the file that is consulted says something and this is valid
over the defaults. -/
theorem load_eq_ok_iff {s : Settings} :
    load t explicit named = .ok s ↔
      ∃ l, FileSays t (source explicit named) l ∧ s = l.applyTo .default ∧ s.IsValid := by
  obtain ⟨path, required, hsource⟩ : ∃ path required, source explicit named = (path, required) :=
    ⟨_, _, rfl⟩
  by_cases hmissing : required = false ∧ t.exists? path = false
  · obtain ⟨rfl, hnone⟩ := hmissing
    simp only [load_of_missing hsource hnone, hsource, fileSays_iff_of_missing hnone,
      exists_eq_left, Layer.empty_applyTo]
    constructor
    · intro h
      cases h
      exact ⟨rfl, isValid_default⟩
    · rintro ⟨rfl, -⟩
      rfl
  · rw [load_eq_ok_iff_of_not_missing hsource hmissing, hsource]
    constructor
    · rintro ⟨content, hread, htoml, hvalid⟩
      obtain ⟨l, hl, hs⟩ := ofToml_eq_ok_iff.mp htoml
      exact ⟨l, .text path required content l hread hl, hs, hvalid⟩
    · rintro ⟨l, hl, hs, hvalid⟩
      obtain ⟨_, hnone⟩ | ⟨_, _, content, _, hread, hl⟩ := hl
      · exact absurd ⟨rfl, hnone⟩ hmissing
      · exact ⟨content, hread, ofToml_eq_ok_iff.mpr ⟨l, hl, hs⟩, hvalid⟩

/-- A file that has to be there and is not is a fault. -/
theorem load_of_required {f : FileFault} (hsource : source explicit named = (path, true))
    (hfind : t.find path = .error f) : load t explicit named = .error (.unreadable path f) := by
  simp [load, hsource, readText_of_find_eq_error hfind]

end Load

end Settings

end StarSurvey
