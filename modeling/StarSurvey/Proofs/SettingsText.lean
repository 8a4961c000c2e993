import StarSurvey.Proofs.Settings
import StarSurvey.Proofs.Toml.Layout
import StarSurvey.Proofs.Toml.Projection

/-!
# What the settings in a text hang on

A file sets four things, each by a key of its root table. It is well-formed if it is a document
(`Toml.Entries.ofText?`): its lines can be read, nothing in them is nested too deep, and what they say
is consistent.

- **Layout** (`Settings.ofToml_of_layout`): the settings hang on the statements of the lines. Blank
  texts are no exception.
- **Keys** (`Settings.ofToml_depends_on_four_keys`): of the statements those about the four keys count,
  and of these what stands behind the keys in the end.
-/

namespace StarSurvey

/-! ## Values that fit -/

namespace Toml

theorem Value.isSome_text?_iff {v : Value} : v.text?.isSome ↔ ∃ s, v = .string s := by
  cases v <;> simp [text?]

theorem Value.isSome_count?_iff {v : Value} : v.count?.isSome ↔ ∃ n : Nat, v = .integer n := by
  cases v with
  | integer i =>
    rw [count?, Option.isSome_ite]
    constructor
    · intro h
      exact ⟨i.toNat, by rw [Int.toNat_of_nonneg h]⟩
    · rintro ⟨n, hn⟩
      cases hn
      exact Int.natCast_nonneg n
  | _ => simp [count?]

namespace Entries

variable {es es' : Entries} {key : String}

theorem fits_text_iff :
    es.Fits key Value.text? ↔ ∀ v, es.get? key = some v → ∃ s, v = .string s := by
  simp only [Fits, Value.isSome_text?_iff]

theorem fits_count_iff :
    es.Fits key Value.count? ↔ ∀ v, es.get? key = some v → ∃ n : Nat, v = .integer n := by
  simp only [Fits, Value.isSome_count?_iff]

/-- A text that fits is taken, and a default if there is none. -/
theorem setting_text_cases (h : es.Fits key Value.text?) (default : String) :
    es.get? key = none ∧ (es.setting key Value.text?).getD default = default ∨
      es.get? key = some (.string ((es.setting key Value.text?).getD default)) := by
  unfold setting
  cases hget : es.get? key with
  | none => exact .inl ⟨rfl, rfl⟩
  | some v =>
    obtain ⟨s, rfl⟩ := fits_text_iff.mp h v hget
    exact .inr rfl

theorem setting_count_cases (h : es.Fits key Value.count?) :
    es.get? key = none ∧ es.setting key Value.count? = none ∨
      ∃ n : Nat, es.get? key = some (.integer n) ∧ es.setting key Value.count? = some n := by
  unfold setting
  cases hget : es.get? key with
  | none => exact .inl ⟨rfl, rfl⟩
  | some v =>
    obtain ⟨n, rfl⟩ := fits_count_iff.mp h v hget
    exact .inr ⟨n, rfl, by simp [Value.count?]⟩

end Entries

end Toml

namespace Settings

open Toml (Entries Layout Lines Statement)

/-- The keys of a file that set something. -/
def keys : List String := ["output", "timeout_secs", "max_in_flight", "user_agent"]

/-- Tables with the same behind these keys set the same. -/
theorem ofEntries_congr {es es' : Entries} (hes : es.Distinct) (hes' : es'.Distinct)
    (h : ∀ k ∈ keys, es'.get? k = es.get? k) {s : Settings} :
    ofEntries es' = .ok s ↔ ofEntries es = .ok s := by
  simp only [keys, List.forall_mem_cons, List.not_mem_nil, false_imp_iff, implies_true, and_true] at h
  obtain ⟨hout, htimeout, hflight, hagent⟩ := h
  rw [ofEntries_eq_ok_iff hes', ofEntries_eq_ok_iff hes]
  simp only [acceptable_iff, Entries.Fits, Layer.ofEntries, Entries.setting, hout, htimeout, hflight,
    hagent]

/-! ## Layout -/

/-- A blank text has the settings of a document without statements. -/
theorem ofToml_of_layout {text : String} {ss : List Statement} {es : Entries}
    (hlayout : Layout (Toml.body text) ss) (hes : Entries.ofStatements? ss = some es) :
    ofToml text = (ofEntries es).mapError .misfit := by
  unfold ofToml
  split
  · next hblank =>
    obtain rfl := hlayout.eq_nil_of_isAllBlank hblank
    cases hes
    rfl
  · rw [Entries.ofText?_eq_some_iff.mpr ⟨ss, hlayout, hes⟩]

theorem ofToml_eq_ok_iff_of_document {text : String} {es : Entries}
    (h : Entries.ofText? text = some es) {s : Settings} : ofToml text = .ok s ↔ ofEntries es = .ok s := by
  obtain ⟨ss, hlayout, hes⟩ := Entries.ofText?_eq_some_iff.mp h
  rw [ofToml_of_layout hlayout hes, mapError_eq_ok_iff]

/-- Texts whose lines say the same have the same settings. -/
theorem ofToml_eq_of_layout {text text' : String} {ss : List Statement} {es : Entries}
    (h : Entries.ofText? text = some es) (hlayout : Layout (Toml.body text) ss)
    (hlayout' : Layout (Toml.body text') ss) : ofToml text' = ofToml text := by
  obtain ⟨ss', hss', hes⟩ := Entries.ofText?_eq_some_iff.mp h
  obtain rfl := hss'.unique hlayout
  rw [ofToml_of_layout hlayout hes, ofToml_of_layout hlayout' hes]

/-- Lines that say nothing are put in or taken away. -/
theorem ofToml_eq_of_gap {text text' : String} {es : Entries} {pre gap post : List Char}
    {ss : List Statement} (h : Entries.ofText? text = some es) (hpre : Lines pre ss)
    (hgap : Lines gap [])
    (htext : Toml.body text = pre ++ post ∧ Toml.body text' = pre ++ (gap ++ post) ∨
      Toml.body text = pre ++ (gap ++ post) ∧ Toml.body text' = pre ++ post) :
    ofToml text' = ofToml text := by
  obtain ⟨ss', hlayout, -⟩ := Entries.ofText?_eq_some_iff.mp h
  refine ofToml_eq_of_layout h hlayout ?_
  obtain ⟨hbody, hbody'⟩ | ⟨hbody, hbody'⟩ := htext
  · rw [hbody] at hlayout
    rw [hbody']
    exact (hpre.layout_insert_iff hgap).mpr hlayout
  · rw [hbody] at hlayout
    rw [hbody']
    exact (hpre.layout_insert_iff hgap).mp hlayout

/-- **What the settings in a document hang on.** The four keys of its root table are all: there are
settings if and only if each of them that is there has a value of its type, and each setting is then
the value of its key, else the default. Any other document with the same behind the four keys has the
same settings. So has one whose statements about each of the four keys are the same in the same order,
whatever else its lines say, in whatever order they stand and however they are laid out; a key of one
of the four names inside a table is not about them. Lines of blanks and comments may be put in or taken
away anywhere between the lines. A blank text has the defaults, and if it is a document, it is the one
without entries. -/
theorem ofToml_depends_on_four_keys {text : String} {es : Entries}
    (h : Entries.ofText? text = some es) :
    ((∃ s, ofToml text = .ok s) ↔
      (∀ v, es.get? "output" = some v → ∃ path, v = .string path) ∧
      (∀ v, es.get? "timeout_secs" = some v → ∃ n : Nat, v = .integer n) ∧
      (∀ v, es.get? "max_in_flight" = some v → ∃ n : Nat, v = .integer n) ∧
      ∀ v, es.get? "user_agent" = some v → ∃ name, v = .string name) ∧
    (∀ s, ofToml text = .ok s →
      (es.get? "output" = none ∧ s.output = "galaxy.json" ∨
        es.get? "output" = some (.string s.output)) ∧
      (es.get? "timeout_secs" = none ∧ s.timeoutSecs = none ∨
        ∃ n : Nat, es.get? "timeout_secs" = some (.integer n) ∧ s.timeoutSecs = some n) ∧
      (es.get? "max_in_flight" = none ∧ s.maxInFlight = none ∨
        ∃ n : Nat, es.get? "max_in_flight" = some (.integer n) ∧ s.maxInFlight = some n) ∧
      (es.get? "user_agent" = none ∧ s.userAgent = "galaxy-collector/1.0.0" ∨
        es.get? "user_agent" = some (.string s.userAgent))) ∧
    (∀ text' es', Entries.ofText? text' = some es' → (∀ k ∈ keys, es'.get? k = es.get? k) →
      ∀ s, ofToml text = .ok s → ofToml text' = .ok s) ∧
    (∃ ss, Layout (Toml.body text) ss ∧ Entries.ofStatements? ss = some es ∧
      ∀ text' ss' es', Layout (Toml.body text') ss' → Entries.ofStatements? ss' = some es' →
        (∀ k ∈ keys, Toml.about k ss' = Toml.about k ss) →
        ∀ s, ofToml text = .ok s → ofToml text' = .ok s) ∧
    (∀ text' pre gap post ss, Lines pre ss → Lines gap [] →
      (Toml.body text = pre ++ post ∧ Toml.body text' = pre ++ (gap ++ post) ∨
        Toml.body text = pre ++ (gap ++ post) ∧ Toml.body text' = pre ++ post) →
      ofToml text' = ofToml text) ∧
    (∀ blank, Text.isAllBlank blank = true → ofToml blank = .ok .default) ∧
    (Text.isAllBlank text = true → es = []) := by
  have hdistinct := Entries.distinct_ofText? h
  have hok {s : Settings} : ofToml text = .ok s ↔
      Acceptable es ∧ s = (Layer.ofEntries es).applyTo .default := by
    rw [ofToml_eq_ok_iff_of_document h, ofEntries_eq_ok_iff hdistinct]
  have hsame (text' : String) (es' : Entries) (h' : Entries.ofText? text' = some es')
      (hkeys : ∀ k ∈ keys, es'.get? k = es.get? k) (s : Settings) (hs : ofToml text = .ok s) :
      ofToml text' = .ok s := by
    rw [ofToml_eq_ok_iff_of_document h']
    rw [ofToml_eq_ok_iff_of_document h] at hs
    exact (ofEntries_congr hdistinct (Entries.distinct_ofText? h') hkeys).mpr hs
  obtain ⟨ss, hlayout, hes⟩ := Entries.ofText?_eq_some_iff.mp h
  refine ⟨?_, ?_, hsame, ⟨ss, hlayout, hes, ?_⟩, ?_, ?_, ?_⟩
  · rw [← Entries.fits_text_iff, ← Entries.fits_count_iff, ← Entries.fits_count_iff,
      ← Entries.fits_text_iff, ← acceptable_iff]
    constructor
    · rintro ⟨s, hs⟩
      exact (hok.mp hs).1
    · intro hacc
      exact ⟨_, hok.mpr ⟨hacc, rfl⟩⟩
  · intro s hs
    obtain ⟨hacc, rfl⟩ := hok.mp hs
    have htimeout : ((Layer.ofEntries es).applyTo .default).timeoutSecs =
        es.setting "timeout_secs" Toml.Value.count? := by
      simp [Layer.applyTo, Layer.ofEntries, Settings.default]
    have hflight : ((Layer.ofEntries es).applyTo .default).maxInFlight =
        es.setting "max_in_flight" Toml.Value.count? := by
      simp [Layer.applyTo, Layer.ofEntries, Settings.default]
    rw [htimeout, hflight]
    exact ⟨Entries.setting_text_cases hacc.output _, Entries.setting_count_cases hacc.timeoutSecs,
      Entries.setting_count_cases hacc.maxInFlight, Entries.setting_text_cases hacc.userAgent _⟩
  · intro text' ss' es' hlayout' hes' habout
    refine hsame text' es' (Entries.ofText?_eq_some_iff.mpr ⟨ss', hlayout', hes'⟩) fun k hk => ?_
    exact Entries.get?_eq_of_about_eq hes' hes (habout k hk)
  · intro text' pre gap post ss₁ hpre hgap htext
    exact ofToml_eq_of_gap h hpre hgap htext
  · intro blank hblank
    rw [ofToml, if_pos hblank]
  · intro hblank
    obtain rfl := hlayout.eq_nil_of_isAllBlank hblank
    cases hes
    rfl

/-- A table has a key with the name of a setting, and a comment and a blank line are put in front. -/
theorem ofToml_depends_on_four_keys_of_a_node :
    let text := "user_agent = \"scout\"\n[node]\noutput = \"x\"\n"
    let commented := "# who asks\n\nuser_agent = \"scout\"\n[node]\noutput = \"x\"\n"
    let s : Settings := ⟨"galaxy.json", none, none, "scout"⟩
    ∃ es, Entries.ofText? text = some es ∧ es.get? "output" = none ∧ ofToml text = .ok s ∧
      ofToml commented = .ok s := by
  intro text commented s
  have hread : (Entries.ofText? text).map (fun es => (es.get? "output").isNone) = some true := by
    decide +kernel
  obtain ⟨es, h, hout⟩ := Option.map_eq_some_iff.mp hread
  obtain ⟨-, -, -, -, hgap, -⟩ := ofToml_depends_on_four_keys h
  have hs : ofToml text = .ok s := by decide +kernel
  have hblank : Lines ['\n'] [] := @Lines.skip [] [] ['\n'] [] [] nofun .absent .feed .nil
  have hcomment := @Lines.skip [] ('#' :: " who asks".toList) ['\n'] ['\n'] [] nofun
    (.marked (List.all_eq_true.mp (by decide))) .feed hblank
  have hsame : ofToml commented = ofToml text :=
    hgap commented [] _ text.toList [] .nil hcomment (.inl ⟨by decide +kernel, by decide +kernel⟩)
  exact ⟨es, h, Option.isNone_iff_eq_none.mp hout, hs, hsame.trans hs⟩

end Settings

end StarSurvey
