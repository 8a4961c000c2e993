import StarSurvey.Json.Document
import StarSurvey.Proofs.Json.Sense
import StarSurvey.Snapshot

/-!
# The timestamp of a snapshot

A snapshot is stamped by a pattern, while records are written with a timestamp of their own. The two
agree but for the fraction of the second.

- **Fractions** (`withoutFraction`): a timestamp without its fraction.
- **Patterns** (`format_eq_withoutFraction`, `format_eq_timestamp_truncate`): the text by the pattern is
  the timestamp without its fraction, and the timestamp of the instant without its fraction.
- **Snapshots** (`Snapshot.timestamp_ofRecords`).
-/

namespace StarSurvey

open Json
open Calendar (Instant Directive)

namespace Calendar

/-! ## Fractions -/

/-- A timestamp without the point and the digits behind it, if there is one. -/
def withoutFraction (s : String) : String :=
  let behind := s.toList.dropWhile (· ≠ '.')
  String.ofList (s.toList.takeWhile (· ≠ '.') ++ behind.tail.dropWhile Char.isDigit)

theorem fractionText_cases (nano : ℕ) :
    fractionText nano = [] ∨ ∃ ds, fractionText nano = '.' :: ds ∧ Text.AllDigits ds := by
  unfold fractionText
  split_ifs
  · exact .inl rfl
  all_goals exact .inr ⟨_, rfl, allDigits_padded _ _⟩

/-- A fraction behind a text without a point is taken out. -/
theorem withoutFraction_ofList {front : List Char} (hfront : ∀ c ∈ front, c ≠ '.') (nano : ℕ) :
    withoutFraction (String.ofList (front ++ (fractionText nano ++ ['Z']))) =
      String.ofList (front ++ ['Z']) := by
  have hmarks : ∀ c ∈ front, decide (c ≠ '.') = true := by simpa using hfront
  rw [withoutFraction, String.toList_ofList]
  rw [List.takeWhile_append_of_pos hmarks, List.dropWhile_append_of_pos hmarks, List.append_assoc]
  rcases fractionText_cases nano with hnone | ⟨ds, hds, hdigits⟩
  · rw [hnone]
    rfl
  · have hbehind : (ds ++ ['Z']).dropWhile Char.isDigit = ['Z'] := by
      rw [List.dropWhile_append_of_pos hdigits]
      rfl
    rw [hds]
    show String.ofList (front ++ ([] ++ (ds ++ ['Z']).dropWhile Char.isDigit)) = _
    rw [hbehind, List.nil_append]

/-! ## Patterns -/

theorem ne_point_of_isDigit {c : Char} (h : c.isDigit = true) : c ≠ '.' := by
  rintro rfl
  cases h

/-- No part of a date or a time has a point. -/
theorem ne_point_of_mem_chars {i : Instant} {d : Directive} (hd : d ≠ .mark '.') {c : Char}
    (hc : c ∈ d.chars i) : c ≠ '.' := by
  have hpadded : ∀ {width n}, c ∈ padded width n → c ≠ '.' :=
    fun h => ne_point_of_isDigit (allDigits_padded _ _ c h)
  cases d with
  | year =>
    simp only [Directive.chars, yearText] at hc
    split_ifs at hc
    · exact hpadded hc
    all_goals
      rcases List.mem_cons.mp hc with rfl | hc
      · decide
      · exact hpadded hc
  | mark m =>
    obtain rfl := List.mem_singleton.mp hc
    rintro rfl
    exact hd rfl
  | month | day | hour | minute | second => exact hpadded hc

end Calendar

namespace Snapshot

variable (i : Instant)

/-- The pattern in front of its last mark. -/
def secondsPattern : List Directive := timestampPattern.dropLast

theorem format_eq_append : i.format timestampPattern =
    String.ofList (secondsPattern.flatMap (Directive.chars i) ++ ['Z']) := by
  simp [Instant.format, secondsPattern, timestampPattern, Directive.chars]

theorem timestampChars_eq_append : i.timestampChars =
    secondsPattern.flatMap (Directive.chars i) ++ (Calendar.fractionText i.nano ++ ['Z']) := by
  simp [Instant.timestampChars, secondsPattern, timestampPattern, Directive.chars]

/-- By the pattern an instant has the text of its timestamp without its fraction. -/
theorem format_eq_withoutFraction :
    i.format timestampPattern = Calendar.withoutFraction i.timestamp := by
  have hpoint : ∀ c ∈ secondsPattern.flatMap (Directive.chars i), c ≠ '.' := by
    intro c hc
    obtain ⟨d, hd, hc⟩ := List.mem_flatMap.mp hc
    have hmark : ∀ d ∈ secondsPattern, d ≠ .mark '.' := by decide
    exact Calendar.ne_point_of_mem_chars (hmark d hd) hc
  rw [Instant.timestamp, timestampChars_eq_append, Calendar.withoutFraction_ofList hpoint,
    format_eq_append]

/-- By the pattern an instant has the timestamp of its whole second. -/
theorem format_eq_timestamp_truncate : i.format timestampPattern = i.truncate.timestamp := by
  rw [Instant.timestamp, timestampChars_eq_append, format_eq_append]
  rfl

/-! ## Snapshots -/

/-- Records make a snapshot of themselves in their order. Its timestamp is that with which the first
of them is written, but for the fraction; it is read as the whole second at which the first record
was last seen, and the other records have no part in it. -/
theorem timestamp_ofRecords (r : Record) (rs : List Record) :
    ∃ s, ofRecords? (r :: rs) = some s ∧
      (∃ members text, r.toValue = .object members ∧
        lookupMember "last_seen_at" members = some (.string text) ∧
        s.timestamp = Calendar.withoutFraction text) ∧
      (Source.string (some s.timestamp)).DecodesTo readInstant r.lastSeen.truncate ∧
      (∀ others t, ofRecords? (r :: others) = some t → t.timestamp = s.timestamp) ∧
      s.systems = r :: rs ∧ s.nodeCount = (r :: rs).length := by
  refine ⟨_, rfl, ⟨_, _, rfl, rfl, format_eq_withoutFraction r.lastSeen⟩, ?_, ?_, rfl, rfl⟩
  · have hsense : (Source.string (some (r.lastSeen.format timestampPattern))).instant? =
        some r.lastSeen.truncate := by
      rw [Source.instant?_eq_some_iff, format_eq_timestamp_truncate]
      exact ⟨_, rfl, r.lastSeen.truncate.ofText_timestamp⟩
    exact (takes_readInstant.decodesTo_iff (spells_quoted_pieces _)).mpr hsense
  · rintro others t ht
    cases ht
    rfl

/-- A leap second in a year of five digits. -/
example : (Instant.ofText "+12024-02-29T23:59:60.120Z").toOption.map
    (·.format timestampPattern) = some "+12024-02-29T23:59:60Z" := by
  decide +kernel

end Snapshot

end StarSurvey
