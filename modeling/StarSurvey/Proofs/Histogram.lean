import Mathlib.Algebra.BigOperators.Group.List.Lemmas
import Mathlib.Algebra.Ring.Nat
import Mathlib.Data.List.Perm.Subperm
import StarSurvey.Proofs.Json.Image
import StarSurvey.Proofs.Stats

/-!
# The shares of the classes, from the texts that the nodes report

- **Reports** (`Report`): a star system as it stands in a body, its class a text like any other. A
  record is decoded from a body exactly if a report is, and is the report with its class recognised
  (`Record.ofBytes_eq`).
- **Classes** (`StarClass.ofSymbol_eq_iff`): a text is one of the seven classes if it is the symbol.
- **Counting** (`sharesOf`): the shares, counted plainly from the texts. What the tally says of the
  records is the same (`shares_eq_sharesOf`).
- **The sum** (`sum_count_sharesOf`): the counts add up to the number of recognised texts.
- **The histogram** (`ofRecords_of_decoded`).
-/

namespace StarSurvey

open Json

/-! ## Reports -/

/-- A star as it stands in a body. -/
structure Report.Star where
  className : String
  description : String
  deriving DecidableEq

/-- A star system as it stands in a body. -/
structure Report where
  name : String
  star : Report.Star
  position : Position
  lastSeen : Calendar.Instant
  deriving DecidableEq

namespace Report

/-- What is known of a star while it is read. -/
structure Star.Parts where
  className : Option String := none
  description : Option String := none

/-- The members of a star. -/
def Star.shape : Shape Star.Parts Star where
  name := "StarType"
  fields :=
    [.of "class" (·.className) (fun p c => { p with className := some c }) readText,
     .of "description" (·.description) (fun p d => { p with description := some d }) readText]
  none := {}
  whole p := do return ⟨← p.className, ← p.description⟩

/-- What is known of a star system while it is read. -/
structure Parts where
  name : Option String := none
  star : Option Star := none
  position : Option Position := none
  lastSeen : Option Calendar.Instant := none

/-- The members of a star system. -/
def shape : Shape Parts Report where
  name := "SystemRecord"
  fields :=
    [.of "name" (·.name) (fun p n => { p with name := some n }) readText,
     .of "star_type" (·.star) (fun p t => { p with star := some t }) Star.shape.read,
     .of "position" (·.position) (fun p q => { p with position := some q }) Position.shape.read,
     .of "last_seen_at" (·.lastSeen) (fun p i => { p with lastSeen := some i }) readInstant]
  none := {}
  whole p := do return ⟨← p.name, ← p.star, ← p.position, ← p.lastSeen⟩

/-- Decodes the body of a reply and leaves the class as it is. -/
def ofBytes (body : List UInt8) : Except Json.Error Report := decode shape.read body

/-- A star with its class recognised. -/
def Star.starType (t : Star) : StarType := ⟨.ofSymbol t.className, t.description⟩

/-- A star system with its class recognised. -/
def record (p : Report) : Record := ⟨p.name, p.star.starType, p.position, p.lastSeen⟩

/-- A star is read as its report with the class recognised. -/
theorem Star.image_shape : Shape.Image
    (fun p : Star.Parts => StarType.Parts.mk (p.className.map .ofSymbol) p.description)
    Star.starType Star.shape StarType.shape where
  name := rfl
  fields :=
    .cons (.of (g := .ofSymbol) (fun _ => rfl) (fun _ _ => rfl) rfl)
      (.cons (.of_same (fun _ => rfl) fun _ _ => rfl) .nil)
  none := rfl
  whole p := by cases p with | mk c d => cases c <;> cases d <;> rfl

/-- A star system is read as its report with the class recognised. -/
theorem image_shape : Shape.Image
    (fun p : Parts => Record.Parts.mk p.name (p.star.map Star.starType) p.position p.lastSeen)
    record shape Record.shape where
  name := rfl
  fields :=
    .cons (.of_same (fun _ => rfl) fun _ _ => rfl)
      (.cons (.of (g := Star.starType) (fun _ => rfl) (fun _ _ => rfl) Star.image_shape.read)
      (.cons (.of_same (fun _ => rfl) fun _ _ => rfl)
      (.cons (.of_same (fun _ => rfl) fun _ _ => rfl) .nil)))
  none := rfl
  whole p := by
    cases p with | mk n t q i => cases n <;> cases t <;> cases q <;> cases i <;> rfl

end Report

/-- From whatever body, a record is decoded as the report with its class recognised. -/
theorem Record.ofBytes_eq (body : List UInt8) :
    Record.ofBytes body = (Report.ofBytes body).map Report.record := by
  rw [Record.ofBytes, Report.image_shape.read]
  exact decode_map _ _ body

/-- Records come from reports. -/
theorem Report.exists_of_decoded {bodies : List (List UInt8)} {records : List Record}
    (h : List.Forall₂ (fun body r => Record.ofBytes body = .ok r) bodies records) :
    ∃ reports, List.Forall₂ (fun body p => ofBytes body = .ok p) bodies reports ∧
      records = reports.map record := by
  induction h with
  | nil => exact ⟨[], .nil, rfl⟩
  | @cons body r bodies records hr _ ih =>
    obtain ⟨reports, hreports, rfl⟩ := ih
    rw [Record.ofBytes_eq] at hr
    cases hp : ofBytes body with
    | error e => rw [hp] at hr; cases hr
    | ok p =>
      rw [hp] at hr
      cases hr
      exact ⟨p :: reports, .cons hp hreports, rfl⟩

/-! ## Classes -/

namespace StarClass

theorem nodup_symbols : (canonical.map symbol).Nodup := by decide

/-- A text is one of the seven classes if it is the symbol. -/
theorem ofSymbol_eq_iff {c : StarClass} (hc : c ∈ canonical) {s : String} :
    ofSymbol s = c ↔ s = c.symbol := by
  constructor
  · intro h
    rw [← h, symbol_ofSymbol]
  · rintro rfl
    exact (by decide : ∀ c ∈ canonical, ofSymbol c.symbol = c) c hc

end StarClass

/-! ## Counting -/

namespace Stats

/-- The shares, counted plainly from the texts of the classes: of each recognised class whose symbol
is among the texts, hottest first. -/
def sharesOf (texts : List String) : List ClassShare :=
  (StarClass.canonical.filter fun c => c.symbol ∈ texts).map fun c =>
    let n := texts.count c.symbol
    ⟨c, n, Float.ofNat n / Float.ofNat texts.length * 100⟩

/-- The classes that are listed. -/
theorem map_starClass_sharesOf (texts : List String) :
    (sharesOf texts).map ClassShare.starClass =
      StarClass.canonical.filter fun c => c.symbol ∈ texts := by
  rw [sharesOf, List.map_map]
  exact List.map_id' _

theorem mem_sharesOf {texts : List String} {s : ClassShare} (h : s ∈ sharesOf texts) :
    s.count = texts.count s.starClass.symbol ∧
      s.percentage = Float.ofNat s.count / Float.ofNat texts.length * 100 := by
  obtain ⟨c, -, rfl⟩ := List.mem_map.mp h
  exact ⟨rfl, rfl⟩

/-- A recognised class occurs as often as its symbol is reported. -/
theorem occurrences_map_record (reports : List Report) {c : StarClass}
    (hc : c ∈ StarClass.canonical) :
    occurrences (reports.map Report.record) c =
      (reports.map fun p => p.star.className).count c.symbol := by
  rw [occurrences, List.countP_map, List.count, List.countP_map]
  refine List.countP_congr fun p _ => ?_
  rw [Function.comp_apply, Function.comp_apply, decide_eq_true_eq, beq_iff_eq]
  exact StarClass.ofSymbol_eq_iff hc

/-- The tally, read back in the order of the classes, is the plain count. -/
theorem shares_eq_sharesOf (reports : List Report) :
    shares (reports.map Report.record) = sharesOf (reports.map fun p => p.star.className) := by
  rw [shares, sharesOf]
  conv_rhs => rw [← List.filterMap_eq_map', List.filterMap_filter]
  refine List.filterMap_congr fun c hc => ?_
  rw [lookup_tally, occurrences_map_record reports hc]
  by_cases hmem : c.symbol ∈ reports.map fun p => p.star.className
  · rw [if_neg (List.count_pos_iff.mpr hmem).ne', if_pos (decide_eq_true hmem), List.length_map,
      List.length_map]
    rfl
  · rw [if_pos (List.count_eq_zero.mpr hmem), if_neg (by rwa [decide_eq_true_eq])]
    rfl

/-- The counts add up to the number of recognised texts. -/
theorem sum_count_sharesOf (texts : List String) :
    ((sharesOf texts).map ClassShare.count).sum =
      texts.countP (· ∈ StarClass.canonical.map StarClass.symbol) := by
  have hperm : ((StarClass.canonical.map StarClass.symbol).filter (· ∈ texts)).Perm
      (texts.dedup.filter (· ∈ StarClass.canonical.map StarClass.symbol)) := by
    rw [List.perm_ext_iff_of_nodup (StarClass.nodup_symbols.filter _) (texts.nodup_dedup.filter _)]
    intro s
    simp only [List.mem_filter, List.mem_dedup, decide_eq_true_eq, and_comm]
  have hcounts : (sharesOf texts).map ClassShare.count =
      ((StarClass.canonical.map StarClass.symbol).filter (· ∈ texts)).map texts.count := by
    rw [sharesOf, List.map_map, List.filter_map, List.map_map]
    rfl
  rw [hcounts, (hperm.map _).sum_eq]
  exact List.sum_map_count_dedup_filter_eq_countP _ texts

/-! ## The histogram -/

/-- **The histogram.** From whatever bodies some records are decoded, they are the reports in these
bodies with their classes recognised, and their statistics are counted plainly from the texts of the
classes. The total is the number of all records. The classes are listed hottest first, each once; a
class is listed if and only if its symbol is among the texts, with the number of times that it is, and
with the part that this number is of the total, in percent. The counts add up to the total if every
text is one of the seven symbols, and to less if one of them is not. -/
theorem ofRecords_of_decoded {bodies : List (List UInt8)} {records : List Record}
    (h : List.Forall₂ (fun body r => Record.ofBytes body = .ok r) bodies records) :
    ∃ reports, List.Forall₂ (fun body p => Report.ofBytes body = .ok p) bodies reports ∧
      records = reports.map Report.record ∧
      let texts := reports.map fun p => p.star.className
      let stats := ofRecords records
      let listed := stats.classes.map ClassShare.starClass
      let counted := (stats.classes.map ClassShare.count).sum
      stats.total = bodies.length ∧ stats.total = records.length ∧ stats.classes = sharesOf texts ∧
      listed.Sublist StarClass.canonical ∧ listed.Nodup ∧
      (∀ c, c ∈ listed ↔ c ∈ StarClass.canonical ∧ c.symbol ∈ texts) ∧
      (∀ s ∈ stats.classes, s.count = texts.count s.starClass.symbol ∧
        s.percentage = Float.ofNat s.count / Float.ofNat stats.total * 100) ∧
      counted ≤ stats.total ∧
      (counted = stats.total ↔ ∀ t ∈ texts, t ∈ StarClass.canonical.map StarClass.symbol) := by
  obtain ⟨reports, hreports, rfl⟩ := Report.exists_of_decoded h
  refine ⟨reports, hreports, rfl, ?_⟩
  intro texts stats listed counted
  have htotal : stats.total = texts.length := (List.length_map _).trans (List.length_map _).symm
  have hclasses : stats.classes = sharesOf texts := shares_eq_sharesOf reports
  have hlisted : listed = StarClass.canonical.filter fun c => c.symbol ∈ texts := by
    rw [← map_starClass_sharesOf, ← hclasses]
  have hcounted : counted = texts.countP (· ∈ StarClass.canonical.map StarClass.symbol) := by
    rw [← sum_count_sharesOf, ← hclasses]
  refine ⟨h.length_eq.symm, rfl, hclasses, ?_, ?_, fun c => ?_, fun s hs => ?_, ?_, ?_⟩
  · rw [hlisted]
    exact List.filter_sublist
  · rw [hlisted]
    exact StarClass.nodup_canonical.filter _
  · rw [hlisted, List.mem_filter, decide_eq_true_eq]
  · rw [htotal]
    exact mem_sharesOf (hclasses ▸ hs)
  · rw [hcounted, htotal]
    exact List.countP_le_length
  · rw [hcounted, htotal, List.countP_eq_length]
    simp only [decide_eq_true_eq]

/-- Two stars of class G among four: of the other two texts one is a small letter and one has a blank
in front, and neither is one of the seven. -/
theorem ofRecords_of_four_bodies :
    let names := ["G", "g", "G", " K"]
    let body (name : String) := Text.bytes ("\x7b\"name\":\"A\"," ++
      "\"star_type\":\x7b\"class\":\"" ++ name ++ "\",\"description\":\"\"\x7d," ++
      "\"position\":[0,0,0],\"last_seen_at\":\"1970-01-01T00:00:00Z\"\x7d")
    let start : Calendar.Instant := ⟨0, 0, 0, by decide, by decide, by decide⟩
    let report (name : String) : Report := ⟨"A", ⟨name, ""⟩, .origin, start⟩
    let records := names.map fun name => (report name).record
    List.Forall₂ (fun body r => Record.ofBytes body = .ok r) (names.map body) records ∧
      (ofRecords records).classes = [⟨.g, 2, 50⟩] ∧ (ofRecords records).total = 4 := by
  intro names body start report records
  have hbodies : ∀ name ∈ names, Record.ofBytes (body name) = .ok (report name).record ∧
      Report.ofBytes (body name) = .ok (report name) := by decide +kernel
  have hrecords : List.Forall₂ (fun body r => Record.ofBytes body = .ok r) (names.map body)
      records := by
    rw [List.forall₂_map_left_iff, List.forall₂_map_right_iff, List.forall₂_same]
    exact fun name hname => (hbodies name hname).1
  obtain ⟨reports, hreports, -, htotal, -, hclasses, -⟩ := ofRecords_of_decoded hrecords
  have hreported : reports = names.map report := by
    refine Relator.RightUnique.forall₂ (fun _ _ _ h h' => ?_) hreports ?_
    · exact Except.ok.inj (h.symm.trans h')
    · rw [List.forall₂_map_left_iff, List.forall₂_map_right_iff, List.forall₂_same]
      exact fun name hname => (hbodies name hname).2
  refine ⟨hrecords, hclasses.trans ?_, htotal⟩
  rw [hreported]
  decide +kernel

end Stats

end StarSurvey
