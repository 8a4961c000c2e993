import Mathlib.Data.List.Dedup
import Mathlib.Data.List.Forall2
import StarSurvey.Proofs.Double.Equality
import StarSurvey.Proofs.Lines
import StarSurvey.Proofs.Stats

/-!
# What the summary tells of the records

- **Alike records** (`Record.Alike`): records at the same place, of the same class or both of none of
  the seven. Nothing else of them counts (`ofRecords_eq_of_alike`).
- **Classes** (`present`): the recognised classes of some records, hottest first.
- **Lines** (`lines`): the summary is written line by line (`summary_eq_join_lines`), and in none of
  them is an end of line (`isLine_of_mem_lines`).
- **The summary** (`summary_ofRecords`): alike records have the same one, and it has two lines, one for
  each recognised class, and one for the mean distance if there is a pair.
-/

namespace StarSurvey

/-! ## Alike records -/

/-- Positions with the same coordinates, up to the sign of a zero. -/
structure Position.Same (p q : Position) : Prop where
  x : Double.SameNumber p.x q.x
  y : Double.SameNumber p.y q.y
  z : Double.SameNumber p.z q.z

/-- Classes that the summary does not tell apart: the same one of the seven, or none of them. -/
def StarClass.Alike (c d : StarClass) : Prop :=
  (c = d ∧ c.isCanonical = true) ∨ (c.isCanonical = false ∧ d.isCanonical = false)

/-- Records that the summary does not tell apart, whatever else is said in them. -/
structure Record.Alike (r s : Record) : Prop where
  position : r.position.Same s.position
  starClass : r.starType.starClass.Alike s.starType.starClass

/-- In a distance no sign of a zero is left. -/
theorem Position.distance_congr {p p' q q' : Position} (h : p.Same p') (h' : q.Same q') :
    p.distance q = p'.distance q' := by
  unfold distance
  dsimp only
  rw [Double.square_sub_congr h.x h'.x, Double.square_sub_congr h.y h'.y,
    Double.square_sub_congr h.z h'.z]

theorem Record.distance_congr {r r' s s' : Record} (h : r.Alike r') (h' : s.Alike s') :
    r.distance s = r'.distance s' :=
  Position.distance_congr h.position h'.position

/-- Alike classes are the same of the seven. -/
theorem StarClass.Alike.eq_iff {c d e : StarClass} (h : c.Alike d) (he : e ∈ canonical) :
    c = e ↔ d = e := by
  have hcanonical := mem_canonical_iff.mp he
  rcases h with ⟨rfl, -⟩ | ⟨hc, hd⟩
  · exact Iff.rfl
  · constructor
    · rintro rfl
      cases hc.symm.trans hcanonical
    · rintro rfl
      cases hd.symm.trans hcanonical

namespace Stats

open Text

variable {records others : List Record}

/-! ## Equal statistics -/

theorem distanceSum_eq_of_alike (h : List.Forall₂ Record.Alike records others) (acc : Float) :
    distanceSum acc records = distanceSum acc others := by
  induction h generalizing acc with
  | nil => rfl
  | @cons r s rs ss hrs hrest ih =>
    have hstep : ∀ sum t sum' u, sum = sum' → Record.Alike t u →
        sum + r.distance t = sum' + s.distance u := by
      rintro sum t _ u rfl htu
      rw [Record.distance_congr hrs htu]
    have hfirst : rs.foldl (fun sum t => sum + r.distance t) acc =
        ss.foldl (fun sum t => sum + s.distance t) acc := by
      refine List.rel_foldl (P := Eq) (R := Record.Alike) (fun sum sum' hsum t u htu => ?_) rfl hrest
      exact hstep sum t sum' u hsum htu
    rw [distanceSum, distanceSum, hfirst]
    exact ih _

theorem occurrences_eq_of_alike (h : List.Forall₂ Record.Alike records others) {c : StarClass}
    (hc : c ∈ StarClass.canonical) : occurrences records c = occurrences others c := by
  induction h with
  | nil => rfl
  | @cons r s rs ss hrs _ ih =>
    have hsame : (decide (r.starType.starClass = c)) = decide (s.starType.starClass = c) :=
      decide_eq_decide.mpr (hrs.starClass.eq_iff hc)
    unfold occurrences at ih ⊢
    rw [List.countP_cons, List.countP_cons, ih, hsame]

/-- Of alike records the statistics are the same. -/
theorem ofRecords_eq_of_alike (h : List.Forall₂ Record.Alike records others) :
    ofRecords records = ofRecords others := by
  have hlength := h.length_eq
  have hshares : shares records = shares others := by
    unfold shares
    refine List.filterMap_congr fun c hc => ?_
    rw [lookup_tally, lookup_tally, occurrences_eq_of_alike h hc, hlength]
  have hmean : meanDistance? records = meanDistance? others := by
    rw [meanDistance?, meanDistance?, distanceSum_eq_of_alike h, hlength]
  rw [ofRecords, ofRecords, hlength, hshares, hmean]

/-! ## Classes -/

/-- The recognised classes that occur, hottest first. -/
def present (records : List Record) : List StarClass :=
  StarClass.canonical.filter fun c => c ∈ records.map fun r => r.starType.starClass

/-- These are the classes that occur, but for those that are not recognised, each once. -/
theorem length_present (records : List Record) :
    (present records).length =
      ((records.map fun r => r.starType.starClass).filter StarClass.isCanonical).dedup.length := by
  have hnodup : (present records).Nodup := StarClass.nodup_canonical.filter _
  refine ((List.perm_ext_iff_of_nodup hnodup (List.nodup_dedup _)).mpr fun c => ?_).length_eq
  rw [present, List.mem_filter, List.mem_dedup, List.mem_filter, decide_eq_true_eq, and_comm]
  exact and_congr_right fun _ => StarClass.mem_canonical_iff

/-- The shares are those of these classes. -/
theorem map_starClass_shares (records : List Record) :
    (shares records).map ClassShare.starClass = present records := by
  rw [shares, List.map_filterMap, present, ← List.filterMap_eq_filter]
  refine List.filterMap_congr fun c _ => ?_
  have hzero : occurrences records c = 0 ↔ c ∉ records.map fun r => r.starType.starClass := by
    simp [occurrences, List.countP_eq_zero]
  rw [lookup_tally, Option.guard]
  by_cases hc : c ∈ records.map fun r => r.starType.starClass
  · rw [if_neg (mt hzero.mp (not_not_intro hc)), if_pos (decide_eq_true hc)]
    rfl
  · rw [if_pos (hzero.mpr hc), if_neg (by rwa [decide_eq_true_eq])]
    rfl

/-! ## Lines -/

/-- The line about a class. -/
def classLine (s : ClassShare) : String :=
  s.starClass.symbol ++ ": " ++ toString s.count ++ " (" ++ Decimal.fixed 1 s.percentage ++ "%)"

/-- The line about the mean distance. -/
def meanLine (mean : Float) : String :=
  "Average distance between systems: " ++ Decimal.fixed 2 mean

/-- The lines of the summary. -/
def lines (s : Stats) : List String :=
  ["Collected data from " ++ toString s.total ++ " star systems", "Star class distribution:"] ++
    s.classes.map classLine ++ (s.meanDistance.map meanLine).toList

/-- The summary is its lines, each with an end. -/
theorem summary_eq_join_lines (s : Stats) :
    s.summary = String.join (s.lines.map (· ++ "\n")) := by
  have hclasses : ∀ cs : List ClassShare, String.join (cs.flatMap fun c =>
      [c.starClass.symbol, ": ", toString c.count, " (", Decimal.fixed 1 c.percentage, "%)\n"]) =
      String.join (cs.map fun c => classLine c ++ "\n") := by
    intro cs
    induction cs with
    | nil => rfl
    | cons c cs ih =>
      rw [List.flatMap_cons, String.join_append, ih, List.map_cons, String.join_cons]
      simp [classLine, String.append_assoc]
  rw [summary, summaryPieces, lines, String.join_append, String.join_append, hclasses,
    List.map_append, List.map_append, String.join_append, String.join_append, List.map_map]
  congr 1
  · congr 1
    simp [String.append_assoc]
  · cases s.meanDistance with
    | none => simp
    | some mean =>
      unfold meanLine
      simp [String.append_assoc]

theorem isLine_of_mem_lines {s : Stats} (h : ∀ c ∈ s.classes, c.starClass ∈ StarClass.canonical) :
    ∀ l ∈ s.lines, IsLine l := by
  have hsymbol : ∀ c ∈ StarClass.canonical, '\n' ∉ c.symbol.toList := by decide
  intro l hl
  simp only [lines, List.mem_append, List.mem_cons, List.not_mem_nil, or_false, List.mem_map,
    Option.mem_toList, Option.map_eq_some_iff] at hl
  rcases hl with ((rfl | rfl) | ⟨c, hc, rfl⟩) | ⟨mean, -, rfl⟩
  · rw [isLine_append, isLine_append]
    exact ⟨⟨by simp [IsLine], isLine_nat _⟩, by simp [IsLine]⟩
  · simp [IsLine]
  · have hc := hsymbol _ (h c hc)
    simp only [classLine, isLine_append]
    exact ⟨⟨⟨⟨⟨hc, by simp [IsLine]⟩, isLine_nat _⟩, by simp [IsLine]⟩, isLine_fixed _ _⟩,
      by simp [IsLine]⟩
  · unfold meanLine
    rw [isLine_append]
    exact ⟨by simp [IsLine], isLine_fixed _ _⟩

/-! ## The summary -/

/-- **The summary.** It is the same of two lists of records that are alike one by one, whatever else is
said in them. It is written in lines: two at the front, one about each recognised class that occurs,
hottest first, and one about the mean distance if there are two records or more. In none of the lines
is an end of line, and each has one behind it. -/
theorem summary_ofRecords (records : List Record) :
    (∀ others, List.Forall₂ Record.Alike records others →
      (ofRecords records).summary = (ofRecords others).summary) ∧
    let stats := ofRecords records
    let classes := records.map fun r => r.starType.starClass
    stats.summary = String.join (stats.lines.map (· ++ "\n")) ∧ (∀ l ∈ stats.lines, IsLine l) ∧
    lineEnds stats.summary = 2 + (classes.filter StarClass.isCanonical).dedup.length +
      (if 2 ≤ records.length then 1 else 0) ∧
    stats.classes.map ClassShare.starClass = StarClass.canonical.filter (· ∈ classes) := by
  refine ⟨fun others h => congrArg summary (ofRecords_eq_of_alike h), ?_⟩
  intro stats classes
  have hclasses : stats.classes.map ClassShare.starClass = present records :=
    map_starClass_shares records
  have hcanonical : ∀ c ∈ stats.classes, c.starClass ∈ StarClass.canonical := by
    intro c hc
    have hmem : c.starClass ∈ present records := hclasses ▸ List.mem_map_of_mem hc
    exact (List.mem_filter.mp hmem).1
  have hlines := isLine_of_mem_lines hcanonical
  have hlength : stats.lines.length = 2 + (present records).length +
      (if 2 ≤ records.length then 1 else 0) := by
    have hmean : (stats.meanDistance.map meanLine).toList.length =
        if 2 ≤ records.length then 1 else 0 := by
      show ((meanDistance? records).map meanLine).toList.length = _
      unfold meanDistance?
      split_ifs <;> first | rfl | omega
    rw [lines, List.length_append, List.length_append, List.length_map, hmean, ← hclasses,
      List.length_map]
    rfl
  refine ⟨summary_eq_join_lines stats, hlines, ?_, hclasses⟩
  rw [summary_eq_join_lines, lineEnds_join_lines hlines, hlength, length_present]

/-- Of two records the second one is of no recognised class. Other names, another class that is not
recognised and a negative zero leave the summary as it is, with its four lines. -/
theorem summary_ofRecords_of_two_records :
    let start : Calendar.Instant := ⟨0, 0, 0, by decide, by decide, by decide⟩
    let records : List Record :=
      [⟨"A", ⟨.g, ""⟩, ⟨0, 0, 0⟩, start⟩, ⟨"B", ⟨.other "g", ""⟩, ⟨3, 4, 0⟩, start⟩]
    let others : List Record :=
      [⟨"C\nK: 1 (50.0%)", ⟨.g, "D\n"⟩, ⟨-0, 0, 0⟩, start⟩,
        ⟨"E", ⟨.other "O\nO", ""⟩, ⟨3, 4, -0⟩, start⟩]
    List.Forall₂ Record.Alike records others ∧
      (ofRecords records).summary = (ofRecords others).summary ∧
      lineEnds (ofRecords others).summary = 4 := by
  intro start records others
  have hzero : Double.SameNumber 0 (-0) := .inr (by decide +kernel)
  have halike : List.Forall₂ Record.Alike records others :=
    .cons ⟨⟨hzero, .inl rfl, .inl rfl⟩, .inl ⟨rfl, rfl⟩⟩
      (.cons ⟨⟨.inl rfl, .inl rfl, hzero⟩, .inr ⟨rfl, rfl⟩⟩ .nil)
  obtain ⟨hsame, -⟩ := summary_ofRecords records
  obtain ⟨-, -, -, hends, -⟩ := summary_ofRecords others
  exact ⟨halike, hsame others halike, hends⟩

end Stats

end StarSurvey
