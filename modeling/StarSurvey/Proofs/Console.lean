import StarSurvey.Console
import StarSurvey.Proofs.Json.Messages
import StarSurvey.Proofs.UrlText

/-!
# The console report

- **Pieces** (`putAll_eq_put`): pieces come to the same as their whole text.
- **Order** (`foldl_report`, `summary_of_endless`): a console without an end holds the lines about the
  outcomes in the order of their arrival, then the summary.
- **Failures** (`Contact.message_of_fetch`): what is said of a failed fetch is a line, but for the
  address, whatever came back from the node.
- **Lines** (`report_one_line_each`): an outcome has one line exactly if no end of line stands in its
  address and in the texts of its record. These texts are written as they are, so a node can write the
  lines of others (`report_of_a_name_with_an_end_of_line`).
-/

namespace StarSurvey

namespace Console

/-! ## Pieces -/

/-- The lines about some outcomes. -/
def nodeLines (outcomes : List Outcome) : List UInt8 :=
  outcomes.flatMap fun o => Text.bytes (String.join (outcomePieces o ++ ["\n"]))

/-- A console with more bytes on it. -/
def plus (c : Console) (bs : List UInt8) : Console := { c with written := c.written ++ bs }

variable {c : Console}

@[simp] theorem room_plus (c : Console) (bs : List UInt8) : (c.plus bs).room = c.room := rfl

theorem plus_nil (c : Console) : c.plus [] = c := by simp [Console.plus]

theorem plus_plus (c : Console) (as bs : List UInt8) :
    (c.plus as).plus bs = c.plus (as ++ bs) := by
  simp [Console.plus]

/-- Some bytes and then others are put like all of them at once, unless the first do not fit. -/
theorem put_append (c : Console) (as bs : List UInt8) :
    c.put (as ++ bs) = if (c.put as).2 then (c.put as).1.put bs else c.put as := by
  unfold put
  cases hroom : c.room with
  | none => simp
  | some n =>
    by_cases hfit : as.length ≤ n
    · have hle : as.length + bs.length ≤ n ↔ bs.length ≤ n - as.length := by omega
      simp [hfit, List.take_append, List.take_of_length_le hfit, Nat.sub_sub, hle]
    · have hlt : n ≤ as.length := by omega
      have hmore : ¬ as.length + bs.length ≤ n := by omega
      simp [hfit, hmore, List.take_append, Nat.sub_eq_zero_of_le hlt]
      omega

/-- Pieces come to what their text comes to as a whole: behind the first that does not fit there is no
room for another. -/
theorem putAll_eq_put (c : Console) (pieces : List String) :
    c.putAll pieces = c.put (Text.bytes (String.join pieces)) := by
  induction pieces generalizing c with
  | nil =>
    obtain ⟨room, written, lost⟩ := c
    cases room <;> simp [putAll, put, Text.bytes]
  | cons piece pieces ih =>
    rw [String.join_cons, Text.bytes_append, put_append, putAll]
    obtain ⟨c', whole⟩ := c.put (Text.bytes piece)
    cases whole with
    | true => exact ih c'
    | false => rfl

/-- A console without an end takes all pieces. -/
theorem putAll_of_endless (h : c.room = none) (pieces : List String) :
    c.putAll pieces = (c.plus (Text.bytes (String.join pieces)), true) := by
  simp only [putAll_eq_put, put, h, plus]

/-- The lines stand in the order in which the outcomes arrived. -/
theorem foldl_report (h : c.room = none) (outcomes : List Outcome) :
    outcomes.foldl report c = c.plus (nodeLines outcomes) := by
  induction outcomes generalizing c with
  | nil => exact (plus_nil c).symm
  | cons o os ih =>
    have hline : c.report o =
        c.plus (Text.bytes (String.join (outcomePieces o ++ ["\n"]))) := by
      simp only [report, line, putAll_of_endless h, Bool.not_true, Bool.or_false]
    rw [List.foldl_cons, hline, ih (by simpa using h), plus_plus]
    rfl

theorem summary_of_endless (h : c.room = none) (s : Stats) :
    c.summary s = (c.plus (Text.bytes s.summary), true) := by
  simp [summary, putAll_of_endless h, h, Stats.summary]

end Console

/-! ## Failures -/

open Text Json

theorem StarType.failsOnly_read : FailsOnly StarType.shape.read Fault.InLine := by
  refine Shape.failsOnly_read (by decide) fun f hf => ?_
  simp only [StarType.shape, List.mem_cons, List.not_mem_nil, or_false] at hf
  rcases hf with rfl | rfl
  · exact .of (by decide) (.map _ failsOnly_readText)
  · exact .of (by decide) failsOnly_readText

theorem Position.failsOnly_read : FailsOnly Position.shape.read Fault.InLine := by
  refine Shape.failsOnly_read (by decide) fun f hf => ?_
  simp only [Position.shape, List.mem_cons, List.not_mem_nil, or_false] at hf
  rcases hf with rfl | rfl | rfl <;> exact .of (by decide) failsOnly_readFloat

theorem Record.failsOnly_read : FailsOnly Record.shape.read Fault.InLine := by
  refine Shape.failsOnly_read (by decide) fun f hf => ?_
  simp only [Record.shape, List.mem_cons, List.not_mem_nil, or_false] at hf
  rcases hf with rfl | rfl | rfl | rfl
  · exact .of (by decide) failsOnly_readText
  · exact .of (by decide) StarType.failsOnly_read
  · exact .of (by decide) Position.failsOnly_read
  · exact .of (by decide) failsOnly_readInstant

/-- What is said of a failed fetch is a line on either side of the address, whatever came back. -/
theorem Contact.message_of_fetch {link : Link} {c : Contact} {e : FetchError}
    (h : c.fetch link = .error e) :
    ∃ front back, e.message = front ++ e.address ++ back ∧ IsLine front ∧ IsLine back := by
  unfold Contact.fetch at h
  cases hurl : Network.Url.ofAddress? c.address with
  | none =>
    rw [hurl] at h
    cases h
    exact ⟨"could not reach ", ": builder error", rfl, by decide, by decide⟩
  | some url =>
    -- a cause with the URL behind it
    have hbehind : ∀ cause, IsLine cause → IsLine (cause ++ url.text ++ ")") := by
      intro cause hcause
      rw [isLine_append, isLine_append]
      exact ⟨⟨hcause, Network.Url.isLine_text hurl⟩, by decide⟩
    rw [hurl] at h
    dsimp only at h
    split at h
    · cases h
      refine ⟨"could not reach ", ": builder error for url (" ++ url.text ++ ")", ?_, by decide,
        hbehind _ (by decide)⟩
      simp only [FetchError.message, String.append_assoc]
    · split at h
      · cases h
        refine ⟨"could not reach ", ": error sending request for url (" ++ url.text ++ ")", ?_,
          by decide, hbehind _ (by decide)⟩
        simp only [FetchError.message, String.append_assoc]
      · cases h
        refine ⟨"could not reach ", ": error sending request for url (" ++ url.text ++ ")", ?_,
          by decide, hbehind _ (by decide)⟩
        simp only [FetchError.message, String.append_assoc]
      · cases h
        exact ⟨"could not read response from ", ": error decoding response body", rfl, by decide,
          by decide⟩
      · rename_i status body _
        obtain ⟨f, hdecode, rfl⟩ : ∃ f, Record.ofBytes body = .error f ∧
            (⟨c.address, .undecodable status f⟩ : FetchError) = e := by
          cases hdecode : Record.ofBytes body with
          | ok r => rw [hdecode] at h; cases h
          | error f =>
            rw [hdecode] at h
            exact ⟨f, rfl, Except.error.inj h⟩
        have hmessage := isLine_message_of_decode Record.failsOnly_read hdecode
        refine ⟨"invalid system data from ",
          " (HTTP " ++ toString status ++ "): " ++ f.message, ?_, by decide, ?_⟩
        · simp only [FetchError.message, String.append_assoc]
        · simp only [isLine_append]
          exact ⟨⟨⟨by decide, isLine_nat status⟩, by decide⟩, hmessage⟩

/-! ## Lines -/

/-- A failure of this outcome is one that some fetch ends with. -/
def Outcome.IsFetched (o : Outcome) : Prop :=
  ∀ e, o.result = .error e → ∃ link contact, Contact.fetch link contact = .error e

theorem Contact.isFetched_outcome (link : Link) (c : Contact) : (c.outcome link).IsFetched :=
  fun _ he => ⟨link, c, he⟩

namespace Console

variable {c : Console}

/-- The text about an outcome, without the end of its line. -/
def outcomeText (o : Outcome) : String := String.join (outcomePieces o)

/-- What others have put into the text about an outcome. The address of a failure stands in it twice. -/
def foreignTexts (o : Outcome) : List String :=
  match o.result with
  | .ok r => [o.address, r.name, r.starType.starClass.symbol, r.starType.description]
  | .error e => [e.address, e.address]

theorem nodeLines_eq (outcomes : List Outcome) :
    nodeLines outcomes = bytes (String.join (outcomes.map fun o => outcomeText o ++ "\n")) := by
  induction outcomes with
  | nil => rfl
  | cons o os ih =>
    rw [List.map_cons, String.join_cons, bytes_append, ← ih, nodeLines, List.flatMap_cons,
      String.join_append]
    rfl

/-- All ends of line in the text about an outcome stand in what others have put into it. -/
theorem lineEnds_outcomeText {o : Outcome} (h : o.IsFetched) :
    lineEnds (outcomeText o) = ((foreignTexts o).map lineEnds).sum := by
  unfold outcomeText outcomePieces foreignTexts
  rw [lineEnds_join]
  cases hresult : o.result with
  | ok r =>
    have hpieces : lineEnds "Received data from " = 0 ∧ lineEnds ": " = 0 ∧
        lineEnds " (class " = 0 ∧ lineEnds ", " = 0 ∧ lineEnds ")" = 0 := by decide
    simp only [recordPieces, List.map_cons, List.map_nil, List.sum_cons, List.sum_nil]
    omega
  | error e =>
    obtain ⟨link, contact, hfetch⟩ := h e hresult
    obtain ⟨front, back, hmessage, hfront, hback⟩ := Contact.message_of_fetch hfetch
    have hpieces : lineEnds "Failed to fetch data from " = 0 ∧ lineEnds " (" = 0 ∧
        lineEnds " error): " = 0 := by decide
    have hstage : lineEnds e.stage.text = 0 := by cases e.stage <;> decide
    have hends : lineEnds e.message = lineEnds e.address := by
      rw [hmessage, lineEnds_append, lineEnds_append, lineEnds_eq_zero_iff.mpr hfront,
        lineEnds_eq_zero_iff.mpr hback, Nat.zero_add, Nat.add_zero]
    simp only [failurePieces, List.map_cons, List.map_nil, List.sum_cons, List.sum_nil, hends]
    omega

theorem lineEnds_join_outcomeText {outcomes : List Outcome} (h : ∀ o ∈ outcomes, o.IsFetched) :
    lineEnds (String.join (outcomes.map fun o => outcomeText o ++ "\n")) =
      outcomes.length + ((outcomes.flatMap foreignTexts).map lineEnds).sum := by
  induction outcomes with
  | nil => decide
  | cons o os ih =>
    rw [List.forall_mem_cons] at h
    have hend : lineEnds "\n" = 1 := by decide
    rw [List.map_cons, String.join_cons, lineEnds_append, lineEnds_append, ih h.2,
      lineEnds_outcomeText h.1, hend, List.length_cons, List.flatMap_cons, List.map_append,
      List.sum_append]
    omega

theorem isLine_outcomeText_iff {o : Outcome} (h : o.IsFetched) :
    IsLine (outcomeText o) ↔ ∀ s ∈ foreignTexts o, IsLine s := by
  rw [← lineEnds_eq_zero_iff, lineEnds_outcomeText h, List.sum_eq_zero_iff_forall_eq_nat,
    List.forall_mem_map]
  exact forall₂_congr fun _ _ => lineEnds_eq_zero_iff

/-- **One line each.** A console without an end takes the text about each outcome as it arrives, with
an end of line behind it. What else there is of ends of line stands in the addresses, and in the name,
the class and the description of a record; a failure has none of its own, whatever came back from the
node. So each outcome has one line if and only if no end of line stands in any of these texts. -/
theorem report_one_line_each (hroom : c.room = none) {outcomes : List Outcome}
    (h : ∀ o ∈ outcomes, o.IsFetched) :
    let text := String.join (outcomes.map fun o => outcomeText o ++ "\n")
    let foreign := outcomes.flatMap foreignTexts
    (outcomes.foldl report c).written = c.written ++ bytes text ∧
    (outcomes.foldl report c).lineLost = c.lineLost ∧
    lineEnds text = outcomes.length + (foreign.map lineEnds).sum ∧
    ((∀ o ∈ outcomes, IsLine (outcomeText o)) ↔ ∀ s ∈ foreign, IsLine s) := by
  intro text foreign
  have hreport := foldl_report hroom outcomes
  refine ⟨?_, ?_, lineEnds_join_outcomeText h, ?_⟩
  · rw [hreport, nodeLines_eq]
    rfl
  · rw [hreport]
    rfl
  · rw [List.forall_mem_flatMap]
    exact forall₂_congr fun o ho => isLine_outcomeText_iff (h o ho)

/-- A record and a failure, with a line each. -/
theorem report_one_line_each_of_two_outcomes :
    let start : Calendar.Instant := ⟨0, 0, 0, by decide, by decide, by decide⟩
    let sol : Record := ⟨"Sol", ⟨.g, "Yellow dwarf"⟩, .origin, start⟩
    let outcomes : List Outcome := [⟨"a:1", .ok sol⟩, Contact.outcome .up ⟨"b:2", .dropped⟩]
    (outcomes.foldl report endless).written =
      bytes (String.join (outcomes.map fun o => outcomeText o ++ "\n")) ∧
    ∀ o ∈ outcomes, IsLine (outcomeText o) := by
  intro start sol outcomes
  have hfetched : ∀ o ∈ outcomes, o.IsFetched := by
    intro o ho
    simp only [outcomes, List.mem_cons, List.not_mem_nil, or_false] at ho
    rcases ho with rfl | rfl
    · exact fun _ he => nomatch he
    · exact Contact.isFetched_outcome _ _
  obtain ⟨hwritten, -, -, hlines⟩ := report_one_line_each (c := endless) rfl hfetched
  exact ⟨hwritten, hlines.mpr (by decide +kernel)⟩

/-- The name in this body has an end of line in it. A node that sends it writes two lines, and they are
those of two nodes with a system each. -/
theorem report_of_a_name_with_an_end_of_line :
    let start : Calendar.Instant := ⟨0, 0, 0, by decide, by decide, by decide⟩
    let sol : Record := ⟨"Sol", ⟨.g, "Yellow dwarf"⟩, .origin, start⟩
    let vega : Record := ⟨"Vega", ⟨.a, "White"⟩, .origin, start⟩
    let name := "Sol (class G, Yellow dwarf)\nReceived data from b:2: Vega"
    let record : Record := ⟨name, ⟨.a, "White"⟩, .origin, start⟩
    Record.ofBytes (bytes record.toValue.compact) = .ok record ∧
    (endless.report ⟨"a:1", .ok record⟩).written =
      ((endless.report ⟨"a:1", .ok sol⟩).report ⟨"b:2", .ok vega⟩).written ∧
    lineEnds (outcomeText ⟨"a:1", .ok record⟩ ++ "\n") = 2 := by
  decide +kernel

end Console

end StarSurvey
