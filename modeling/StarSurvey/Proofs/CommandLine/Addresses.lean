import Mathlib.Data.List.TakeWhile
import StarSurvey.Proofs.CommandLine.Occurrences

/-!
# The addresses of a command line

However the entries of a list are distributed over the values of a flag that may be repeated, with
whatever blanks and commas, the addresses are these entries in their order.

- **Trimming** (`Text.trim_padded`, `Text.exists_pads`): what is left has blanks around it in the text,
  and none at its own ends.
- **Entries** (`entries`, `IsEntry`): what stands between commas, trimmed, unless it is empty.
- **Distribution** (`Distributes`, `distributes_iff`): values say entries if they have them between their
  commas, with blanks around them or between commas of their own.
- **Addresses** (`read_gathers_addresses`).
-/

namespace StarSurvey

/-! ## Trimming -/

namespace Text

/-- A text has no blank in front and none at its end. -/
structure IsTrimmed (s : String) : Prop where
  first : ∀ c ∈ s.toList.head?, isBlank c = false
  last : ∀ c ∈ s.toList.getLast?, isBlank c = false

theorem dropWhile_isBlank_append {front cs : List Char} (hfront : ∀ c ∈ front, isBlank c = true)
    (hcs : ∀ c ∈ cs.head?, isBlank c = false) : (front ++ cs).dropWhile isBlank = cs := by
  rw [List.dropWhile_append_of_pos hfront]
  cases cs with
  | nil => rfl
  | cons c cs => rw [List.dropWhile_cons, hcs c rfl, if_neg Bool.false_ne_true]

theorem isAllBlank_iff {s : String} : isAllBlank s = true ↔ ∀ c ∈ s.toList, isBlank c = true :=
  List.all_eq_true

theorem trim_of_isAllBlank {s : String} (h : isAllBlank s = true) : trim s = "" := by
  have hstart : trimStart s.toList = [] := by
    rw [trimStart, List.dropWhile_eq_nil_iff]
    exact isAllBlank_iff.mp h
  rw [trim, hstart]
  rfl

/-- Blanks around a text are dropped. -/
theorem trim_padded {front s back : String} (hfront : isAllBlank front = true)
    (hback : isAllBlank back = true) (hs : IsTrimmed s) (hne : s ≠ "") :
    trim (front ++ s ++ back) = s := by
  have hcs : s.toList ≠ [] := fun h => hne (String.toList_inj.mp h)
  have hstart : trimStart (front ++ s ++ back).toList = s.toList ++ back.toList := by
    rw [String.toList_append, String.toList_append, List.append_assoc]
    refine dropWhile_isBlank_append (isAllBlank_iff.mp hfront) ?_
    rw [List.head?_append_of_ne_nil _ hcs]
    exact hs.first
  have hend : trimEnd (s.toList ++ back.toList) = s.toList := by
    rw [trimEnd, List.reverse_append, dropWhile_isBlank_append, List.reverse_reverse]
    · exact fun c hc => isAllBlank_iff.mp hback c (List.mem_reverse.mp hc)
    · rw [List.head?_reverse]
      exact hs.last
  rw [trim, hstart, hend, String.ofList_toList]

theorem trimEnd_append (cs : List Char) :
    trimEnd cs ++ (cs.reverse.takeWhile isBlank).reverse = cs := by
  rw [trimEnd, ← List.reverse_append, List.takeWhile_append_dropWhile, List.reverse_reverse]

/-- What is dropped is blank. -/
theorem exists_pads (s : String) : ∃ front back, isAllBlank front = true ∧ isAllBlank back = true ∧
    s = front ++ trim s ++ back := by
  refine ⟨String.ofList (s.toList.takeWhile isBlank),
    String.ofList ((trimStart s.toList).reverse.takeWhile isBlank).reverse, ?_, ?_, ?_⟩
  · rw [isAllBlank_iff, String.toList_ofList]
    exact fun c hc => List.mem_takeWhile_imp hc
  · rw [isAllBlank_iff, String.toList_ofList]
    exact fun c hc => List.mem_takeWhile_imp (List.mem_reverse.mp hc)
  · apply String.toList_inj.mp
    rw [trim]
    simp only [String.toList_append, String.toList_ofList, List.append_assoc]
    rw [trimEnd_append]
    exact List.takeWhile_append_dropWhile.symm

theorem isBlank_of_head?_dropWhile {cs : List Char} {c : Char}
    (h : c ∈ (cs.dropWhile isBlank).head?) : isBlank c = false := by
  have hnot := List.head?_dropWhile_not isBlank cs
  rw [Option.mem_def.mp h] at hnot
  simpa using hnot

theorem isTrimmed_trim (s : String) : IsTrimmed (trim s) := by
  have htrim : (trim s).toList = trimEnd (trimStart s.toList) := String.toList_ofList
  constructor
  · intro c hc
    -- what is left at the end begins as it did before the end was dropped
    have hhead : c ∈ (trimStart s.toList).head? := by
      rw [← trimEnd_append (trimStart s.toList), ← htrim, List.head?_append, Option.mem_def.mp hc]
      rfl
    exact isBlank_of_head?_dropWhile hhead
  · intro c hc
    rw [htrim, trimEnd, List.getLast?_reverse] at hc
    exact isBlank_of_head?_dropWhile hc

end Text

namespace CommandLine

/-! ## Entries -/

/-- What stands between the commas of a text, trimmed, unless it is empty. -/
def entries (text : String) : List String :=
  ((Text.split ',' text).map Text.trim).filter fun e => !e.isEmpty

/-- A text that can be an entry: not empty, with no comma, and with no blanks at its ends. -/
structure IsEntry (e : String) : Prop where
  ne_empty : e ≠ ""
  no_comma : ',' ∉ e.toList
  trimmed : Text.IsTrimmed e

theorem isEntry_of_mem_entries {e text : String} (h : e ∈ entries text) : IsEntry e := by
  obtain ⟨hmem, hne⟩ := List.mem_filter.mp h
  obtain ⟨part, hpart, rfl⟩ := List.mem_map.mp hmem
  refine ⟨by simpa using hne, fun hcomma => ?_, Text.isTrimmed_trim part⟩
  obtain ⟨cs, hcs, rfl⟩ := List.mem_map.mp hpart
  obtain ⟨front, back, -, -, hpads⟩ := Text.exists_pads (String.ofList cs)
  refine Text.not_mem_of_mem_splitAt hcs ?_
  rw [← String.toList_ofList (l := cs), hpads]
  simp [hcomma]

theorem entries_append_comma (s t : String) : entries (s ++ "," ++ t) = entries s ++ entries t := by
  have hsplit : Text.split ',' (s ++ "," ++ t) = Text.split ',' s ++ Text.split ',' t := by
    rw [Text.split, Text.split, Text.split, ← List.map_append, ← Text.splitAt_append_sep]
    simp
  rw [entries, hsplit, List.map_append, List.filter_append]
  rfl

theorem entries_intercalate (values : List String) :
    entries (",".intercalate values) = values.flatMap entries := by
  induction values with
  | nil => rfl
  | cons value values ih =>
    cases values with
    | nil => rw [String.intercalate_singleton, List.flatMap_cons, List.flatMap_nil, List.append_nil]
    | cons next values =>
      rw [String.intercalate_cons_cons, entries_append_comma, ih]
      rfl

theorem entries_of_not_mem {part : String} (h : ',' ∉ part.toList) :
    entries part = if Text.trim part = "" then [] else [Text.trim part] := by
  rw [entries, Text.split, Text.splitAt_of_not_mem h, List.map_singleton, String.ofList_toList,
    List.map_singleton, List.filter_singleton]
  by_cases hempty : Text.trim part = ""
  · rw [hempty]
    rfl
  · rw [if_neg hempty, (Bool.not_eq_true _).mp (mt String.isEmpty_iff.mp hempty)]
    rfl

/-! ## Distribution -/

/-- What stands between two commas, with the entries that it says: at most one, and none if there are
only blanks. -/
inductive Part : String → List String → Prop where
  | blank {part : String} (h : Text.isAllBlank part = true) : Part part []
  | entry {e front back : String} (he : IsEntry e) (hfront : Text.isAllBlank front = true)
      (hback : Text.isAllBlank back = true) : Part (front ++ e ++ back) [e]

/-- A value with the entries that it says between its commas. -/
inductive Lists : String → List String → Prop where
  | last {part : String} {es : List String} (h : Part part es) : Lists part es
  | more {part value : String} {es es' : List String} (h : Part part es) (more : Lists value es') :
    Lists (part ++ "," ++ value) (es ++ es')

/-- Values over which entries are distributed in their order. -/
inductive Distributes : List String → List String → Prop where
  | nil : Distributes [] []
  | cons {value : String} {values es es' : List String} (h : Lists value es)
      (more : Distributes values es') : Distributes (value :: values) (es ++ es')

theorem not_mem_of_isAllBlank {s : String} (h : Text.isAllBlank s = true) : ',' ∉ s.toList :=
  fun hmem => absurd (Text.isAllBlank_iff.mp h ',' hmem) (by decide)

theorem Part.entries_eq {part : String} {es : List String} (h : Part part es) : entries part = es := by
  cases h with
  | blank hblank =>
    rw [entries_of_not_mem (not_mem_of_isAllBlank hblank), if_pos (Text.trim_of_isAllBlank hblank)]
  | @entry e front back he hfront hback =>
    have hcomma : ',' ∉ (front ++ e ++ back).toList := by
      simp [he.no_comma, not_mem_of_isAllBlank hfront, not_mem_of_isAllBlank hback]
    have htrim := Text.trim_padded hfront hback he.trimmed he.ne_empty
    rw [entries_of_not_mem hcomma, htrim, if_neg he.ne_empty]

theorem exists_part {part : String} (h : ',' ∉ part.toList) : ∃ es, Part part es := by
  obtain ⟨front, back, hfront, hback, hpads⟩ := Text.exists_pads part
  by_cases hempty : Text.trim part = ""
  · refine ⟨[], .blank ?_⟩
    rw [hpads, hempty, Text.isAllBlank, String.toList_append, String.toList_append,
      List.all_append, List.all_append]
    exact Bool.and_eq_true_iff.mpr ⟨Bool.and_eq_true_iff.mpr ⟨hfront, rfl⟩, hback⟩
  · have hmem : Text.trim part ∈ entries part := by
      rw [entries_of_not_mem h, if_neg hempty]
      exact List.mem_singleton_self _
    have hentry := Part.entry (isEntry_of_mem_entries hmem) hfront hback
    rw [← hpads] at hentry
    exact ⟨_, hentry⟩

theorem Lists.entries_eq {value : String} {es : List String} (h : Lists value es) :
    entries value = es := by
  induction h with
  | last h => exact h.entries_eq
  | more h _ ih => rw [entries_append_comma, h.entries_eq, ih]

/-- Every value says some entries: those of its first part, and those behind the first comma. -/
theorem exists_lists (value : String) : ∃ es, Lists value es := by
  by_cases h : ',' ∈ value.toList
  · obtain ⟨part, rest, hvalue, hpart⟩ := List.eq_append_cons_of_mem h
    obtain ⟨es, hes⟩ := exists_part (by simpa using hpart : ',' ∉ (String.ofList part).toList)
    obtain ⟨es', hes'⟩ := exists_lists (String.ofList rest)
    have hjoined : value = String.ofList part ++ "," ++ String.ofList rest :=
      String.toList_inj.mp (by simp [hvalue])
    exact hjoined ▸ ⟨es ++ es', .more hes hes'⟩
  · obtain ⟨es, hes⟩ := exists_part h
    exact ⟨es, .last hes⟩
termination_by value.toList.length
decreasing_by
  simp only [String.toList_ofList, hvalue, List.length_append, List.length_cons]
  omega

theorem lists_iff {value : String} {es : List String} : Lists value es ↔ entries value = es := by
  refine ⟨Lists.entries_eq, ?_⟩
  rintro rfl
  obtain ⟨es, hes⟩ := exists_lists value
  rwa [hes.entries_eq]

theorem distributes_iff {values es : List String} :
    Distributes values es ↔ values.flatMap entries = es := by
  constructor
  · intro h
    induction h with
    | nil => rfl
    | cons h _ ih => rw [List.flatMap_cons, h.entries_eq, ih]
  · rintro rfl
    induction values with
    | nil => exact .nil
    | cons value values ih => exact .cons (lists_iff.mpr rfl) ih

/-! ## Addresses -/

section Addresses

variable {line : List String} {os : List Occurrence} {a : Arguments}

theorem addresses_eq (hline : IsLineOf os line) (h : read line = .ok a) :
    a.addresses = (valuesOf .nodes os).flatMap entries := by
  obtain ⟨-, b, -, rfl⟩ := (read_eq_ok_iff_apart hline).mp h
  rw [Arguments.addresses, List.map_flatMap, List.filter_flatMap]
  rfl

/-- **The addresses of a command line.** A command line that is read is a row of flags with their
values. Its addresses are what stands between the commas of all values of the node flag, joined by
commas in their order, trimmed, unless it is empty: so they are entries, and those that are said by
the values, however these say them. Another line whose values say the same entries gives the same
addresses, if it is read; and it is if the other flags say the same and some node flag is there. -/
theorem read_gathers_addresses (h : read line = .ok a) :
    (∃ os, IsLineOf os line) ∧
    (∀ e ∈ a.addresses, IsEntry e) ∧
    (∀ os, IsLineOf os line → a.addresses = entries (",".intercalate (valuesOf .nodes os))) ∧
    (∀ os es, IsLineOf os line → (Distributes (valuesOf .nodes os) es ↔ a.addresses = es)) ∧
    (∀ os os' line' es, IsLineOf os line → IsLineOf os' line' →
      Distributes (valuesOf .nodes os) es → Distributes (valuesOf .nodes os') es →
      (∀ a', read line' = .ok a' → a'.addresses = a.addresses) ∧
      (others .nodes os' = others .nodes os → valuesOf .nodes os' ≠ [] →
        ∃ nodes, read line' = .ok { a with nodes := nodes } ∧
          Arguments.addresses { a with nodes := nodes } = a.addresses)) := by
  have hgiven : ∀ {os line a es}, IsLineOf os line → read line = .ok a →
      (Distributes (valuesOf .nodes os) es ↔ a.addresses = es) := by
    intro os line a es hline h
    rw [distributes_iff, addresses_eq hline h]
  refine ⟨exists_isLineOf h, ?_, ?_, fun os es hline => hgiven hline h, ?_⟩
  · intro e he
    obtain ⟨os, hline⟩ := exists_isLineOf h
    rw [addresses_eq hline h, ← entries_intercalate] at he
    exact isEntry_of_mem_entries he
  · intro os hline
    rw [entries_intercalate]
    exact addresses_eq hline h
  · intro os os' line' es hline hline' hes hes'
    have hsame : ∀ a', read line' = .ok a' → a'.addresses = a.addresses := fun a' h' =>
      ((hgiven hline' h').mp hes').trans ((hgiven hline h).mp hes).symm
    refine ⟨hsame, fun hothers hnodes => ?_⟩
    have h' := read_of_same_others hline hline' hothers hnodes h
    exact ⟨_, h', hsame _ h'⟩

/-- Three entries of two values, with an empty one between them and another behind the last comma, are
those of one value in which a blank is no space. -/
theorem read_gathers_addresses_of_two_lines :
    let line := ["galaxy-collector", "-nodes", " a:1 ,,b:1", "--timeout-secs=3", "--nodes=b:1,", "-o", "x"]
    let line' := ["galaxy-collector", "-timeout-secs", "3", "-o=x", "--nodes", "a:1,\u00a0b:1 ,b:1"]
    let a := Arguments.mk [" a:1 ", "", "b:1", "b:1", ""] (some "x") (some 3) none none none
    read line = .ok a ∧ a.addresses = ["a:1", "b:1", "b:1"] ∧ (∀ e ∈ a.addresses, IsEntry e) ∧
      ∃ nodes, read line' = .ok { a with nodes := nodes } ∧
        Arguments.addresses { a with nodes := nodes } = a.addresses := by
  intro line line' a
  have hread : read line = .ok a := rfl
  have hline : IsLineOf [⟨.nodes, " a:1 ,,b:1"⟩, ⟨.timeoutSecs, "3"⟩, ⟨.nodes, "b:1,"⟩, ⟨.output, "x"⟩]
      line :=
    ⟨_, _, rfl, .apart rfl (.single .nodes) (by decide) (.joined rfl (.equals (.double .timeoutSecs) "3")
      (.joined rfl (.equals (.double .nodes) "b:1,") (.apart rfl (.short rfl) (by decide) .nil)))⟩
  have hline' : IsLineOf [⟨.timeoutSecs, "3"⟩, ⟨.output, "x"⟩, ⟨.nodes, "a:1,\u00a0b:1 ,b:1"⟩] line' :=
    ⟨_, _, rfl, .apart rfl (.single .timeoutSecs) (by decide) (.joined rfl
      (.equals (.short rfl : Calls .output "-o") "x") (.apart rfl (.double .nodes) (by decide) .nil))⟩
  obtain ⟨-, hentries, -, hgiven, hsame⟩ := read_gathers_addresses hread
  have haddresses : a.addresses = ["a:1", "b:1", "b:1"] := by decide
  have hdistributes := (hgiven _ ["a:1", "b:1", "b:1"] hline).mpr haddresses
  exact ⟨hread, haddresses, hentries, (hsame _ _ line' _ hline hline' hdistributes
    (distributes_iff.mpr (by decide))).2 rfl (by decide)⟩

end Addresses

end CommandLine

end StarSurvey
