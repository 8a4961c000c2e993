import StarSurvey.Misfit
import StarSurvey.Decimal.Fixed
import StarSurvey.Proofs.Text

/-!
# Texts that stand on one line

- **Lines** (`IsLine`): a text without an end of line. What is put together of lines is one.
- **Numbers** (`isLine_fixed`, `isLine_layout`): whatever number it is, its text is a line.
- **Quoted texts** (`isLine_quoted`): between double quotes an end of line is spelled out.
-/

namespace StarSurvey.Text

/-- A text without an end of line. -/
def IsLine (s : String) : Prop := '\n' ∉ s.toList

instance (s : String) : Decidable (IsLine s) := inferInstanceAs (Decidable ('\n' ∉ s.toList))

/-- How many ends of line there are in a text. -/
def lineEnds (s : String) : ℕ := s.toList.count '\n'

theorem lineEnds_eq_zero_iff {s : String} : lineEnds s = 0 ↔ IsLine s := List.count_eq_zero

theorem lineEnds_append (s t : String) : lineEnds (s ++ t) = lineEnds s + lineEnds t := by
  rw [lineEnds, String.toList_append, List.count_append]
  rfl

theorem lineEnds_join (ss : List String) : lineEnds (String.join ss) = (ss.map lineEnds).sum := by
  rw [lineEnds, String.toList_join, List.count_flatMap]
  rfl

@[simp] theorem isLine_append {s t : String} : IsLine (s ++ t) ↔ IsLine s ∧ IsLine t := by
  simp [IsLine]

@[simp] theorem isLine_ofList {cs : List Char} : IsLine (String.ofList cs) ↔ '\n' ∉ cs := by
  simp [IsLine]

theorem not_mem_intercalate {sep : List Char} {ls : List (List Char)} (hsep : '\n' ∉ sep)
    (hls : ∀ l ∈ ls, '\n' ∉ l) : '\n' ∉ sep.intercalate ls := by
  induction ls with
  | nil => exact List.not_mem_nil
  | cons l ls ih =>
    rw [List.forall_mem_cons] at hls
    cases ls with
    | nil => simpa using hls.1
    | cons m ls =>
      rw [List.intercalate_cons_cons, List.mem_append, List.mem_append, not_or, not_or]
      exact ⟨⟨hls.1, hsep⟩, ih hls.2⟩

theorem isLine_intercalate {sep : String} {ts : List String} (hsep : IsLine sep)
    (hts : ∀ t ∈ ts, IsLine t) : IsLine (sep.intercalate ts) := by
  rw [IsLine, String.toList_intercalate]
  refine not_mem_intercalate hsep fun l hl => ?_
  obtain ⟨t, ht, rfl⟩ := List.mem_map.mp hl
  exact hts t ht

/-- With an end behind each of them, so many lines have so many ends. -/
theorem lineEnds_join_lines {ss : List String} (h : ∀ s ∈ ss, IsLine s) :
    lineEnds (String.join (ss.map (· ++ "\n"))) = ss.length := by
  have hone : ∀ s ∈ ss, lineEnds (s ++ "\n") = 1 := by
    intro s hs
    rw [lineEnds_append, lineEnds_eq_zero_iff.mpr (h s hs)]
    decide
  have hones : ss.map (lineEnds ∘ (· ++ "\n")) = ss.map fun _ => 1 := List.map_congr_left hone
  rw [lineEnds_join, List.map_map, hones, List.map_const', List.sum_replicate_nat, Nat.mul_one]

/-! ## Numbers -/

theorem AllDigits.not_mem {ds : List Char} (h : AllDigits ds) : '\n' ∉ ds :=
  fun hmem => absurd (h _ hmem) (by decide)

theorem not_mem_toDigitsCore (base fuel n : ℕ) {ds : List Char} (h : '\n' ∉ ds) :
    '\n' ∉ Nat.toDigitsCore base fuel n ds := by
  induction fuel generalizing n ds with
  | zero => exact h
  | succ fuel ih =>
    have hcons : '\n' ∉ (n % base).digitChar :: ds := by
      rw [List.mem_cons, not_or]
      exact ⟨(Nat.digitChar_ne '\n' (by decide)).symm, h⟩
    rw [Nat.toDigitsCore]
    split
    · exact hcons
    · exact ih _ hcons

theorem not_mem_toDigits (base n : ℕ) : '\n' ∉ Nat.toDigits base n :=
  not_mem_toDigitsCore base (n + 1) n List.not_mem_nil

theorem isLine_nat (n : ℕ) : IsLine (toString n) := by
  rw [Nat.toString_eq_repr, Nat.repr_eq_ofList_toDigits, isLine_ofList]
  exact not_mem_toDigits 10 n

theorem isLine_int (n : ℤ) : IsLine (toString n) := by
  cases n with
  | ofNat n => exact isLine_nat n
  | negSucc n =>
    show IsLine ("-" ++ toString (n + 1))
    rw [isLine_append]
    exact ⟨by simp [IsLine], isLine_nat _⟩

theorem not_mem_withPoint (n places : ℕ) : '\n' ∉ Decimal.withPoint n places := by
  have hpadded : AllDigits (List.replicate (places + 1 - (Nat.toDigits 10 n).length) '0' ++
      Nat.toDigits 10 n) := (allDigits_replicate _).append (allDigits_toDigits n)
  have hwhole := (hpadded.take · |>.not_mem)
  have hbehind := (hpadded.drop · |>.not_mem)
  unfold Decimal.withPoint
  split <;> simp [hwhole, hbehind]

/-- With a fixed number of places. -/
theorem isLine_fixed (places : ℕ) (x : Float) : IsLine (Decimal.fixed places x) := by
  unfold Decimal.fixed
  split
  · simp [IsLine]
  · split <;> simp [IsLine]
  · dsimp only
    split <;> simp [IsLine, not_mem_withPoint]

theorem not_mem_positional {ds : List Char} (h : AllDigits ds) (point : ℤ) :
    '\n' ∉ Decimal.Layout.positional ds point := by
  have htake := (h.take · |>.not_mem)
  have hdrop := (h.drop · |>.not_mem)
  unfold Decimal.Layout.positional
  split
  · simp [h.not_mem]
  · dsimp only
    split <;> simp [htake, hdrop]

theorem not_mem_scientific {ds : List Char} (h : AllDigits ds) (lead : ℤ) :
    '\n' ∉ Decimal.Layout.scientific ds lead := by
  have hds := h.not_mem
  unfold Decimal.Layout.scientific
  simp only [List.mem_append, not_or]
  refine ⟨⟨?_, ?_⟩, not_mem_toDigits _ _⟩
  · split <;> simp_all
  · split <;> decide

/-- With as many places as it takes. -/
theorem isLine_layout (l : Decimal.Layout) (x : Float) : IsLine (l.text x) := by
  have hwrite : ∀ d, '\n' ∉ l.write d := by
    intro d
    unfold Decimal.Layout.write
    dsimp only
    split
    · exact not_mem_positional (allDigits_toDigits _) _
    · exact not_mem_scientific (allDigits_toDigits _) _
  unfold Decimal.Layout.text
  split
  · simp [IsLine]
  · split <;> simp [IsLine]
  · dsimp only
    split <;> split <;> simp [IsLine, hwrite]

/-! ## Quoted texts -/

theorem not_mem_quotedChar (c : Char) : '\n' ∉ quotedChar c := by
  unfold quotedChar
  split
  · decide
  · decide
  · decide
  · decide
  · decide
  · decide
  · rename_i hend _ _
    split
    · simp [hex, not_mem_toDigits]
    · rw [List.mem_singleton]
      exact Ne.symm hend

/-- In quotes no end of line stands as it is. -/
theorem isLine_quoted (s : String) : IsLine (quoted s) := by
  rw [quoted, isLine_ofList]
  simp [not_mem_quotedChar]

end StarSurvey.Text
