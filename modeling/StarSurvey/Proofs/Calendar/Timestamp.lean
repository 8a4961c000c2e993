import StarSurvey.Calendar.Reader
import StarSurvey.Calendar.Timestamp
import StarSurvey.Proofs.Calendar.Date
import StarSurvey.Proofs.Reader
import StarSurvey.Proofs.Text

/-!
# Timestamps that are read back

- **Numbers** (`reads_padded`): a number filled up with zeros is read as that number, if nothing more
  of it follows.
- **Parts** (`reads_readSignedYear`, `reads_fractionText`): years with and without a sign, and fractions of
  three, six and nine digits.
- **Instants** (`ofText_timestamp`): an instant is read back from its timestamp, leap seconds and
  signed years included.
-/

namespace StarSurvey.Calendar

open StarSurvey.Text (AllDigits allDigits_toDigits allDigits_replicate)

variable {rest : List Char}

/-! ## Numbers -/

/-- The next character is no digit. -/
def EndsRow (rest : List Char) : Prop := ∀ c ∈ rest.head?, c.isDigit = false

theorem takeWhile_row {ds : List Char} (hds : AllDigits ds) (hrest : EndsRow rest) :
    (ds ++ rest).takeWhile Char.isDigit = ds := by
  rw [List.takeWhile_append_of_pos hds]
  cases rest with
  | nil => simp
  | cons c cs => rw [List.takeWhile_cons, hrest c rfl]; simp

/-- A row of digits is read to its end, if it fits and no digit follows that would fit too. -/
theorem reads_readNumber {ds : List Char} (hds : AllDigits ds) (hne : ds ≠ []) {width : ℕ}
    (hwidth : ds.length ≤ width) (hend : ds.length = width ∨ EndsRow rest) :
    Reads (readNumber width) (ds ++ rest) (Nat.ofDigitChars 10 ds 0) rest := by
  have hrow : ((ds ++ rest).take width).takeWhile Char.isDigit = ds := by
    rw [List.take_append, List.take_of_length_le hwidth]
    apply takeWhile_row hds
    rcases hend with hfull | hrest
    · rw [hfull, Nat.sub_self, List.take_zero]
      exact fun _ h => nomatch h
    · intro c hc
      cases rest with
      | nil => rw [List.take_nil] at hc; cases hc
      | cons d cs =>
        cases hk : width - ds.length with
        | zero => rw [hk] at hc; cases hc
        | succ k =>
          rw [hk] at hc
          exact hrest c hc
  obtain ⟨d, more, rfl⟩ := List.exists_cons_of_ne_nil hne
  show (if d.isDigit then _ else _) = _
  rw [if_pos (hds d List.mem_cons_self)]
  rw [hrow, List.drop_left]
  rfl

theorem allDigits_padded (width n : ℕ) : AllDigits (padded width n) :=
  (allDigits_replicate _).append (allDigits_toDigits n)

theorem padded_ne_nil (width n : ℕ) : padded width n ≠ [] :=
  List.append_ne_nil_of_right_ne_nil _ Nat.toDigits_ne_nil

theorem length_padded {width n : ℕ} (hwidth : 0 < width) (hn : n < 10 ^ width) :
    (padded width n).length = width := by
  have hlength := (Nat.length_toDigits_le_iff (n := n) (b := 10) (by decide) hwidth).mpr hn
  simp only [padded, List.length_append, List.length_replicate]
  omega

theorem ofDigitChars_padded (width n : ℕ) : Nat.ofDigitChars 10 (padded width n) 0 = n := by
  rw [padded, Nat.ofDigitChars_append, Nat.ofDigitChars_replicate_zero, Nat.mul_zero,
    Nat.ofDigitChars_ten_toDigits]

/-- A number filled up to the width that is read is read as it is. -/
theorem reads_padded {width n : ℕ} (hwidth : 0 < width) (hn : n < 10 ^ width) :
    Reads (readNumber width) (padded width n ++ rest) n rest := by
  have hlength := length_padded hwidth hn
  have h : Reads (readNumber width) (padded width n ++ rest) _ rest :=
    reads_readNumber (allDigits_padded width n) (padded_ne_nil width n) hlength.le (.inl hlength)
  rwa [ofDigitChars_padded] at h

/-! ## Marks and blanks -/

theorem isBlank_of_isDigit {c : Char} (h : c.isDigit = true) : Text.isBlank c = false := by
  obtain ⟨hlow, hhigh⟩ := Char.isDigit_iff_toNat.mp h
  have h0 : '0'.toNat = 48 := rfl
  have h9 : '9'.toNat = 57 := rfl
  simp only [Text.isBlank, Bool.or_eq_false_iff, Bool.and_eq_false_iff, decide_eq_false_iff_not,
    beq_eq_false_iff_ne]
  omega

theorem reads_skipBlanks {c : Char} (h : Text.isBlank c = false) (cs : List Char) :
    Reads skipBlanks (c :: cs) () (c :: cs) := by
  show Except.ok ((), (c :: cs).dropWhile Text.isBlank) = _
  rw [List.dropWhile_cons, h]
  rfl

theorem reads_skipBlanks_digits {ds : List Char} (hds : AllDigits ds) (hne : ds ≠ []) :
    Reads skipBlanks (ds ++ rest) () (ds ++ rest) := by
  obtain ⟨d, more, rfl⟩ := List.exists_cons_of_ne_nil hne
  exact reads_skipBlanks (isBlank_of_isDigit (hds d List.mem_cons_self)) _

theorem reads_readChar {p : Char → Bool} {c : Char} (h : p c = true) (cs : List Char) :
    Reads (readChar p) (c :: cs) c cs := by
  show (if p c then _ else _) = _
  rw [if_pos h]

theorem reads_readMark {mark : Char} (h : Text.isBlank mark = false) (cs : List Char) :
    Reads (readMark mark) (mark :: cs) () cs :=
  (reads_skipBlanks h cs).bind ((reads_readChar (beq_self_eq_true mark) cs).map _)

/-- Two digits between their bounds. -/
theorem reads_readBetween {low high n : ℕ} (hlow : low ≤ n) (hhigh : n ≤ high) (hn : n < 100) :
    Reads (readBetween low high) (padded 2 n ++ rest) n rest := by
  refine (reads_skipBlanks_digits (allDigits_padded 2 n) (padded_ne_nil 2 n)).bind ?_
  refine (reads_padded (by decide) hn).bind ?_
  rw [if_pos ⟨hlow, hhigh⟩]
  exact .pure n rest

/-! ## Parts -/

/-- A year is read with its sign or without one. -/
theorem reads_readSignedYear (y : ℤ) (hrest : EndsRow rest) :
    Reads readSignedYear (yearText y ++ rest) y rest := by
  unfold yearText
  split
  · rename_i hplain
    have hread : Reads (readNumber 4) (padded 4 y.toNat ++ rest) y.toNat rest :=
      reads_padded (by decide) (by omega)
    obtain ⟨d, more, hd⟩ := List.exists_cons_of_ne_nil (padded_ne_nil 4 y.toNat)
    have hdigit := allDigits_padded 4 y.toNat d (hd ▸ List.mem_cons_self)
    rw [hd] at hread ⊢
    have hunsigned : ∀ sign, sign.isDigit = false → ∀ cs, d :: more ++ rest = sign :: cs → False := by
      intro sign hsign cs hcs
      cases hcs
      rw [hdigit] at hsign
      cases hsign
    rw [Reads, readSignedYear]
    · have hmap := hread.map fun n : ℕ => (n : ℤ)
      rwa [Int.toNat_of_nonneg hplain.1] at hmap
    · exact hunsigned '-' rfl
    · exact hunsigned '+' rfl
  · have hlong : Reads readLongNumber (padded 4 y.natAbs ++ rest) y.natAbs rest := by
      have h : Reads (readNumber (padded 4 y.natAbs ++ rest).length) (padded 4 y.natAbs ++ rest) _
          rest :=
        reads_readNumber (allDigits_padded 4 y.natAbs) (padded_ne_nil 4 y.natAbs)
          (by rw [List.length_append]; omega) (.inr hrest)
      rwa [ofDigitChars_padded] at h
    by_cases hsign : y < 0
    · rw [if_pos hsign]
      have hmap := hlong.map fun n : ℕ => -(n : ℤ)
      rwa [show -(y.natAbs : ℤ) = y by omega] at hmap
    · rw [if_neg hsign]
      have hmap := hlong.map fun n : ℕ => (n : ℤ)
      rwa [show (y.natAbs : ℤ) = y by omega] at hmap

theorem yearText_ne_nil (y : ℤ) : ∃ c cs, yearText y = c :: cs ∧ Text.isBlank c = false := by
  unfold yearText
  split
  · obtain ⟨d, more, hd⟩ := List.exists_cons_of_ne_nil (padded_ne_nil 4 y.toNat)
    exact ⟨d, more, hd, isBlank_of_isDigit (allDigits_padded 4 y.toNat d (hd ▸ List.mem_cons_self))⟩
  · refine ⟨_, _, rfl, ?_⟩
    split <;> decide

theorem reads_readYear {y : ℤ} (hlow : -262143 ≤ y) (hhigh : y ≤ 262142) (hrest : EndsRow rest) :
    Reads readYear (yearText y ++ rest) y rest := by
  have hblanks : Reads skipBlanks (yearText y ++ rest) () (yearText y ++ rest) := by
    obtain ⟨c, cs, hc, hblank⟩ := yearText_ne_nil y
    rw [hc]
    exact reads_skipBlanks hblank _
  refine hblanks.bind ((reads_readSignedYear y hrest).bind ?_)
  rw [if_pos (by omega)]
  exact .pure y rest

theorem endsRow_cons {c : Char} (h : c.isDigit = false) (cs : List Char) : EndsRow (c :: cs) := by
  intro d hd
  cases hd
  exact h

/-- A date is read back. -/
theorem reads_readDate {d : Date} (hvalid : d.Valid) (hlow : -262143 ≤ d.year)
    (hhigh : d.year ≤ 262142) :
    Reads readDate (yearText d.year ++ '-' :: (padded 2 d.month ++ '-' :: (padded 2 d.day ++ rest)))
      d rest := by
  obtain ⟨hmonth0, hmonth1, hday0, hday1⟩ := hvalid
  have hday31 : d.day ≤ 31 := by
    refine hday1.trans ?_
    unfold daysInMonth
    split_ifs <;> decide
  refine (reads_readYear hlow hhigh (endsRow_cons (by decide) _)).bind ?_
  refine (reads_readMark (by decide) _).bind ?_
  refine (reads_readBetween hmonth0 hmonth1 (by omega)).bind ?_
  refine (reads_readMark (by decide) _).bind ?_
  exact (reads_readBetween hday0 hday31 (by omega)).bind (.pure _ _)

/-- A fraction of three, six or nine digits is read back. -/
theorem reads_fraction {width n : ℕ} (hwidth : 0 < width) (hmax : width ≤ 9) (hn : n < 10 ^ width)
    (hrest : EndsRow rest) :
    Reads readFraction ('.' :: (padded width n ++ rest)) (n * 10 ^ (9 - width)) rest := by
  have hlength := length_padded hwidth hn
  have hread : Reads (readNumber 9) (padded width n ++ rest) _ rest :=
    reads_readNumber (allDigits_padded width n) (padded_ne_nil width n) (hlength.le.trans hmax)
      (.inr hrest)
  rw [ofDigitChars_padded] at hread
  show (readNumber 9 (padded width n ++ rest) >>= fun p => _) = _
  rw [show readNumber 9 (padded width n ++ rest) = .ok (n, rest) from hread]
  show Except.ok (n * 10 ^ (9 - ((padded width n ++ rest).length - rest.length)),
    rest.dropWhile Char.isDigit) = _
  have hdrop : rest.dropWhile Char.isDigit = rest := by
    cases rest with
    | nil => rfl
    | cons c cs => rw [List.dropWhile_cons, hrest c rfl]; rfl
  rw [hdrop, List.length_append, hlength, Nat.add_sub_cancel]

theorem reads_fractionText {nano : ℕ} (hnano : nano < 1000000000) (cs : List Char) :
    Reads readFraction (fractionText nano ++ 'Z' :: cs) nano ('Z' :: cs) := by
  have hend : EndsRow ('Z' :: cs) := endsRow_cons (by decide) cs
  unfold fractionText
  split_ifs with h0 h3 h6
  · rw [h0]
    rfl
  · have h : Reads readFraction ('.' :: (padded 3 (nano / 1000000) ++ 'Z' :: cs)) _ _ :=
      reads_fraction (by decide) (by decide) (by omega) hend
    rwa [show nano / 1000000 * 10 ^ (9 - 3) = nano by omega] at h
  · have h : Reads readFraction ('.' :: (padded 6 (nano / 1000) ++ 'Z' :: cs)) _ _ :=
      reads_fraction (by decide) (by decide) (by omega) hend
    rwa [show nano / 1000 * 10 ^ (9 - 6) = nano by omega] at h
  · have h : Reads readFraction ('.' :: (padded 9 nano ++ 'Z' :: cs)) _ _ :=
      reads_fraction (by decide) (by decide) hnano hend
    rwa [show nano * 10 ^ (9 - 9) = nano by omega] at h

/-- A time of day is read back, a leap second included, whatever its fraction is. -/
theorem reads_readTime {t : TimeOfDay} (hhour : t.hour ≤ 23) (hminute : t.minute ≤ 59)
    (hsecond : t.second ≤ 60) {more : List Char} (hnano : Reads readFraction more t.nano rest) :
    Reads readTime (padded 2 t.hour ++ ':' :: (padded 2 t.minute ++ ':' :: (padded 2 t.second ++
      more))) t rest := by
  refine (reads_readBetween (Nat.zero_le _) hhour (by omega)).bind ?_
  refine (reads_readMark (by decide) _).bind ?_
  refine (reads_readBetween (Nat.zero_le _) hminute (by omega)).bind ?_
  refine (reads_readMark (by decide) _).bind ?_
  refine (reads_readBetween (Nat.zero_le _) hsecond (by omega)).bind ?_
  exact hnano.bind (.pure _ _)

/-! ## Instants -/

theorem reads_readOffset : Reads readOffset ['Z'] 0 [] := rfl

namespace Instant

variable (i : Instant)

/-- The time of day in UTC. -/
def timeOfDay : TimeOfDay := ⟨i.hour, i.minuteOfHour, i.second, i.nano⟩

theorem year_date : -262143 ≤ i.date.year ∧ i.date.year ≤ 262142 := by
  obtain ⟨hfirst, hlast⟩ := i.covered
  rw [firstMinute, minuteOfDay] at hfirst
  rw [lastMinute, minuteOfDay] at hlast
  exact Date.year_ofDayNumber (by omega) (by omega)

/-- Date and time of day make up the instant. -/
theorem ofLocal_date : ofLocal i.date i.timeOfDay 0 = .ok i := by
  have hday : minuteOfDay i.date = i.minute / 1440 * 1440 := by
    rw [minuteOfDay, date, Date.dayNumber_ofDayNumber]
  have hminute : minuteOfDay i.date + i.timeOfDay.hour * 60 + i.timeOfDay.minute - 0 = i.minute := by
    rw [hday]
    simp only [timeOfDay, hour, minuteOfHour]
    omega
  obtain ⟨hlow, hhigh⟩ := i.year_date
  unfold ofLocal
  rw [if_pos ⟨Date.valid_ofDayNumber _, hlow, hhigh, by decide⟩]
  simp only [hminute]
  rw [dif_pos ⟨i.covered, i.second_le, i.nano_lt⟩]
  rfl

/-- An instant is read back from its timestamp. -/
theorem ofText_timestamp : ofText i.timestamp = .ok i := by
  obtain ⟨hlow, hhigh⟩ := i.year_date
  have hhour : i.timeOfDay.hour ≤ 23 := by
    simp only [timeOfDay, hour]
    omega
  have hminute : i.timeOfDay.minute ≤ 59 := by
    simp only [timeOfDay, minuteOfHour]
    omega
  have hread : Reads readInstant i.timestampChars i [] := by
    simp only [timestampChars, List.append_assoc, List.singleton_append]
    refine (reads_readDate (d := i.date) (Date.valid_ofDayNumber _) hlow hhigh).bind ?_
    refine ((reads_readChar (by decide) _).map _).bind ?_
    refine (reads_readTime (t := i.timeOfDay) hhour hminute i.second_le
      (reads_fractionText i.nano_lt _)).bind ?_
    refine (reads_skipBlanks (by decide) _).bind ?_
    refine reads_readOffset.bind ((reads_modify Text.trimStart []).bind ((reads_get []).bind ?_))
    rw [if_pos List.isEmpty_nil, ofLocal_date]
    rfl
  rw [ofText, StateT.run'_eq, timestamp, String.toList_ofList]
  rw [show readInstant.run i.timestampChars = .ok (i, []) from hread]
  rfl

end Instant

end StarSurvey.Calendar
