import StarSurvey.Proofs.Calendar.Timestamp

/-!
# Local times

A time may be written as it is at some place, with how far the clocks there are ahead of UTC. It is
read as the instant in UTC.

- **Days** (`Date.ordinal`): days counted from the first day of the year 1, by years and months.
- **Local times** (`LocalTime.text`): a time as it is written.
- **Instants** (`Instant.StandsFor`): which instant a local time is.
- **Reading** (`LocalTime.ofText_text`): every local time is read as its instant.
-/

namespace StarSurvey.Calendar

open StarSurvey.Text (AllDigits)

/-! ## Days -/

namespace Date

/-- Days in the months of a year in front of a month. -/
def daysBefore (y : ℤ) (month : ℕ) : ℕ :=
  ((List.range' 1 (month - 1)).map (daysInMonth y)).sum

/-- Days up to the date and with it, the first day of the year 1 being day one. A year has 365 days, a
leap year one more. -/
def ordinal (d : Date) : ℤ :=
  365 * (d.year - 1) + (d.year - 1) / 4 - (d.year - 1) / 100 + (d.year - 1) / 400 +
    daysBefore d.year d.month + d.day

/-- A leap year has a day more than the years before it would let one expect. -/
theorem leapDays_step (y : ℤ) : y / 4 - y / 100 + y / 400 =
    (y - 1) / 4 - (y - 1) / 100 + (y - 1) / 400 + if isLeapYear y then 1 else 0 := by
  by_cases h : isLeapYear y = true
  · rw [if_pos h]
    simp only [isLeapYear, Bool.and_eq_true, Bool.or_eq_true, decide_eq_true_eq] at h
    omega
  · rw [if_neg h]
    simp only [isLeapYear, Bool.and_eq_true, Bool.or_eq_true, decide_eq_true_eq] at h
    omega

/-- Behind February the months have the lengths of every year. -/
theorem daysBefore_eq {y : ℤ} {m : ℕ} (h0 : 3 ≤ m) (h1 : m ≤ 12) :
    (daysBefore y m : ℤ) = (153 * (m - 3) + 2) / 5 + 59 + if isLeapYear y then 1 else 0 := by
  interval_cases m <;> cases h : isLeapYear y <;> simp [daysBefore, daysInMonth, List.range', h]

/-- 1970-01-01 is day 719163. -/
theorem dayNumber_eq_ordinal {d : Date} (h : d.Valid) : d.dayNumber = d.ordinal - 719163 := by
  obtain ⟨y, m, k⟩ := d
  obtain ⟨hm0, hm1, -, -⟩ := h
  simp only at hm0 hm1
  simp only [dayNumber, ordinal]
  by_cases hspring : m ≤ 2
  · have hbefore : daysBefore y m = 31 * (m - 1) := by
      interval_cases m <;> simp [daysBefore, daysInMonth]
    rw [if_pos hspring, if_neg (show ¬ 2 < m by omega), hbefore]
    omega
  · have hleap := leapDays_step y
    have hbefore := daysBefore_eq (y := y) (by omega) hm1
    rw [if_neg hspring, if_pos (show 2 < m by omega), hbefore]
    generalize (if isLeapYear y = true then (1 : ℤ) else 0) = leap at *
    omega
end Date

/-! ## Local times -/

/-- What is written of the clocks at a place: that they show UTC, or how far they are off. -/
inductive Zone where
  /-- `Z` or `z`. -/
  | utc (capital : Bool)
  /-- Hours and minutes ahead of UTC, or behind it. -/
  | shifted (behind : Bool) (hours minutes : ℕ) (hhours : hours ≤ 23) (hminutes : minutes ≤ 59)

namespace Zone

/-- Minutes ahead of UTC. -/
def offset : Zone → ℤ
  | utc _ => 0
  | shifted behind hours minutes _ _ =>
    if behind then -((60 * hours + minutes : ℕ) : ℤ) else (60 * hours + minutes : ℕ)

/-- The offset as it is written. -/
def chars : Zone → List Char
  | utc capital => [if capital then 'Z' else 'z']
  | shifted behind hours minutes _ _ =>
    (if behind then '-' else '+') :: (padded 2 hours ++ ':' :: padded 2 minutes)

end Zone

/-- A date and a time of day at some place, as they are written: with the digits behind the point, the
character between the two, and the offset. -/
structure LocalTime where
  date : Date
  hour : ℕ
  minute : ℕ
  second : ℕ
  fraction : List Char
  separator : Char
  zone : Zone
  valid : date.Valid
  year : 0 ≤ date.year ∧ date.year ≤ 9999
  hour_le : hour ≤ 23
  minute_le : minute ≤ 59
  second_le : second ≤ 60
  allDigits : AllDigits fraction
  separates : separator ∈ ['T', 't', ' ']

namespace LocalTime

variable (l : LocalTime)

/-- The local time as it is written. -/
def chars : List Char :=
  padded 4 l.date.year.toNat ++ '-' :: (padded 2 l.date.month ++ '-' :: (padded 2 l.date.day ++
    l.separator :: (padded 2 l.hour ++ ':' :: (padded 2 l.minute ++ ':' :: (padded 2 l.second ++
      ((if l.fraction = [] then [] else '.' :: l.fraction) ++ l.zone.chars))))))

/-- The text of the local time. -/
def text : String := String.ofList l.chars

/-- Seconds that the local clock shows, since the day before the first day of the year 1. -/
def seconds : ℤ := l.date.ordinal * 86400 + l.hour * 3600 + l.minute * 60 + l.second

/-- The fraction in nanoseconds; what is less than one is dropped. -/
def nano : ℕ := Nat.ofDigitChars 10 l.fraction 0 * 10 ^ 9 / 10 ^ l.fraction.length

end LocalTime

/-! ## Instants -/

namespace Instant

/-- Seconds that a clock shows in UTC, since the day before the first day of the year 1. -/
def utcSeconds (i : Instant) : ℤ :=
  i.date.ordinal * 86400 + i.hour * 3600 + i.minuteOfHour * 60 + i.second

/-- The instant is the local time, shifted to UTC. -/
structure StandsFor (i : Instant) (l : LocalTime) : Prop where
  valid : i.date.Valid ∧ i.hour ≤ 23 ∧ i.minuteOfHour ≤ 59
  seconds : i.utcSeconds = l.seconds - 60 * l.zone.offset
  second : i.second = l.second
  nano : i.nano = l.nano

variable (i : Instant)

theorem utcSeconds_eq : i.utcSeconds = i.minute * 60 + i.second + 719163 * 86400 := by
  have hday : i.date.ordinal = i.minute / 1440 + 719163 := by
    have h := Date.dayNumber_eq_ordinal (Date.valid_ofDayNumber (i.minute / 1440))
    rw [Date.dayNumber_ofDayNumber] at h
    rw [date]
    omega
  rw [utcSeconds, hday, hour, minuteOfHour]
  omega

theorem valid_parts : i.date.Valid ∧ i.hour ≤ 23 ∧ i.minuteOfHour ≤ 59 := by
  refine ⟨Date.valid_ofDayNumber _, ?_, ?_⟩
  · rw [hour]
    omega
  · rw [minuteOfHour]
    omega

/-- Two instants that show the same seconds, both in a leap second or neither, are in the same second. -/
theorem minute_eq_of_utcSeconds_eq {i j : Instant} (hseconds : i.utcSeconds = j.utcSeconds)
    (hleap : i.second = 60 ↔ j.second = 60) : i.minute = j.minute ∧ i.second = j.second := by
  rw [utcSeconds_eq, utcSeconds_eq] at hseconds
  have hi := i.second_le
  have hj := j.second_le
  omega

end Instant

/-! ## Reading -/

theorem ofDigitChars_lt {ds : List Char} (h : AllDigits ds) :
    Nat.ofDigitChars 10 ds 0 < 10 ^ ds.length := by
  induction ds with
  | nil => exact Nat.one_pos
  | cons d ds ih =>
    obtain ⟨-, hd⟩ := Char.isDigit_iff_toNat.mp (h d List.mem_cons_self)
    have hdigit : d.toNat - '0'.toNat ≤ 9 := Nat.sub_le_of_le_add hd
    have hds := ih fun c hc => h c (List.mem_cons_of_mem d hc)
    rw [Nat.ofDigitChars_cons, Nat.ofDigitChars_eq_ofDigitChars_zero, List.length_cons, pow_succ]
    calc 10 ^ ds.length * (10 * 0 + (d.toNat - '0'.toNat)) + Nat.ofDigitChars 10 ds 0
        < 10 ^ ds.length * 9 + 10 ^ ds.length :=
          Nat.add_lt_add_of_le_of_lt (Nat.mul_le_mul_left _ (by omega)) hds
      _ = 10 ^ ds.length * 10 := by ring

/-- The first nine digits of a fraction are its nanoseconds. -/
theorem nano_eq {ds : List Char} (h : AllDigits ds) :
    Nat.ofDigitChars 10 ds 0 * 10 ^ 9 / 10 ^ ds.length =
      Nat.ofDigitChars 10 (ds.take 9) 0 * 10 ^ (9 - (ds.take 9).length) := by
  by_cases hlength : ds.length ≤ 9
  · rw [List.take_of_length_le hlength]
    have hpow : (10 : ℕ) ^ 9 = 10 ^ (9 - ds.length) * 10 ^ ds.length := by
      rw [← pow_add, Nat.sub_add_cancel hlength]
    rw [hpow, ← Nat.mul_assoc, Nat.mul_div_cancel _ (by positivity)]
  · have hmore := ofDigitChars_lt (h.drop 9)
    have hdigits : Nat.ofDigitChars 10 ds 0 = 10 ^ (ds.drop 9).length *
        Nat.ofDigitChars 10 (ds.take 9) 0 + Nat.ofDigitChars 10 (ds.drop 9) 0 := by
      conv_lhs => rw [← List.take_append_drop 9 ds]
      rw [Nat.ofDigitChars_append, Nat.ofDigitChars_eq_ofDigitChars_zero]
    have htake : (ds.take 9).length = 9 := List.length_take_of_le (by omega)
    have hpow : (10 : ℕ) ^ ds.length = 10 ^ (ds.drop 9).length * 10 ^ 9 := by
      rw [← pow_add, List.length_drop, Nat.sub_add_cancel (by omega)]
    rw [htake, Nat.sub_self, pow_zero, Nat.mul_one, hpow,
      Nat.mul_div_mul_right _ _ (by positivity), hdigits, Nat.mul_add_div (by positivity),
      Nat.div_eq_of_lt hmore, Nat.add_zero]

/-- Of a fraction nine digits are read, the others are passed. -/
theorem reads_readFraction {ds : List Char} (h : AllDigits ds) (hrest : EndsRow rest)
    (hpoint : rest.head? ≠ some '.') :
    Reads readFraction ((if ds = [] then [] else '.' :: ds) ++ rest)
      (Nat.ofDigitChars 10 ds 0 * 10 ^ 9 / 10 ^ ds.length) rest := by
  by_cases hds : ds = []
  · subst hds
    rw [if_pos rfl, List.nil_append, Reads, readFraction]
    · rfl
    · rintro more rfl
      exact hpoint rfl
  · rw [if_neg hds, nano_eq h, List.cons_append]
    have hnumber : Reads (readNumber 9) (ds ++ rest) (Nat.ofDigitChars 10 (ds.take 9) 0)
        (ds.drop 9 ++ rest) := by
      have htake : ds.take 9 ≠ [] := by simpa using hds
      have hends : (ds.take 9).length = 9 ∨ EndsRow (ds.drop 9 ++ rest) := by
        by_cases hlength : 9 ≤ ds.length
        · exact .inl (List.length_take_of_le hlength)
        · rw [List.drop_of_length_le (by omega)]
          exact .inr hrest
      have hread := reads_readNumber (h.take 9) htake (List.length_take_le 9 ds) hends
      rwa [← List.append_assoc, List.take_append_drop] at hread
    have hdrop : (ds.drop 9 ++ rest).dropWhile Char.isDigit = rest := by
      rw [List.dropWhile_append_of_pos (h.drop 9)]
      cases rest with
      | nil => rfl
      | cons c cs => rw [List.dropWhile_cons, hrest c rfl]; rfl
    have htaken : (ds ++ rest).length - (ds.drop 9 ++ rest).length = (ds.take 9).length := by
      simp only [List.length_append, List.length_drop, List.length_take]
      omega
    show (readNumber 9 (ds ++ rest) >>= fun p => _) = _
    rw [show readNumber 9 (ds ++ rest) = .ok _ from hnumber]
    show Except.ok (_ * 10 ^ (9 - ((ds ++ rest).length - (ds.drop 9 ++ rest).length)),
      (ds.drop 9 ++ rest).dropWhile Char.isDigit) = _
    rw [hdrop, htaken]

theorem padded_two : ∀ n < 100, padded 2 n = [Nat.digitChar (n / 10), Nat.digitChar (n % 10)] := by
  decide

theorem digitChar_spec : ∀ d < 10, (Nat.digitChar d).isDigit = true ∧ (Nat.digitChar d).toNat - 48 = d := by
  decide

theorem reads_readTwoDigits {n : ℕ} (hn : n < 100) (rest : List Char) :
    Reads readTwoDigits (padded 2 n ++ rest) (n / 10, n % 10) rest := by
  obtain ⟨htens, htens'⟩ := digitChar_spec (n / 10) (by omega)
  obtain ⟨hones, hones'⟩ := digitChar_spec (n % 10) (by omega)
  rw [padded_two n hn]
  show (if _ then _ else _) = _
  rw [if_pos (by rw [htens, hones]; rfl), htens', hones']
  rfl

/-- The colon of an offset is passed. -/
theorem reads_colon {n : ℕ} (hn : n < 100) :
    Reads (modify (List.dropWhile fun c => c == ':' || Text.isBlank c) : Reader PUnit)
      (':' :: padded 2 n) PUnit.unit (padded 2 n) := by
  obtain ⟨hdigit, -⟩ := digitChar_spec (n / 10) (by omega)
  have hcolon : (Nat.digitChar (n / 10) == ':') = false := by
    rw [beq_eq_false_iff_ne]
    intro h
    rw [h] at hdigit
    cases hdigit
  refine (reads_modify _ _).trans ?_
  rw [List.dropWhile_cons, if_pos (by rfl), padded_two n hn, List.dropWhile_cons, hcolon,
    isBlank_of_isDigit hdigit]
  rfl

theorem reads_readOffset_chars (z : Zone) : Reads readOffset z.chars z.offset [] := by
  cases z with
  | utc capital => cases capital <;> rfl
  | shifted behind hours minutes hhours hminutes =>
    generalize hsign : (if behind then '-' else '+') = sign
    have hsigned : Reads readSignedOffset (sign :: (padded 2 hours ++ ':' :: padded 2 minutes))
        (Zone.offset (.shifted behind hours minutes hhours hminutes)) [] := by
      refine (reads_readChar (by subst hsign; cases behind <;> rfl) _).bind ?_
      refine (reads_readTwoDigits (by omega) _).bind ((reads_colon (by omega)).bind ?_)
      have hlast := reads_readTwoDigits (n := minutes) (by omega) []
      rw [List.append_nil] at hlast
      refine hlast.bind ?_
      dsimp only
      rw [if_neg (by omega)]
      have hvalue : (if sign == '+' then
            (10 * ((hours / 10 : ℕ) : ℤ) + (hours % 10 : ℕ)) * 60 +
              (10 * ((minutes / 10 : ℕ) : ℤ) + (minutes % 10 : ℕ))
          else -((10 * ((hours / 10 : ℕ) : ℤ) + (hours % 10 : ℕ)) * 60 +
              (10 * ((minutes / 10 : ℕ) : ℤ) + (minutes % 10 : ℕ)))) =
          Zone.offset (.shifted behind hours minutes hhours hminutes) := by
        subst hsign
        cases behind <;> simp [Zone.offset] <;> omega
      rw [hvalue]
      exact .pure _ []
    have hletter : ¬ sign.toUpper = 'U' ∧ ¬ (sign = 'Z' ∨ sign = 'z') := by
      subst hsign
      cases behind <;> decide
    rw [Zone.chars, hsign]
    rw [padded_two hours (by omega)] at hsigned ⊢
    show (if _ then _ else if _ then _ else _) = _
    rw [if_neg (fun h => hletter.1 h.1), if_neg hletter.2]
    exact hsigned

theorem Zone.natAbs_offset_lt (z : Zone) : z.offset.natAbs < 1440 := by
  cases z with
  | utc capital => exact Nat.zero_lt_succ _
  | shifted behind hours minutes hhours hminutes =>
    rw [offset]
    split <;> omega

/-- An offset begins with its letter or its sign. -/
theorem Zone.exists_chars_eq (z : Zone) :
    ∃ c cs, z.chars = c :: cs ∧ c.isDigit = false ∧ c ≠ '.' ∧ Text.isBlank c = false := by
  cases z with
  | utc capital => exact ⟨_, _, rfl, by cases capital <;> decide⟩
  | shifted behind hours minutes hhours hminutes =>
    exact ⟨_, _, rfl, by cases behind <;> decide⟩

namespace LocalTime

variable (l : LocalTime)

/-- The instants of the years 0 to 9999 are covered, wherever the clock is. -/
theorem covered :
    firstMinute ≤ minuteOfDay l.date + l.hour * 60 + l.minute - l.zone.offset ∧
      minuteOfDay l.date + l.hour * 60 + l.minute - l.zone.offset ≤ lastMinute := by
  have hfirst : firstMinute = -96465292 * 1440 := by decide +kernel
  have hlast : lastMinute = 95026236 * 1440 + 1439 := by decide +kernel
  have hday : -800000 ≤ l.date.dayNumber ∧ l.date.dayNumber ≤ 4000000 := by
    obtain ⟨hlow, hhigh⟩ := l.year
    obtain ⟨hmonth0, hmonth1, hday0, hday1⟩ := l.valid
    have hday31 : l.date.day ≤ 31 := by
      refine hday1.trans ?_
      unfold daysInMonth
      split_ifs <;> decide
    rw [Date.dayNumber]
    split_ifs <;> omega
  have hhour := l.hour_le
  have hminute := l.minute_le
  have hoffset := l.zone.natAbs_offset_lt
  rw [hfirst, hlast, minuteOfDay]
  omega

theorem nano_lt : l.nano < 1000000000 := by
  have h := ofDigitChars_lt l.allDigits
  rw [nano, Nat.div_lt_iff_lt_mul (by positivity)]
  calc Nat.ofDigitChars 10 l.fraction 0 * 10 ^ 9
      < 10 ^ l.fraction.length * 10 ^ 9 := Nat.mul_lt_mul_of_pos_right h (by decide)
    _ = 1000000000 * 10 ^ l.fraction.length := by rw [Nat.mul_comm]; rfl

/-- The instant of the local time. -/
def instant : Instant :=
  ⟨minuteOfDay l.date + l.hour * 60 + l.minute - l.zone.offset, l.second, l.nano, l.covered,
    l.second_le, l.nano_lt⟩

theorem standsFor_instant : l.instant.StandsFor l := by
  refine ⟨l.instant.valid_parts, ?_, rfl, rfl⟩
  have hday := Date.dayNumber_eq_ordinal l.valid
  rw [Instant.utcSeconds_eq, seconds]
  simp only [instant, minuteOfDay, hday]
  ring

theorem ofLocal_eq : Instant.ofLocal l.date ⟨l.hour, l.minute, l.second, l.nano⟩ l.zone.offset =
    .ok l.instant := by
  have hyear := l.year
  unfold Instant.ofLocal
  rw [if_pos ⟨l.valid, by omega, by omega, l.zone.natAbs_offset_lt⟩]
  exact dif_pos ⟨l.covered, l.second_le, l.nano_lt⟩

/-- Every local time is read as its instant. -/
theorem ofText_text : Instant.ofText l.text = .ok l.instant := by
  obtain ⟨c, cs, hzone, hdigit, hpoint, hblank⟩ := l.zone.exists_chars_eq
  have hyear : padded 4 l.date.year.toNat = yearText l.date.year := (if_pos l.year).symm
  have hseparator : (fun c => c == 'T' || c == 't' || c == ' ') l.separator = true := by
    have h := l.separates
    simp only [List.mem_cons, List.not_mem_nil, or_false] at h
    rcases h with h | h | h <;> rw [h] <;> rfl
  have hrow : EndsRow l.zone.chars := by
    rw [hzone]
    exact endsRow_cons hdigit cs
  have hfraction : Reads readFraction ((if l.fraction = [] then [] else '.' :: l.fraction) ++
      l.zone.chars) l.nano l.zone.chars :=
    reads_readFraction l.allDigits hrow (by rw [hzone]; simpa using hpoint)
  have hblanks : Reads skipBlanks l.zone.chars () l.zone.chars := by
    rw [hzone]
    exact reads_skipBlanks hblank cs
  have hread : Reads readInstant l.chars l.instant [] := by
    rw [chars, hyear]
    refine (reads_readDate l.valid (by have := l.year; omega) (by have := l.year; omega)).bind ?_
    refine ((reads_readChar hseparator _).map _).bind ?_
    refine (reads_readTime (t := ⟨l.hour, l.minute, l.second, l.nano⟩) l.hour_le l.minute_le
      l.second_le hfraction).bind ?_
    refine hblanks.bind ((reads_readOffset_chars l.zone).bind ?_)
    refine (reads_modify Text.trimStart []).bind ((reads_get []).bind ?_)
    rw [if_pos List.isEmpty_nil, ofLocal_eq]
    rfl
  rw [Instant.ofText, StateT.run'_eq, text, String.toList_ofList]
  rw [show readInstant.run l.chars = .ok (l.instant, []) from hread]
  rfl

end LocalTime

end StarSurvey.Calendar
